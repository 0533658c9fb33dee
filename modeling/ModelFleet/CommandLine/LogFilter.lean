import ModelFleet.Number.Integer
import ModelFleet.Text.Alphanumeric
import ModelFleet.Text.Blank

/-!
# Directives for the log

What is logged is said by directives with commas between them.  A directive is a level, a target, or
a span in brackets that may hold fields in braces; a target and a span may be followed by an equals
sign and a level.  A directive that cannot be read is left out, and the user is told so.
-/

namespace ModelFleet.LogFilter

inductive DirectiveError
  | malformed
  | badLevel
  deriving DecidableEq

def DirectiveError.message : DirectiveError → String
  | malformed => "invalid filter directive"
  | badLevel =>
    "error parsing level filter: expected one of \"off\", \"error\", \"warn\", \"info\", " ++
      "\"debug\", \"trace\", or a number 0-5"

def levels : List String := ["off", "error", "warn", "info", "debug", "trace"]

/-- Whether a text names a level; no text at all does as well. -/
def isLevel (s : String) : Bool :=
  s.isEmpty || levels.contains (s.map Char.toLower) ||
    match Integer.readNatural (2 ^ 64) s with
    | .ok n => n < levels.length
    | .error _ => false

/-- Where the reading of a directive stands. -/
inductive Stage
  | start
  /-- In a level or a target. -/
  | name
  /-- In a level that begins at a place. -/
  | level (place : Nat)
  /-- In the name of a span. -/
  | span
  /-- In a field, of which nothing may have come yet. -/
  | field (isEmpty : Bool)
  /-- After the fields of a span. -/
  | fields
  /-- After a span. -/
  | named
  deriving DecidableEq

namespace Stage

/-- Whether a level or a target may begin with a character. -/
def isInitial (c : Char) : Bool :=
  c = '-' || c = ':' || c = '_' || Alphanumeric.isAlphanumeric c

def next (stage : Stage) (place : Nat) (c : Char) : Option Stage :=
  match stage, c with
  | start, '[' => some span
  | start, c => if isInitial c then some name else none
  | name, '=' | named, '=' => some (level (place + 1))
  | name, '[' => some span
  | name, _ => some name
  | level place, _ => some (level place)
  | span, ']' | fields, ']' => some named
  | span, '\x7b' => some (field true)
  | span, _ => some span
  | field isEmpty, '\x7d' => if isEmpty then none else some fields
  | field _, _ => some (field false)
  | fields, _ | named, _ => none

/-- What is wrong with a directive that ends here; the place of a level counts from the first
character that is no blank. -/
def fault? (whole : List Char) : Stage → Option DirectiveError
  | name | named => none
  | level place =>
    if isLevel (String.ofList (whole.drop place)) then none else some .badLevel
  | _ => some .malformed

end Stage

def fault? (directive : List Char) : Option DirectiveError :=
  match (trimBlanks directive).zipIdx.foldlM (fun stage (c, i) => stage.next i c) .start with
  | some (stage : Stage) => stage.fault? directive
  | none => some .malformed

def directives (s : String) : List String := (s.splitOn ",").filter (· ≠ "")

/-- What the user is told about the directives of a text. -/
def complaints (s : String) : List String :=
  (directives s).filterMap fun directive =>
    (fault? directive.toList).map fun e => s!"ignoring `{directive}`: {e.message}"

end ModelFleet.LogFilter
