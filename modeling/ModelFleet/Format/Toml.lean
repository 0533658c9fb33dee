import ModelFleet.Format.Scan
import ModelFleet.Number.Reader

/-!
# TOML documents

Lines with keys and values, under the headers of tables and of lists of tables.  A key may be a path
with dots.  No key is set twice, a table has one header, and a table made by a path with dots is not
given another header; so the order of lines decides what is allowed, but not what they say.
-/

namespace ModelFleet.Toml

open Format

/-! ### Blanks -/

def isSpace (c : Char) : Bool := c = ' ' || c = '\t'

def skipSpace (cs : List Char) : List Char := cs.dropWhile isSpace

def newline? : List Char → Option (List Char)
  | '\n' :: rest | '\r' :: '\n' :: rest => some rest
  | _ => none

/-- Whether a character may stand in comments and in texts of one line. -/
def isPlain (c : Char) : Bool := c = '\t' || (' ' ≤ c && c ≠ '\x7f')

/-- Drops a comment, if there is one. -/
def skipComment : List Char → List Char
  | '#' :: rest => rest.dropWhile isPlain
  | cs => cs

/-- Drops blanks, ends of lines and comments. -/
def skipWith : Nat → List Char → List Char
  | 0, cs => cs
  | fuel + 1, cs =>
    match newline? (skipComment (skipSpace cs)) with
    | some rest => skipWith fuel rest
    | none => skipComment (skipSpace cs)

/-- Drops blanks, ends of lines and comments. -/
def skip (cs : List Char) : List Char := skipWith (cs.length + 1) cs

/-- What is left behind a line on which nothing more may stand. -/
def lineEnd? (cs : List Char) : Option (List Char) :=
  match skipComment (skipSpace cs) with
  | [] => some []
  | rest => newline? rest

/-! ### Texts -/

/-- The character that a backslash and what follows it stand for. -/
def escaped : Scan Char
  | 'b' :: rest => some ('\x08', rest)
  | 't' :: rest => some ('\t', rest)
  | 'n' :: rest => some ('\n', rest)
  | 'f' :: rest => some ('\x0c', rest)
  | 'r' :: rest => some ('\r', rest)
  | '"' :: rest => some ('"', rest)
  | '\\' :: rest => some ('\\', rest)
  | 'u' :: rest => codePoint 4 rest
  | 'U' :: rest => codePoint 8 rest
  | _ => none

/-- The characters of a text of one line, behind others, last first. -/
def shortText (quote : Char) : Nat → List Char → Scan String
  | 0, _, _ => none
  | _ + 1, _, [] => none
  | fuel + 1, found, c :: rest =>
    if c = quote then some (String.ofList found.reverse, rest)
    else if c = '\\' ∧ quote = '"' then do
      let (c, rest) ← escaped rest
      shortText quote fuel (c :: found) rest
    else if isPlain c then shortText quote fuel (c :: found) rest
    else none

/-- What is left behind the end of a line that is not meant, and all blanks behind it. -/
def joined? (cs : List Char) : Option (List Char) :=
  (newline? (skipSpace cs)).map fun rest =>
    rest.dropWhile fun c => isSpace c || c = '\n' || c = '\r'

/-- The characters of a text of several lines, behind others, last first.  Up to two quotes may
stand before the three that end it. -/
def longText (quote : Char) : Nat → List Char → Scan String
  | 0, _, _ => none
  | _ + 1, _, [] => none
  | fuel + 1, found, c :: rest =>
    let quotes := (c :: rest).takeWhile (· = quote)
    if 3 ≤ quotes.length then
      let kept := min (quotes.length - 3) 2
      some (String.ofList (found.reverse ++ List.replicate kept quote),
        (c :: rest).drop (kept + 3))
    else if c = '\\' ∧ quote = '"' then
      match joined? rest with
      | some rest => longText quote fuel found rest
      | none => do
        let (c, rest) ← escaped rest
        longText quote fuel (c :: found) rest
    else
      match newline? (c :: rest) with
      | some rest => longText quote fuel ('\n' :: found) rest
      | none => if isPlain c then longText quote fuel (c :: found) rest else none

/-- A text between quotes of a kind, of one line or of several. -/
def text (quote : Char) (cs : List Char) : Option (String × List Char) :=
  match cs with
  | a :: b :: c :: rest =>
    if a = quote ∧ b = quote ∧ c = quote then
      longText quote (rest.length + 1) [] ((newline? rest).getD rest)
    else if a = quote then shortText quote cs.length [] (b :: c :: rest)
    else none
  | a :: rest => if a = quote then shortText quote cs.length [] rest else none
  | [] => none

/-! ### Keys -/

def isBare (c : Char) : Bool := c.isAlphanum || c = '_' || c = '-'

def part : Scan String
  | '"' :: rest => shortText '"' (rest.length + 1) [] rest
  | '\'' :: rest => shortText '\'' (rest.length + 1) [] rest
  | cs =>
    let name := cs.takeWhile isBare
    if name.isEmpty then none else some (String.ofList name, cs.dropWhile isBare)

/-- The parts of a key, with enough fuel for each. -/
def keyWith : Nat → Scan (List String)
  | 0, _ => none
  | fuel + 1, cs => do
    let (name, cs) ← part (skipSpace cs)
    match skipSpace cs with
    | '.' :: rest => do
      let (names, rest) ← keyWith fuel rest
      some (name :: names, rest)
    | rest => some ([name], rest)

def key : Scan (List String) := fun cs => keyWith (cs.length + 1) cs

/-! ### Numbers and times -/

/-- Digits of a base with single underscores between them, without the underscores. -/
def digits? (base : Nat) : List Char → Option (List Char)
  | [] => none
  | [c] => if isDigitOf base c then some [c] else none
  | c :: '_' :: rest => if isDigitOf base c then (digits? base rest).map (c :: ·) else none
  | c :: rest => if isDigitOf base c then (digits? base rest).map (c :: ·) else none

/-- Digits without a zero in front of others. -/
def whole? (cs : List Char) : Option (List Char) :=
  match cs with
  | '0' :: _ :: _ => none
  | cs => digits? 10 cs

def integer? (token : List Char) : Option Json :=
  let inBase (base : Nat) (digits : List Char) : Option Json :=
    (digits? base digits).bind fun digits => int64? (valueOf base digits)
  match token with
  | '0' :: 'x' :: digits => inBase 16 digits
  | '0' :: 'o' :: digits => inBase 8 digits
  | '0' :: 'b' :: digits => inBase 2 digits
  | '-' :: digits => (whole? digits).bind fun digits => int64? (-(valueOf 10 digits : Int))
  | '+' :: digits => (whole? digits).bind fun digits => int64? (valueOf 10 digits)
  | digits => (whole? digits).bind fun digits => int64? (valueOf 10 digits)

def exponent? : List Char → Option (List Char)
  | '-' :: digits => (digits? 10 digits).map ('-' :: ·)
  | '+' :: digits => digits? 10 digits
  | digits => digits? 10 digits

def magnitude? (cs : List Char) : Option (List Char) := do
  let isExponent (c : Char) : Bool := c = 'e' || c = 'E'
  let mantissa := cs.takeWhile fun c => !isExponent c
  let whole ← whole? (mantissa.takeWhile (· ≠ '.'))
  let fraction ← match mantissa.dropWhile (· ≠ '.') with
    | _ :: digits => (digits? 10 digits).map ('.' :: ·)
    | [] => some []
  let exponent ← match cs.dropWhile fun c => !isExponent c with
    | _ :: digits => (exponent? digits).map ('e' :: ·)
    | [] => some []
  if fraction.isEmpty && exponent.isEmpty then none else some (whole ++ fraction ++ exponent)

def float? (token : List Char) : Option Json :=
  let (negative, cs) := match token with
    | '-' :: cs => (true, cs)
    | '+' :: cs => (false, cs)
    | cs => (false, cs)
  match String.ofList cs with
  | "inf" => some (.real (.infinity negative))
  | "nan" => some (.real .nan)
  | _ => do
    let x ← Binary64.read? (String.ofList (← magnitude? cs))
    if x.isFinite then some (.real (if negative then x.neg else x)) else none

/-- A number of so many digits, not greater than a limit. -/
def field? (count least greatest : Nat) (cs : List Char) : Option Nat :=
  let n := valueOf 10 cs
  if cs.length = count ∧ cs.all Char.isDigit ∧ least ≤ n ∧ n ≤ greatest then some n else none

def daysOf (year month : Nat) : Nat :=
  if month = 2 then
    if year % 4 = 0 ∧ (year % 100 ≠ 0 ∨ year % 400 = 0) then 29 else 28
  else if month = 4 ∨ month = 6 ∨ month = 9 ∨ month = 11 then 30 else 31

def date? (cs : List Char) : Option (List Char) := do
  let year ← field? 4 0 9999 (cs.take 4)
  let month ← field? 2 1 12 ((cs.drop 5).take 2)
  let _ ← field? 2 1 (daysOf year month) (cs.drop 8)
  if cs[4]? = some '-' ∧ cs[7]? = some '-' then some cs else none

/-- The written form of a time of day, with a fraction of at most nine digits. -/
def time? (cs : List Char) : Option (List Char) := do
  let _ ← field? 2 0 23 (cs.take 2)
  let _ ← field? 2 0 59 ((cs.drop 3).take 2)
  let _ ← field? 2 0 60 ((cs.drop 6).take 2)
  if cs[2]? ≠ some ':' ∨ cs[5]? ≠ some ':' then none
  else match cs.drop 8 with
    | [] => some cs
    | '.' :: fraction =>
      if fraction.isEmpty || !fraction.all Char.isDigit then none
      else
        let kept := ((fraction.take 9).reverse.dropWhile (· = '0')).reverse
        some (cs.take 8 ++ if kept.isEmpty then [] else '.' :: kept)
    | _ => none

def offset? (cs : List Char) : Option (List Char) :=
  match cs with
  | ['Z'] | ['z'] => some ['Z']
  | sign :: rest => do
    let _ ← field? 2 0 23 (rest.take 2)
    let _ ← field? 2 0 59 (rest.drop 3)
    if (sign = '+' ∨ sign = '-') ∧ rest[2]? = some ':' then some cs else none
  | [] => none

/-- The written form of a date, a time, or both, possibly with a difference to universal time. -/
def moment? (cs : List Char) : Option (List Char) :=
  match cs[10]? with
  | none => (date? cs).or (time? cs)
  | some c =>
    if c = 'T' ∨ c = 't' ∨ c = ' ' then do
      let isOffset (c : Char) : Bool := c = 'Z' || c = 'z' || c = '+' || c = '-'
      let date ← date? (cs.take 10)
      let time ← time? ((cs.drop 11).takeWhile fun c => !isOffset c)
      let offset ← match (cs.drop 11).dropWhile fun c => !isOffset c with
        | [] => some []
        | offset => offset? offset
      some (date ++ 'T' :: time ++ offset)
    else time? cs

/-- Whether a character may stand in a number or a time. -/
def isTokenChar (c : Char) : Bool :=
  c.isAlphanum || c = '_' || c = '+' || c = '-' || c = '.' || c = ':'

/-- The characters of a number or a time; a blank may stand between a date and a time. -/
def tokenOf (cs : List Char) : List Char :=
  let token := cs.takeWhile isTokenChar
  match date? token, cs.dropWhile isTokenChar with
  | some _, ' ' :: rest =>
    if rest.head?.any Char.isDigit then token ++ ' ' :: rest.takeWhile isTokenChar else token
  | _, _ => token

/-- A truth value, a number or a time. -/
def plain : Scan Json := fun cs =>
  let token := tokenOf cs
  let value : Option Json := match String.ofList token with
    | "true" => some (.bool true)
    | "false" => some (.bool false)
    | _ => ((integer? token).or (float? token)).or
      ((moment? token).map fun written => .str (String.ofList written))
  value.map fun value => (value, cs.drop token.length)

/-! ### Tables -/

/-- How a table came to be: on the way to another one, by a key with dots, or by its header. -/
inductive Kind
  | implied
  | dotted
  | headed
  deriving DecidableEq

/-- What a document holds while it is read; of a list of tables the last one comes first. -/
inductive Node
  | value (v : Json)
  | table (kind : Kind) (members : List (String × Node))
  | tables (tables : List (List (String × Node)))

abbrev Members := List (String × Node)

def setMember (key : String) (node : Node) (members : Members) : Members :=
  if members.any (·.1 = key) then members.map fun m => if m.1 = key then (key, node) else m
  else members ++ [(key, node)]

/-- Changes the table that headers lead to; tables on the way are made, and of a list the last table
is meant. -/
def within (f : Members → Option Members) : List String → Members → Option Members
  | [], members => f members
  | key :: path, members => do
    let node ← match members.lookup key with
      | none => (within f path []).map (.table .implied ·)
      | some (.table kind inner) => (within f path inner).map (.table kind ·)
      | some (.tables (last :: earlier)) =>
        (within f path last).map fun last => .tables (last :: earlier)
      | some (.tables []) | some (.value _) => none
    some (setMember key node members)

/-- Sets a value under a key with dots.  Tables on the way have no header, and the one that the value
is put into was made by such a key. -/
def assign (v : Json) : List String → Members → Option Members
  | [], _ => none
  | [key], members =>
    if (members.lookup key).isSome then none else some (setMember key (.value v) members)
  | key :: next :: path, members => do
    let (kind, inner) ← match members.lookup key with
      | none => some (Kind.dotted, [])
      | some (.table kind inner) => some (kind, inner)
      | some _ => none
    if kind = .headed ∨ (kind = .implied ∧ path.isEmpty) then none
    else some (setMember key (.table kind (← assign v (next :: path) inner)) members)

def enterHeader (key : String) (members : Members) : Option Members :=
  match members.lookup key with
  | none => some (setMember key (.table .headed []) members)
  | some (.table .implied inner) => some (setMember key (.table .headed inner) members)
  | some _ => none

/-- Enters the header of a further table of a list. -/
def enterListHeader (key : String) (members : Members) : Option Members :=
  match members.lookup key with
  | none => some (setMember key (.tables [[]]) members)
  | some (.tables found) => some (setMember key (.tables ([] :: found)) members)
  | some _ => none

mutual

def Node.toJson : Node → Json
  | .value v => v
  | .table _ members => .object (membersToJson members)
  | .tables found => .arr (tablesToJson found).reverse

def membersToJson : List (String × Node) → List (String × Json)
  | [] => []
  | (key, node) :: rest => (key, node.toJson) :: membersToJson rest

def tablesToJson : List (List (String × Node)) → List Json
  | [] => []
  | members :: rest => .object (membersToJson members) :: tablesToJson rest

end

/-! ### Values -/

def member (value : Scan Json) : Scan (List String × Json) := fun cs => do
  let (path, cs) ← key cs
  match skipSpace cs with
  | '=' :: rest => do
    let (v, rest) ← value (skipSpace rest)
    some ((path, v), rest)
  | _ => none

/-- The members of a table that is a value, behind others; all on one line, and no comma behind the
last one. -/
def inlineMembers (value : Scan Json) : Nat → Members → Scan Members
  | 0, _, _ => none
  | fuel + 1, found, cs => do
    let ((path, v), cs) ← member value (skipSpace cs)
    let found ← assign v path found
    match skipSpace cs with
    | ',' :: rest => inlineMembers value fuel found rest
    | '\x7d' :: rest => some (found, rest)
    | _ => none

/-- A value in front; the fuel bounds how deep it is nested. -/
def value : Nat → Scan Json
  | 0, _ => none
  | depth + 1, cs =>
    match cs with
    | '[' :: rest => (bracketed skip (value depth) ']' rest).map fun (v, rest) => (.arr v, rest)
    | '\x7b' :: rest =>
      match skipSpace rest with
      | '\x7d' :: rest => some (.object [], rest)
      | rest => do
        let (members, rest) ← inlineMembers (value depth) (rest.length + 1) [] rest
        some ((Node.table .headed members).toJson, rest)
    | '"' :: _ => (text '"' cs).map fun (s, rest) => (.str s, rest)
    | '\'' :: _ => (text '\'' cs).map fun (s, rest) => (.str s, rest)
    | cs => plain cs

/-! ### Documents -/

/-- A document while it is read: what has come, and the path of the last header. -/
structure Reading where
  members : Members
  path : List String

def header (close : String) (start : String → Members → Option Members) (r : Reading) :
    Scan Reading := fun cs => do
  let (path, cs) ← key cs
  let rest ← afterWord? close (skipSpace cs)
  let name ← path.getLast?
  let members ← within (start name) path.dropLast r.members
  some (⟨members, path⟩, rest)

/-- Reads a line that is a header or a member. -/
def line (r : Reading) : Scan Reading
  | '[' :: '[' :: cs => header "]]" enterListHeader r cs
  | '[' :: cs => header "]" enterHeader r cs
  | cs => do
    let ((path, v), cs) ← member (value (cs.length + 1)) cs
    let members ← within (assign v path) r.path r.members
    some ({ r with members }, cs)

def lines : Nat → Reading → List Char → Option Reading
  | 0, _, _ => none
  | fuel + 1, r, cs =>
    match skip cs with
    | [] => some r
    | cs => do
      let (r, cs) ← line r cs
      lines fuel r (← lineEnd? cs)

/-- The document that a text holds, if it holds one. -/
def parse (s : String) : Option Json :=
  (lines (s.length + 1) ⟨[], []⟩ s.toList).map fun r => (Node.table .headed r.members).toJson

end ModelFleet.Toml
