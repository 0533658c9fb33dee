import ModelFleet.Format.Scan
import ModelFleet.Text.Blank

/-!
# INI documents

Lines with keys and texts, under sections in brackets.  A text ends with its line, unless it stands
between quotes.
-/

namespace ModelFleet.Ini

open Format

/-- The character that a backslash and what follows it stand for, if any. -/
def escaped : Scan (List Char)
  | '0' :: rest => some (['\x00'], rest)
  | 'a' :: rest => some (['\x07'], rest)
  | 'b' :: rest => some (['\x08'], rest)
  | 't' :: rest => some (['\t'], rest)
  | 'r' :: rest => some (['\r'], rest)
  | 'n' :: rest => some (['\n'], rest)
  | '\n' :: rest => some ([], rest)
  | 'x' :: rest => (codePoint 4 rest).map fun (c, rest) => ([c], rest)
  | c :: rest => some ([c], rest)
  | [] => none

/-- The characters up to one that ends them, which stays, behind others, last first. -/
def upTo (isEnd : Char → Bool) (atEnd : Bool) : Nat → List Char → Scan (List Char)
  | 0, _, _ => none
  | _ + 1, found, [] => if atEnd then some (found.reverse, []) else none
  | fuel + 1, found, c :: rest =>
    if isEnd c then some (found.reverse, c :: rest)
    else if c = '\\' then do
      let (chars, rest) ← escaped rest
      upTo isEnd atEnd fuel (chars.reverse ++ found) rest
    else upTo isEnd atEnd fuel (c :: found) rest

def restOfLine : Scan (List Char) := fun cs =>
  upTo (fun c => c = '\n' || c = '\r') true (cs.length + 1) [] cs

/-- A text, behind the sign between it and its key. -/
def text : Scan String := fun cs =>
  let cs := cs.dropWhile fun c => isBlank c && c ≠ '\n' && c ≠ '\r'
  match cs with
  | c :: rest =>
    if c = '"' ∨ c = '\'' then do
      let (quoted, rest) ← upTo (· = c) false (rest.length + 1) [] rest
      let (more, rest) ← restOfLine (rest.drop 1)
      some (String.ofList (quoted ++ trimBlanks more), rest)
    else (restOfLine cs).map fun (chars, rest) => (String.ofList (trimBlanks chars), rest)
  | [] => some ("", [])

/-- What has been read: members without a section, the sections with their members, and the members
of the section that is being read. -/
structure Reading where
  outer : List (String × Json)
  sections : List (String × List (String × Json))
  deriving Inhabited

namespace Reading

def enter (r : Reading) (name : String) : Reading :=
  { r with sections := r.sections ++ [(name, [])] }

def set (r : Reading) (key value : String) : Reading :=
  match r.sections.getLast? with
  | none => { r with outer := r.outer ++ [(key, .str value)] }
  | some (name, members) =>
    { r with sections := r.sections.dropLast ++ [(name, members ++ [(key, .str value)])] }

def toJson (r : Reading) : Json :=
  .object (r.outer ++ r.sections.map fun (name, members) => (name, .object members))

end Reading

/-- Reads lines; whether the next character is the first of its line decides about comments. -/
def lines : Nat → Reading → Bool → List Char → Option Reading
  | 0, _, _, _ => none
  | _ + 1, r, _, [] => some r
  | fuel + 1, r, isFirst, c :: rest =>
    if isBlank c then lines fuel r (c = '\n') rest
    else if c = ';' ∨ c = '#' then
      if isFirst then lines fuel r false (rest.dropWhile (· ≠ '\n')) else none
    else if c = '[' then do
      let (name, rest) ← upTo (· = ']') false (rest.length + 1) [] rest
      lines fuel (r.enter (String.ofList (trimBlanks name))) false (rest.drop 1)
    else do
      let (key, rest) ← upTo (fun c => c = '=' || c = ':') false (rest.length + 2) [] (c :: rest)
      let key := trimBlanks key
      if key.isEmpty then none
      else do
        let (value, rest) ← text (rest.drop 1)
        lines fuel (r.set (String.ofList key) value) false rest

/-- The document that a text holds, if it holds one. -/
def parse (s : String) : Option Json :=
  (lines (s.length + 1) ⟨[], []⟩ true s.toList).map Reading.toJson

end ModelFleet.Ini
