import ModelFleet.Format.Scan
import ModelFleet.Number.Reader
import ModelFleet.Text.Alphanumeric

/-!
# RON documents

Records in parentheses, lists in brackets and maps in braces, with names in front of records,
optional values, characters, raw texts, and comments that may be nested.
-/

namespace ModelFleet.Ron

open Format

/-! ### Blanks and names -/

def isSpace (c : Char) : Bool := c = ' ' || c = '\n' || c = '\t' || c = '\r'

/-- What is left behind a comment of so many levels. -/
def comment? : Nat → List Char → Option (List Char)
  | _, [] => none
  | level, '*' :: '/' :: rest => if level ≤ 1 then some rest else comment? (level - 1) rest
  | level, '/' :: '*' :: rest => comment? (level + 1) rest
  | level, _ :: rest => comment? level rest

/-- Drops blanks and comments; a comment that does not end stays. -/
def skipWith : Nat → List Char → List Char
  | 0, cs => cs
  | _ + 1, [] => []
  | fuel + 1, '/' :: '/' :: rest => skipWith fuel (rest.dropWhile (· ≠ '\n'))
  | fuel + 1, '/' :: '*' :: rest =>
    match comment? 1 rest with
    | some rest => skipWith fuel rest
    | none => '/' :: '*' :: rest
  | fuel + 1, c :: rest => if isSpace c then skipWith fuel rest else c :: rest

def skip (cs : List Char) : List Char := skipWith (cs.length + 1) cs

def isNameStart (c : Char) : Bool :=
  c = '_' || (Alphanumeric.isAlphanumeric c && !c.isDigit)

def isNamePart (c : Char) : Bool := c = '_' || Alphanumeric.isAlphanumeric c

def name : Scan String
  | [] => none
  | c :: rest =>
    if isNameStart c then
      some (String.ofList (c :: rest.takeWhile isNamePart), rest.dropWhile isNamePart)
    else none

/-! ### Texts -/

/-- The character that a backslash and what follows it stand for. -/
def escaped : Scan Char
  | 'u' :: '\x7b' :: rest =>
    let digits := rest.takeWhile (· ≠ '\x7d')
    if digits.isEmpty ∨ 6 < digits.length then none
    else (codePoint digits.length rest).map fun (c, rest) => (c, rest.drop 1)
  | 'x' :: rest => codePoint 2 rest
  | 'n' :: rest => some ('\n', rest)
  | 'r' :: rest => some ('\r', rest)
  | 't' :: rest => some ('\t', rest)
  | '0' :: rest => some ('\x00', rest)
  | '\\' :: rest => some ('\\', rest)
  | '"' :: rest => some ('"', rest)
  | '\'' :: rest => some ('\'', rest)
  | _ => none

/-- The characters of a text up to its closing quote, behind others, last first. -/
def characters : Nat → List Char → Scan String
  | 0, _, _ => none
  | _ + 1, _, [] => none
  | _ + 1, found, '"' :: rest => some (String.ofList found.reverse, rest)
  | fuel + 1, found, '\\' :: rest => do
    let (c, rest) ← escaped rest
    characters fuel (c :: found) rest
  | fuel + 1, found, c :: rest => characters fuel (c :: found) rest

/-- The characters of a raw text up to what closes it, behind others, last first. -/
def rawCharacters (close : String) : List Char → List Char → Option (String × List Char)
  | _, [] => none
  | found, c :: rest =>
    match afterWord? close (c :: rest) with
    | some rest => some (String.ofList found.reverse, rest)
    | none => rawCharacters close (c :: found) rest

def text : Scan String
  | '"' :: rest => characters (rest.length + 1) [] rest
  | 'r' :: rest =>
    let marks := rest.takeWhile (· = '#')
    match rest.drop marks.length with
    | '"' :: rest => rawCharacters (String.ofList ('"' :: marks)) [] rest
    | _ => none
  | _ => none

def character : Scan Char
  | '\'' :: '\\' :: rest =>
    match escaped rest with
    | some (c, '\'' :: rest) => some (c, rest)
    | _ => none
  | '\'' :: c :: '\'' :: rest => some (c, rest)
  | _ => none

/-! ### Numbers -/

def isNumberChar (c : Char) : Bool :=
  c.isAlphanum || c = '_' || c = '+' || c = '-' || c = '.'

/-- The value of an integer without its sign; underscores in it do not count. -/
def magnitude? (token : List Char) : Option Nat :=
  let inBase (base : Nat) (cs : List Char) : Option Nat :=
    let digits := cs.filter (· ≠ '_')
    if cs.head? = some '_' ∨ digits.isEmpty ∨ !digits.all (isDigitOf base) then none
    else some (valueOf base digits)
  match token with
  | '0' :: 'x' :: digits => inBase 16 digits
  | '0' :: 'o' :: digits => inBase 8 digits
  | '0' :: 'b' :: digits => inBase 2 digits
  | digits => inBase 10 digits

def numberOf? (token : List Char) : Option Json :=
  let (negative, rest) := match token with
    | '-' :: rest => (true, rest)
    | '+' :: rest => (false, rest)
    | rest => (false, rest)
  match magnitude? rest, String.ofList rest with
  | some n, _ => int64? (if negative then -(n : Int) else n)
  | none, "inf" => some (.real (.infinity negative))
  | none, "NaN" => some (.real .nan)
  | none, s =>
    if rest.head?.any fun c => c.isDigit || c = '.' then
      (Binary64.read? s).map fun x => .real (if negative then x.neg else x)
    else none

def number : Scan Json := fun cs =>
  (numberOf? (cs.takeWhile isNumberChar)).map fun value => (value, cs.dropWhile isNumberChar)

/-! ### Documents -/

def member (value : Scan Json) : Scan (String × Json) := fun cs => do
  let (key, cs) ← name cs
  match skip cs with
  | ':' :: rest => do
    let (v, rest) ← value rest
    some ((key, v), rest)
  | _ => none

/-- An entry of a map, the key of which is a text. -/
def entry (value : Scan Json) : Scan (String × Json) := fun cs => do
  match ← value cs with
  | (.str key, cs) =>
    match skip cs with
    | ':' :: rest => do
      let (v, rest) ← value rest
      some ((key, v), rest)
    | _ => none
  | _ => none

/-- What parentheses hold, behind the opening one: members, or values in order. -/
def record (value : Scan Json) : Scan Json := fun cs =>
  let hasMembers := match name (skip cs) with
    | some (_, rest) => (skip rest).head? == some ':'
    | none => false
  if hasMembers then
    (bracketed skip (member value) ')' cs).map fun (members, rest) => (.object members, rest)
  else (bracketed skip value ')' cs).map fun (found, rest) => (.arr found, rest)

def named (value : Scan Json) (word : String) (cs : List Char) : Option (Json × List Char) :=
  match word, skip cs with
  | "true", _ => some (.bool true, cs)
  | "false", _ => some (.bool false, cs)
  | "None", _ => some (.null, cs)
  | "inf", _ => some (.real (.infinity false), cs)
  | "NaN", _ => some (.real .nan, cs)
  | "Some", '(' :: rest => do
    let (v, rest) ← value rest
    match skip rest with
    | ',' :: rest => (afterWord? ")" (skip rest)).map fun rest => (v, rest)
    | ')' :: rest => some (v, rest)
    | _ => none
  | _, '(' :: rest => record value rest
  | _, _ => some (.null, cs)

/-- A value in front, behind blanks; the fuel bounds how deep it is nested. -/
def value : Nat → Scan Json
  | 0, _ => none
  | depth + 1, cs =>
    let cs := skip cs
    match text cs, name cs with
    | some (s, rest), _ => some (.str s, rest)
    | none, some (word, rest) => named (value depth) word rest
    | none, none =>
      match cs with
      | '(' :: ')' :: rest => some (.null, rest)
      | '(' :: rest => record (value depth) rest
      | '[' :: rest =>
        (bracketed skip (value depth) ']' rest).map fun (found, rest) => (.arr found, rest)
      | '\x7b' :: rest =>
        (bracketed skip (entry (value depth)) '\x7d' rest).map fun (members, rest) =>
          (.object members, rest)
      | '\'' :: _ => (character cs).map fun (c, rest) => (.str (String.singleton c), rest)
      | cs => number cs

/-- What is left behind lines that turn extensions on. -/
def afterExtensions : Nat → List Char → List Char
  | 0, cs => cs
  | fuel + 1, cs =>
    match afterWord? "#![enable(" (skip cs) with
    | none => cs
    | some rest =>
      match behind? "]" rest with
      | some rest => afterExtensions fuel rest
      | none => cs

/-- The document that a text holds, if it holds one. -/
def parse (s : String) : Option Json :=
  complete skip (value (s.length + 1) (afterExtensions s.length s.toList))

end ModelFleet.Ron
