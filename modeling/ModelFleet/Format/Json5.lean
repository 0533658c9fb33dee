import ModelFleet.Format.Scan
import ModelFleet.Number.Reader
import ModelFleet.Text.Alphanumeric
import ModelFleet.Text.Blank

/-!
# JSON5 documents

JSON with comments, names as keys, single quotes, commas behind the last item, hexadecimal integers,
and the names of infinity and of what is not a number.
-/

namespace ModelFleet.Json5

open Format

def isLineEnd (c : Char) : Bool := c = '\n' || c = '\r' || c = '\u2028' || c = '\u2029'

def isSpace (c : Char) : Bool := (isBlank c && c ≠ '\u0085') || c = '\uFEFF'

/-- Drops blanks and comments; a comment that does not end stays. -/
def skipWith : Nat → List Char → List Char
  | 0, cs => cs
  | _ + 1, [] => []
  | fuel + 1, '/' :: '/' :: rest => skipWith fuel (rest.dropWhile fun c => !isLineEnd c)
  | fuel + 1, '/' :: '*' :: rest =>
    match behind? "*/" rest with
    | some rest => skipWith fuel rest
    | none => '/' :: '*' :: rest
  | fuel + 1, c :: rest => if isSpace c then skipWith fuel rest else c :: rest

def skip (cs : List Char) : List Char := skipWith (cs.length + 1) cs

/-! ### Texts -/

/-- A character written by one or two units of UTF-16. -/
def unit : Scan Char := fun cs =>
  let high := valueOf 16 (cs.take 4)
  if 0xD800 ≤ high ∧ high < 0xDC00 ∧ (cs.take 4).all (isDigitOf 16) then
    match cs.drop 4 with
    | '\\' :: 'u' :: rest =>
      let low := valueOf 16 (rest.take 4)
      if (rest.take 4).length = 4 ∧ (rest.take 4).all (isDigitOf 16) ∧ 0xDC00 ≤ low ∧ low < 0xE000
      then some (Char.ofNat (0x10000 + (high - 0xD800) * 0x400 + (low - 0xDC00)), rest.drop 4)
      else none
    | _ => none
  else codePoint 4 cs

/-- The characters that a backslash and what follows it stand for. -/
def escaped : Scan (List Char)
  | [] => none
  | c :: rest =>
    match c with
    | 'b' => some (['\x08'], rest)
    | 'f' => some (['\x0c'], rest)
    | 'n' => some (['\n'], rest)
    | 'r' => some (['\r'], rest)
    | 't' => some (['\t'], rest)
    | 'v' => some (['\x0b'], rest)
    | '0' => some (['\x00'], rest)
    | 'x' => (codePoint 2 rest).map fun (c, rest) => ([c], rest)
    | 'u' => (unit rest).map fun (c, rest) => ([c], rest)
    | '\r' => some ([], match rest with
        | '\n' :: rest => rest
        | rest => rest)
    | c => if c.isDigit then none else some (if isLineEnd c then [] else [c], rest)

/-- The characters of a text up to its closing quote, behind others, last first. -/
def characters (quote : Char) : Nat → List Char → Scan (List Char)
  | 0, _, _ => none
  | _ + 1, _, [] => none
  | fuel + 1, found, c :: rest =>
    if c = quote then some (found.reverse, rest)
    else if c = '\\' then do
      let (chars, rest) ← escaped rest
      characters quote fuel (chars.reverse ++ found) rest
    else if isLineEnd c then none
    else characters quote fuel (c :: found) rest

def text (quote : Char) : Scan String := fun cs =>
  (characters quote (cs.length + 1) [] cs).map fun (chars, rest) => (String.ofList chars, rest)

/-! ### Keys -/

def isNameStart (c : Char) : Bool :=
  c = '$' || c = '_' || (Alphanumeric.isAlphanumeric c && !c.isDigit)

def isNamePart (c : Char) : Bool :=
  isNameStart c || c.isDigit || c = '\u200C' || c = '\u200D'

/-- The characters of a name, behind others, last first. -/
def nameCharacters : Nat → List Char → Scan (List Char)
  | 0, _, _ => none
  | fuel + 1, found, '\\' :: 'u' :: rest => do
    let (c, rest) ← codePoint 4 rest
    nameCharacters fuel (c :: found) rest
  | fuel + 1, found, c :: rest =>
    if isNamePart c then nameCharacters fuel (c :: found) rest
    else some (found.reverse, c :: rest)
  | _ + 1, found, [] => some (found.reverse, [])

def key : Scan String
  | [] => none
  | c :: rest =>
    if c = '"' ∨ c = '\'' then text c rest
    else if isNameStart c ∨ c = '\\' then do
      let (chars, rest) ← nameCharacters (rest.length + 2) [] (c :: rest)
      if chars.isEmpty then none else some (String.ofList chars, rest)
    else none

/-! ### Numbers -/

/-- The characters of an exponent, if there is one. -/
def exponentOf (cs : List Char) : List Char :=
  match cs with
  | c :: rest =>
    let (sign, digits) := match rest with
      | '+' :: digits => (['+'], digits)
      | '-' :: digits => (['-'], digits)
      | digits => ([], digits)
    let digits := digits.takeWhile Char.isDigit
    if (c = 'e' ∨ c = 'E') ∧ !digits.isEmpty then c :: sign ++ digits else []
  | [] => []

def decimalOf (cs : List Char) : List Char :=
  let whole := match cs with
    | '0' :: _ => ['0']
    | cs => cs.takeWhile Char.isDigit
  let fraction := match cs.drop whole.length with
    | '.' :: rest => '.' :: rest.takeWhile Char.isDigit
    | _ => []
  if whole.isEmpty && fraction.length < 2 then []
  else
    let mantissa := whole ++ fraction
    mantissa ++ exponentOf (cs.drop mantissa.length)

def decimalValue? (written : List Char) : Option Json :=
  let s := String.ofList written
  if written.any fun c => c = '.' || c = 'e' || c = 'E' then
    (Binary64.read? s).bind fun x => if x.isFinite then some (.real x) else none
  else
    let digits := written.filter Char.isDigit
    int64? (if written.head? = some '-' then -(valueOf 10 digits : Int) else valueOf 10 digits)

/-- A number without its sign; only plain integers may be hexadecimal. -/
def unsigned (sign : List Char) : Scan Json := fun cs =>
  let negative := sign = ['-']
  let hexadecimal := match cs with
    | '0' :: x :: rest => if x = 'x' ∨ x = 'X' then rest.takeWhile (isDigitOf 16) else []
    | _ => []
  if !hexadecimal.isEmpty then
    let n := valueOf 16 hexadecimal
    if sign.isEmpty ∧ n < 2 ^ 32 then some (.int n, cs.drop (hexadecimal.length + 2)) else none
  else
    match afterWord? "Infinity" cs, afterWord? "NaN" cs with
    | some rest, _ => if sign = ['+'] then none else some (.real (.infinity negative), rest)
    | none, some rest => if sign = ['+'] then none else some (.real .nan, rest)
    | none, none =>
      let decimal := decimalOf cs
      if decimal.isEmpty then none
      else (decimalValue? (sign ++ decimal)).map fun value => (value, cs.drop decimal.length)

def number : Scan Json
  | '+' :: cs => unsigned ['+'] cs
  | '-' :: cs => unsigned ['-'] cs
  | cs => unsigned [] cs

/-! ### Documents -/

/-- A document in front, behind blanks; the fuel bounds how deep it is nested. -/
def value : Nat → Scan Json
  | 0, _ => none
  | depth + 1, cs =>
    match skip cs with
    | [] => none
    | c :: rest =>
      if c = '\x7b' then do
        let member : Scan (String × Json) := fun cs => do
          let (k, cs) ← key cs
          match skip cs with
          | ':' :: cs => do
            let (v, cs) ← value depth cs
            some ((k, v), cs)
          | _ => none
        let (members, rest) ← bracketed skip member '\x7d' rest
        some (.object members, rest)
      else if c = '[' then do
        let (found, rest) ← bracketed skip (value depth) ']' rest
        some (.arr found, rest)
      else if c = '"' ∨ c = '\'' then (text c rest).map fun (s, rest) => (.str s, rest)
      else
        match afterWord? "null" (c :: rest), afterWord? "true" (c :: rest),
            afterWord? "false" (c :: rest) with
        | some rest, _, _ => some (.null, rest)
        | none, some rest, _ => some (.bool true, rest)
        | none, none, some rest => some (.bool false, rest)
        | none, none, none => number (c :: rest)

/-- The document that a text holds, if it holds one. -/
def parse (s : String) : Option Json := complete skip (value (s.length + 1) s.toList)

end ModelFleet.Json5
