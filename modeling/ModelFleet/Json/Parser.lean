import ModelFleet.Json.Numeral
import ModelFleet.Json.Syntax
import ModelFleet.Text.Hex

/-!
# Reading JSON text

The grammar of JSON without extensions.  Every reader takes the characters in front of it and gives
back a value with what is left, or says where it stopped.  Nesting is bounded by `maxDepth`; a list
of items is read with one unit of fuel for each character, which is enough because each item takes
at least one.
-/

namespace ModelFleet.Json

/-- A reader: the characters in front of it give a value and the rest, or make it stop. -/
abbrev Reads (α : Type) := List Char → Except Stop (α × List Char)

/-- Stops before characters of which so many bytes do not fit. -/
def stop {α : Type} (fault : Fault) (rest : List Char) (bytes : Nat) : Except Stop α :=
  .error ⟨fault, rest, bytes⟩

/-- Stops because of the next character, or because there is none. -/
def stopAt {α : Type} (fault ended : Fault) (rest : List Char) : Except Stop α :=
  stop (if rest.isEmpty then ended else fault) rest 1

def isSpace (c : Char) : Bool := c == ' ' || c == '\n' || c == '\t' || c == '\r'

def skipSpace (cs : List Char) : List Char := cs.dropWhile isSpace

/-- A word such as `null`. -/
def readWord (value : Json) : (word : List Char) → Reads Json
  | [], cs => .ok (value, cs)
  | w :: word, c :: cs => if w = c then readWord value word cs else stop .badWord (c :: cs) 1
  | _ :: _, [] => stop .unfinishedValue [] 0

/-! ### Numerals -/

def readDigits (cs : List Char) : List Char × List Char :=
  (cs.takeWhile Char.isDigit, cs.dropWhile Char.isDigit)

/-- The digits in front, of which there has to be one. -/
def readSomeDigits : Reads (List Char) := fun cs =>
  let (digits, rest) := readDigits cs
  if digits.isEmpty then stopAt .badNumber .unfinishedValue rest else .ok (digits, rest)

/-- The digits before the point, without a zero in front of others. -/
def readWhole : Reads (List Char)
  | '0' :: rest =>
    if rest.head?.any Char.isDigit then stop .badNumber rest 1 else .ok (['0'], rest)
  | cs => readSomeDigits cs

/-- The digits after the point, if there is one. -/
def readFraction : Reads (List Char)
  | '.' :: rest => readSomeDigits rest
  | cs => .ok ([], cs)

def readSign : List Char → Bool × List Char
  | '-' :: rest => (true, rest)
  | '+' :: rest => (false, rest)
  | rest => (false, rest)

/-- The exponent, if there is one. -/
def readExponent : Reads (Option (Bool × List Char))
  | c :: rest =>
    if c = 'e' ∨ c = 'E' then do
      let (down, rest) := readSign rest
      let (digits, rest) ← readSomeDigits rest
      return (some (down, digits), rest)
    else .ok (none, c :: rest)
  | [] => .ok (none, [])

def readNumeral : Reads Json := fun cs => do
  let (negative, cs) := match cs with
    | '-' :: rest => (true, rest)
    | cs => (false, cs)
  let (whole, cs) ← readWhole cs
  let (fraction, cs) ← readFraction cs
  let (exponent, cs) ← readExponent cs
  let parts : Numeral.Parts := ⟨negative, whole, fraction, exponent⟩
  match Numeral.value parts with
  | some value => return (value, cs)
  | none => stop .hugeNumber (parts.unread ++ cs) 0

/-! ### Texts -/

def readUnit : Reads Nat := fun cs =>
  match cs, (cs.take 4).mapM Hex.ofChar? with
  | _ :: _ :: _ :: _ :: rest, some digits =>
    .ok (digits.foldl (fun n d => 16 * n + d.val) 0, rest)
  | cs, _ =>
    if (bytesOf cs).length < 4 then stop .unfinishedText [] 0 else stop .badEscape cs 4

def readLowUnit : Reads Nat
  | '\\' :: 'u' :: rest => do
    let (low, rest) ← readUnit rest
    if 0xDC00 ≤ low ∧ low < 0xE000 then return (low - 0xDC00, rest)
    else stop .loneSurrogate rest 0
  | '\\' :: rest => stopAt .shortEscape .unfinishedText rest
  | rest => stopAt .shortEscape .unfinishedText rest

/-- A character written by one or two units of UTF-16. -/
def readEscapedUnit : Reads Char := fun cs => do
  let (high, rest) ← readUnit cs
  if 0xDC00 ≤ high ∧ high < 0xE000 then stop .loneSurrogate rest 0
  else if 0xD800 ≤ high ∧ high < 0xDC00 then do
    let (low, rest) ← readLowUnit rest
    return (Char.ofNat (0x10000 + (high - 0xD800) * 0x400 + low), rest)
  else return (Char.ofNat high, rest)

def readEscape : Reads Char
  | '"' :: rest => .ok ('"', rest)
  | '\\' :: rest => .ok ('\\', rest)
  | '/' :: rest => .ok ('/', rest)
  | 'b' :: rest => .ok ('\x08', rest)
  | 'f' :: rest => .ok ('\x0c', rest)
  | 'n' :: rest => .ok ('\n', rest)
  | 'r' :: rest => .ok ('\r', rest)
  | 't' :: rest => .ok ('\t', rest)
  | 'u' :: rest => readEscapedUnit rest
  | rest => stopAt .badEscape .unfinishedText rest

/-- The characters of a text up to its closing quote, last first. -/
def readCharacters : Nat → List Char → Reads (List Char)
  | 0, _, cs => stop .unfinishedText cs 0
  | fuel + 1, acc, cs =>
    match cs with
    | [] => stop .unfinishedText [] 0
    | '"' :: rest => .ok (acc, rest)
    | '\\' :: rest => do
      let (c, rest) ← readEscape rest
      readCharacters fuel (c :: acc) rest
    | c :: rest =>
      if c.toNat < 32 then stop .controlCharacter (c :: rest) 1
      else readCharacters fuel (c :: acc) rest

def readText : Reads String := fun cs => do
  let (chars, rest) ← readCharacters (cs.length + 1) [] cs
  return (String.ofList chars.reverse, rest)

/-! ### Lists and objects -/

/-- What brackets hold: the closing one, and the faults of what stands between them. -/
structure Brackets where
  close : Char
  unfinished : Fault
  noComma : Fault

def listBrackets : Brackets := ⟨']', .unfinishedList, .noCommaInList⟩

def objectBrackets : Brackets := ⟨'\x7d', .unfinishedObject, .noCommaInObject⟩

/-- Items between commas up to the closing bracket, last first. -/
def readItems {α : Type} (b : Brackets) (item : Reads α) : Nat → List α → Reads (List α)
  | 0, _, cs => stop b.unfinished cs 0
  | fuel + 1, acc, cs => do
    let (x, cs) ← item cs
    match skipSpace cs with
    | ',' :: rest =>
      match skipSpace rest with
      | [] => stop .unfinishedValue [] 0
      | c :: rest =>
        if c = b.close then stop .trailingComma (c :: rest) 1
        else readItems b item fuel (x :: acc) (c :: rest)
    | c :: rest => if c = b.close then .ok (x :: acc, rest) else stop b.noComma (c :: rest) 1
    | [] => stop b.unfinished [] 0

/-- What stands between brackets, after the opening one. -/
def readBracketed {α : Type} (b : Brackets) (item : Reads α) : Reads (List α) := fun cs =>
  match skipSpace cs with
  | [] => stop b.unfinished [] 0
  | c :: rest =>
    if c = b.close then .ok ([], rest)
    else do
      let (items, rest) ← readItems b item (cs.length + 1) [] (c :: rest)
      return (items.reverse, rest)

def readMember (value : Reads Json) : Reads (String × Json)
  | '"' :: cs => do
    let (key, cs) ← readText cs
    match skipSpace cs with
    | ':' :: rest => do
      let (v, rest) ← value (skipSpace rest)
      return ((key, v), rest)
    | rest => stopAt .noColon .unfinishedObject rest
  | cs => stop .badKey cs 1

/-! ### Documents -/

/-- How deep arrays and objects may be nested. -/
def maxDepth : Nat := 127

/-- A document nested no deeper than the given depth; blanks in front are not expected. -/
def readValue : Nat → Reads Json
  | depth, cs =>
    match cs with
    | 'n' :: rest => readWord .null ['u', 'l', 'l'] rest
    | 't' :: rest => readWord (.bool true) ['r', 'u', 'e'] rest
    | 'f' :: rest => readWord (.bool false) ['a', 'l', 's', 'e'] rest
    | '"' :: rest => do
      let (s, rest) ← readText rest
      return (.str s, rest)
    | '[' :: rest =>
      match depth with
      | 0 => stop .tooDeep cs 1
      | depth + 1 => do
        let (items, rest) ← readBracketed listBrackets (readValue depth) rest
        return (.arr items, rest)
    | '\x7b' :: rest =>
      match depth with
      | 0 => stop .tooDeep cs 1
      | depth + 1 => do
        let (members, rest) ← readBracketed objectBrackets (readMember (readValue depth)) rest
        return (object members, rest)
    | '-' :: _ => readNumeral cs
    | c :: _ => if c.isDigit then readNumeral cs else stop .noValue cs 1
    | [] => stop .unfinishedValue [] 0

/-- The document that characters hold, with nothing but blanks around it. -/
def readDocument (cs : List Char) : Except Stop Json := do
  let (value, rest) ← readValue maxDepth (skipSpace cs)
  match skipSpace rest with
  | [] => return value
  | rest => stop .trailingCharacters rest 1

/-- The document that a text holds, or why it holds none. -/
def read (s : String) : Except SyntaxError Json :=
  (readDocument s.toList).mapError (·.inText s.toList)

/-- The document that a text holds, if it holds one. -/
def parse (s : String) : Option Json := (readDocument s.toList).toOption

end ModelFleet.Json
