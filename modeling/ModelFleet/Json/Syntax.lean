/-!
# Why a text is no JSON document

A fault is found in front of what is left of the text.  Its place is told as a line and as the
number of bytes of that line up to and including the first byte that does not fit.
-/

namespace ModelFleet.Json

/-- What is wrong with a text that is no document. -/
inductive Fault
  | unfinishedList
  | unfinishedObject
  | unfinishedText
  | unfinishedValue
  | noColon
  | noCommaInList
  | noCommaInObject
  | badWord
  | noValue
  | badEscape
  | badNumber
  | hugeNumber
  | controlCharacter
  | badKey
  | loneSurrogate
  | shortEscape
  | trailingComma
  | trailingCharacters
  | tooDeep
  deriving DecidableEq

def Fault.words : Fault → String
  | unfinishedList => "EOF while parsing a list"
  | unfinishedObject => "EOF while parsing an object"
  | unfinishedText => "EOF while parsing a string"
  | unfinishedValue => "EOF while parsing a value"
  | noColon => "expected `:`"
  | noCommaInList => "expected `,` or `]`"
  | noCommaInObject => "expected `,` or `\x7d`"
  | badWord => "expected ident"
  | noValue => "expected value"
  | badEscape => "invalid escape"
  | badNumber => "invalid number"
  | hugeNumber => "number out of range"
  | controlCharacter => "control character (\\u0000-\\u001F) found while parsing a string"
  | badKey => "key must be a string"
  | loneSurrogate => "lone leading surrogate in hex escape"
  | shortEscape => "unexpected end of hex escape"
  | trailingComma => "trailing comma"
  | trailingCharacters => "trailing characters"
  | tooDeep => "recursion limit exceeded"

/-- A fault, with what is left of the text and how many bytes of that do not fit. -/
structure Stop where
  fault : Fault
  rest : List Char
  bytes : Nat
  deriving DecidableEq

structure SyntaxError where
  fault : Fault
  line : Nat
  column : Nat
  deriving DecidableEq

def SyntaxError.message (e : SyntaxError) : String :=
  s!"{e.fault.words} at line {e.line} column {e.column}"

def bytesOf (cs : List Char) : List UInt8 := (String.ofList cs).toUTF8.toList

def placeAfter (bytes : List UInt8) : Nat × Nat :=
  (bytes.count 10 + 1, (bytes.reverse.takeWhile (· ≠ 10)).length)

def Stop.inText (stop : Stop) (text : List Char) : SyntaxError :=
  let bytes := bytesOf text
  let read := bytes.length - (bytesOf stop.rest).length
  let (line, column) := placeAfter (bytes.take (read + stop.bytes))
  ⟨stop.fault, line, column⟩

end ModelFleet.Json
