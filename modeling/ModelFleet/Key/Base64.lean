/-!
# Base64

The standard alphabet with required padding, in which every list of bytes has one written form:
`decode` refuses a missing or superfluous pad and a last symbol with bits that no byte uses.  A
refusal names the byte at fault and its place in the UTF-8 form of the text.
-/

namespace ModelFleet

/-- Why a text is not the written form of bytes. -/
inductive Base64Error
  | badSymbol (symbol : UInt8) (offset : Nat)
  | badLastSymbol (symbol : UInt8) (offset : Nat)
  | badLength (length : Nat)
  | badPadding
  deriving DecidableEq

def Base64Error.message : Base64Error → String
  | badSymbol symbol offset => s!"Invalid symbol {symbol}, offset {offset}."
  | badLastSymbol symbol offset => s!"Invalid last symbol {symbol}, offset {offset}."
  | badLength length => s!"Invalid input length: {length}"
  | badPadding => "Invalid padding"

namespace Base64

def symbol (n : Nat) : Char :=
  if n < 26 then Char.ofNat (65 + n)
  else if n < 52 then Char.ofNat (71 + n)
  else if n < 62 then Char.ofNat (n - 4)
  else if n = 62 then '+' else '/'

/-- The value of a symbol, given by its byte. -/
def value? (b : UInt8) : Option Nat :=
  let n := b.toNat
  if 65 ≤ n ∧ n ≤ 90 then some (n - 65)
  else if 97 ≤ n ∧ n ≤ 122 then some (n - 71)
  else if 48 ≤ n ∧ n ≤ 57 then some (n + 4)
  else if n = 43 then some 62
  else if n = 47 then some 63
  else none

/-- The byte of the pad, an equals sign. -/
def pad : UInt8 := 61

/-! ### Writing -/

/-- Three bytes become four symbols; a shorter end is padded. -/
def encodeBytes : List UInt8 → List Char
  | [] => []
  | [a] => [symbol (a.toNat / 4), symbol (a.toNat % 4 * 16), '=', '=']
  | [a, b] =>
    [symbol (a.toNat / 4), symbol (a.toNat % 4 * 16 + b.toNat / 16), symbol (b.toNat % 16 * 4), '=']
  | a :: b :: c :: rest =>
    symbol (a.toNat / 4) :: symbol (a.toNat % 4 * 16 + b.toNat / 16) ::
      symbol (b.toNat % 16 * 4 + c.toNat / 64) :: symbol (c.toNat % 64) :: encodeBytes rest

def encode (bytes : List UInt8) : String := String.ofList (encodeBytes bytes)

/-! ### Reading -/

/-- The bytes of a text in UTF-8. -/
def utf8 (cs : List Char) : List UInt8 := cs.flatMap String.utf8EncodeChar

def valueAt (offset : Nat) (b : UInt8) : Except Base64Error Nat :=
  match value? b with
  | some n => .ok n
  | none => .error (.badSymbol b offset)

/-- The values of symbols, the first of which stands at a place. -/
def valuesAt (offset : Nat) : List UInt8 → Except Base64Error (List Nat)
  | [] => .ok []
  | b :: rest => do
    let n ← valueAt offset b
    let values ← valuesAt (offset + 1) rest
    return n :: values

def firstByte (x y : Nat) : UInt8 := UInt8.ofNat (x * 4 + y / 16)

def secondByte (y z : Nat) : UInt8 := UInt8.ofNat (y % 16 * 16 + z / 4)

def thirdByte (z w : Nat) : UInt8 := UInt8.ofNat (z % 4 * 64 + w)

/-- The bytes of the last symbols, of which the last one stands at a place. -/
def lastBytes (symbol : UInt8) (offset : Nat) : List Nat → Except Base64Error (List UInt8)
  | [x, y] => if y % 16 = 0 then .ok [firstByte x y] else .error (.badLastSymbol symbol offset)
  | [x, y, z] =>
    if z % 4 = 0 then .ok [firstByte x y, secondByte y z]
    else .error (.badLastSymbol symbol offset)
  | [x, y, z, w] => .ok [firstByte x y, secondByte y z, thirdByte z w]
  | _ => .ok []

/-- Reads the last group, of four bytes at most. -/
def decodeLast (offset : Nat) (group : List UInt8) : Except Base64Error (List UInt8) := do
  let symbols := group.takeWhile (· ≠ pad)
  let padding := group.dropWhile (· ≠ pad)
  let values ← valuesAt offset symbols
  if !padding.isEmpty && (symbols.length < 2 || padding.any (· ≠ pad)) then
    throw (.badSymbol pad (offset + symbols.length))
  if symbols.length = 1 then throw (.badLength (offset + 1))
  if group.length % 4 ≠ 0 then throw .badPadding
  lastBytes (symbols.getLast?.getD 0) (offset + symbols.length - 1) values

/-- Reads groups of four symbols up to the last one. -/
def decodeGroups (offset : Nat) : List UInt8 → Except Base64Error (List UInt8)
  | a :: b :: c :: d :: e :: rest => do
    let x ← valueAt offset a
    let y ← valueAt (offset + 1) b
    let z ← valueAt (offset + 2) c
    let w ← valueAt (offset + 3) d
    let bytes ← decodeGroups (offset + 4) (e :: rest)
    return firstByte x y :: secondByte y z :: thirdByte z w :: bytes
  | group => decodeLast offset group

/-- Refuses at once a single byte after the last whole group that is no symbol. -/
def checkEnd (bytes : List UInt8) : Except Base64Error Unit :=
  match bytes.getLast? with
  | none => .ok ()
  | some b =>
    if bytes.length % 4 = 1 ∧ b ≠ pad ∧ value? b = none then
      .error (.badSymbol b (bytes.length - 1))
    else .ok ()

def decode (cs : List Char) : Except Base64Error (List UInt8) := do
  let bytes := utf8 cs
  checkEnd bytes
  decodeGroups 0 bytes

end Base64

end ModelFleet
