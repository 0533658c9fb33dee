import ModelFleet.Number.Integer
import ModelFleet.Text.Hex

/-!
# Query strings

The pairs of a query string, in which a plus stands for a blank and a percent sign with two
hexadecimal digits for a byte, and the number under a key.
-/

namespace ModelFleet.QueryString

/-- The bytes that a part of a query string stands for. -/
def decodeBytes : List UInt8 → List UInt8
  | [] => []
  | b :: rest =>
    if b = 43 then 32 :: decodeBytes rest
    else if b = 37 then
      match rest with
      | high :: low :: rest =>
        match Hex.ofChar? (Char.ofNat high.toNat), Hex.ofChar? (Char.ofNat low.toNat) with
        | some h, some l => UInt8.ofNat (16 * h.val + l.val) :: decodeBytes rest
        | _, _ => b :: decodeBytes (high :: low :: rest)
      | rest => b :: decodeBytes rest
    else b :: decodeBytes rest
termination_by l => l.length

/-- The text that a part of a query string stands for, or a text with a replacement character where
the bytes are no text. -/
def decodePart (s : String) : String :=
  let bytes := ByteArray.mk (decodeBytes (s.toList.flatMap String.utf8EncodeChar)).toArray
  (String.fromUTF8? bytes).getD "\ufffd"

/-- A pair, whose value is empty where there is no equals sign. -/
def pairOf (part : String) : String × String :=
  let cs := part.toList
  let key := cs.takeWhile (· ≠ '=')
  (decodePart (String.ofList key), decodePart (String.ofList (cs.drop (key.length + 1))))

/-- The pairs of a query string, which stand between ampersands. -/
def pairs (s : String) : List (String × String) :=
  ((s.splitOn "&").filter (· ≠ "")).map pairOf

inductive QueryError
  | number (error : NumberError)
  | duplicate (key : String)
  deriving DecidableEq

def QueryError.message : QueryError → String
  | number error => error.message
  | duplicate key => s!"duplicate field `{key}`"

/-- The number under a key, which may stand there once; pairs are read in order. -/
def readKey (key : String) (limit : Nat) :
    Option Nat → List (String × String) → Except QueryError (Option Nat)
  | found, [] => .ok found
  | found, (k, v) :: rest =>
    if k = key then
      match found with
      | some _ => .error (.duplicate key)
      | none =>
        match Integer.readNatural limit v with
        | .ok n => readKey key limit (some n) rest
        | .error e => .error (.number e)
    else readKey key limit found rest

end ModelFleet.QueryString
