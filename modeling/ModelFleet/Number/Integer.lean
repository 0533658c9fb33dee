import ModelFleet.Number.Power

/-!
# Integers from text

Digits with an optional sign, within the range of a type.  A number that does not fit is told apart
from a text that is no number, whichever comes first when the digits are read in order.
-/

namespace ModelFleet

inductive NumberError
  | empty
  | invalidDigit
  | tooLarge
  deriving DecidableEq

def NumberError.message : NumberError → String
  | empty => "cannot parse integer from empty string"
  | invalidDigit => "invalid digit found in string"
  | tooLarge => "number too large to fit in target type"

namespace Integer

/-- Reads digits behind a value, up to the first one that does not fit. -/
def readDigits (limit : Nat) : Nat → List Char → Except NumberError Nat
  | value, [] => .ok value
  | value, c :: rest =>
    if '0' ≤ c ∧ c ≤ '9' then
      let next := value * 10 + (c.toNat - 48)
      if limit ≤ next then .error .tooLarge else readDigits limit next rest
    else .error .invalidDigit

/-- Reads digits, of which there has to be one. -/
def readSome (limit : Nat) : List Char → Except NumberError Nat
  | [] => .error .invalidDigit
  | digits => readDigits limit 0 digits

/-- Reads a natural number below a limit, which may have a plus in front. -/
def readNatural (limit : Nat) (s : String) : Except NumberError Nat :=
  match s.toList with
  | [] => .error .empty
  | '+' :: digits => readSome limit digits
  | digits => readSome limit digits

/-- Reads an integer of sixty-four bits, which may have a sign. -/
def read64 (s : String) : Except NumberError Int :=
  match s.toList with
  | '-' :: digits => (readSome (2 ^ 63 + 1) digits).map fun n => -n
  | _ => (readNatural (2 ^ 63) s).map fun n => n

end Integer

end ModelFleet
