import ModelFleet.Number.Power

/-!
# Hexadecimal digits

Sixteen digits, written in lower case and read in either case.  `ofChar?_toChar` says that reading
a written digit gives it back.
-/

namespace ModelFleet.Hex

def toChar (n : Fin 16) : Char :=
  if n.val < 10 then Char.ofNat (48 + n.val) else Char.ofNat (87 + n.val)

def lastDigit (n : Nat) : Fin 16 := ⟨n % 16, Nat.mod_lt n (by decide)⟩

def ofChar? (c : Char) : Option (Fin 16) :=
  if '0' ≤ c ∧ c ≤ '9' then some (lastDigit (c.toNat - 48))
  else if 'a' ≤ c ∧ c ≤ 'f' then some (lastDigit (c.toNat - 87))
  else if 'A' ≤ c ∧ c ≤ 'F' then some (lastDigit (c.toNat - 55))
  else none

theorem ofChar?_toChar : ∀ n : Fin 16, ofChar? (toChar n) = some n := by decide

/-- The two digits of a byte, the high one first. -/
def ofByte (b : UInt8) : List Char :=
  [toChar (lastDigit (b.toNat / 16)), toChar (lastDigit b.toNat)]

def ofBytes (bytes : List UInt8) : String := String.ofList (bytes.flatMap ofByte)

def toBytes? : List Char → Option (List UInt8)
  | [] => some []
  | [_] => none
  | high :: low :: rest => do
    let h ← ofChar? high
    let l ← ofChar? low
    let bytes ← toBytes? rest
    return UInt8.ofNat (16 * h.val + l.val) :: bytes

def ofNat (n : Nat) : String := String.ofList (Nat.toDigits 16 n)

end ModelFleet.Hex
