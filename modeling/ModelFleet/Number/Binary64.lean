import ModelFleet.Number.Power

/-!
# Binary floating-point numbers

A number of the 64-bit binary format of IEEE 754, kept as its bits.  Arithmetic goes through exact
fractions: `ofRatio` is the nearest number to a fraction, with ties to the even neighbour, and a
product or quotient is the nearest number to the exact one.
-/

namespace ModelFleet

/-- A number of the 64-bit format: sign, eleven bits of exponent, fifty-two bits of fraction. -/
structure Binary64 where
  bits : UInt64
  deriving DecidableEq

namespace Binary64

def isNegative (x : Binary64) : Bool := 2 ^ 63 ≤ x.bits.toNat

def exponentField (x : Binary64) : Nat := x.bits.toNat / 2 ^ 52 % 2 ^ 11

def fractionField (x : Binary64) : Nat := x.bits.toNat % 2 ^ 52

def isFinite (x : Binary64) : Bool := x.exponentField ≠ 2047

def isNaN (x : Binary64) : Bool := x.exponentField = 2047 ∧ x.fractionField ≠ 0

def significand (x : Binary64) : Nat :=
  if x.exponentField = 0 then x.fractionField else 2 ^ 52 + x.fractionField

/-- The power of two that the significand is multiplied by. -/
def power (x : Binary64) : Int :=
  if x.exponentField = 0 then -1074 else (x.exponentField : Int) - 1075

def ratio (x : Binary64) : Nat × Nat :=
  (x.significand * 2 ^ x.power.toNat, 2 ^ (-x.power).toNat)

def isZero (x : Binary64) : Bool := x.isFinite && x.significand = 0

/-- A number from its sign and the bits of its magnitude. -/
def ofMagnitude (negative : Bool) (magnitude : Nat) : Binary64 :=
  ⟨UInt64.ofNat (magnitude + if negative then 2 ^ 63 else 0)⟩

def infinityBits : Nat := 2047 * 2 ^ 52

def infinity (negative : Bool) : Binary64 := ofMagnitude negative infinityBits

def nan : Binary64 := ofMagnitude false (infinityBits + 2 ^ 51)

/-- The quotient rounded to the nearest integer, ties to the even one. -/
def roundHalfEven (num den : Nat) : Nat :=
  let quotient := num / den
  let twice := 2 * (num % den)
  if den < twice ∨ (twice = den ∧ quotient % 2 = 1) then quotient + 1 else quotient

def scaleDown (num den : Nat) (power : Int) : Nat × Nat :=
  (num * 2 ^ (-power).toNat, den * 2 ^ power.toNat)

/-- The power of two for which a fraction has a significand of fifty-three bits, but never less
than that of the smallest numbers. -/
def powerFor (num den : Nat) : Int :=
  let estimate : Int := (Nat.log2 num : Int) - Nat.log2 den - 52
  let (n, d) := scaleDown num den estimate
  max (if n / d < 2 ^ 52 then estimate - 1 else estimate) (-1074)

/-- The number nearest to a fraction of the given sign; beyond the largest one, infinity. -/
def ofRatio (negative : Bool) (num den : Nat) : Binary64 :=
  if num = 0 then ofMagnitude negative 0
  else
    let power := powerFor num den
    let (n, d) := scaleDown num den power
    let rounded := roundHalfEven n d
    let magnitude :=
      if rounded < 2 ^ 52 then rounded
      else (power + 1075).toNat * 2 ^ 52 + (rounded - 2 ^ 52)
    ofMagnitude negative (min magnitude infinityBits)

def ofInt (n : Int) : Binary64 := ofRatio (n < 0) n.natAbs 1

def powerOfTen (n : Nat) : Binary64 := ofRatio false (10 ^ n) 1

def add (x y : Binary64) : Binary64 :=
  ofRatio false (x.ratio.1 * y.ratio.2 + y.ratio.1 * x.ratio.2) (x.ratio.2 * y.ratio.2)

/-- Whether a number is less than another one, both finite and not negative. -/
def less (x y : Binary64) : Bool := x.ratio.1 * y.ratio.2 < y.ratio.1 * x.ratio.2

def mul (x y : Binary64) : Binary64 :=
  ofRatio (x.isNegative != y.isNegative) (x.ratio.1 * y.ratio.1) (x.ratio.2 * y.ratio.2)

/-- The quotient of finite numbers, the second one not zero. -/
def div (x y : Binary64) : Binary64 :=
  ofRatio (x.isNegative != y.isNegative) (x.ratio.1 * y.ratio.2) (x.ratio.2 * y.ratio.1)

def neg (x : Binary64) : Binary64 := ofMagnitude (!x.isNegative) (x.bits.toNat % 2 ^ 63)

/-- The number nearest to a decimal `digits · 10 ^ exponent`. -/
def ofDecimal (negative : Bool) (digits : Nat) (exponent : Int) : Binary64 :=
  if digits = 0 then ofMagnitude negative 0
  else if 400 < exponent then infinity negative
  else if exponent < -400 - (Nat.log2 digits : Int) then ofMagnitude negative 0
  else ofRatio negative (digits * 10 ^ exponent.toNat) (10 ^ (-exponent).toNat)

/-- Equality of numbers: the two zeros are equal, and what is not a number equals nothing. -/
def sameNumber (x y : Binary64) : Bool :=
  !x.isNaN && (x.bits == y.bits || (x.isZero && y.isZero))

/-- The nearest integer from 0 to `2 ^ 64 - 1`; a half goes away from zero, and what is not a
number counts as zero. -/
def toUnsigned (x : Binary64) : Nat :=
  if x.isNaN || x.isNegative then 0
  else if !x.isFinite then 2 ^ 64 - 1
  else min ((2 * x.ratio.1 + x.ratio.2) / (2 * x.ratio.2)) (2 ^ 64 - 1)

end Binary64

end ModelFleet
