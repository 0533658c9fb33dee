import ModelFleet.Number.Shortest

/-!
# Written numbers

Two ways to write a floating-point number with its shortest digits.  `scientific` is the form inside
documents: positional while the decimal point falls near the digits, otherwise with an exponent that
always has a sign.  `positional` never uses an exponent.
-/

namespace ModelFleet.Binary64

/-- Digits with `count` zeros after them. -/
def padded (digits : String) (count : Nat) : String :=
  digits ++ String.ofList (List.replicate count '0')

/-- Digits with a decimal point after the first `n` of them. -/
def pointed (digits : String) (n : Nat) : String :=
  let cs := digits.toList
  String.ofList (cs.take n) ++ "." ++ String.ofList (cs.drop n)

/-- The magnitude with a point inside the digits, or an exponent where the point lies more than
sixteen digits to the right or five to the left. -/
def scientificMagnitude (d : Decimal) : String :=
  let digits := toString d.digits
  let point : Int := digits.length + d.exponent
  if 0 ≤ d.exponent ∧ point ≤ 16 then padded digits d.exponent.toNat ++ ".0"
  else if 0 < point ∧ point ≤ 16 then pointed digits point.toNat
  else if -5 < point ∧ point ≤ 0 then "0." ++ padded "" (-point).toNat ++ digits
  else
    let mantissa := if digits.length = 1 then digits else pointed digits 1
    let e := point - 1
    mantissa ++ (if e < 0 then "e-" else "e+") ++ toString e.natAbs

def scientific (x : Binary64) : String :=
  let magnitude := if x.isZero then "0.0" else scientificMagnitude (Decimal.shortest x)
  if x.isNegative then "-" ++ magnitude else magnitude

def positionalMagnitude (d : Decimal) : String :=
  let digits := toString d.digits
  let point : Int := digits.length + d.exponent
  if 0 ≤ d.exponent then padded digits d.exponent.toNat
  else if 0 < point then pointed digits point.toNat
  else "0." ++ padded "" (-point).toNat ++ digits

def positional (x : Binary64) : String :=
  if x.isNaN then "NaN"
  else
    let magnitude :=
      if !x.isFinite then "inf"
      else if x.isZero then "0" else positionalMagnitude (Decimal.shortest x)
    if x.isNegative then "-" ++ magnitude else magnitude

end ModelFleet.Binary64
