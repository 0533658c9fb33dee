import ModelFleet.Number.Binary64

/-!
# Shortest decimals

The fewest decimal digits that read back as a given number, and of those the nearest to it.  The
numbers that round to `m · 2 ^ q` form an interval around it; its ends belong to it when `m` is
even.  For one digit, two digits and so on the two neighbours on that decimal grid are tried, in
exact arithmetic, until one lies in the interval.
-/

namespace ModelFleet

/-- A decimal `digits · 10 ^ exponent`. -/
structure Decimal where
  digits : Nat
  exponent : Int
  deriving DecidableEq

namespace Decimal

/-- The number of decimal digits of a positive number, less one. -/
def magnitude (n : Nat) : Nat := (Nat.toDigits 10 n).length - 1

/-- The exponent of the leading digit of a positive fraction. -/
def leading (num den : Nat) : Int :=
  if den ≤ num then magnitude (num / den)
  else -((magnitude ((den + num - 1) / num - 1) : Int) + 1)

/-- Whether `a / b` lies between `lo / d` and `hi / d`, the ends included if so wished. -/
def within (ends : Bool) (lo hi d a b : Nat) : Bool :=
  if ends then lo * b ≤ a * d && a * d ≤ hi * b else lo * b < a * d && a * d < hi * b

/-- The neighbours of a fraction on the grid of multiples of `10 ^ exponent` that lie in an
interval, the nearer one if both do. -/
def onGrid? (num den : Nat) (ends : Bool) (lo hi d : Nat) (exponent : Int) : Option Decimal :=
  let up := 10 ^ exponent.toNat
  let down := 10 ^ (-exponent).toNat
  let below := num * down / (den * up)
  let holds (n : Nat) := n ≠ 0 && within ends lo hi d (n * up) down
  let nearer : Nat :=
    if (2 * below + 1) * den * up ≤ 2 * num * down
      && ((2 * below + 1) * den * up ≠ 2 * num * down || below % 2 = 1) then below + 1 else below
  if holds nearer then some ⟨nearer, exponent⟩
  else if holds below then some ⟨below, exponent⟩
  else if holds (below + 1) then some ⟨below + 1, exponent⟩
  else none

def normalize (d : Decimal) : Decimal :=
  let rec strip : Nat → Nat → Int → Decimal
    | 0, n, e => ⟨n, e⟩
    | fuel + 1, n, e => if n ≠ 0 ∧ n % 10 = 0 then strip fuel (n / 10) (e + 1) else ⟨n, e⟩
  strip (magnitude d.digits + 1) d.digits d.exponent

/-- The shortest decimal of the magnitude of a finite number that is not zero. -/
def shortest (x : Binary64) : Decimal :=
  let m := x.significand
  let up := 2 ^ x.power.toNat
  let d := 4 * 2 ^ (-x.power).toNat
  let gap := if m = 2 ^ 52 ∧ x.exponentField ≠ 1 then 1 else 2
  let lo := (4 * m - gap) * up
  let hi := (4 * m + 2) * up
  let (num, den) := x.ratio
  let first := leading num den
  let found? := (List.range 17).findSome? fun (k : Nat) =>
    onGrid? num den (m % 2 = 0) lo hi d (first - k)
  normalize (found?.getD ⟨m, x.power⟩)

end Decimal

end ModelFleet
