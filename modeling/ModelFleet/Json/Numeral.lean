import ModelFleet.Json.Basic

/-!
# JSON numerals

How a numeral becomes a number.  One without fraction and exponent that fits into 64 bits, signed or
unsigned, is an integer, but `-0` is not.  Any other is a floating-point number, made from as many
leading digits as fit into 64 bits: these digits, rounded, are multiplied or divided by the rounded
power of ten.  A numeral that is too large for the format is refused.
-/

namespace ModelFleet.Json.Numeral

/-- The largest unsigned integer of 64 bits. -/
def wordMax : Nat := 2 ^ 64 - 1

def digitValue (c : Char) : Nat := c.toNat - 48

/-- The parts of a numeral: its sign, the digits before and after the point, and the exponent. -/
structure Parts where
  negative : Bool
  whole : List Char
  fraction : List Char
  exponent : Option (Bool × List Char)

/-- Takes digits into a number while it fits into 64 bits; what is left starts at the first digit
that does not fit. -/
def absorb : Nat → List Char → Nat × List Char
  | n, [] => (n, [])
  | n, c :: rest =>
    let next := 10 * n + digitValue c
    if next ≤ wordMax then absorb next rest else (n, c :: rest)

/-- The digits of a number that count, and the power of ten to be applied to them. -/
def significant (whole fraction : List Char) : Nat × Int :=
  let (n, left) := absorb 0 whole
  let (m, unused) := absorb n fraction
  (m, (left.length : Int) - (fraction.length - unused.length : Nat))

def scale (digits : Nat) (exponent : Int) : Option Binary64 :=
  let start := Binary64.ofRatio false digits 1
  if digits = 0 then some start
  else if 0 ≤ exponent then
    if 308 < exponent then none
    else
      let x := start.mul (.powerOfTen exponent.toNat)
      if x.isFinite then some x else none
  else
    let rec shrink : Nat → Binary64 → Nat → Binary64
      | 0, x, _ => x
      | fuel + 1, x, down =>
        if x.isZero then x
        else if down ≤ 308 then x.div (.powerOfTen down)
        else shrink fuel (x.div (.powerOfTen 308)) (down - 308)
    some (shrink 4 start exponent.natAbs)

/-- The exponent that is written, or `none` if its size exceeds 32 bits. -/
def exponentValue (cs : List Char) : Option Nat :=
  let n := cs.foldl (fun n c => min (10 * n + digitValue c) (2 ^ 31)) 0
  if n < 2 ^ 31 then some n else none

/-- What is left of the digits of an exponent after the first one that makes it exceed 32 bits. -/
def afterOverflow : Nat → List Char → List Char
  | _, [] => []
  | n, c :: rest =>
    let next := 10 * n + digitValue c
    if 2 ^ 31 ≤ next then rest else afterOverflow next rest

/-- What had not been read of a numeral when it turned out to be too large. -/
def Parts.unread (p : Parts) : List Char :=
  match p.exponent with
  | some (_, cs) => afterOverflow 0 cs
  | none => []

def signed (negative : Bool) (x : Binary64) : Json := .real (if negative then x.neg else x)

def value (p : Parts) : Option Json :=
  let integer := absorb 0 p.whole
  match p.fraction, p.exponent, integer.2 with
  | [], none, [] =>
    if !p.negative then some (.int integer.1)
    else if integer.1 = 0 ∨ 2 ^ 63 < integer.1 then
      some (signed true (Binary64.ofRatio false integer.1 1))
    else some (.int (-(integer.1 : Int)))
  | fraction, exponent, _ =>
    let (digits, shift) := significant p.whole fraction
    match exponent with
    | none => (scale digits shift).map (signed p.negative)
    | some (down, cs) =>
      match exponentValue cs with
      | some e => (scale digits (if down then shift - e else shift + e)).map (signed p.negative)
      | none =>
        if digits ≠ 0 ∧ !down then none
        else some (signed p.negative (Binary64.ofRatio false 0 1))

end ModelFleet.Json.Numeral
