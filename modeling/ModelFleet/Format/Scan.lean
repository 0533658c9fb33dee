import ModelFleet.Json.Basic
import ModelFleet.Text.Hex

/-!
# Reading texts of several formats

A scanner takes the characters in front of it and gives back a value with what is left, or nothing
if there is no such value.  Here is what the formats of settings share: digits with underscores
between, escaped characters, and items between commas.  Loops have fuel for each character, which is
enough because each turn takes at least one.
-/

namespace ModelFleet.Format

/-- A scanner: the characters in front of it give a value and the rest, or none. -/
abbrev Scan (α : Type) := List Char → Option (α × List Char)

def afterWord? (word : String) (cs : List Char) : Option (List Char) :=
  if word.toList.isPrefixOf cs then some (cs.drop word.length) else none

/-- What is left behind the first occurrence of a word. -/
def behind? (word : String) : List Char → Option (List Char)
  | [] => if word.isEmpty then some [] else none
  | c :: cs => (afterWord? word (c :: cs)).or (behind? word cs)

/-- The value of a digit in a base up to sixteen. -/
def digit? (base : Nat) (c : Char) : Option Nat :=
  (Hex.ofChar? c).bind fun d => if d.val < base then some d.val else none

/-- Whether a character is a digit in a base up to sixteen. -/
def isDigitOf (base : Nat) (c : Char) : Bool := (digit? base c).isSome

/-- The number that digits write in a base; other characters do not count. -/
def valueOf (base : Nat) (digits : List Char) : Nat :=
  (digits.filterMap (digit? base)).foldl (fun n d => base * n + d) 0

/-- The character with a code that so many hexadecimal digits write, if there is one. -/
def codePoint (count : Nat) : Scan Char := fun cs =>
  let digits := cs.take count
  let n := valueOf 16 digits
  if digits.length = count ∧ digits.all (isDigitOf 16) ∧ n.isValidChar then
    some (Char.ofNat n, cs.drop count)
  else none

/-- Whether an integer fits into eight bytes with a sign. -/
def fits64 (n : Int) : Bool := -2 ^ 63 ≤ n && n < 2 ^ 63

/-- An integer that fits into eight bytes with a sign. -/
def int64? (n : Int) : Option Json := if fits64 n then some (.int n) else none

/-- Items between commas up to a closing bracket, behind items that have been read, last first.
There may be a comma behind the last item. -/
def items {α : Type} (skip : List Char → List Char) (item : Scan α) (close : Char) :
    Nat → List α → Scan (List α)
  | 0, _, _ => none
  | fuel + 1, found, cs =>
    match skip cs with
    | [] => none
    | c :: rest =>
      if c = close then some (found.reverse, rest)
      else do
        let (x, rest) ← item (c :: rest)
        match skip rest with
        | ',' :: rest => items skip item close fuel (x :: found) rest
        | c :: rest => if c = close then some ((x :: found).reverse, rest) else none
        | [] => none

/-- What stands between brackets, behind the opening one. -/
def bracketed {α : Type} (skip : List Char → List Char) (item : Scan α) (close : Char) :
    Scan (List α) := fun cs => items skip item close (cs.length + 1) [] cs

/-- The rest of a scan if nothing is left that counts. -/
def complete {α : Type} (skip : List Char → List Char) : Option (α × List Char) → Option α
  | some (value, rest) => if (skip rest).isEmpty then some value else none
  | none => none

end ModelFleet.Format
