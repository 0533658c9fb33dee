import ModelFleet.Number.Power

/-!
# Paths to settings

A key may be a path: a name, then names after points and places in brackets.  A place below zero
counts from the end of a list.  A key that does not follow this grammar is a name as a whole.
-/

namespace ModelFleet.Config

/-- One step of a path. -/
inductive Step
  | member (name : String)
  | place (i : Int)
  deriving DecidableEq

/-- A path: the name of a member of the outermost table, and the steps from there. -/
structure Path where
  first : String
  rest : List Step
  deriving DecidableEq

namespace Path

def isNameChar (c : Char) : Bool := c.isAlphanum || c == '_' || c == '-' || c == ' '

/-- The blanks that may stand around a place. -/
def isGap (c : Char) : Bool := c == ' ' || c == '\t'

/-- The place that the characters between brackets say. -/
def place? (cs : List Char) : Option Int :=
  let cs := ((cs.dropWhile isGap).reverse.dropWhile isGap).reverse
  let (negative, digits) := match cs with
    | '-' :: digits => (true, digits)
    | digits => (false, digits)
  if digits.isEmpty || !digits.all Char.isDigit then none
  else
    let n : Nat := digits.foldl (fun n c => 10 * n + (c.toNat - 48)) 0
    if negative then (if n ≤ 2 ^ 63 then some (-n) else none)
    else if n < 2 ^ 63 then some n else none

/-- Reads steps, with enough fuel for each character. -/
def steps? : Nat → List Char → Option (List Step)
  | _, [] => some []
  | fuel + 1, '.' :: cs =>
    let name := cs.takeWhile isNameChar
    if name.isEmpty then none
    else (steps? fuel (cs.dropWhile isNameChar)).map (.member (String.ofList name) :: ·)
  | fuel + 1, '[' :: cs => do
    let i ← place? (cs.takeWhile (· ≠ ']'))
    match cs.dropWhile (· ≠ ']') with
    | _ :: rest => (steps? fuel rest).map (.place i :: ·)
    | [] => none
  | _, _ => none

def ofKey (key : String) : Path :=
  let cs := key.toList
  let name := cs.takeWhile isNameChar
  match steps? cs.length (cs.dropWhile isNameChar) with
  | some rest => if name.isEmpty then ⟨key, []⟩ else ⟨String.ofList name, rest⟩
  | none => ⟨key, []⟩

end Path

end ModelFleet.Config
