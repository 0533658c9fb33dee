import ModelFleet.Number.Binary64

/-!
# Similarity of words

The similarity of Jaro: how many letters two words share at nearly the same places, and how many of
these stand in the same order.  It is the mean of three quotients in binary floating point, so that
words that stand just at the limit are told apart by the rounding.
-/

namespace ModelFleet.Similarity

/-- The place of the first unused letter of a word that equals a letter and lies in a range. -/
def findPlace (c : Char) (lo hi : Nat) (used : List Nat) (word : List Char) : Option Nat :=
  (word.zipIdx.find? fun (d, j) => lo ≤ j && j < hi && d == c && !used.contains j).map (·.2)

/-- The places of the letters that two words share, in the first word and in the second. -/
def places (a b : List Char) : List (Nat × Nat) :=
  let reach := max a.length b.length / 2 - 1
  a.zipIdx.foldl (fun found (c, i) =>
    match findPlace c (i - reach) (i + reach + 1) (found.map (·.2)) b with
    | some j => found ++ [(i, j)]
    | none => found) []

/-- How many shared letters stand in another order, counted by pairs. -/
def transpositions (a b : List Char) (found : List (Nat × Nat)) : Nat :=
  let left := found.filterMap fun (i, _) => a[i]?
  let right := (found.map (·.2)).mergeSort.filterMap fun j => b[j]?
  ((left.zip right).filter fun (c, d) => c ≠ d).length / 2

/-- The similarity of two words, from nothing to one. -/
def ratio (a b : List Char) : Binary64 :=
  let found := places a b
  let m := found.length
  if m = 0 then Binary64.ofInt (if a.isEmpty && b.isEmpty then 1 else 0)
  else
    let shared := (Binary64.ofRatio false m a.length).add (Binary64.ofRatio false m b.length)
    (shared.add (Binary64.ofRatio false (m - transpositions a b found) m)).div (Binary64.ofInt 3)

/-- Words less similar than this are not confused. -/
def limit : Binary64 := Binary64.ofRatio false 7 10

/-- The most similar of several words, the last of equally similar ones. -/
def closest (word : String) (words : List String) : Option String :=
  let scored := (words.map fun w => (w, ratio word.toList w.toList)).filter (limit.less ·.2)
  (scored.foldl (fun best entry =>
    match best with
    | none => some entry
    | some (w, r) => if entry.2.less r then some (w, r) else some entry)
    none).map (·.1)

end ModelFleet.Similarity
