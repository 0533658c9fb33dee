import ModelFleet.Text.Hex

/-!
# Universally unique identifiers

An identifier of 32 hexadecimal digits.  It is written in five groups of 8, 4, 4, 4 and 12 digits
with hyphens between them, and read in that form, without hyphens, in braces, or after `urn:uuid:`.
`parse_toString` says that the written form is read back.
-/

namespace ModelFleet

structure Uuid where
  digits : List (Fin 16)
  length_eq : digits.length = 32
  deriving DecidableEq

inductive UuidError
  | badCharacter (found : Char) (position : Nat)
  | badLength (length : Nat)
  | badGroupCount (count : Nat)
  | badGroupLength (group expected found : Nat)
  deriving DecidableEq

def UuidError.message : UuidError → String
  | .badCharacter c position => s!"invalid character: found \x60{c}\x60 at {position}"
  | .badLength length => s!"invalid length: found {length}"
  | .badGroupCount count => s!"invalid group count: expected 5, found {count}"
  | .badGroupLength group expected found =>
    s!"invalid group length in group {group}: expected {expected}, found {found}"

namespace Uuid

/-- The identifier whose digits write the number `n`. -/
def ofNat (n : Nat) : Uuid :=
  ⟨(List.range 32).map fun i => Hex.lastDigit (n / 16 ^ (31 - i)), by simp⟩

instance : Inhabited Uuid := ⟨ofNat 0⟩

/-- Digits in groups of 8, 4, 4, 4 and the rest, with hyphens between. -/
def hyphenate (cs : List Char) : List Char :=
  cs.take 8 ++ '-' :: ((cs.drop 8).take 4 ++ '-' :: ((cs.drop 12).take 4
    ++ '-' :: ((cs.drop 16).take 4 ++ '-' :: cs.drop 20)))

/-- The digits without the hyphens, if the hyphens stand in their four places. -/
def dehyphenate? (cs : List Char) : Option (List Char) :=
  if cs[8]? = some '-' ∧ cs[13]? = some '-' ∧ cs[18]? = some '-' ∧ cs[23]? = some '-' then
    some (cs.take 8 ++ (cs.drop 9).take 4 ++ (cs.drop 14).take 4 ++ (cs.drop 19).take 4
      ++ cs.drop 24)
  else none

def toString (u : Uuid) : String := String.ofList (hyphenate (u.digits.map Hex.toChar))

instance : ToString Uuid := ⟨toString⟩

/-- The identifier that thirty-two digits make. -/
def ofDigits? (cs : List Char) : Option Uuid :=
  match cs.mapM Hex.ofChar? with
  | some digits => if h : digits.length = 32 then some ⟨digits, h⟩ else none
  | none => none

/-- The text between a pair of braces or after `urn:uuid:` in any case, with the length of what was
dropped in front; nothing if the text stands bare. -/
def unwrap? (cs : List Char) : Option (List Char × Nat) :=
  match cs with
  | '\x7b' :: rest => if rest.getLast? = some '\x7d' then some (rest.dropLast, 1) else none
  | _ => if (cs.take 9).map Char.toLower = "urn:uuid:".toList then some (cs.drop 9, 9) else none

def ofChars? (cs : List Char) : Option Uuid :=
  if cs.length = 32 then ofDigits? cs
  else if cs.length = 36 then (dehyphenate? cs).bind ofDigits?
  else
    match unwrap? cs with
    | some (inner, _) => if inner.length = 36 then (dehyphenate? inner).bind ofDigits? else none
    | none => none

def groupLengths (cs : List Char) : List Nat :=
  (cs.foldr (fun c acc => match acc with
    | [] => []
    | n :: rest => if c = '-' then 0 :: n :: rest else (n + 1) :: rest) [0])

/-- The first group that is not as long as it should be; with none, the last one is blamed for the
length of all that follows the fourth hyphen of a well-formed text. -/
def groupFault (whole : Nat) (lengths : List Nat) : UuidError :=
  match ((lengths.take 4).zip [8, 4, 4, 4]).zipIdx.find? fun g => g.1.1 != g.1.2 with
  | some ((found, expected), group) => .badGroupLength group expected found
  | none => .badGroupLength 4 12 (whole - 24)

/-- What is wrong with the digits and hyphens of a text of which `offset` characters in front have
been dropped; `whole` is the length of the text before that. -/
def faultWithin (whole : Nat) (offset : Nat) (bare : Bool) (cs : List Char) : UuidError :=
  match cs.zipIdx.find? fun c => c.1 ≠ '-' ∧ Hex.ofChar? c.1 = none with
  | some (c, i) => .badCharacter c (i + offset)
  | none =>
    let lengths := groupLengths cs
    if lengths.length = 1 ∧ bare then .badLength whole
    else if lengths.length ≠ 5 then .badGroupCount lengths.length
    else groupFault whole lengths

/-- The length in bytes of the longest form. -/
def longest : Nat := 45

/-- Why a text in none of the four forms is refused.  A text as long as one of the bare forms is
taken for that form, and what a wrapped form of the right length holds is judged by itself. -/
def fault (cs : List Char) : UuidError :=
  let size := (String.ofList cs).utf8ByteSize
  if longest < size then .badLength size
  else if size = 32 ∨ size = 36 then faultWithin size 0 true cs
  else
    match unwrap? cs with
    | some (inner, offset) =>
      if (String.ofList inner).utf8ByteSize = 36 then faultWithin 36 0 true inner
      else faultWithin size offset false inner
    | none => faultWithin size 0 true cs

def parse (s : String) : Except UuidError Uuid :=
  match ofChars? s.toList with
  | some u => .ok u
  | none => .error (fault s.toList)

/-! ### The written form is read back -/

theorem ofDigits?_map_toChar (u : Uuid) : ofDigits? (u.digits.map Hex.toChar) = some u := by
  have h : ∀ l : List (Fin 16), (l.map Hex.toChar).mapM Hex.ofChar? = some l := by
    intro l
    induction l with
    | nil => rfl
    | cons d rest ih => simp [Hex.ofChar?_toChar, ih]
  simp [ofDigits?, h, u.length_eq]

theorem dehyphenate?_hyphenate {cs : List Char} (h : cs.length = 32) :
    dehyphenate? (hyphenate cs) = some cs := by
  have e : cs = cs.take 8 ++ ((cs.drop 8).take 4 ++ ((cs.drop 12).take 4
      ++ ((cs.drop 16).take 4 ++ cs.drop 20))) := by
    have step : ∀ (l : List Char) (n : Nat), l.drop n = (l.drop n).take 4 ++ l.drop (n + 4) :=
      fun l n => by rw [← List.drop_drop, List.take_append_drop]
    rw [← step cs 16, ← step cs 12, ← step cs 8, List.take_append_drop]
  generalize ha : cs.take 8 = a at e
  generalize hb : (cs.drop 8).take 4 = b at e
  generalize hc : (cs.drop 12).take 4 = c at e
  generalize hd : (cs.drop 16).take 4 = d at e
  generalize hf : cs.drop 20 = f at e
  have la : a.length = 8 := by rw [← ha]; simp; omega
  have lb : b.length = 4 := by rw [← hb]; simp; omega
  have lc : c.length = 4 := by rw [← hc]; simp; omega
  have ld : d.length = 4 := by rw [← hd]; simp; omega
  have hy : hyphenate cs = a ++ '-' :: (b ++ '-' :: (c ++ '-' :: (d ++ '-' :: f))) := by
    rw [hyphenate, ha, hb, hc, hd, hf]
  rw [hy, e]
  simp [dehyphenate?, List.getElem?_append, List.drop_append, la, lb, lc, ld,
    List.drop_eq_nil_of_le]

theorem length_hyphenate {cs : List Char} (h : cs.length = 32) :
    (hyphenate cs).length = 36 := by
  simp [hyphenate]; omega

theorem ofChars?_hyphenate (u : Uuid) :
    ofChars? (hyphenate (u.digits.map Hex.toChar)) = some u := by
  have h : (u.digits.map Hex.toChar).length = 32 := by simp [u.length_eq]
  simp [ofChars?, length_hyphenate h, dehyphenate?_hyphenate h, ofDigits?_map_toChar]

@[simp] theorem parse_toString (u : Uuid) : parse u.toString = .ok u := by
  simp [parse, toString, ofChars?_hyphenate]

end Uuid

end ModelFleet
