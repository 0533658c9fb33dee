import Mathlib.Data.List.TakeWhile
import ModelFleet.Number.Integer
import ModelFleet.Number.Reader
import ModelFleet.Proofs.Json.Inversion
import ModelFleet.Proofs.Json.Spelling

/-!
# Numerals

Which texts are numbers, and of which numbers.  An integer of sixty-four bits is read from decimal
digits with an optional sign (`Integer.read64_eq_ok_iff`), and of its numerals one is the text that
is written for it: the one without a plus and without zeros in front
(`Integer.toString_eq_iff_of_spells`).  A floating-point number is read from digits with an optional
sign, point and exponent, or from a name (`Binary64.read?_eq_some_iff`).
-/

namespace ModelFleet

/-! ### Digits -/

/-- Some decimal digits, at least one. -/
def Digits (digits : List Char) : Prop := digits ≠ [] ∧ ∀ c ∈ digits, c.isDigit = true

/-- The number that decimal digits make. -/
def decimal (digits : List Char) : Nat := Nat.ofDigitChars 10 digits 0

theorem decimal_append_singleton (digits : List Char) (c : Char) :
    decimal (digits ++ [c]) = 10 * decimal digits + (c.toNat - '0'.toNat) := by
  rw [decimal, Nat.ofDigitChars_append, Nat.ofDigitChars_cons, Nat.ofDigitChars_nil]
  rfl

theorem digitChar_of_isDigit {c : Char} (h : c.isDigit = true) :
    c.toNat - '0'.toNat < 10 ∧ (c.toNat - '0'.toNat).digitChar = c := by
  have hall : ∀ d < 10, Nat.digitChar d = Char.ofNat ('0'.toNat + d) := by decide
  obtain ⟨hmin, hmax⟩ := Char.isDigit_iff_toNat.1 h
  have hlt : c.toNat - '0'.toNat < 10 := by
    have hnine : '9'.toNat = '0'.toNat + 9 := rfl
    omega
  refine ⟨hlt, ?_⟩
  rw [hall _ hlt, Nat.add_sub_cancel' hmin, Char.ofNat_toNat]

theorem decimal_pos {c : Char} {rest : List Char} (hd : c.isDigit = true) (hz : c ≠ '0') :
    0 < decimal (c :: rest) := by
  have hc : 0 < c.toNat - '0'.toNat := by
    refine Nat.pos_of_ne_zero fun h => hz ?_
    rw [← (digitChar_of_isDigit hd).2, h]
    rfl
  rw [decimal, Nat.ofDigitChars_cons, Nat.ofDigitChars_eq_ofDigitChars_zero]
  exact Nat.add_pos_left (Nat.mul_pos (Nat.pow_pos (by decide)) (by omega)) _

/-- Digits without zeros in front are the digits of the number that they make. -/
theorem toDigits_decimal {digits : List Char} (hd : Digits digits)
    (hz : digits.head? = some '0' → digits = ['0']) :
    Nat.toDigits 10 (decimal digits) = digits := by
  obtain ⟨hne, hd⟩ := hd
  induction digits using List.reverseRecOn with
  | nil => exact absurd rfl hne
  | append_singleton digits last ih =>
    rw [List.forall_mem_append] at hd
    obtain ⟨hlt, hchar⟩ := digitChar_of_isDigit (hd.2 last (List.mem_singleton_self _))
    rw [decimal_append_singleton]
    cases digits with
    | nil =>
      show Nat.toDigits 10 (0 + (last.toNat - '0'.toNat)) = _
      rw [Nat.zero_add, Nat.toDigits_of_lt_base hlt, hchar, List.nil_append]
    | cons c rest =>
      have hc : c ≠ '0' := by
        rintro rfl
        have hlength := congrArg List.length (hz rfl)
        simp at hlength
      have hpos : 0 < decimal (c :: rest) := decimal_pos (hd.1 c List.mem_cons_self) hc
      rw [← Nat.toDigits_append_toDigits (by decide) hpos hlt, Nat.toDigits_of_lt_base hlt, hchar,
        ih (fun h => absurd (Option.some.inj h) hc) nofun hd.1]

namespace Integer

/-- The integers of sixty-four bits that texts spell. -/
inductive Spells : List Char → Int → Prop
  | bare {digits : List Char} (hd : Digits digits) (hn : decimal digits < 2 ^ 63) :
      Spells digits (decimal digits)
  | plus {digits : List Char} (hd : Digits digits) (hn : decimal digits < 2 ^ 63) :
      Spells ('+' :: digits) (decimal digits)
  | minus {digits : List Char} (hd : Digits digits) (hn : decimal digits ≤ 2 ^ 63) :
      Spells ('-' :: digits) (-decimal digits)

theorem isDigit_iff_le {c : Char} : c.isDigit = true ↔ '0' ≤ c ∧ c ≤ '9' := by
  simp [Char.isDigit, Char.le_def]

theorem le_ofDigitChars (digits : List Char) (value : Nat) :
    value ≤ Nat.ofDigitChars 10 digits value := by
  rw [Nat.ofDigitChars_eq_ofDigitChars_zero]
  exact Nat.le_add_right_of_le (Nat.le_mul_of_pos_left _ (Nat.pow_pos (by decide)))

theorem readDigits_eq_ok_iff {limit value n : Nat} {digits : List Char} (hv : value < limit) :
    readDigits limit value digits = .ok n ↔
      (∀ c ∈ digits, c.isDigit = true) ∧ Nat.ofDigitChars 10 digits value < limit ∧
        Nat.ofDigitChars 10 digits value = n := by
  induction digits generalizing value with
  | nil =>
    rw [Nat.ofDigitChars_nil]
    exact ⟨fun h => ⟨nofun, hv, Except.ok.inj h⟩, fun h => congrArg Except.ok h.2.2⟩
  | cons c rest ih =>
    rw [readDigits, Nat.ofDigitChars_cons, List.forall_mem_cons, isDigit_iff_le]
    have hnext : value * 10 + (c.toNat - 48) = 10 * value + (c.toNat - '0'.toNat) := by
      rw [Nat.mul_comm]
      rfl
    split
    · next hdigit =>
      dsimp only
      rw [hnext]
      split
      · next hlarge =>
        have hle := le_ofDigitChars rest (10 * value + (c.toNat - '0'.toNat))
        refine ⟨nofun, fun ⟨_, hlt, _⟩ => ?_⟩
        omega
      · next hsmall =>
        rw [ih (by omega)]
        simp only [hdigit, true_and, and_self]
    · next hdigit => exact ⟨nofun, fun h => absurd h.1.1 hdigit⟩

theorem readSome_eq_ok_iff {limit n : Nat} {digits : List Char} (hl : 0 < limit) :
    readSome limit digits = .ok n ↔
      Digits digits ∧ decimal digits < limit ∧ decimal digits = n := by
  cases digits with
  | nil => exact ⟨nofun, fun h => absurd rfl h.1.1⟩
  | cons c rest =>
    rw [readSome, readDigits_eq_ok_iff hl, Digits, decimal]
    · simp
    · nofun

theorem readNatural_eq_ok_iff {limit n : Nat} {s : String} (hl : 0 < limit) :
    readNatural limit s = .ok n ↔ ∃ digits, (s.toList = digits ∨ s.toList = '+' :: digits) ∧
      Digits digits ∧ decimal digits < limit ∧ decimal digits = n := by
  rw [readNatural]
  split
  · next h =>
    rw [h]
    refine ⟨nofun, ?_⟩
    rintro ⟨digits, rfl | h, hd, -⟩
    · exact absurd rfl hd.1
    · cases h
  · next digits h =>
    rw [readSome_eq_ok_iff hl, h]
    constructor
    · intro hd
      exact ⟨digits, .inr rfl, hd⟩
    · rintro ⟨_, rfl | h, hd⟩
      · cases hd.1.2 '+' List.mem_cons_self
      · cases h
        exact hd
  · next hplus =>
    rw [readSome_eq_ok_iff hl]
    constructor
    · intro hd
      exact ⟨_, .inl rfl, hd⟩
    · rintro ⟨digits, rfl | h, hd⟩
      · exact hd
      · exact absurd h (hplus digits)

/-- **Which texts are integers**: those that are spelled by digits and a sign. -/
theorem read64_eq_ok_iff {s : String} {n : Int} : read64 s = .ok n ↔ Spells s.toList n := by
  rw [read64]
  split
  · next digits hs =>
    rw [hs]
    constructor
    · intro h
      obtain ⟨_, hcast, rfl⟩ := Except.map_eq_ok_iff.1 h
      obtain ⟨n, hread, ⟨⟩⟩ := Except.exists_of_bind hcast
      obtain ⟨hd, hlt, rfl⟩ := (readSome_eq_ok_iff (by decide)).1 hread
      exact .minus hd (Nat.le_of_lt_succ hlt)
    · rintro (⟨hd, -⟩ | - | ⟨hd, hle⟩)
      · cases hd.2 '-' List.mem_cons_self
      · rw [(readSome_eq_ok_iff (by decide)).2 ⟨hd, Nat.lt_succ_of_le hle, rfl⟩]
        rfl
  · next hminus =>
    constructor
    · intro h
      obtain ⟨_, hcast, rfl⟩ := Except.map_eq_ok_iff.1 h
      obtain ⟨n, hread, ⟨⟩⟩ := Except.exists_of_bind hcast
      obtain ⟨digits, hs | hs, hd, hlt, rfl⟩ := (readNatural_eq_ok_iff (by decide)).1 hread
      · rw [hs]
        exact .bare hd hlt
      · rw [hs]
        exact .plus hd hlt
    · intro h
      generalize hs : s.toList = cs at h
      cases h with
      | bare hd hn =>
        rw [(readNatural_eq_ok_iff (by decide)).2 ⟨_, .inl hs, hd, hn, rfl⟩]
        rfl
      | plus hd hn =>
        rw [(readNatural_eq_ok_iff (by decide)).2 ⟨_, .inr hs, hd, hn, rfl⟩]
        rfl
      | minus => exact absurd hs (hminus _)

/-- A plus in front, or a zero with which no number begins. -/
def Redundant : List Char → Prop
  | '+' :: _ => True
  | '-' :: '0' :: _ => True
  | '0' :: _ :: _ => True
  | _ => False

theorem redundant_iff_of_digits {digits : List Char} (hd : Digits digits) :
    Redundant digits ↔ digits.head? = some '0' ∧ digits ≠ ['0'] := by
  unfold Redundant
  split
  · cases hd.2 '+' List.mem_cons_self
  · cases hd.2 '-' List.mem_cons_self
  · simp
  · next hzero =>
    refine iff_of_false not_false ?_
    rintro ⟨hhead, hne⟩
    match digits with
    | [c] => exact hne (congrArg (· :: []) (Option.some.inj hhead))
    | c :: d :: rest =>
      obtain rfl : c = '0' := Option.some.inj hhead
      exact hzero d rest rfl

theorem toDigits_decimal_iff {digits : List Char} (hd : Digits digits) :
    Nat.toDigits 10 (decimal digits) = digits ↔ ¬ Redundant digits := by
  rw [redundant_iff_of_digits hd]
  constructor
  · rintro h ⟨hz, hne⟩
    rcases Nat.eq_zero_or_pos (decimal digits) with h0 | hpos
    · rw [h0] at h
      exact hne h.symm
    · exact Json.head?_toDigits_ne hpos (h.symm ▸ hz)
  · intro h
    exact toDigits_decimal hd fun hz => Classical.byContradiction fun hne => h ⟨hz, hne⟩

/-- **An integer is written as the text that it was read from**, if this text has nothing redundant
in front. -/
theorem toString_eq_iff_of_spells {s : String} {n : Int} (h : Spells s.toList n) :
    toString n = s ↔ ¬ Redundant s.toList := by
  rw [← String.toList_inj, Json.toList_toString_int]
  generalize s.toList = cs at h
  cases h with
  | bare hd hn =>
    rw [if_pos (Int.natCast_nonneg _), Int.toNat_natCast]
    exact toDigits_decimal_iff hd
  | @plus digits hd hn =>
    rw [if_pos (Int.natCast_nonneg _), Int.toNat_natCast]
    refine iff_of_false (fun h => ?_) fun h => h trivial
    have hplus := Nat.isDigit_of_mem_toDigits (b := 10) (n := decimal digits) (c := '+') (by decide)
      (by decide) (h ▸ List.mem_cons_self)
    cases hplus
  | @minus digits hd hn =>
    have hredundant : Redundant ('-' :: digits) ↔ digits.head? = some '0' := by
      match digits with
      | [] => exact ⟨nofun, nofun⟩
      | '0' :: _ => simp [Redundant]
      | c :: _ =>
        unfold Redundant
        split <;> simp_all
    rw [hredundant]
    rcases Nat.eq_zero_or_pos (decimal digits) with h0 | hpos
    · rw [h0]
      refine iff_of_false nofun fun hz => ?_
      match digits, hd with
      | c :: rest, hd =>
        have hc : c ≠ '0' := fun h => hz (congrArg some h)
        exact absurd h0 (Nat.pos_iff_ne_zero.1 (decimal_pos (hd.2 c List.mem_cons_self) hc))
    · rw [if_neg (by omega), Int.neg_neg, Int.toNat_natCast, List.cons.injEq, eq_self, true_and]
      constructor
      · intro h
        exact h ▸ Json.head?_toDigits_ne hpos
      · intro h
        exact toDigits_decimal hd fun hz => absurd hz h

end Integer

namespace Binary64

/-! ### Floating-point numbers -/

/-- The exponents that texts spell. -/
inductive ExponentSpells : List Char → Int → Prop
  | none : ExponentSpells [] 0
  | bare {c : Char} {digits : List Char} (hc : c = 'e' ∨ c = 'E') (hd : Digits digits) :
      ExponentSpells (c :: digits) (decimal digits)
  | plus {c : Char} {digits : List Char} (hc : c = 'e' ∨ c = 'E') (hd : Digits digits) :
      ExponentSpells (c :: '+' :: digits) (decimal digits)
  | minus {c : Char} {digits : List Char} (hc : c = 'e' ∨ c = 'E') (hd : Digits digits) :
      ExponentSpells (c :: '-' :: digits) (-decimal digits)

/-- Characters without regard to case. -/
def folded (cs : List Char) : String := String.ofList (cs.map Char.toLower)

/-- The numbers that texts without a sign spell, given the sign. -/
inductive MagnitudeSpells (negative : Bool) : List Char → Binary64 → Prop
  | infinity {cs : List Char} (h : folded cs = "inf" ∨ folded cs = "infinity") :
      MagnitudeSpells negative cs (infinity negative)
  | nan {cs : List Char} (h : folded cs = "nan") : MagnitudeSpells negative cs nan
  | whole {digits tail : List Char} {e : Int} (hd : Digits digits) (he : ExponentSpells tail e) :
      MagnitudeSpells negative (digits ++ tail) (ofDecimal negative (decimal digits) e)
  | pointed {digits fraction tail : List Char} {e : Int} (hd : Digits (digits ++ fraction))
      (he : ExponentSpells tail e) :
      MagnitudeSpells negative (digits ++ '.' :: (fraction ++ tail))
        (ofDecimal negative (decimal (digits ++ fraction)) (e - fraction.length))

/-- The floating-point numbers that texts spell. -/
inductive Spells : List Char → Binary64 → Prop
  | bare {cs : List Char} {x : Binary64} (h : MagnitudeSpells false cs x) : Spells cs x
  | plus {cs : List Char} {x : Binary64} (h : MagnitudeSpells false cs x) : Spells ('+' :: cs) x
  | minus {cs : List Char} {x : Binary64} (h : MagnitudeSpells true cs x) : Spells ('-' :: cs) x

theorem digitsValue_eq (digits : List Char) : digitsValue digits = decimal digits := by
  rw [digitsValue, decimal, Nat.ofDigitChars_eq_foldl]
  congr 1
  funext n c
  rw [Nat.mul_comm]
  rfl

theorem isDigit_eq : isDigit = Char.isDigit := by
  funext c
  rw [Bool.eq_iff_iff, Integer.isDigit_iff_le]
  simp [isDigit]

theorem digits_iff {digits : List Char} :
    (digits.isEmpty || !digits.all isDigit) = false ↔ Digits digits := by
  rw [isDigit_eq, Digits]
  simp

theorem readExponent?_eq_some_iff {cs : List Char} {e : Int} :
    readExponent? cs = some e ↔ ExponentSpells cs e := by
  cases cs with
  | nil =>
    constructor
    · rintro ⟨⟩
      exact .none
    · rintro ⟨⟩
      rfl
  | cons c rest =>
    rw [readExponent?.eq_def]
    dsimp only
    split
    · next hc =>
      have hread : ∀ (digits : List Char) (n : Int),
          (if digits.isEmpty || !digits.all isDigit then none else some n) = some e ↔
            Digits digits ∧ n = e := by
        intro digits n
        rw [← digits_iff]
        cases digits.isEmpty || !digits.all isDigit <;> simp
      split
      · dsimp only
        rw [hread, digitsValue_eq]
        constructor
        · rintro ⟨hd, rfl⟩
          exact .minus hc hd
        · rintro (- | ⟨-, hd⟩ | - | ⟨-, hd⟩)
          · cases hd.2 '-' List.mem_cons_self
          · exact ⟨hd, rfl⟩
      · dsimp only
        rw [hread, digitsValue_eq]
        constructor
        · rintro ⟨hd, rfl⟩
          exact .plus hc hd
        · rintro (- | ⟨-, hd⟩ | ⟨-, hd⟩ | -)
          · cases hd.2 '+' List.mem_cons_self
          · exact ⟨hd, rfl⟩
      · next hminus hplus =>
        dsimp only
        rw [hread, digitsValue_eq]
        constructor
        · rintro ⟨hd, rfl⟩
          exact .bare hc hd
        · intro h
          cases h with
          | bare _ hd => exact ⟨hd, rfl⟩
          | plus _ _ => exact absurd rfl (hplus _)
          | minus _ _ => exact absurd rfl (hminus _)
    · next hc =>
      refine ⟨nofun, fun h => ?_⟩
      cases h <;> exact absurd ‹_› hc

/-- No exponent begins with a digit or a point. -/
theorem ExponentSpells.ends {tail : List Char} {e : Int} (h : ExponentSpells tail e) :
    tail.takeWhile Char.isDigit = [] ∧ tail.dropWhile Char.isDigit = tail ∧
      ∀ rest, tail ≠ '.' :: rest := by
  cases h with
  | none => exact ⟨rfl, rfl, nofun⟩
  | bare hc | plus hc | minus hc => rcases hc with rfl | rfl <;> exact ⟨rfl, rfl, nofun⟩

/-- The digits in front of what is no digit. -/
theorem span_digits {digits rest : List Char} (hd : ∀ c ∈ digits, c.isDigit = true)
    (hr : rest.takeWhile Char.isDigit = [] ∧ rest.dropWhile Char.isDigit = rest) :
    (digits ++ rest).takeWhile Char.isDigit = digits ∧
      (digits ++ rest).dropWhile Char.isDigit = rest := by
  rw [List.takeWhile_append_of_pos hd, List.dropWhile_append_of_pos hd, hr.1, hr.2,
    List.append_nil]
  exact ⟨rfl, rfl⟩

theorem toLower_ne_of_isDigit {c : Char} (h : c.isDigit = true) :
    c.toLower ≠ 'i' ∧ c.toLower ≠ 'n' := by
  have hall : ∀ d < 10, (Nat.digitChar d).toLower ≠ 'i' ∧ (Nat.digitChar d).toLower ≠ 'n' := by
    decide
  obtain ⟨hlt, hchar⟩ := digitChar_of_isDigit h
  exact hchar ▸ hall _ hlt

/-- Whether a text is the name of a number, in any case. -/
def Named (cs : List Char) : Prop :=
  folded cs = "inf" ∨ folded cs = "infinity" ∨ folded cs = "nan"

/-- The names of numbers begin with two letters only. -/
theorem not_named_cons {c : Char} (hc : c.toLower ≠ 'i' ∧ c.toLower ≠ 'n') (rest : List Char) :
    ¬ Named (c :: rest) := by
  have hhead : ∀ name, folded (c :: rest) = name → name.toList.head? = some c.toLower := by
    rintro _ rfl
    rw [folded, String.toList_ofList]
    rfl
  rintro (h | h | h)
  · exact hc.1 (Option.some.inj (hhead _ h)).symm
  · exact hc.1 (Option.some.inj (hhead _ h)).symm
  · exact hc.2 (Option.some.inj (hhead _ h)).symm

theorem not_named_of_digits {digits : List Char} (hd : ∀ c ∈ digits, c.isDigit = true)
    {tail : List Char} (ht : digits = [] → ¬ Named tail) : ¬ Named (digits ++ tail) := by
  match digits with
  | [] => exact ht rfl
  | c :: rest => exact not_named_cons (toLower_ne_of_isDigit (hd c List.mem_cons_self)) _

/-- What is read when the digits in front and behind the point are known. -/
theorem finish_eq_some_iff {negative : Bool} {whole fraction tail : List Char} {x : Binary64} :
    (if whole.isEmpty && fraction.isEmpty then none
      else (readExponent? tail).map fun e =>
        ofDecimal negative (digitsValue (whole ++ fraction)) (e - fraction.length)) = some x ↔
      whole ++ fraction ≠ [] ∧ ∃ e, ExponentSpells tail e ∧
        ofDecimal negative (decimal (whole ++ fraction)) (e - fraction.length) = x := by
  simp only [← readExponent?_eq_some_iff, ← digitsValue_eq]
  cases whole <;> cases fraction <;> simp

/-- What follows the first digits is cut behind its point, if it begins with one: into the digits of
the fraction, and the rest. -/
inductive Cut : List Char → List Char → List Char → Prop
  | point (after : List Char) :
      Cut ('.' :: after) (after.takeWhile Char.isDigit) (after.dropWhile Char.isDigit)
  | none {rest : List Char} (h : ∀ after, rest ≠ '.' :: after) : Cut rest [] rest

theorem exists_cut (rest : List Char) : ∃ fraction tail, Cut rest fraction tail := by
  by_cases h : ∃ after, rest = '.' :: after
  · obtain ⟨after, rfl⟩ := h
    exact ⟨_, _, .point after⟩
  · exact ⟨_, _, .none (not_exists.1 h)⟩

/-- What is read in a text that is no name. -/
theorem readMagnitude?_of_not_named {negative : Bool} {cs fraction tail : List Char} {x : Binary64}
    (hname : ¬ Named cs) (hcut : Cut (cs.dropWhile Char.isDigit) fraction tail) :
    readMagnitude? negative cs = some x ↔ cs.takeWhile Char.isDigit ++ fraction ≠ [] ∧
      ∃ e, ExponentSpells tail e ∧ ofDecimal negative
        (decimal (cs.takeWhile Char.isDigit ++ fraction)) (e - fraction.length) = x := by
  rw [readMagnitude?, isDigit_eq]
  split
  · next h => exact absurd (.inl h) hname
  · next h => exact absurd (.inr (.inl h)) hname
  · next h => exact absurd (.inr (.inr h)) hname
  · generalize cs.dropWhile Char.isDigit = rest at hcut
    cases hcut with
    | point after => exact finish_eq_some_iff
    | none hpoint =>
      dsimp only
      split
      · exact absurd rfl (hpoint _)
      · exact finish_eq_some_iff

theorem readMagnitude?_of_infinity {cs : List Char} (h : folded cs = "inf" ∨ folded cs = "infinity")
    (negative : Bool) : readMagnitude? negative cs = some (infinity negative) := by
  rcases h with h | h <;> rw [folded] at h <;> simp only [readMagnitude?, h]

theorem readMagnitude?_of_nan {cs : List Char} (h : folded cs = "nan") (negative : Bool) :
    readMagnitude? negative cs = some nan := by
  rw [folded] at h
  simp only [readMagnitude?, h]

/-- Digits that are cut spell a number. -/
theorem Cut.spells {rest fraction tail whole : List Char} {e : Int} (h : Cut rest fraction tail)
    (hw : ∀ c ∈ whole, c.isDigit = true) (hne : whole ++ fraction ≠ [])
    (he : ExponentSpells tail e) (negative : Bool) : MagnitudeSpells negative (whole ++ rest)
      (ofDecimal negative (decimal (whole ++ fraction)) (e - fraction.length)) := by
  cases h with
  | point after =>
    have hf : ∀ c ∈ after.takeWhile Char.isDigit, c.isDigit = true :=
      fun c hc => List.mem_takeWhile_imp hc
    have hspells := @MagnitudeSpells.pointed negative _ _ _ _
      ⟨hne, List.forall_mem_append.2 ⟨hw, hf⟩⟩ he
    rwa [List.takeWhile_append_dropWhile] at hspells
  | none =>
    simp only [List.append_nil, List.length_nil, Int.natCast_zero, Int.sub_zero] at hne ⊢
    exact .whole ⟨hne, hw⟩ he

theorem magnitudeSpells_of_readMagnitude? {negative : Bool} {cs : List Char} {x : Binary64}
    (h : readMagnitude? negative cs = some x) : MagnitudeSpells negative cs x := by
  by_cases hinfinity : folded cs = "inf" ∨ folded cs = "infinity"
  · rw [readMagnitude?_of_infinity hinfinity] at h
    cases h
    exact .infinity hinfinity
  by_cases hnan : folded cs = "nan"
  · rw [readMagnitude?_of_nan hnan] at h
    cases h
    exact .nan hnan
  have hname : ¬ Named cs := fun hname => (or_assoc.2 hname).elim hinfinity hnan
  obtain ⟨fraction, tail, hcut⟩ := exists_cut (cs.dropWhile Char.isDigit)
  obtain ⟨hne, e, he, rfl⟩ := (readMagnitude?_of_not_named hname hcut).1 h
  have hspells := hcut.spells (fun c hc => List.mem_takeWhile_imp hc) hne he negative
  rwa [List.takeWhile_append_dropWhile] at hspells

theorem readMagnitude?_of_spells {negative : Bool} {cs : List Char} {x : Binary64}
    (h : MagnitudeSpells negative cs x) : readMagnitude? negative cs = some x := by
  cases h with
  | infinity h => exact readMagnitude?_of_infinity h negative
  | nan h => exact readMagnitude?_of_nan h negative
  | @whole digits tail e hd he =>
    obtain ⟨htake, hdrop, hpoint⟩ := he.ends
    obtain ⟨hwhole, hrest⟩ := span_digits hd.2 ⟨htake, hdrop⟩
    have hname : ¬ Named (digits ++ tail) :=
      not_named_of_digits hd.2 fun hnil => absurd hnil hd.1
    have hcut : Cut ((digits ++ tail).dropWhile Char.isDigit) [] tail := by
      rw [hrest]
      exact .none hpoint
    refine (readMagnitude?_of_not_named hname hcut).2 ?_
    rw [hwhole, List.append_nil]
    exact ⟨hd.1, e, he, by simp⟩
  | @pointed digits fraction tail e hd he =>
    obtain ⟨htake, hdrop, -⟩ := he.ends
    obtain ⟨hdigits, hfraction⟩ := List.forall_mem_append.1 hd.2
    obtain ⟨hwhole, hrest⟩ :=
      @span_digits digits ('.' :: (fraction ++ tail)) hdigits ⟨rfl, rfl⟩
    obtain ⟨hafter, htail⟩ := span_digits hfraction ⟨htake, hdrop⟩
    have hname : ¬ Named (digits ++ '.' :: (fraction ++ tail)) :=
      not_named_of_digits hdigits fun _ => not_named_cons (by decide) _
    have hcut : Cut ((digits ++ '.' :: (fraction ++ tail)).dropWhile Char.isDigit) fraction
        tail := by
      have hpoint := Cut.point (fraction ++ tail)
      rwa [hafter, htail, ← hrest] at hpoint
    refine (readMagnitude?_of_not_named hname hcut).2 ?_
    rw [hwhole]
    exact ⟨hd.1, e, he, rfl⟩

theorem readMagnitude?_eq_some_iff {negative : Bool} {cs : List Char} {x : Binary64} :
    readMagnitude? negative cs = some x ↔ MagnitudeSpells negative cs x :=
  ⟨magnitudeSpells_of_readMagnitude?, readMagnitude?_of_spells⟩

/-- No number without a sign begins with one. -/
theorem not_magnitudeSpells_of_sign {negative : Bool} {c : Char} {cs : List Char} {x : Binary64}
    (hc : c = '-' ∨ c = '+') : ¬ MagnitudeSpells negative (c :: cs) x := by
  have hdigit : c.isDigit = false ∧ c ≠ '.' ∧ c.toLower ≠ 'i' ∧ c.toLower ≠ 'n' := by
    rcases hc with rfl | rfl <;> decide
  have hname := not_named_cons hdigit.2.2 cs
  intro h
  generalize hcs : c :: cs = text at h
  cases h with
  | infinity h =>
    subst hcs
    exact hname (h.imp_right .inl)
  | nan h =>
    subst hcs
    exact hname (.inr (.inr h))
  | @whole digits tail e hd he =>
    match digits, hd with
    | d :: rest, hd =>
      obtain rfl := (List.cons.inj hcs).1
      exact Bool.false_ne_true (hdigit.1.symm.trans (hd.2 c List.mem_cons_self))
  | @pointed digits fraction tail e hd he =>
    match digits, hd with
    | [], _ => exact hdigit.2.1 (List.cons.inj hcs).1
    | d :: rest, hd =>
      obtain rfl := (List.cons.inj hcs).1
      exact Bool.false_ne_true (hdigit.1.symm.trans (hd.2 c List.mem_cons_self))

/-- **Which texts are floating-point numbers.** -/
theorem read?_eq_some_iff {s : String} {x : Binary64} : read? s = some x ↔ Spells s.toList x := by
  rw [read?]
  split
  · next cs hs =>
    rw [hs, readMagnitude?_eq_some_iff]
    refine ⟨.minus, fun h => ?_⟩
    cases h with
    | bare h => exact absurd h (not_magnitudeSpells_of_sign (.inl rfl))
    | minus h => exact h
  · next cs hs =>
    rw [hs, readMagnitude?_eq_some_iff]
    refine ⟨.plus, fun h => ?_⟩
    cases h with
    | bare h => exact absurd h (not_magnitudeSpells_of_sign (.inr rfl))
    | plus h => exact h
  · next hminus hplus =>
    rw [readMagnitude?_eq_some_iff]
    refine ⟨.bare, fun h => ?_⟩
    generalize hs : s.toList = cs at h
    cases h with
    | bare h => exact h
    | plus => exact absurd hs (hplus _)
    | minus => exact absurd hs (hminus _)

/-! ### Characters of numbers -/

/-- The characters of which numbers are made. -/
def numerals : List Char := "0123456789+-.eE".toList

theorem mem_numerals_of_isDigit {c : Char} (h : c.isDigit = true) : c ∈ numerals := by
  have hall : ∀ d < 10, Nat.digitChar d ∈ numerals := by decide
  obtain ⟨hlt, hchar⟩ := digitChar_of_isDigit h
  exact hchar ▸ hall _ hlt

theorem digits_subset {digits : List Char} (h : Digits digits) : digits ⊆ numerals :=
  fun c hc => mem_numerals_of_isDigit (h.2 c hc)

theorem ExponentSpells.subset_numerals {tail : List Char} {e : Int} (h : ExponentSpells tail e) :
    tail ⊆ numerals := by
  have hmark : ∀ {c : Char}, c = 'e' ∨ c = 'E' → c ∈ numerals := by
    rintro _ (rfl | rfl) <;> decide
  cases h with
  | none => exact List.nil_subset _
  | bare hc hd => exact List.cons_subset.2 ⟨hmark hc, digits_subset hd⟩
  | plus hc hd =>
    exact List.cons_subset.2 ⟨hmark hc, List.cons_subset.2 ⟨by decide, digits_subset hd⟩⟩
  | minus hc hd =>
    exact List.cons_subset.2 ⟨hmark hc, List.cons_subset.2 ⟨by decide, digits_subset hd⟩⟩

theorem not_magnitudeSpells_nil {negative : Bool} {x : Binary64} :
    ¬ MagnitudeSpells negative [] x := by
  rw [← readMagnitude?_eq_some_iff]
  exact nofun

theorem MagnitudeSpells.named_or_subset {negative : Bool} {cs : List Char} {x : Binary64}
    (h : MagnitudeSpells negative cs x) : Named cs ∨ cs ⊆ numerals := by
  cases h with
  | infinity h => exact .inl (h.imp_right .inl)
  | nan h => exact .inl (.inr (.inr h))
  | whole hd he => exact .inr (List.append_subset.2 ⟨digits_subset hd, he.subset_numerals⟩)
  | pointed hd he =>
    obtain ⟨hdigits, hfraction⟩ := List.append_subset.1 (digits_subset hd)
    exact .inr (List.append_subset.2 ⟨hdigits, List.cons_subset.2
      ⟨by decide, List.append_subset.2 ⟨hfraction, he.subset_numerals⟩⟩⟩)

/-- A text that is a number is a name, with a sign or without, or is made of certain characters. -/
theorem Spells.named_or_subset {cs : List Char} {x : Binary64} (h : Spells cs x) :
    (∃ name, Named name ∧ (cs = name ∨ cs = '+' :: name ∨ cs = '-' :: name)) ∨
      cs ⊆ numerals := by
  cases h with
  | bare h => exact h.named_or_subset.imp_left fun hn => ⟨_, hn, .inl rfl⟩
  | plus h =>
    exact h.named_or_subset.imp (fun hn => ⟨_, hn, .inr (.inl rfl)⟩) fun hs =>
      List.cons_subset.2 ⟨by decide, hs⟩
  | minus h =>
    exact h.named_or_subset.imp (fun hn => ⟨_, hn, .inr (.inr rfl)⟩) fun hs =>
      List.cons_subset.2 ⟨by decide, hs⟩

theorem eq_of_toLower_eq {c d : Char} (h : c.toLower = d) : c = d ∨ c.toNat + 32 = d.toNat := by
  delta Char.toLower at h
  split at h
  · next hc =>
    subst h
    have hle : c.val.toNat ≤ 'Z'.toNat := UInt32.le_iff_toNat_le.1 hc.2
    have hz : 'Z'.toNat = 90 := rfl
    refine .inr ?_
    show c.val.toNat + 32 = (c.val + 32).toNat
    rw [UInt32.toNat_add]
    show c.val.toNat + 32 = (c.val.toNat + 32) % 2 ^ 32
    omega
  · exact .inl h

theorem Named.exists_cons {cs : List Char} (h : Named cs) :
    ∃ c rest, cs = c :: rest ∧ c ∈ ['i', 'I', 'n', 'N'] := by
  match cs with
  | [] => rcases h with h | h | h <;> exact absurd h (by decide)
  | c :: rest =>
    refine ⟨c, rest, rfl, ?_⟩
    have hletter : ∀ small large : Char, large.toNat + 32 = small.toNat → c.toLower = small →
        c = small ∨ c = large := by
      intro small large hcase hc
      refine (eq_of_toLower_eq hc).imp_right fun heq => ?_
      rw [← Char.ofNat_toNat c, Nat.add_right_cancel (heq.trans hcase.symm), Char.ofNat_toNat]
    by_cases hi : c.toLower = 'i'
    · rcases hletter _ 'I' rfl hi with rfl | rfl <;> decide
    · by_cases hn : c.toLower = 'n'
      · rcases hletter _ 'N' rfl hn with rfl | rfl <;> decide
      · exact absurd h (not_named_cons ⟨hi, hn⟩ rest)

/-- What a text that is a number begins with. -/
theorem Spells.exists_cons {cs : List Char} {x : Binary64} (h : Spells cs x) :
    ∃ c rest, cs = c :: rest ∧ c ∈ numerals ++ ['i', 'I', 'n', 'N'] := by
  have hmagnitude : ∀ {negative : Bool} {cs : List Char}, MagnitudeSpells negative cs x →
      ∃ c rest, cs = c :: rest ∧ c ∈ numerals ++ ['i', 'I', 'n', 'N'] := by
    intro negative cs h
    rcases h.named_or_subset with hname | hsubset
    · obtain ⟨c, rest, rfl, hc⟩ := hname.exists_cons
      exact ⟨c, rest, rfl, List.mem_append_right _ hc⟩
    · match cs, hsubset with
      | c :: rest, hsubset =>
        exact ⟨c, rest, rfl, List.mem_append_left _ (hsubset List.mem_cons_self)⟩
      | [], _ => exact absurd h not_magnitudeSpells_nil
  cases h with
  | bare h => exact hmagnitude h
  | plus | minus => exact ⟨_, _, rfl, by decide⟩

/-- An integer is a floating-point number as well. -/
theorem exists_spells_of_integer {cs : List Char} {n : Int} (h : Integer.Spells cs n) :
    ∃ x, Spells cs x := by
  have hwhole : ∀ (negative : Bool) {digits : List Char}, Digits digits →
      MagnitudeSpells negative digits (ofDecimal negative (decimal digits) 0) := by
    intro negative digits hd
    have hspells := @MagnitudeSpells.whole negative _ _ _ hd .none
    rwa [List.append_nil] at hspells
  cases h with
  | bare hd => exact ⟨_, .bare (hwhole _ hd)⟩
  | plus hd => exact ⟨_, .plus (hwhole _ hd)⟩
  | minus hd => exact ⟨_, .minus (hwhole _ hd)⟩

end Binary64

end ModelFleet
