import ModelFleet.Config.Load
import ModelFleet.Proofs.Number.Numerals

/-!
# Texts of the environment

A text of the environment may be taken for a truth value, an integer or a floating-point number, and
where a text is wanted, the value is written again (`Becomes`).  So it is not always the same text:
it is another one if it was written in another way than the value is (`Respelled`,
`Becomes.eq_iff`).  That can only be if it is the name of a value or is made of the characters of
numbers throughout (`Respelled.named_or_subset`).
-/

namespace ModelFleet.Config

/-- The text that a text of the environment becomes: that of the truth value that it names, or of
the integer or else the floating-point number that it spells, or otherwise the text itself. -/
inductive Becomes (s : String) : String → Prop
  | truth {b : Bool} (h : Lowercase.ofString s = toString b) : Becomes s (toString b)
  | integer {n : Int} (h : Integer.Spells s.toList n) : Becomes s (toString n)
  | real {x : Binary64} (hi : ∀ n, ¬ Integer.Spells s.toList n) (h : Binary64.Spells s.toList x) :
      Becomes s x.positional
  | itself (ht : ∀ b : Bool, Lowercase.ofString s ≠ toString b)
      (hi : ∀ n, ¬ Integer.Spells s.toList n) (hr : ∀ x, ¬ Binary64.Spells s.toList x) : Becomes s s

section

variable {s u : String}

theorem ofText_truth {b : Bool} (h : Lowercase.ofString s = toString b) :
    Tree.ofText s = .bool b := by
  rw [Tree.ofText, h]
  cases b <;> rfl

theorem ofText_of_ne (h : ∀ b : Bool, Lowercase.ofString s ≠ toString b) :
    Tree.ofText s = match Integer.read64 s, Binary64.read? s with
      | .ok n, _ => .int n
      | .error _, some x => .real x
      | .error _, none => .text s := by
  rw [Tree.ofText]
  split
  · next ht => exact absurd ht (h true)
  · next hf => exact absurd hf (h false)
  · rfl

/-- No number is the name of a truth value. -/
theorem ne_toString_of_real {x : Binary64} (h : Binary64.Spells s.toList x) (b : Bool) :
    Lowercase.ofString s ≠ toString b := by
  have hhead : ∀ c ∈ Binary64.numerals ++ ['i', 'I', 'n', 'N'], c ≠ 'Σ' ∧
      ∃ d rest, Lowercase.ofChar c = d :: rest ∧ d ≠ 't' ∧ d ≠ 'f' := by
    have hall : (Binary64.numerals ++ ['i', 'I', 'n', 'N']).all (fun c => c ≠ 'Σ' &&
        (Lowercase.ofChar c).head?.any fun d => d ≠ 't' && d ≠ 'f') = true := by decide +kernel
    intro c hc
    have hc := List.all_eq_true.1 hall c hc
    simp only [Bool.and_eq_true, decide_eq_true_eq, Option.any_eq_true] at hc
    obtain ⟨hsigma, d, hd, hne⟩ := hc
    obtain ⟨rest, hrest⟩ := List.head?_eq_some_iff.1 hd
    exact ⟨hsigma, d, rest, hrest, hne⟩
  obtain ⟨c, rest, hs, hc⟩ := h.exists_cons
  obtain ⟨hsigma, d, form, hform, ht, hf⟩ := hhead c hc
  intro heq
  have hfirst : (toString b).toList.head? = some d := by
    rw [← heq, Lowercase.ofString, String.toList_ofList, hs, Lowercase.ofList, if_neg hsigma, hform]
    rfl
  cases b with
  | true => exact ht (Option.some.inj hfirst).symm
  | false => exact hf (Option.some.inj hfirst).symm

theorem ne_toString_of_integer {n : Int} (h : Integer.Spells s.toList n) (b : Bool) :
    Lowercase.ofString s ≠ toString b := by
  obtain ⟨x, hx⟩ := Binary64.exists_spells_of_integer h
  exact ne_toString_of_real hx b

theorem exists_read64_eq_error (h : ∀ n, ¬ Integer.Spells s.toList n) :
    ∃ e, Integer.read64 s = .error e := by
  cases hread : Integer.read64 s with
  | ok n => exact absurd (Integer.read64_eq_ok_iff.1 hread) (h n)
  | error e => exact ⟨e, rfl⟩

theorem read?_eq_none (h : ∀ x, ¬ Binary64.Spells s.toList x) : Binary64.read? s = none :=
  Option.eq_none_iff_forall_ne_some.2 fun x hx => h x (Binary64.read?_eq_some_iff.1 hx)

theorem Becomes.toText_ofText (h : Becomes s u) : (Tree.ofText s).toText = .ok u := by
  cases h with
  | truth h =>
    rw [ofText_truth h]
    rfl
  | integer h =>
    rw [ofText_of_ne (ne_toString_of_integer h), Integer.read64_eq_ok_iff.2 h]
    rfl
  | real hi h =>
    obtain ⟨e, he⟩ := exists_read64_eq_error hi
    rw [ofText_of_ne (ne_toString_of_real h), he, Binary64.read?_eq_some_iff.2 h]
    rfl
  | itself ht hi hr =>
    obtain ⟨e, he⟩ := exists_read64_eq_error hi
    rw [ofText_of_ne ht, he, read?_eq_none hr]
    rfl

/-- Every text becomes one. -/
theorem exists_becomes (s : String) : ∃ u, Becomes s u := by
  by_cases ht : ∃ b : Bool, Lowercase.ofString s = toString b
  · obtain ⟨b, hb⟩ := ht
    exact ⟨_, .truth hb⟩
  · by_cases hi : ∃ n, Integer.Spells s.toList n
    · obtain ⟨n, hn⟩ := hi
      exact ⟨_, .integer hn⟩
    · rw [not_exists] at hi
      by_cases hr : ∃ x, Binary64.Spells s.toList x
      · obtain ⟨x, hx⟩ := hr
        exact ⟨_, .real hi hx⟩
      · exact ⟨s, .itself (not_exists.1 ht) hi (not_exists.1 hr)⟩

/-- **What a text becomes** is the text of the setting that it is taken for. -/
theorem becomes_iff : Becomes s u ↔ (Tree.ofText s).toText = .ok u := by
  refine ⟨Becomes.toText_ofText, fun h => ?_⟩
  obtain ⟨v, hv⟩ := exists_becomes s
  cases hv.toText_ofText.symm.trans h
  exact hv

/-! ### Texts that become other ones -/

/-- A text that is taken for a value which is written in another way: the name of a truth value in
another case, an integer with a plus or with zeros in front, or a floating-point number that is not
written as its digits come out. -/
def Respelled (s : String) : Prop :=
  (∃ b : Bool, Lowercase.ofString s = toString b ∧ s ≠ toString b) ∨
  (∃ n, Integer.Spells s.toList n ∧ Integer.Redundant s.toList) ∨
  ∃ x, (∀ n, ¬ Integer.Spells s.toList n) ∧ Binary64.Spells s.toList x ∧ x.positional ≠ s

theorem toString_bool_injective : ∀ {b b' : Bool}, toString b = toString b' → b = b' := by
  decide

/-- **A text stays as it is** if it is not taken for a value that is written in another way. -/
theorem Becomes.eq_iff (h : Becomes s u) : u = s ↔ ¬ Respelled s := by
  cases h with
  | @truth b h =>
    constructor
    · rintro heq (⟨b', hb', hne⟩ | ⟨n, hn, -⟩ | ⟨x, -, hx, -⟩)
      · obtain rfl := toString_bool_injective (h.symm.trans hb')
        exact hne heq.symm
      · exact ne_toString_of_integer hn b h
      · exact ne_toString_of_real hx b h
    · intro hr
      exact Classical.byContradiction fun hne => hr (.inl ⟨b, h, Ne.symm hne⟩)
  | @integer n h =>
    rw [Integer.toString_eq_iff_of_spells h, not_iff_not]
    constructor
    · intro hr
      exact .inr (.inl ⟨n, h, hr⟩)
    · rintro (⟨b, hb, -⟩ | ⟨_, -, hr⟩ | ⟨_, hi, -⟩)
      · exact absurd hb (ne_toString_of_integer h b)
      · exact hr
      · exact absurd h (hi n)
  | @real x hi h =>
    constructor
    · rintro heq (⟨b, hb, -⟩ | ⟨n, hn, -⟩ | ⟨x', -, hx', hne⟩)
      · exact ne_toString_of_real h b hb
      · exact hi n hn
      · rw [← Binary64.read?_eq_some_iff] at h hx'
        cases h.symm.trans hx'
        exact hne heq
    · intro hr
      exact Classical.byContradiction fun hne => hr (.inr (.inr ⟨x, hi, h, hne⟩))
  | itself ht hi hr =>
    refine iff_of_true rfl ?_
    rintro (⟨b, hb, -⟩ | ⟨n, hn, -⟩ | ⟨x, -, hx, -⟩)
    · exact ht b hb
    · exact hi n hn
    · exact hr x hx

/-- What becomes another text is the name of a truth value or of a number, or is made of the
characters of numbers. -/
theorem Respelled.named_or_subset (h : Respelled s) :
    (∃ b : Bool, Lowercase.ofString s = toString b) ∨
      (∃ name, Binary64.Named name ∧
        (s.toList = name ∨ s.toList = '+' :: name ∨ s.toList = '-' :: name)) ∨
      s.toList ⊆ Binary64.numerals := by
  rcases h with ⟨b, hb, -⟩ | ⟨n, hn, -⟩ | ⟨x, -, hx, -⟩
  · exact .inl ⟨b, hb⟩
  · obtain ⟨x, hx⟩ := Binary64.exists_spells_of_integer hn
    exact .inr hx.named_or_subset
  · exact .inr hx.named_or_subset

end

end ModelFleet.Config
