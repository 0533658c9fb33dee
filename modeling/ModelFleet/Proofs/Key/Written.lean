import ModelFleet.Proofs.Key.Encoding

/-!
# The written form of bytes

What base64 is, told by bits and not by groups of bytes: the bits of the bytes stand one after
another, and zeros follow until they can be cut into sixes; each six bits are a letter of the
alphabet, and pads follow until the letters can be cut into fours (`Written`).  Bytes have just one
written form (`Written.unique`), and `encodeBytes` gives it (`written_iff`).
-/

namespace ModelFleet.Base64

/-! ### Bits -/

/-- The binary digits of a number, the last of which is its parity. -/
def bits : Nat → Nat → List Bool
  | 0, _ => []
  | width + 1, n => bits width (n / 2) ++ [decide (n % 2 = 1)]

@[simp] theorem length_bits (width n : Nat) : (bits width n).length = width := by
  induction width generalizing n with
  | zero => rfl
  | succ width ih => simp [bits, ih]

theorem bits_add (m n x : Nat) : bits (m + n) x = bits m (x / 2 ^ n) ++ bits n (x % 2 ^ n) := by
  induction n generalizing x with
  | zero => simp [bits]
  | succ n ih =>
    have hparity : x % (2 * 2 ^ n) % 2 = x % 2 := Nat.mod_mod_of_dvd _ (Nat.dvd_mul_right ..)
    rw [← Nat.add_assoc, bits, ih, bits, Nat.pow_succ', Nat.div_div_eq_div_mul,
      Nat.mod_mul_right_div_self, hparity, List.append_assoc]

theorem bits_mul_add {m n x y : Nat} (hy : y < 2 ^ n) :
    bits (m + n) (x * 2 ^ n + y) = bits m x ++ bits n y := by
  have hdiv : (x * 2 ^ n + y) / 2 ^ n = x := by
    rw [Nat.add_comm, Nat.add_mul_div_right _ _ (Nat.two_pow_pos n), Nat.div_eq_of_lt hy,
      Nat.zero_add]
  have hmod : (x * 2 ^ n + y) % 2 ^ n = y := by
    rw [Nat.add_comm, Nat.add_mul_mod_self_right, Nat.mod_eq_of_lt hy]
  rw [bits_add, hdiv, hmod]

theorem bits_zero (width : Nat) : bits width 0 = List.replicate width false := by
  induction width with
  | zero => rfl
  | succ width ih => rw [bits, ih, List.replicate_succ', decide_eq_false (by decide)]

theorem bits_mul (m n x : Nat) : bits (m + n) (x * 2 ^ n) = bits m x ++ List.replicate n false := by
  rw [← bits_zero n, ← bits_mul_add (Nat.two_pow_pos n), Nat.add_zero]

/-- Numbers with the same digits are the same. -/
theorem eq_of_bits {width x y : Nat} (hx : x < 2 ^ width) (hy : y < 2 ^ width)
    (h : bits width x = bits width y) : x = y := by
  induction width generalizing x y with
  | zero => omega
  | succ width ih =>
    obtain ⟨hfront, hlast⟩ := List.append_inj h (by simp)
    have hhalf : x / 2 = y / 2 := ih (by omega) (by omega) hfront
    have hparity : x % 2 = 1 ↔ y % 2 = 1 := by simpa using hlast
    omega

/-! ### What is written -/

/-- The alphabet, in the order of the values. -/
def alphabet : List Char :=
  "ABCDEFGHIJKLMNOPQRSTUVWXYZabcdefghijklmnopqrstuvwxyz0123456789+/".toList

/-- The letter of six bits. -/
def letter (v : Fin 64) : Char := alphabet.getD v '='

theorem letter_mk {n : Nat} (h : n < 64) : letter ⟨n, h⟩ = symbol n := by
  have hall : ∀ v : Fin 64, letter v = symbol v := by decide +kernel
  exact hall ⟨n, h⟩

/-- The bits that letters write. -/
def sixes (values : List (Fin 64)) : List Bool := values.flatMap fun v => bits 6 v.val

/-- The bits of bytes. -/
def eights (bytes : List UInt8) : List Bool := bytes.flatMap fun b => bits 8 b.toNat

/-- **A text is the written form of bytes**: letters for their bits, which fewer than six zeros
follow, and then fewer than four pads. -/
inductive Written (bytes : List UInt8) : List Char → Prop
  | intro (values : List (Fin 64)) (fill pads : Nat) (hfill : fill < 6) (hpads : pads < 4)
      (hbits : sixes values = eights bytes ++ List.replicate fill false)
      (hfours : 4 ∣ values.length + pads) :
      Written bytes (values.map letter ++ List.replicate pads '=')

theorem length_sixes (values : List (Fin 64)) : (sixes values).length = 6 * values.length := by
  simp only [sixes, List.length_flatMap, length_bits, List.map_const', List.sum_replicate_nat]
  exact Nat.mul_comm ..

theorem length_eights (bytes : List UInt8) : (eights bytes).length = 8 * bytes.length := by
  simp only [eights, List.length_flatMap, length_bits, List.map_const', List.sum_replicate_nat]
  exact Nat.mul_comm ..

theorem sixes_injective {values values' : List (Fin 64)} (h : sixes values = sixes values') :
    values = values' := by
  induction values generalizing values' with
  | nil =>
    have hlen := congrArg List.length h
    rw [length_sixes, length_sixes, List.length_nil] at hlen
    exact (List.eq_nil_of_length_eq_zero (by omega)).symm
  | cons v values ih =>
    cases values' with
    | nil =>
      have hlen := congrArg List.length h
      rw [length_sixes, length_sixes, List.length_cons, List.length_nil] at hlen
      omega
    | cons v' values' =>
      obtain ⟨hfirst, hrest⟩ := List.append_inj h (by simp)
      rw [Fin.ext (eq_of_bits v.isLt v'.isLt hfirst), ih hrest]

/-- **Bytes have one written form only.** -/
theorem Written.unique {bytes : List UInt8} {cs cs' : List Char} (h : Written bytes cs)
    (h' : Written bytes cs') : cs = cs' := by
  obtain ⟨values, fill, pads, hfill, hpads, hbits, hfours⟩ := h
  obtain ⟨values', fill', pads', hfill', hpads', hbits', hfours'⟩ := h'
  have hlen := congrArg List.length hbits
  have hlen' := congrArg List.length hbits'
  rw [length_sixes, List.length_append, length_eights, List.length_replicate] at hlen hlen'
  obtain rfl : fill = fill' := by omega
  obtain rfl : values = values' := sixes_injective (hbits.trans hbits'.symm)
  obtain rfl : pads = pads' := by omega
  rfl

/-! ### The written form of three bytes, and of fewer -/

section Groups

variable (a b c : UInt8)

theorem bits_first : bits 8 a.toNat = bits 6 (a.toNat / 4) ++ bits 2 (a.toNat % 4) :=
  bits_add 6 2 a.toNat

theorem bits_second : bits 8 b.toNat = bits 4 (b.toNat / 16) ++ bits 4 (b.toNat % 16) :=
  bits_add 4 4 b.toNat

theorem bits_third : bits 8 c.toNat = bits 2 (c.toNat / 64) ++ bits 6 (c.toNat % 64) :=
  bits_add 2 6 c.toNat

/-- The letter between the first byte and the second. -/
theorem bits_first_second :
    bits 6 (a.toNat % 4 * 16 + b.toNat / 16) = bits 2 (a.toNat % 4) ++ bits 4 (b.toNat / 16) := by
  have hb := b.toNat_lt
  exact bits_mul_add (m := 2) (n := 4) (by omega)

/-- The letter between the second byte and the third. -/
theorem bits_second_third :
    bits 6 (b.toNat % 16 * 4 + c.toNat / 64) = bits 4 (b.toNat % 16) ++ bits 2 (c.toNat / 64) := by
  have hc := c.toNat_lt
  exact bits_mul_add (m := 4) (n := 2) (by omega)

theorem written_nil : Written [] [] := .intro [] 0 0 (by decide) (by decide) rfl (by decide)

theorem written_one : Written [a] (encodeBytes [a]) := by
  obtain ⟨h1, h2, -⟩ := value_lt a a a
  have hzeros : bits 6 (a.toNat % 4 * 16) = bits 2 (a.toNat % 4) ++ List.replicate 4 false :=
    bits_mul 2 4 (a.toNat % 4)
  have h : Written [a] _ := .intro [⟨_, h1⟩, ⟨_, h2⟩] 4 2 (by decide) (by decide)
    (by simp [sixes, eights, bits_first a, hzeros]) (by simp)
  simpa [letter_mk, encodeBytes] using h

theorem written_two : Written [a, b] (encodeBytes [a, b]) := by
  obtain ⟨h1, -, h3, h4, -⟩ := value_lt a b b
  have hzeros : bits 6 (b.toNat % 16 * 4) = bits 4 (b.toNat % 16) ++ List.replicate 2 false :=
    bits_mul 4 2 (b.toNat % 16)
  have h : Written [a, b] _ := .intro [⟨_, h1⟩, ⟨_, h3⟩, ⟨_, h4⟩] 2 1 (by decide) (by decide)
    (by simp [sixes, eights, bits_first a, bits_second b, bits_first_second, hzeros]) (by simp)
  simpa [letter_mk, encodeBytes] using h

/-- Three bytes more are four letters more. -/
theorem Written.group {rest : List UInt8} {cs : List Char} (h : Written rest cs) :
    Written (a :: b :: c :: rest)
      (symbol (a.toNat / 4) :: symbol (a.toNat % 4 * 16 + b.toNat / 16) ::
        symbol (b.toNat % 16 * 4 + c.toNat / 64) :: symbol (c.toNat % 64) :: cs) := by
  obtain ⟨values, fill, pads, hfill, hpads, hbits, hfours⟩ := h
  obtain ⟨h1, -, h3, -, h5, h6⟩ := value_lt a b c
  have hgroup : sixes (⟨_, h1⟩ :: ⟨_, h3⟩ :: ⟨_, h5⟩ :: ⟨_, h6⟩ :: values) =
      eights (a :: b :: c :: rest) ++ List.replicate fill false := by
    simp only [sixes, eights, List.flatMap_cons] at hbits ⊢
    rw [hbits, bits_first a, bits_second b, bits_third c, bits_first_second, bits_second_third]
    simp only [List.append_assoc]
  have h := Written.intro _ fill pads hfill hpads hgroup (by simp only [List.length_cons]; omega)
  simpa [letter_mk] using h

end Groups

theorem written_encodeBytes (bytes : List UInt8) : Written bytes (encodeBytes bytes) := by
  induction bytes using encodeBytes.induct with
  | case1 => exact written_nil
  | case2 a => exact written_one a
  | case3 a b => exact written_two a b
  | case4 a b c rest ih => exact ih.group a b c

theorem written_iff {bytes : List UInt8} {cs : List Char} :
    Written bytes cs ↔ cs = encodeBytes bytes := by
  constructor
  · intro h
    exact h.unique (written_encodeBytes bytes)
  · rintro rfl
    exact written_encodeBytes bytes

end ModelFleet.Base64
