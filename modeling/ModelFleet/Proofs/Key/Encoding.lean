import ModelFleet.Key.Material

/-!
# Keys are read back from their stored form

The stored form of bytes is read back as these bytes (`Base64.decode_encodeBytes`), and so a key is
read back from its stored form (`KeyMaterial.decode_encode`).  The proof follows the writing: a
symbol is one byte that has its value and is neither a pad nor a blank (`utf8_symbol`,
`value?_byteOf`), and each group of four symbols gives back the three bytes that it was made of.
-/

namespace ModelFleet

namespace Base64

/-- The byte of the symbol of a value. -/
def byteOf (n : Nat) : UInt8 := UInt8.ofNat (symbol n).toNat

theorem symbol_spec : ∀ n : Fin 64, String.utf8EncodeChar (symbol n) = [byteOf n] ∧
    value? (byteOf n) = some n.val ∧ byteOf n ≠ pad ∧ isBlank (symbol n) = false := by
  decide

theorem utf8EncodeChar_symbol {n : Nat} (h : n < 64) :
    String.utf8EncodeChar (symbol n) = [byteOf n] := (symbol_spec ⟨n, h⟩).1

theorem value?_byteOf {n : Nat} (h : n < 64) : value? (byteOf n) = some n :=
  (symbol_spec ⟨n, h⟩).2.1

theorem byteOf_ne_pad {n : Nat} (h : n < 64) : byteOf n ≠ pad := (symbol_spec ⟨n, h⟩).2.2.1

theorem isBlank_symbol {n : Nat} (h : n < 64) : isBlank (symbol n) = false :=
  (symbol_spec ⟨n, h⟩).2.2.2

theorem utf8_symbol {n : Nat} (h : n < 64) (cs : List Char) :
    utf8 (symbol n :: cs) = byteOf n :: utf8 cs := by
  simp [utf8, utf8EncodeChar_symbol h]

theorem utf8_nil : utf8 [] = [] := rfl

theorem utf8_pad (cs : List Char) : utf8 ('=' :: cs) = pad :: utf8 cs := rfl

theorem valueAt_byteOf {n : Nat} (h : n < 64) (offset : Nat) :
    valueAt offset (byteOf n) = .ok n := by
  simp [valueAt, value?_byteOf h]

/-! ### The values of a group -/

/-- The four values of a group, and what the three bytes are made of. -/
theorem value_lt (a b c : UInt8) :
    a.toNat / 4 < 64 ∧ a.toNat % 4 * 16 < 64 ∧ a.toNat % 4 * 16 + b.toNat / 16 < 64 ∧
      b.toNat % 16 * 4 < 64 ∧ b.toNat % 16 * 4 + c.toNat / 64 < 64 ∧ c.toNat % 64 < 64 := by
  have := a.toNat_lt
  have := b.toNat_lt
  have := c.toNat_lt
  omega

theorem firstByte_eq (a b : UInt8) :
    firstByte (a.toNat / 4) (a.toNat % 4 * 16 + b.toNat / 16) = a := by
  have := b.toNat_lt
  have h : a.toNat / 4 * 4 + (a.toNat % 4 * 16 + b.toNat / 16) / 16 = a.toNat := by omega
  rw [firstByte, h, UInt8.ofNat_toNat]

theorem secondByte_eq (a b c : UInt8) :
    secondByte (a.toNat % 4 * 16 + b.toNat / 16) (b.toNat % 16 * 4 + c.toNat / 64) = b := by
  have := b.toNat_lt
  have := c.toNat_lt
  have h : (a.toNat % 4 * 16 + b.toNat / 16) % 16 * 16 + (b.toNat % 16 * 4 + c.toNat / 64) / 4 =
      b.toNat := by omega
  rw [secondByte, h, UInt8.ofNat_toNat]

theorem thirdByte_eq (b c : UInt8) :
    thirdByte (b.toNat % 16 * 4 + c.toNat / 64) (c.toNat % 64) = c := by
  have := c.toNat_lt
  have h : (b.toNat % 16 * 4 + c.toNat / 64) % 4 * 64 + c.toNat % 64 = c.toNat := by omega
  rw [thirdByte, h, UInt8.ofNat_toNat]

/-! ### Reading groups -/

/-- A group that is not the last one. -/
theorem decodeGroups_group {x y z w : Nat} (hx : x < 64) (hy : y < 64) (hz : z < 64) (hw : w < 64)
    (offset : Nat) {rest : List UInt8} (hr : rest ≠ []) :
    decodeGroups offset (byteOf x :: byteOf y :: byteOf z :: byteOf w :: rest) =
      (decodeGroups (offset + 4) rest).map
        fun bytes => firstByte x y :: secondByte y z :: thirdByte z w :: bytes := by
  obtain ⟨e, rest, rfl⟩ := List.exists_cons_of_ne_nil hr
  simp only [decodeGroups, valueAt_byteOf, hx, hy, hz, hw, bind, Except.bind]
  cases decodeGroups (offset + 4) (e :: rest) <;> rfl

/-- The last group, without pads. -/
theorem decodeGroups_last {x y z w : Nat} (hx : x < 64) (hy : y < 64) (hz : z < 64) (hw : w < 64)
    (offset : Nat) :
    decodeGroups offset [byteOf x, byteOf y, byteOf z, byteOf w] =
      .ok [firstByte x y, secondByte y z, thirdByte z w] := by
  simp [decodeGroups, decodeLast, valuesAt, valueAt_byteOf, hx, hy, hz, hw, byteOf_ne_pad,
    lastBytes, bind, Except.bind, pure, Except.pure]

/-- The last group, with one pad. -/
theorem decodeGroups_one_pad {x y z : Nat} (hx : x < 64) (hy : y < 64) (hz : z < 64)
    (h : z % 4 = 0) (offset : Nat) :
    decodeGroups offset [byteOf x, byteOf y, byteOf z, pad] =
      .ok [firstByte x y, secondByte y z] := by
  simp [decodeGroups, decodeLast, valuesAt, valueAt_byteOf, hx, hy, hz, byteOf_ne_pad,
    lastBytes, bind, Except.bind, pure, Except.pure, h]

/-- The last group, with two pads. -/
theorem decodeGroups_two_pads {x y : Nat} (hx : x < 64) (hy : y < 64) (h : y % 16 = 0)
    (offset : Nat) :
    decodeGroups offset [byteOf x, byteOf y, pad, pad] = .ok [firstByte x y] := by
  simp [decodeGroups, decodeLast, valuesAt, valueAt_byteOf, hx, hy, byteOf_ne_pad,
    lastBytes, bind, Except.bind, pure, Except.pure, h]

theorem utf8_encodeBytes_ne_nil {bytes : List UInt8} (h : bytes ≠ []) :
    utf8 (encodeBytes bytes) ≠ [] := by
  have hv := value_lt
  match bytes with
  | [] => exact absurd rfl h
  | [a] => simp [encodeBytes, utf8_symbol (hv a a a).1]
  | [a, b] => simp [encodeBytes, utf8_symbol (hv a b b).1]
  | a :: b :: c :: rest => simp [encodeBytes, utf8_symbol (hv a b c).1]

theorem decodeGroups_encodeBytes (offset : Nat) (bytes : List UInt8) :
    decodeGroups offset (utf8 (encodeBytes bytes)) = .ok bytes := by
  induction bytes using encodeBytes.induct generalizing offset with
  | case1 => rfl
  | case2 a =>
    obtain ⟨h1, h2, -⟩ := value_lt a a a
    have he := firstByte_eq a 0
    rw [encodeBytes, utf8_symbol h1, utf8_symbol h2, utf8_pad, utf8_pad, utf8_nil]
    rw [decodeGroups_two_pads h1 h2 (by omega)]
    simpa using he
  | case3 a b =>
    obtain ⟨h1, -, h3, h4, -⟩ := value_lt a b b
    have he := secondByte_eq a b 0
    rw [encodeBytes, utf8_symbol h1, utf8_symbol h3, utf8_symbol h4, utf8_pad, utf8_nil]
    rw [decodeGroups_one_pad h1 h3 h4 (by omega), firstByte_eq]
    simpa using he
  | case4 a b c rest ih =>
    obtain ⟨h1, -, h3, -, h5, h6⟩ := value_lt a b c
    rw [encodeBytes, utf8_symbol h1, utf8_symbol h3, utf8_symbol h5, utf8_symbol h6]
    by_cases hr : rest = []
    · subst hr
      rw [encodeBytes, utf8_nil, decodeGroups_last h1 h3 h5 h6, firstByte_eq,
        secondByte_eq, thirdByte_eq]
    · rw [decodeGroups_group h1 h3 h5 h6 offset (utf8_encodeBytes_ne_nil hr), ih, firstByte_eq,
        secondByte_eq, thirdByte_eq]
      rfl

/-- Written symbols come in groups of four. -/
theorem length_utf8_encodeBytes (bytes : List UInt8) :
    (utf8 (encodeBytes bytes)).length % 4 = 0 := by
  induction bytes using encodeBytes.induct with
  | case1 => rfl
  | case2 a =>
    obtain ⟨h1, h2, -⟩ := value_lt a a a
    rw [encodeBytes, utf8_symbol h1, utf8_symbol h2, utf8_pad, utf8_pad, utf8_nil]
    simp only [List.length_cons, List.length_nil]
  | case3 a b =>
    obtain ⟨h1, -, h3, h4, -⟩ := value_lt a b b
    rw [encodeBytes, utf8_symbol h1, utf8_symbol h3, utf8_symbol h4, utf8_pad, utf8_nil]
    simp only [List.length_cons, List.length_nil]
  | case4 a b c rest ih =>
    obtain ⟨h1, -, h3, -, h5, h6⟩ := value_lt a b c
    rw [encodeBytes, utf8_symbol h1, utf8_symbol h3, utf8_symbol h5, utf8_symbol h6]
    simp only [List.length_cons]
    omega

/-- The bytes of a written text are read back. -/
theorem decode_encodeBytes (bytes : List UInt8) : decode (encodeBytes bytes) = .ok bytes := by
  have hl := length_utf8_encodeBytes bytes
  have hc : checkEnd (utf8 (encodeBytes bytes)) = .ok () := by
    unfold checkEnd
    split
    · rfl
    · rw [if_neg (by omega)]
  simp only [decode, hc, bind, Except.bind]
  exact decodeGroups_encodeBytes 0 bytes

theorem isBlank_of_mem_encodeBytes {bytes : List UInt8} {c : Char} (h : c ∈ encodeBytes bytes) :
    isBlank c = false := by
  induction bytes using encodeBytes.induct with
  | case1 => simp [encodeBytes] at h
  | case2 a =>
    obtain ⟨h1, h2, -⟩ := value_lt a a a
    simp only [encodeBytes, List.mem_cons, List.not_mem_nil, or_false] at h
    rcases h with rfl | rfl | rfl | rfl
    · exact isBlank_symbol h1
    · exact isBlank_symbol h2
    · rfl
    · rfl
  | case3 a b =>
    obtain ⟨h1, -, h3, h4, -⟩ := value_lt a b b
    simp only [encodeBytes, List.mem_cons, List.not_mem_nil, or_false] at h
    rcases h with rfl | rfl | rfl | rfl
    · exact isBlank_symbol h1
    · exact isBlank_symbol h3
    · exact isBlank_symbol h4
    · rfl
  | case4 a b c rest ih =>
    obtain ⟨h1, -, h3, -, h5, h6⟩ := value_lt a b c
    simp only [encodeBytes, List.mem_cons] at h
    rcases h with rfl | rfl | rfl | rfl | h
    · exact isBlank_symbol h1
    · exact isBlank_symbol h3
    · exact isBlank_symbol h5
    · exact isBlank_symbol h6
    · exact ih h

end Base64

theorem dropWhile_isBlank {cs : List Char} (h : ∀ c ∈ cs, isBlank c = false) :
    cs.dropWhile isBlank = cs := by
  cases cs with
  | nil => rfl
  | cons c rest => rw [List.dropWhile_cons, if_neg (by simp [h c List.mem_cons_self])]

/-- A text without blanks stays as it is. -/
theorem trimBlanks_eq_self {cs : List Char} (h : ∀ c ∈ cs, isBlank c = false) :
    trimBlanks cs = cs := by
  rw [trimBlanks, dropWhile_isBlank h, dropWhile_isBlank (by simpa using h), List.reverse_reverse]

/-- A key is read back from its stored form. -/
theorem KeyMaterial.decode_encode (key : KeyMaterial) : decode key.encode = .ok key := by
  have ht : trimBlanks (encode key).toList = Base64.encodeBytes key.bytes := by
    rw [encode, Base64.encode, String.toList_ofList]
    exact trimBlanks_eq_self fun c hc => Base64.isBlank_of_mem_encodeBytes hc
  rw [decode, ht, Base64.decode_encodeBytes]
  simp [ofBytes, key.length_bytes]

end ModelFleet
