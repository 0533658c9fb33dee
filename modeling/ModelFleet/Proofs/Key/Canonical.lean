import ModelFleet.Cycle.Bootstrap
import ModelFleet.Proofs.Key.Written
import ModelFleet.Proofs.Model.Document

/-!
# Stored keys are read in their written form only

A text is read as bytes exactly if it is their written form (`Base64.decode_eq_ok_iff`): whatever
the reading lets pass, the writing gives back.  So a key is read from one text only, blanks around
it aside, and every process reads it from the document that stores it
(`KeyMaterial.decode_canonical`).
-/

namespace ModelFleet

namespace Base64

/-! ### Symbols -/

/-- What has a value is the symbol of this value. -/
theorem value?_eq_some {b : UInt8} {n : Nat} (h : value? b = some n) : n < 64 ∧ byteOf n = b := by
  have hall : ∀ m : Fin 256, ∀ n ∈ value? (UInt8.ofNat m), n < 64 ∧ byteOf n = UInt8.ofNat m := by
    decide +kernel
  have hb := hall ⟨b.toNat, b.toNat_lt⟩ n
  rw [UInt8.ofNat_toNat] at hb
  exact hb h

theorem valueAt_eq_ok {offset n : Nat} {b : UInt8} (h : valueAt offset b = .ok n) :
    n < 64 ∧ byteOf n = b := by
  unfold valueAt at h
  split at h
  · next hv =>
    obtain rfl := Except.ok.inj h
    exact value?_eq_some hv
  · cases h

theorem valuesAt_eq_ok {offset : Nat} {group : List UInt8} {values : List Nat}
    (h : valuesAt offset group = .ok values) :
    (∀ n ∈ values, n < 64) ∧ group = values.map byteOf := by
  induction group generalizing offset values with
  | nil =>
    obtain rfl := Except.ok.inj h
    exact ⟨nofun, rfl⟩
  | cons b group ih =>
    obtain ⟨n, hn, h⟩ := Except.exists_of_bind h
    obtain ⟨rest, hrest, h⟩ := Except.exists_of_bind h
    obtain rfl := Except.ok.inj h
    obtain ⟨hlt, rfl⟩ := valueAt_eq_ok hn
    obtain ⟨hall, rfl⟩ := ih hrest
    exact ⟨List.forall_mem_cons.2 ⟨hlt, hall⟩, rfl⟩

/-! ### Writing what was read -/

section Groups

variable {x y z w : Nat}

theorem toNat_firstByte (hx : x < 64) (hy : y < 64) : (firstByte x y).toNat = x * 4 + y / 16 :=
  UInt8.toNat_ofNat_of_lt' (by simp only [UInt8.size]; omega)

theorem toNat_secondByte (hz : z < 64) : (secondByte y z).toNat = y % 16 * 16 + z / 4 :=
  UInt8.toNat_ofNat_of_lt' (by simp only [UInt8.size]; omega)

theorem toNat_thirdByte (hw : w < 64) : (thirdByte z w).toNat = z % 4 * 64 + w :=
  UInt8.toNat_ofNat_of_lt' (by simp only [UInt8.size]; omega)

/-- The bytes of four symbols are written with these symbols. -/
theorem utf8_encodeBytes_group (hx : x < 64) (hy : y < 64) (hz : z < 64) (hw : w < 64)
    (rest : List UInt8) :
    utf8 (encodeBytes (firstByte x y :: secondByte y z :: thirdByte z w :: rest)) =
      byteOf x :: byteOf y :: byteOf z :: byteOf w :: utf8 (encodeBytes rest) := by
  have h1 : (x * 4 + y / 16) / 4 = x := by omega
  have h2 : (x * 4 + y / 16) % 4 * 16 + (y % 16 * 16 + z / 4) / 16 = y := by omega
  have h3 : (y % 16 * 16 + z / 4) % 16 * 4 + (z % 4 * 64 + w) / 64 = z := by omega
  have h4 : (z % 4 * 64 + w) % 64 = w := by omega
  rw [encodeBytes, toNat_firstByte hx hy, toNat_secondByte hz, toNat_thirdByte hw, h1, h2, h3, h4,
    utf8_symbol hx, utf8_symbol hy, utf8_symbol hz, utf8_symbol hw]

/-- The byte of two symbols is written with these, if the second has no bits left over. -/
theorem utf8_encodeBytes_first (hx : x < 64) (hy : y < 64) (hleft : y % 16 = 0) :
    utf8 (encodeBytes [firstByte x y]) = [byteOf x, byteOf y, pad, pad] := by
  have h1 : (x * 4 + y / 16) / 4 = x := by omega
  have h2 : (x * 4 + y / 16) % 4 * 16 = y := by omega
  rw [encodeBytes, toNat_firstByte hx hy, h1, h2, utf8_symbol hx, utf8_symbol hy, utf8_pad,
    utf8_pad, utf8_nil]

/-- The bytes of three symbols are written with these, if the third has no bits left over. -/
theorem utf8_encodeBytes_first_second (hx : x < 64) (hy : y < 64) (hz : z < 64)
    (hleft : z % 4 = 0) :
    utf8 (encodeBytes [firstByte x y, secondByte y z]) = [byteOf x, byteOf y, byteOf z, pad] := by
  have h1 : (x * 4 + y / 16) / 4 = x := by omega
  have h2 : (x * 4 + y / 16) % 4 * 16 + (y % 16 * 16 + z / 4) / 16 = y := by omega
  have h3 : (y % 16 * 16 + z / 4) % 16 * 4 = z := by omega
  rw [encodeBytes, toNat_firstByte hx hy, toNat_secondByte hz, h1, h2, h3, utf8_symbol hx,
    utf8_symbol hy, utf8_symbol hz, utf8_pad, utf8_nil]

end Groups

/-! ### The last group -/

/-- What follows the symbols, unless it is refused. -/
theorem padding_of_not_refused {symbols : Nat} {padding : List UInt8}
    (h : ¬ (!padding.isEmpty && (symbols < 2 || padding.any (· ≠ pad))) = true) :
    padding = List.replicate padding.length pad ∧ (padding.length = 0 ∨ 2 ≤ symbols) := by
  simp only [Bool.and_eq_true, Bool.not_eq_true', List.isEmpty_eq_false_iff, Bool.or_eq_true,
    decide_eq_true_eq, List.any_eq_true, not_and, not_or, not_exists, ne_eq, Decidable.not_not,
    Nat.not_lt] at h
  by_cases hnil : padding = []
  · subst hnil
    exact ⟨rfl, .inl rfl⟩
  · obtain ⟨htwo, hall⟩ := h hnil
    exact ⟨List.eq_replicate_of_mem hall, .inr htwo⟩

/-- A last group that is read is made of symbols, after which pads lead up to the fourth place. -/
theorem exists_of_decodeLast {offset : Nat} {group bytes : List UInt8}
    (h : decodeLast offset group = .ok bytes) :
    ∃ (values : List Nat) (pads : Nat) (last : UInt8) (place : Nat),
      (∀ n ∈ values, n < 64) ∧ group = values.map byteOf ++ List.replicate pads pad ∧
      (pads = 0 ∨ 2 ≤ values.length) ∧ values.length ≠ 1 ∧ (values.length + pads) % 4 = 0 ∧
      lastBytes last place values = .ok bytes := by
  obtain ⟨values, hvalues, h⟩ := Except.exists_of_bind h
  obtain ⟨hlt, hsymbols⟩ := valuesAt_eq_ok hvalues
  have hlen : (group.takeWhile (· ≠ pad)).length = values.length := by
    rw [hsymbols, List.length_map]
  have hsplit : group = values.map byteOf ++ group.dropWhile (· ≠ pad) := by
    rw [← hsymbols, List.takeWhile_append_dropWhile]
  -- none of the three refusals was made
  dsimp only at h
  rw [hlen] at h
  generalize group.dropWhile (· ≠ pad) = padding at h hsplit
  by_cases hpads : (!padding.isEmpty && (values.length < 2 || padding.any (· ≠ pad))) = true
  · rw [if_pos hpads] at h
    cases h
  rw [if_neg hpads] at h
  by_cases hone : values.length = 1
  · rw [if_pos hone] at h
    cases h
  rw [if_neg hone] at h
  by_cases hfours : group.length % 4 ≠ 0
  · rw [if_pos hfours] at h
    cases h
  rw [if_neg hfours] at h
  obtain ⟨hrep, hpads⟩ := padding_of_not_refused hpads
  refine ⟨values, padding.length, _, _, hlt, ?_, hpads, hone, ?_, h⟩
  · rw [← hrep]
    exact hsplit
  · rw [hsplit, List.length_append, List.length_map] at hfours
    omega

/-- Four places that are read are those that the bytes are written with. -/
theorem eq_utf8_of_lastBytes {values : List Nat} {pads place : Nat} {last : UInt8}
    {bytes : List UInt8} (hlt : ∀ n ∈ values, n < 64) (hfour : values.length + pads = 4)
    (htwo : 2 ≤ values.length) (h : lastBytes last place values = .ok bytes) :
    values.map byteOf ++ List.replicate pads pad = utf8 (encodeBytes bytes) := by
  match values with
  | [x, y] =>
    simp only [List.forall_mem_cons] at hlt
    obtain ⟨hx, hy, -⟩ := hlt
    obtain rfl : pads = 2 := Nat.add_left_cancel hfour
    rw [lastBytes] at h
    split at h
    · next hleft =>
      obtain rfl := Except.ok.inj h
      exact (utf8_encodeBytes_first hx hy hleft).symm
    · cases h
  | [x, y, z] =>
    simp only [List.forall_mem_cons] at hlt
    obtain ⟨hx, hy, hz, -⟩ := hlt
    obtain rfl : pads = 1 := Nat.add_left_cancel hfour
    rw [lastBytes] at h
    split at h
    · next hleft =>
      obtain rfl := Except.ok.inj h
      exact (utf8_encodeBytes_first_second hx hy hz hleft).symm
    · cases h
  | [x, y, z, w] =>
    simp only [List.forall_mem_cons] at hlt
    obtain ⟨hx, hy, hz, hw, -⟩ := hlt
    obtain rfl : pads = 0 := Nat.add_left_cancel hfour
    obtain rfl := Except.ok.inj h
    exact (utf8_encodeBytes_group hx hy hz hw []).symm
  | [] | [_] => simp at htwo
  | _ :: _ :: _ :: _ :: _ :: _ =>
    simp only [List.length_cons] at hfour
    omega

theorem decodeLast_eq_ok {offset : Nat} {group bytes : List UInt8} (hshort : group.length ≤ 4)
    (h : decodeLast offset group = .ok bytes) : group = utf8 (encodeBytes bytes) := by
  obtain ⟨values, pads, last, place, hlt, rfl, hpads, hone, hfours, h⟩ := exists_of_decodeLast h
  rw [List.length_append, List.length_map, List.length_replicate] at hshort
  by_cases htwo : 2 ≤ values.length
  · exact eq_utf8_of_lastBytes hlt (by omega) htwo h
  · obtain rfl : pads = 0 := hpads.resolve_right htwo
    obtain rfl : values = [] := List.eq_nil_of_length_eq_zero (by omega)
    obtain rfl := Except.ok.inj h
    rfl

/-! ### All groups -/

theorem decodeGroups_eq_ok {offset : Nat} {group bytes : List UInt8}
    (h : decodeGroups offset group = .ok bytes) : group = utf8 (encodeBytes bytes) := by
  induction offset, group using decodeGroups.induct generalizing bytes with
  | case1 offset a b c d e rest ih =>
    obtain ⟨x, ha, h⟩ := Except.exists_of_bind h
    obtain ⟨y, hb, h⟩ := Except.exists_of_bind h
    obtain ⟨z, hc, h⟩ := Except.exists_of_bind h
    obtain ⟨w, hd, h⟩ := Except.exists_of_bind h
    obtain ⟨read, hrest, h⟩ := Except.exists_of_bind h
    obtain rfl := Except.ok.inj h
    obtain ⟨hx, rfl⟩ := valueAt_eq_ok ha
    obtain ⟨hy, rfl⟩ := valueAt_eq_ok hb
    obtain ⟨hz, rfl⟩ := valueAt_eq_ok hc
    obtain ⟨hw, rfl⟩ := valueAt_eq_ok hd
    rw [utf8_encodeBytes_group hx hy hz hw, ← ih hrest]
  | case2 offset group hshort =>
    rw [decodeGroups] at h
    · refine decodeLast_eq_ok ?_ h
      rcases group with _ | ⟨a, _ | ⟨b, _ | ⟨c, _ | ⟨d, _ | ⟨e, rest⟩⟩⟩⟩⟩
      case cons.cons.cons.cons.cons => exact absurd rfl (hshort a b c d e rest)
      all_goals simp
    · exact hshort

/-- A text is known by its UTF-8 form. -/
theorem utf8_injective {cs cs' : List Char} (h : utf8 cs = utf8 cs') : cs = cs' := by
  have hread : ∀ cs : List Char, (utf8 cs).toByteArray.utf8Decode? = some cs.toArray :=
    fun _ => List.utf8Decode?_utf8Encode
  have hcs := hread cs
  rw [h, hread cs'] at hcs
  exact (Array.toList_inj.2 (Option.some.inj hcs)).symm

/-- **A text is read as bytes exactly if it is their written form.** -/
theorem decode_eq_ok_iff {cs : List Char} {bytes : List UInt8} :
    decode cs = .ok bytes ↔ Written bytes cs := by
  rw [written_iff]
  constructor
  · intro h
    obtain ⟨-, -, h⟩ := Except.exists_of_bind h
    exact utf8_injective (decodeGroups_eq_ok h)
  · rintro rfl
    exact decode_encodeBytes bytes

end Base64

/-! ### Keys -/

namespace KeyMaterial

variable {s : String}

theorem written_bytes_iff {key : KeyMaterial} {cs : List Char} :
    Base64.Written key.bytes cs ↔ cs = key.encode.toList := by
  rw [Base64.written_iff, encode, Base64.encode, String.toList_ofList]

/-- An empty text is the stored form of no key. -/
theorem encode_ne_empty (key : KeyMaterial) : key.encode ≠ "" := by
  intro he
  have hempty := decode_encode key
  rw [he] at hempty
  cases hempty

theorem decode_of_written {bytes : List UInt8}
    (h : Base64.Written bytes (trimBlanks s.toList)) : decode s = ofBytes bytes := by
  rw [decode, Base64.decode_eq_ok_iff.2 h]

/-- A text is the written form of bytes, or it is refused for its form. -/
theorem decode_cases (s : String) :
    (∃ bytes, Base64.Written bytes (trimBlanks s.toList) ∧ decode s = ofBytes bytes) ∨
      (∀ bytes, ¬ Base64.Written bytes (trimBlanks s.toList)) ∧
        ∃ e : Base64Error, decode s = .error (.badEncoding e.message) := by
  cases hd : Base64.decode (trimBlanks s.toList) with
  | ok bytes =>
    have hw := Base64.decode_eq_ok_iff.1 hd
    exact .inl ⟨bytes, hw, decode_of_written hw⟩
  | error e =>
    refine .inr ⟨fun bytes hw => ?_, e, by rw [decode, hd]⟩
    cases (Base64.decode_eq_ok_iff.2 hw).symm.trans hd

/-- A key is read from its stored form, and from nothing else. -/
theorem decode_eq_ok_iff {key : KeyMaterial} :
    decode s = .ok key ↔ trimBlanks s.toList = key.encode.toList := by
  rw [← written_bytes_iff]
  constructor
  · intro h
    rcases decode_cases s with ⟨bytes, hw, hd⟩ | ⟨-, e, hd⟩
    · rw [hd, ofBytes] at h
      split at h
      · obtain rfl := Except.ok.inj h
        exact hw
      · cases h
    · cases hd.symm.trans h
  · intro hw
    rw [decode_of_written hw, ofBytes, dif_pos key.length_bytes]

/-- Too few bytes or too many are refused for their number. -/
theorem decode_eq_badLength_iff {expected actual : Nat} :
    decode s = .error (.badLength expected actual) ↔
      expected = size ∧ actual ≠ size ∧
        ∃ bytes, bytes.length = actual ∧ Base64.Written bytes (trimBlanks s.toList) := by
  constructor
  · intro h
    rcases decode_cases s with ⟨bytes, hw, hd⟩ | ⟨-, e, hd⟩
    · rw [hd, ofBytes] at h
      split at h
      · cases h
      · next hlen =>
        cases h
        exact ⟨rfl, hlen, bytes, rfl, hw⟩
    · cases hd.symm.trans h
  · rintro ⟨rfl, hlen, bytes, rfl, hw⟩
    rw [decode_of_written hw, ofBytes, dif_neg hlen]

/-- Everything else is refused for its form. -/
theorem decode_eq_badEncoding_iff :
    (∃ detail, decode s = .error (.badEncoding detail)) ↔
      ∀ bytes, ¬ Base64.Written bytes (trimBlanks s.toList) := by
  constructor
  · rintro ⟨detail, h⟩ bytes hw
    rw [decode_of_written hw, ofBytes] at h
    split at h <;> cases h
  · intro h
    rcases decode_cases s with ⟨bytes, hw, -⟩ | ⟨-, e, hd⟩
    · exact absurd hw (h bytes)
    · exact ⟨_, hd⟩

end KeyMaterial

theorem Bootstrap.keyOf_toDocument {record : KeyRecord} {key : KeyMaterial}
    (h : record.masterKey = key.encode) (hd : record.created.Dated) :
    keyOf record.toDocument = .ok key := by
  have hne : record.masterKey ≠ "" := h ▸ key.encode_ne_empty
  unfold keyOf
  rw [KeyRecord.ofDocument_toDocument hne hd]
  show (KeyMaterial.decode record.masterKey).mapError SyncError.crypto = .ok key
  rw [h, KeyMaterial.decode_encode]
  rfl

/-- **The stored form of a key is the one text that it is read from.**  Blanks around a text aside,
a text is read as a key exactly if it is the stored form of the key, which is the written form of
its bytes; the written form of more bytes or fewer is refused for their number, and every other text
for its form.  So whoever reads the document of a key gets the key, and the time at which it was
made. -/
theorem KeyMaterial.decode_canonical :
    (∀ s key, decode s = .ok key ↔ trimBlanks s.toList = key.encode.toList) ∧
    (∀ (key : KeyMaterial) cs, Base64.Written key.bytes cs ↔ cs = key.encode.toList) ∧
    (∀ s expected actual, decode s = .error (.badLength expected actual) ↔
      expected = size ∧ actual ≠ size ∧
        ∃ bytes, bytes.length = actual ∧ Base64.Written bytes (trimBlanks s.toList)) ∧
    (∀ s, (∃ detail, decode s = .error (.badEncoding detail)) ↔
      ∀ bytes, ¬ Base64.Written bytes (trimBlanks s.toList)) ∧
    ∀ (key : KeyMaterial) (t : Instant), t.Exact →
      let record : KeyRecord := ⟨key.encode, t⟩
      KeyRecord.ofDocument record.toDocument = .ok record ∧
      decode record.masterKey = .ok key ∧ Bootstrap.keyOf record.toDocument = .ok key := by
  refine ⟨fun _ _ => decode_eq_ok_iff, fun _ _ => written_bytes_iff,
    fun _ _ _ => decode_eq_badLength_iff, fun _ => decode_eq_badEncoding_iff, ?_⟩
  rintro key t ⟨hdated, hexact⟩ record
  refine ⟨?_, decode_encode key, Bootstrap.keyOf_toDocument rfl hdated⟩
  rw [KeyRecord.ofDocument_toDocument key.encode_ne_empty hdated]
  exact congrArg (fun t => Except.ok (KeyRecord.mk key.encode t)) hexact

/-- A key that was stored before the epoch. -/
theorem KeyMaterial.decode_canonical_of_uniform :
    let t : Instant := .ofMillis (-1)
    let record : KeyRecord := ⟨(uniform 9).encode, t⟩
    t.Exact ∧ KeyRecord.ofDocument record.toDocument = .ok record ∧
      decode record.masterKey = .ok (uniform 9) ∧
      Bootstrap.keyOf record.toDocument = .ok (uniform 9) := by
  intro t record
  have hexact : t.Exact := by decide
  obtain ⟨-, -, -, -, hread⟩ := KeyMaterial.decode_canonical
  exact ⟨hexact, hread (uniform 9) t hexact⟩

end ModelFleet
