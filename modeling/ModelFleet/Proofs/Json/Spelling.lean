import ModelFleet.Json.Parser
import ModelFleet.Json.Printer
import ModelFleet.Proofs.Json.Reading

/-!
# Texts are read back as they were written

A text spells a document if it is made of the texts of its parts, without blanks between them and
with the members of objects in any order (`Spells`).  A text that spells a document is read as that
document (`read_of_isText`), and `render` spells a document whose numbers are integers of 64 bits
and whose parts are not nested too deeply (`isText_render`).
-/

namespace ModelFleet.Json

/-! ### Texts -/

/-- The characters of a text as they stand between its quotes. -/
def escaped (cs : List Char) : List Char := cs.flatMap fun c => (escapeChar c).toList

theorem toList_renderText (s : String) :
    (renderText s).toList = '"' :: (escaped s.toList ++ ['"']) := by
  simp [renderText, escaped, List.flatMap_map]

theorem readUnit_of_digits (high low : Fin 16) (rest : List Char) :
    readUnit ('0' :: '0' :: Hex.toChar high :: Hex.toChar low :: rest) =
      .ok (16 * high.val + low.val, rest) := by
  have hzero : Hex.ofChar? '0' = some 0 := by decide
  simp [readUnit, hzero, Hex.ofChar?_toChar]

/-- A control character is read back from its number. -/
theorem readEscape_control {c : Char} (hc : c.toNat < 32) (rest : List Char) :
    readEscape ('u' :: '0' :: '0' :: (Hex.ofByte (.ofNat c.toNat) ++ rest)) = .ok (c, rest) := by
  have hbyte : (UInt8.ofNat c.toNat).toNat = c.toNat := Nat.mod_eq_of_lt (by omega)
  have hsum : 16 * (c.toNat / 16 % 16) + c.toNat % 16 = c.toNat := by omega
  have hunit := readUnit_of_digits (Hex.lastDigit (c.toNat / 16)) (Hex.lastDigit c.toNat) rest
  simp only [Hex.lastDigit, hsum] at hunit
  show readEscapedUnit _ = _
  rw [Hex.ofByte, hbyte, readEscapedUnit]
  simp only [List.cons_append, List.nil_append, Hex.lastDigit, hunit]
  show (if 0xDC00 ≤ c.toNat ∧ c.toNat < 0xE000 then _ else _) = _
  rw [if_neg (by omega), if_neg (by omega), Char.ofNat_toNat]
  rfl

/-- A character is read back from where it stands in a text. -/
theorem readCharacters_escapeChar (fuel : Nat) (acc : List Char) (c : Char) (rest : List Char) :
    readCharacters (fuel + 1) acc ((escapeChar c).toList ++ rest) =
      readCharacters fuel (c :: acc) rest := by
  unfold escapeChar
  split
  case h_8 =>
    split
    · next hc =>
      have hchars : ("\\u00" ++ Hex.ofBytes [UInt8.ofNat c.toNat]).toList ++ rest =
          '\\' :: 'u' :: '0' :: '0' :: (Hex.ofByte (.ofNat c.toNat) ++ rest) := by
        simp [Hex.ofBytes]
      rw [hchars, readCharacters, readEscape_control hc]
      rfl
    · next hc =>
      simp only [String.toList_singleton, List.singleton_append]
      rw [readCharacters.eq_def]
      simp [hc]
  all_goals rfl

theorem readCharacters_escaped (cs : List Char) (acc rest : List Char) {fuel : Nat}
    (h : cs.length < fuel) :
    readCharacters fuel acc (escaped cs ++ '"' :: rest) = .ok (cs.reverse ++ acc, rest) := by
  induction cs generalizing acc fuel with
  | nil =>
    cases fuel with
    | zero => cases h
    | succ fuel => rfl
  | cons c cs ih =>
    cases fuel with
    | zero => cases h
    | succ fuel =>
      rw [escaped] at ih ⊢
      rw [List.flatMap_cons, List.append_assoc, readCharacters_escapeChar,
        ih _ (Nat.lt_of_succ_lt_succ h), List.reverse_cons, List.append_assoc]
      rfl

theorem length_le_escaped (cs : List Char) : cs.length ≤ (escaped cs).length := by
  induction cs with
  | nil => exact Nat.le_refl _
  | cons c cs ih =>
    have hc : 0 < (escapeChar c).toList.length := by
      unfold escapeChar
      split <;> try decide
      split <;> simp
    rw [escaped] at ih ⊢
    rw [List.flatMap_cons, List.length_append, List.length_cons]
    omega

theorem readText_escaped (s : String) (rest : List Char) :
    readText (escaped s.toList ++ '"' :: rest) = .ok (s, rest) := by
  have hfuel : s.toList.length < (escaped s.toList ++ '"' :: rest).length + 1 := by
    have hlength := length_le_escaped s.toList
    rw [List.length_append]
    omega
  rw [readText, readCharacters_escaped s.toList [] rest hfuel]
  simp

/-! ### Numerals -/

/-- Whether a numeral ends before these characters. -/
def Ends (rest : List Char) : Prop :=
  ∀ c ∈ rest.head?, c.isDigit = false ∧ c ≠ '.' ∧ c ≠ 'e' ∧ c ≠ 'E'

theorem Ends.isDigit {rest : List Char} (h : Ends rest) : rest.head?.any Char.isDigit = false := by
  cases rest with
  | nil => rfl
  | cons c rest => exact (h c rfl).1

theorem exists_toDigits (n : Nat) :
    ∃ c digits, Nat.toDigits 10 n = c :: digits ∧ c.isDigit = true := by
  cases hd : Nat.toDigits 10 n with
  | nil => exact absurd hd Nat.toDigits_ne_nil
  | cons c digits =>
    exact ⟨c, digits, rfl,
      Nat.isDigit_of_mem_toDigits (by decide) (by decide) (hd ▸ List.mem_cons_self)⟩

/-- The digits of a number begin with a zero only if the number is zero. -/
theorem head?_toDigits_ne {n : Nat} (hn : 0 < n) : (Nat.toDigits 10 n).head? ≠ some '0' := by
  induction n using Nat.strongRecOn with
  | ind n ih =>
    by_cases h : n < 10
    · rw [Nat.toDigits_of_lt_base h]
      have hdigit : ∀ d < 10, 0 < d → d.digitChar ≠ '0' := by decide
      simpa using hdigit n h hn
    · rw [Nat.toDigits_of_base_le (by decide) (by omega), List.head?_append]
      obtain ⟨c, digits, hd, -⟩ := exists_toDigits (n / 10)
      simpa [hd] using ih (n / 10) (by omega) (by omega)

theorem readDigits_of_ends {digits rest : List Char} (hd : ∀ c ∈ digits, c.isDigit = true)
    (hr : Ends rest) : readDigits (digits ++ rest) = (digits, rest) := by
  have hrest : rest.takeWhile Char.isDigit = [] ∧ rest.dropWhile Char.isDigit = rest := by
    cases rest with
    | nil => exact ⟨rfl, rfl⟩
    | cons c rest => simp [(hr c rfl).1]
  rw [readDigits, List.takeWhile_append_of_pos hd, List.dropWhile_append_of_pos hd, hrest.1,
    hrest.2, List.append_nil]

theorem readWhole_toDigits (n : Nat) {rest : List Char} (hr : Ends rest) :
    readWhole (Nat.toDigits 10 n ++ rest) = .ok (Nat.toDigits 10 n, rest) := by
  have hd : ∀ c ∈ Nat.toDigits 10 n, c.isDigit = true := fun c hc =>
    Nat.isDigit_of_mem_toDigits (by decide) (by decide) hc
  rcases Nat.eq_zero_or_pos n with rfl | hn
  · show readWhole ('0' :: rest) = _
    rw [readWhole, hr.isDigit]
    rfl
  · obtain ⟨c, digits, hdigits, -⟩ := exists_toDigits n
    unfold readWhole
    split
    · next heq =>
      have hzero := head?_toDigits_ne hn
      rw [hdigits] at hzero heq
      exact absurd (congrArg some (List.cons.inj heq).1) hzero
    · rw [readSomeDigits, readDigits_of_ends hd hr, hdigits]
      rfl

namespace Numeral

theorem absorb_eq {n : Nat} {digits : List Char} (h : Nat.ofDigitChars 10 digits n ≤ wordMax) :
    absorb n digits = (Nat.ofDigitChars 10 digits n, []) := by
  induction digits generalizing n with
  | nil => rfl
  | cons c digits ih =>
    rw [Nat.ofDigitChars_cons] at h ⊢
    have hle : 10 * n + digitValue c ≤ Nat.ofDigitChars 10 digits (10 * n + digitValue c) := by
      rw [Nat.ofDigitChars_eq_ofDigitChars_zero]
      exact Nat.le_add_right_of_le (Nat.le_mul_of_pos_left _ (Nat.pow_pos (by decide)))
    rw [absorb, if_pos (Nat.le_trans hle h)]
    exact ih h

theorem absorb_toDigits {n : Nat} (h : n < 2 ^ 64) : absorb 0 (Nat.toDigits 10 n) = (n, []) := by
  have hn := Nat.ofDigitChars_ten_toDigits (n := n)
  rw [absorb_eq] <;> rw [hn]
  exact Nat.le_sub_one_of_lt h

end Numeral

theorem readFraction_of_ends {rest : List Char} (hr : Ends rest) :
    readFraction rest = .ok ([], rest) := by
  unfold readFraction
  split
  · exact absurd rfl (hr _ rfl).2.1
  · rfl

theorem readExponent_of_ends {rest : List Char} (hr : Ends rest) :
    readExponent rest = .ok (none, rest) := by
  cases rest with
  | nil => rfl
  | cons c rest =>
    obtain ⟨-, -, he, hE⟩ := hr c rfl
    rw [readExponent, if_neg (by simp [he, hE])]

theorem readNumeral_nat {n : Nat} (hn : n < 2 ^ 64) {rest : List Char} (hr : Ends rest) :
    readNumeral (Nat.toDigits 10 n ++ rest) = .ok (.int n, rest) := by
  have hw := readWhole_toDigits n hr
  have hv : Numeral.value ⟨false, Nat.toDigits 10 n, [], none⟩ = some (.int n) := by
    simp [Numeral.value, Numeral.absorb_toDigits hn]
  obtain ⟨c, digits, hd, hdigit⟩ := exists_toDigits n
  have hc : c ≠ '-' := by
    rintro rfl
    cases hdigit
  rw [hd] at hw hv ⊢
  rw [List.cons_append] at hw ⊢
  simp [readNumeral, hc, hw, readFraction_of_ends hr, readExponent_of_ends hr, hv, bind,
    Except.bind, pure, Except.pure]

theorem readNumeral_neg {n : Nat} (hpos : 0 < n) (hn : n ≤ 2 ^ 63) {rest : List Char}
    (hr : Ends rest) :
    readNumeral ('-' :: (Nat.toDigits 10 n ++ rest)) = .ok (.int (-n), rest) := by
  have hw := readWhole_toDigits n hr
  have hv : Numeral.value ⟨true, Nat.toDigits 10 n, [], none⟩ = some (.int (-n)) := by
    rw [Numeral.value]
    simp only [Numeral.absorb_toDigits (Nat.lt_of_le_of_lt hn (by decide))]
    rw [if_neg (by decide), if_neg (by omega)]
  simp [readNumeral, hw, readFraction_of_ends hr, readExponent_of_ends hr, hv, bind, Except.bind,
    pure, Except.pure]

/-! ### Lists and objects -/

/-- Whether a reader makes a value of a text, whatever follows. -/
def Reads.Undoes {α : Type} (item : Reads α) (text : List Char) (a : α) : Prop :=
  ∀ rest, Ends rest → item (text ++ rest) = .ok (a, rest)

/-- Whether a text begins like an item between brackets. -/
def Begins (b : Brackets) (text : List Char) : Prop :=
  ∃ c cs, text = c :: cs ∧ isSpace c = false ∧ c ≠ b.close

/-- Whether a bracket can be told from everything else. -/
structure Brackets.Sound (b : Brackets) : Prop where
  space : isSpace b.close = false
  comma : b.close ≠ ','
  ends : ∀ rest, Ends (b.close :: rest)

theorem listBrackets_sound : listBrackets.Sound :=
  ⟨by decide, by decide, fun rest c hc => by cases hc; decide⟩

theorem objectBrackets_sound : objectBrackets.Sound :=
  ⟨by decide, by decide, fun rest c hc => by cases hc; decide⟩

theorem ends_comma (rest : List Char) : Ends (',' :: rest) := fun c hc => by cases hc; decide

theorem skipSpace_cons {c : Char} (h : isSpace c = false) (cs : List Char) :
    skipSpace (c :: cs) = c :: cs := List.dropWhile_cons_of_neg (by simp [h])

section Items

variable {α : Type} {b : Brackets} {item : Reads α} {spelled : List (List Char × α)}

/-- Texts with commas between them. -/
def joined (texts : List (List Char)) : List Char := [','].intercalate texts

theorem joined_cons_cons (s t : List Char) (texts : List (List Char)) :
    joined (s :: t :: texts) = s ++ ',' :: joined (t :: texts) := by
  simp [joined, List.intercalate]

theorem joined_singleton (s : List Char) : joined [s] = s := by simp [joined, List.intercalate]

theorem length_le_joined (texts : List (List Char)) : texts.length ≤ (joined texts).length + 1 := by
  induction texts with
  | nil => exact Nat.zero_le _
  | cons s rest ih =>
    cases rest with
    | nil => simp
    | cons t rest =>
      rw [joined_cons_cons, List.length_cons]
      simp only [List.length_append, List.length_cons] at ih ⊢
      omega

theorem Begins.joined {s : List Char} (h : Begins b s) (texts : List (List Char)) :
    Begins b (joined (s :: texts)) := by
  obtain ⟨c, cs, rfl, hc⟩ := h
  cases texts with
  | nil => exact ⟨c, cs, by simp [Json.joined, List.intercalate], hc⟩
  | cons t texts => exact ⟨c, _, by rw [joined_cons_cons]; rfl, hc⟩

theorem readItems_joined (hb : b.Sound) {s : List Char × α}
    (h : ∀ t ∈ s :: spelled, item.Undoes t.1 t.2 ∧ Begins b t.1) (acc : List α) (rest : List Char)
    {fuel : Nat} (hf : spelled.length < fuel) :
    readItems b item fuel acc (joined ((s :: spelled).map (·.1)) ++ b.close :: rest) =
      .ok (((s :: spelled).map (·.2)).reverse ++ acc, rest) := by
  obtain ⟨fuel, rfl⟩ := Nat.exists_eq_succ_of_ne_zero (Nat.ne_zero_of_lt hf)
  have hs := (h s List.mem_cons_self).1
  induction spelled generalizing s acc fuel with
  | nil =>
    have hitem := hs (b.close :: rest) (hb.ends rest)
    simp [readItems, joined_singleton, hitem, skipSpace_cons hb.space, hb.comma, bind, Except.bind]
  | cons t spelled ih =>
    have hrest := fun u hu => h u (List.mem_cons_of_mem s hu)
    obtain ⟨c, later, htext, hc, hclose⟩ :=
      (hrest t List.mem_cons_self).2.joined (spelled.map (·.1))
    obtain ⟨fuel, rfl⟩ := Nat.exists_eq_succ_of_ne_zero (n := fuel)
      (Nat.ne_zero_of_lt (Nat.lt_of_succ_lt_succ hf))
    have hread := ih hrest (s.2 :: acc) fuel (Nat.lt_of_succ_lt_succ hf)
      (hrest t List.mem_cons_self).1
    rw [List.map_cons, htext, List.cons_append] at hread
    have hitem := hs (',' :: (c :: (later ++ b.close :: rest))) (ends_comma _)
    rw [List.map_cons, List.map_cons, joined_cons_cons, htext, List.append_assoc, List.cons_append,
      List.cons_append, readItems]
    simp [hitem, skipSpace_cons hc, skipSpace_cons (show isSpace ',' = false by decide), hclose,
      hread, bind, Except.bind]

theorem readBracketed_joined (hb : b.Sound)
    (h : ∀ t ∈ spelled, item.Undoes t.1 t.2 ∧ Begins b t.1) (rest : List Char) :
    readBracketed b item (joined (spelled.map (·.1)) ++ b.close :: rest) =
      .ok (spelled.map (·.2), rest) := by
  cases spelled with
  | nil => simp [readBracketed, joined, List.intercalate, skipSpace_cons hb.space]
  | cons s spelled =>
    obtain ⟨c, later, htext, hc, hclose⟩ := (h s List.mem_cons_self).2.joined (spelled.map (·.1))
    have hlength := length_le_joined (s.1 :: spelled.map (·.1))
    rw [htext, List.length_cons, List.length_map] at hlength
    have hfuel : spelled.length < (c :: (later ++ b.close :: rest)).length + 1 := by
      simp only [List.length_cons, List.length_append] at hlength ⊢
      omega
    have hread := readItems_joined hb h [] rest hfuel
    rw [List.map_cons, htext, List.cons_append] at hread ⊢
    rw [readBracketed, skipSpace_cons hc]
    simp only [if_neg hclose, hread]
    simp [bind, Except.bind, pure, Except.pure]

end Items

/-! ### Documents -/

/-- The text of a member whose value has a text. -/
def memberText (key : String) (text : List Char) : List Char :=
  (renderText key).toList ++ ':' :: text

/-- **Which texts a document has**, when it is nested no deeper than `depth`; the members of its
objects may come in any order. -/
inductive Spells : (depth : Nat) → (text : List Char) → Json → Prop
  | null {depth : Nat} : Spells depth ['n', 'u', 'l', 'l'] .null
  | true {depth : Nat} : Spells depth ['t', 'r', 'u', 'e'] (.bool true)
  | false {depth : Nat} : Spells depth ['f', 'a', 'l', 's', 'e'] (.bool false)
  | int {depth : Nat} {n : Int} (hmin : -2 ^ 63 ≤ n) (hmax : n < 2 ^ 64) :
      Spells depth (toString n).toList (.int n)
  | str {depth : Nat} (s : String) : Spells depth (renderText s).toList (.str s)
  | arr {depth : Nat} {items : List (List Char × Json)}
      (h : ∀ item ∈ items, Spells depth item.1 item.2) :
      Spells (depth + 1) ('[' :: (joined (items.map (·.1)) ++ [']'])) (.arr (items.map (·.2)))
  | obj {depth : Nat} {members : List (String × List Char × Json)}
      (h : ∀ m ∈ members, Spells depth m.2.1 m.2.2) :
      Spells (depth + 1)
        ('\x7b' :: (joined (members.map fun m => memberText m.1 m.2.1) ++ ['\x7d']))
        (object (members.map fun m => (m.1, m.2.2)))

theorem toList_toString_int (n : Int) : (toString n).toList =
    if 0 ≤ n then Nat.toDigits 10 n.toNat else '-' :: Nat.toDigits 10 (-n).toNat := by
  cases n with
  | ofNat m =>
    show (toString m).toList = _
    simp
  | negSucc m =>
    show ("-" ++ toString (m + 1)).toList = _
    simp

theorem readValue_of_digit {depth : Nat} {c : Char} {cs : List Char} (hc : c.isDigit = true) :
    readValue depth (c :: cs) = readNumeral (c :: cs) := by
  unfold readValue
  split
  case h_8 heq =>
    rw [← (List.cons.inj heq).1, if_pos hc]
  case h_9 heq => cases heq
  all_goals
    next heq => exact absurd hc (by rw [(List.cons.inj heq).1]; decide)

theorem readValue_int {depth : Nat} {n : Int} (hmin : -2 ^ 63 ≤ n) (hmax : n < 2 ^ 64) :
    (readValue depth).Undoes (toString n).toList (.int n) := by
  intro rest hr
  rw [toList_toString_int]
  split
  · next hn =>
    have hread := readNumeral_nat (n := n.toNat) (by omega) hr
    obtain ⟨c, digits, hd, hc⟩ := exists_toDigits n.toNat
    rw [hd, List.cons_append] at hread ⊢
    rw [readValue_of_digit hc, hread, Int.toNat_of_nonneg hn]
  · next hn =>
    have hread := readNumeral_neg (n := (-n).toNat) (by omega) (by omega) hr
    rw [Int.toNat_of_nonneg (by omega), Int.neg_neg] at hread
    rw [List.cons_append, readValue, hread]

theorem begins_of_isDigit {c : Char} {cs : List Char} (hc : c.isDigit = true) :
    Begins listBrackets (c :: cs) := by
  refine ⟨c, cs, rfl, ?_, ?_⟩
  · refine Bool.eq_false_iff.2 fun hs => ?_
    simp only [isSpace, Bool.or_eq_true, beq_iff_eq] at hs
    rcases hs with ((rfl | rfl) | rfl) | rfl <;> cases hc
  · rintro rfl
    cases hc

theorem begins_int (n : Int) : Begins listBrackets (toString n).toList := by
  rw [toList_toString_int]
  split
  · obtain ⟨c, digits, hd, hc⟩ := exists_toDigits n.toNat
    rw [hd]
    exact begins_of_isDigit hc
  · exact ⟨'-', _, rfl, by decide, by decide⟩

/-- Nothing that is written looks like the end of a list. -/
theorem Spells.begins {depth : Nat} {text : List Char} {v : Json} (h : Spells depth text v) :
    Begins listBrackets text := by
  cases h with
  | null => exact ⟨'n', _, rfl, by decide, by decide⟩
  | true => exact ⟨'t', _, rfl, by decide, by decide⟩
  | false => exact ⟨'f', _, rfl, by decide, by decide⟩
  | int => exact begins_int _
  | str s => exact ⟨'"', _, toList_renderText s, by decide, by decide⟩
  | arr => exact ⟨'[', _, rfl, by decide, by decide⟩
  | obj => exact ⟨'\x7b', _, rfl, by decide, by decide⟩

theorem begins_memberText (key : String) (text : List Char) :
    Begins objectBrackets (memberText key text) := by
  rw [memberText, toList_renderText, List.cons_append]
  exact ⟨'"', _, rfl, by decide, by decide⟩

theorem readMember_memberText {depth : Nat} {key : String} {text : List Char} {v : Json}
    (h : (readValue depth).Undoes text v) (hb : Begins listBrackets text) :
    (readMember (readValue depth)).Undoes (memberText key text) (key, v) := by
  intro rest hr
  obtain ⟨c, cs, htext, hc, -⟩ := hb
  have hkey := readText_escaped key (':' :: (text ++ rest))
  have hvalue := h rest hr
  have hmember : memberText key text ++ rest =
      '"' :: (escaped key.toList ++ '"' :: ':' :: (text ++ rest)) := by
    simp [memberText, toList_renderText]
  have hspace : skipSpace (text ++ rest) = text ++ rest := by
    rw [htext, List.cons_append, skipSpace_cons hc]
  rw [hmember, readMember]
  simp [hkey, skipSpace_cons (show isSpace ':' = false by decide), hspace, hvalue, bind,
    Except.bind, pure, Except.pure]

/-- What spells a document is read as that document. -/
theorem Spells.undoes {depth : Nat} {text : List Char} {v : Json} (h : Spells depth text v) :
    (readValue depth).Undoes text v := by
  induction h with
  | null => exact fun rest _ => by rw [readValue.eq_def]; rfl
  | true => exact fun rest _ => by rw [readValue.eq_def]; rfl
  | false => exact fun rest _ => by rw [readValue.eq_def]; rfl
  | int hmin hmax => exact readValue_int hmin hmax
  | str s =>
    intro rest hr
    have htext : (renderText s).toList ++ rest = '"' :: (escaped s.toList ++ '"' :: rest) := by
      simp [toList_renderText]
    rw [htext, readValue, readText_escaped]
    rfl
  | @arr depth items h ih =>
    intro rest hr
    have hread : readBracketed listBrackets (readValue depth)
        (joined (items.map (·.1)) ++ ']' :: rest) = .ok (items.map (·.2), rest) :=
      readBracketed_joined listBrackets_sound
        (fun item hi => ⟨ih item hi, (h item hi).begins⟩) rest
    rw [List.cons_append, List.append_assoc, List.singleton_append, readValue, hread]
    rfl
  | @obj depth members h ih =>
    intro rest hr
    have hread : readBracketed objectBrackets (readMember (readValue depth))
        (joined ((members.map fun m => (memberText m.1 m.2.1, m.1, m.2.2)).map (·.1)) ++
          '\x7d' :: rest) =
        .ok ((members.map fun m => (memberText m.1 m.2.1, m.1, m.2.2)).map (·.2), rest) := by
      refine readBracketed_joined objectBrackets_sound (fun t ht => ?_) rest
      obtain ⟨m, hm, rfl⟩ := List.mem_map.1 ht
      exact ⟨readMember_memberText (ih m hm) (h m hm).begins, begins_memberText ..⟩
    simp only [List.map_map, Function.comp_def] at hread
    rw [List.cons_append, List.append_assoc, List.singleton_append, readValue, hread]
    rfl

/-- Whether a text spells a document that can be read. -/
def IsText (text : String) (v : Json) : Prop := Spells maxDepth text.toList v

/-- **A text that spells a document is read as that document.** -/
theorem read_of_isText {text : String} {v : Json} (h : IsText text v) : read text = .ok v := by
  obtain ⟨c, cs, htext, hc, -⟩ := Spells.begins h
  have hvalue := Spells.undoes h [] nofun
  rw [List.append_nil] at hvalue
  have hspace : skipSpace text.toList = text.toList := by rw [htext, skipSpace_cons hc]
  rw [read, readDocument, hspace, hvalue]
  rfl

/-! ### What is rendered -/

/-- Whether the numbers of a document are integers of 64 bits, signed or unsigned, the members of
its objects are in order, and it is nested no deeper than `depth`. -/
inductive Plain : (depth : Nat) → Json → Prop
  | null {depth : Nat} : Plain depth .null
  | bool {depth : Nat} (value : Bool) : Plain depth (.bool value)
  | int {depth : Nat} {n : Int} (hmin : -2 ^ 63 ≤ n) (hmax : n < 2 ^ 64) : Plain depth (.int n)
  | str {depth : Nat} (s : String) : Plain depth (.str s)
  | arr {depth : Nat} {items : List Json} (h : ∀ item ∈ items, Plain depth item) :
      Plain (depth + 1) (.arr items)
  | obj {depth : Nat} {members : List (String × Json)} (hs : Entries.Sorted members)
      (h : ∀ m ∈ members, Plain depth m.2) : Plain (depth + 1) (.obj members)

theorem renderItems_eq_map (items : List Json) : renderItems items = items.map render := by
  induction items with
  | nil => rfl
  | cons item rest ih => rw [renderItems, ih, List.map_cons]

theorem renderMembers_eq_map (members : List (String × Json)) :
    renderMembers members = members.map fun m => renderText m.1 ++ ":" ++ render m.2 := by
  induction members with
  | nil => rfl
  | cons m rest ih => rw [renderMembers, ih, List.map_cons]

/-- **A plain document is spelled by what is rendered of it.** -/
theorem spells_render {depth : Nat} {v : Json} (h : Plain depth v) :
    Spells depth v.render.toList v := by
  induction h with
  | null => simpa [render] using Spells.null
  | bool value =>
    cases value
    · simpa [render] using Spells.false
    · simpa [render] using Spells.true
  | int hmin hmax => exact .int hmin hmax
  | str s => exact .str s
  | @arr depth items h ih =>
    have hs := @Spells.arr depth (items.map fun item => (item.render.toList, item))
      (List.forall_mem_map.2 ih)
    have htext : (render (.arr items)).toList =
        '[' :: (joined (items.map fun item => item.render.toList) ++ [']']) := by
      simp [render, renderItems_eq_map, joined, String.toList_intercalate, Function.comp_def]
    simp only [List.map_map, Function.comp_def, List.map_id'] at hs
    rwa [htext]
  | @obj depth members hsorted h ih =>
    have hs := @Spells.obj depth (members.map fun m => (m.1, m.2.render.toList, m.2))
      (List.forall_mem_map.2 ih)
    have htext : (render (.obj members)).toList =
        '\x7b' :: (joined (members.map fun m => memberText m.1 m.2.render.toList) ++ ['\x7d']) := by
      simp [render, renderMembers_eq_map, joined, memberText, String.toList_intercalate,
        Function.comp_def]
    simp only [List.map_map, Function.comp_def, List.map_id', object,
      Entries.ofList_of_sorted hsorted] at hs
    rwa [htext]

theorem Plain.mono {depth depth' : Nat} {v : Json} (h : Plain depth v) (hle : depth ≤ depth') :
    Plain depth' v := by
  induction h generalizing depth' with
  | null => exact .null
  | bool value => exact .bool value
  | int hmin hmax => exact .int hmin hmax
  | str s => exact .str s
  | arr h ih =>
    obtain ⟨deeper, rfl⟩ := Nat.exists_eq_add_of_le hle
    rw [Nat.add_right_comm]
    exact .arr fun item hi => ih item hi (Nat.le_add_right ..)
  | obj hs h ih =>
    obtain ⟨deeper, rfl⟩ := Nat.exists_eq_add_of_le hle
    rw [Nat.add_right_comm]
    exact .obj hs fun m hm => ih m hm (Nat.le_add_right ..)

theorem Plain.object {depth : Nat} {members : List (String × Json)}
    (h : ∀ m ∈ members, Plain depth m.2) : Plain (depth + 1) (object members) :=
  .obj (Entries.ofList_sorted members) fun m hm => h m (Entries.mem_of_mem_ofList hm)

theorem Plain.nat {depth n : Nat} (h : n < 2 ^ 64) : Plain depth (.int n) :=
  .int (by omega) (by omega)

theorem isText_render {depth : Nat} {v : Json} (h : Plain depth v) (hd : depth ≤ maxDepth) :
    IsText v.render v := spells_render (h.mono hd)

end ModelFleet.Json
