import ModelFleet.Proofs.Key.Encoding
import ModelFleet.Proofs.Model.Rewrite
import ModelFleet.Proofs.Run.Bootstrap

/-!
# One search for the key

Everything that one step of a search can do, whatever the reply: `Outcome` lists it, and
`resume_outcome` says that the list is complete.  So a search ends after four requests at the most
(`search_ends`), and ends as the one that created the key exactly when the store takes its offer
(`Outcome.taken_iff`).

`keyIn` is the key that stands in a document.  A document that can be used holds one
(`keyIn_of_keyOf`), and a fresh document holds the key that was drawn (`keyIn_toDocument`).
-/

namespace ModelFleet

namespace Bootstrap

open Outside

/-! ### The key in a document -/

/-- The key that stands in a document. -/
def keyIn (source : Json) : Option KeyMaterial :=
  ((source.get? KeyRecord.keyField).bind Json.text?).bind fun s => (KeyMaterial.decode s).toOption

theorem keyIn_toDocument {record : KeyRecord} {key : KeyMaterial}
    (h : record.masterKey = key.encode) : keyIn record.toDocument = some key := by
  have hg : record.toDocument.get? KeyRecord.keyField = some (.str key.encode) := by
    have hne : KeyRecord.keyField ≠ KeyRecord.createdField := by decide
    simp [KeyRecord.toDocument, Json.object, Json.get?, Entries.ofList, Entries.get?_insert, hne, h]
  rw [keyIn, hg]
  show (KeyMaterial.decode key.encode).toOption = some key
  rw [KeyMaterial.decode_encode]
  rfl

theorem get?_of_readText {field text : String} {members : List (String × Json)}
    (h : Document.readText field members = .ok (some text)) :
    Json.get? field (.obj members) = some (.str text) := by
  show Entries.get? field members = _
  unfold Document.readText Json.present? at h
  cases hg : Entries.get? field members with
  | none => simp [hg] at h
  | some value => cases value <;> simp [hg] at h; rw [h]

theorem eq_some_of_demand {α : Type} {field : String} {o : Option α} {a : α}
    (h : Document.demand field o = .ok a) : o = some a := by
  cases o with
  | none => cases h
  | some b =>
    cases h
    rfl

theorem get?_of_ofDocument {source : Json} {record : KeyRecord}
    (h : KeyRecord.ofDocument source = .ok record) :
    source.get? KeyRecord.keyField = some (.str record.masterKey) := by
  cases source with
  | obj members =>
    obtain ⟨text, ht, h₁⟩ := Except.exists_of_bind h
    obtain ⟨key, hk, h₂⟩ := Except.exists_of_bind h₁
    obtain ⟨time, -, h₃⟩ := Except.exists_of_bind h₂
    obtain ⟨created, -, h₄⟩ := Except.exists_of_bind h₃
    cases h₄
    apply get?_of_readText
    rw [ht]
    exact congrArg Except.ok (Option.eq_some_of_filter_eq_some (eq_some_of_demand hk))
  | _ => cases h

theorem keyIn_of_keyOf {source : Json} {key : KeyMaterial} (h : keyOf source = .ok key) :
    keyIn source = some key := by
  unfold keyOf at h
  cases hr : KeyRecord.ofDocument source with
  | error e =>
    rw [hr] at h
    cases h
  | ok record =>
    rw [hr] at h
    have hd : KeyMaterial.decode record.masterKey = .ok key := by
      change (KeyMaterial.decode record.masterKey).mapError SyncError.crypto = .ok key at h
      cases hd : KeyMaterial.decode record.masterKey with
      | error e =>
        rw [hd] at h
        cases h
      | ok k =>
        rw [hd] at h
        exact congrArg Except.ok (Except.ok.inj h)
    rw [keyIn, get?_of_ofDocument hr]
    show (KeyMaterial.decode record.masterKey).toOption = some key
    rw [hd]
    rfl

/-! ### What a reply says -/

section Replies

variable (collection keyId : String)

/-- The document of the key that a reply shows to be stored. -/
def learned : (b : Bootstrap) → (b.request collection keyId).Reply → Option Json
  | queueing, _ => none
  | reading, reply | rereading, reply =>
    match reply with
    | .ok source => source
    | .error _ => none
  | creating _ record, reply =>
    match reply with
    | .ok () => some record.toDocument
    | .error _ => none

/-- Whether a reply says that the store has taken the key on offer. -/
def taken : (b : Bootstrap) → (b.request collection keyId).Reply → Bool
  | queueing, _ | reading, _ | rereading, _ => false
  | creating _ _, reply => reply.isOk

/-- Whether a search hears, when it first asks, that no key is stored. -/
def misses : (b : Bootstrap) → (b.request collection keyId).Reply → Bool
  | queueing, _ | creating _ _, _ | rereading, _ => false
  | reading, reply =>
    match reply with
    | .ok none => true
    | _ => false

/-! ### What a step does -/

/-- **Everything that a step can do**: what comes next, and the daemon after it. -/
inductive Outcome (b : Bootstrap) (reply : (b.request collection keyId).Reply) (d : Daemon) :
    Next Bootstrap Result × Daemon → Prop
  | begins (hb : b = .queueing) :
      Outcome b reply d (.wait .reading, { d with keySought := true })
  | fails (e : SyncError) (hm : misses collection keyId b reply = false)
      (ht : taken collection keyId b reply = false) :
      Outcome b reply d (.over (.error e), { d with keySought := false })
  | refuses (hm : misses collection keyId b reply = true) (hr : d.ring.refuses = true) :
      Outcome b reply d
        (.over (.error (.crypto .poisoned)), { d with ring := d.ring.draw, keySought := false })
  | offers (hm : misses collection keyId b reply = true) (hr : d.ring.refuses = false) :
      Outcome b reply d
        (.wait (.creating d.ring.next ⟨d.ring.next.encode, d.clock⟩),
          { d with
            ring := { d.ring.draw with
              held := some d.ring.next, installs := d.ring.installs + 1 } })
  | creates (key : KeyMaterial) (record : KeyRecord) (hb : b = .creating key record)
      (hl : learned collection keyId b reply = some record.toDocument)
      (ht : taken collection keyId b reply = true) :
      Outcome b reply d
        (.over (.ok .created),
          { d with
            feed := d.feed.emit d.clock none (.masterKeyCreated key.fingerprint)
            keySought := false })
  | loses (key : KeyMaterial) (record : KeyRecord) (hb : b = .creating key record)
      (ht : taken collection keyId b reply = false) :
      Outcome b reply d (.wait .rereading, d)
  | holds (source : Json) (key : KeyMaterial)
      (hl : learned collection keyId b reply = some source) (hk : keyOf source = .ok key)
      (hf : d.ring.fingerprint = some key.fingerprint)
      (ht : taken collection keyId b reply = false) :
      Outcome b reply d (.over (.ok .alreadyInstalled), { d with keySought := false })
  | installs (source : Json) (key : KeyMaterial) (status : KeyStatus)
      (hl : learned collection keyId b reply = some source) (hk : keyOf source = .ok key)
      (hs : status ≠ .created) (ht : taken collection keyId b reply = false) :
      Outcome b reply d
        (.over (.ok status),
          { d with
            ring := { d.ring with held := some key, installs := d.ring.installs + 1 }
            feed := feedAfter status key d
            keySought := false })

variable {collection keyId}

/-- A search that reads a stored document. -/
theorem outcome_of_stored {b : Bootstrap} {reply : (b.request collection keyId).Reply} {d : Daemon}
    {source : Json} {status : KeyStatus} (hl : learned collection keyId b reply = some source)
    (hm : misses collection keyId b reply = false) (ht : taken collection keyId b reply = false)
    (hs : status ≠ .created) :
    Outcome collection keyId b reply d
      (.over ((installStored source status).run d).1,
        { ((installStored source status).run d).2 with keySought := false }) := by
  cases hk : keyOf source with
  | error e =>
    rw [installStored_of_error hk]
    exact .fails e hm ht
  | ok key =>
    by_cases hf : d.ring.fingerprint = some key.fingerprint
    · rw [installStored_of_held hk hf]
      exact .holds source key hl hk hf ht
    cases hr : d.ring.refuses with
    | true =>
      rw [installStored_of_refuses hk hf hr]
      exact .fails _ hm ht
    | false =>
      rw [installStored_of_new hk hf hr]
      exact .installs source key status hl hk hs ht

theorem resume_outcome (b : Bootstrap) (reply : (b.request collection keyId).Reply) (d : Daemon) :
    Outcome collection keyId b reply d ((resume collection keyId b reply).run d) := by
  cases b with
  | queueing => exact .begins rfl
  | reading =>
    match reply with
    | .error e => exact .fails _ rfl rfl
    | .ok (some source) => exact outcome_of_stored rfl rfl rfl (by decide)
    | .ok none =>
      show Outcome collection keyId .reading _ d (offer.run d)
      cases hr : d.ring.refuses with
      | true =>
        rw [offer_of_refuses hr]
        exact .refuses rfl hr
      | false =>
        rw [offer_of_accepts hr]
        exact .offers rfl hr
  | creating key record =>
    match reply with
    | .ok () => exact .creates key record rfl rfl rfl
    | .error (.conflict _) => exact .loses key record rfl rfl
    | .error (.notFound _) | .error (.invalidData _) | .error (.transport _) =>
      exact .fails _ rfl rfl
  | rereading =>
    match reply with
    | .error e => exact .fails _ rfl rfl
    | .ok none => exact .fails _ rfl rfl
    | .ok (some source) => exact outcome_of_stored rfl rfl rfl (by decide)

end Replies

section Facts

variable {collection keyId : String} {b : Bootstrap} {reply : (b.request collection keyId).Reply}
  {d : Daemon} {p : Next Bootstrap Result × Daemon}

theorem misses_of_ne (hb : b ≠ .reading) (reply : (b.request collection keyId).Reply) :
    misses collection keyId b reply = false := by
  cases b with
  | reading => exact absurd rfl hb
  | _ => rfl

theorem misses_reading_iff {reply : Except StoreError (Option Json)} :
    misses collection keyId .reading reply = true ↔ reply = .ok none := by
  constructor
  · intro h
    match reply with
    | .ok none => rfl
  · rintro rfl
    rfl

theorem eq_ok_of_learned {reply : Except StoreError (Option Json)} {source : Json}
    (h : learned collection keyId .reading reply = some source) : reply = .ok (some source) := by
  match reply, h with
  | .ok (some _), h => exact congrArg Except.ok h

theorem taken_of_learned {key : KeyMaterial} {record : KeyRecord} {reply : Except StoreError Unit}
    {source : Json} (h : learned collection keyId (.creating key record) reply = some source) :
    taken collection keyId (.creating key record) reply = true := by
  match reply, h with
  | .ok (), _ => rfl

theorem taken_of_ok (key : KeyMaterial) (record : KeyRecord) {reply : Except StoreError Unit}
    (h : reply = .ok ()) : taken collection keyId (.creating key record) reply = true := by
  subst h
  rfl

theorem taken_of_error (key : KeyMaterial) (record : KeyRecord) {reply : Except StoreError Unit}
    {e : StoreError} (h : reply = .error e) :
    taken collection keyId (.creating key record) reply = false := by
  subst h
  rfl

theorem learned_of_ok (key : KeyMaterial) (record : KeyRecord) {reply : Except StoreError Unit}
    (h : reply = .ok ()) :
    learned collection keyId (.creating key record) reply = some record.toDocument := by
  subst h
  rfl

theorem taken_of_misses (hm : misses collection keyId b reply = true) :
    taken collection keyId b reply = false := by
  cases b with
  | reading => rfl
  | _ => cases hm

/-- A search ends as the one that created the key exactly when the store takes its offer. -/
theorem Outcome.taken_iff (h : Outcome collection keyId b reply d p) :
    taken collection keyId b reply = true ↔ p.1 = .over (.ok .created) := by
  cases h with
  | begins hb =>
    subst hb
    simp [taken]
  | fails e _ ht => simp [ht]
  | refuses hm => simp [taken_of_misses hm]
  | offers hm => simp [taken_of_misses hm]
  | creates _ _ _ _ ht => simp [ht]
  | loses _ _ _ ht => simp [ht]
  | holds _ _ _ _ _ ht => simp [ht]
  | installs _ _ _ _ _ hs ht => simp [ht, hs]

end Facts

/-! ### A search ends -/

/-- How many requests come after the one that a search waits for, at the most. -/
def stepsLeft : Bootstrap → Nat
  | queueing => 3
  | reading => 2
  | creating .. => 1
  | rereading => 0

section Searches

variable {γ : Type} {out : Outside γ} {collection keyId : String} {s s' : State γ} {d d' : Daemon}

/-- A request of a search writes nothing unless the store takes the key on offer. -/
theorem store_of_not_taken {b : Bootstrap}
    (ht : taken collection keyId b (out.answer (b.request collection keyId) s).2 = false) :
    (out.answer (b.request collection keyId) s).1.store = out.meanwhile s.asked.length s.store := by
  cases b with
  | queueing => rfl
  | reading => rfl
  | rereading => rfl
  | creating key record =>
    rcases out.answer_create_cases collection keyId record.toDocument s with
      ⟨-, hr, -⟩ | ⟨e, -, hs⟩
    · exact absurd (ht.symm.trans (taken_of_ok key record hr)) Bool.false_ne_true
    · exact hs

/-- A step of a search, by its outcome. -/
theorem step_outcome (out : Outside γ) (collection keyId : String) (b : Bootstrap) (s : State γ)
    (d : Daemon) :
    ∃ p, Outcome collection keyId b (out.answer (b.request collection keyId) s).2
        { d with clock := out.time s.asked.length } p ∧
      out.step (job collection keyId) ⟨.wait b, s, d⟩ =
        .after p (out.answer (b.request collection keyId) s).1 :=
  ⟨_, resume_outcome b _ _, rfl⟩

theorem Outcome.stepsLeft_lt {b b' : Bootstrap} {reply : (b.request collection keyId).Reply}
    (h : Outcome collection keyId b reply d (.wait b', d')) : b'.stepsLeft < b.stepsLeft := by
  cases h with
  | begins hb =>
    subst hb
    decide
  | offers hm =>
    cases b with
    | reading => exact Nat.lt_succ_self 1
    | _ => cases hm
  | loses key record hb =>
    subst hb
    exact Nat.zero_lt_one

/-- **Every search ends.** -/
theorem search_ends (out : Outside γ) (b : Bootstrap) (s : State γ) (d : Daemon) :
    ∃ result s' d', Leads out (job collection keyId) ⟨.wait b, s, d⟩ (.ended result s' d') := by
  induction hn : b.stepsLeft using Nat.strongRecOn generalizing b s d with
  | ind n ih =>
    let s₁ := (out.answer (b.request collection keyId) s).1
    obtain ⟨⟨b₁ | result, d₁⟩, hp, hstep⟩ := step_outcome out collection keyId b s d
    · have hlt : b₁.stepsLeft < n := hn ▸ hp.stepsLeft_lt
      obtain ⟨result, s', d', h⟩ := ih b₁.stepsLeft hlt b₁ s₁ d₁ rfl
      refine ⟨result, s', d', .step ?_⟩
      rw [hstep]
      exact h
    · refine ⟨result, s₁, d₁, .step ?_⟩
      rw [hstep]
      exact .refl _

/-- A search that has ended took a step, unless it had ended before. -/
theorem outcome_of_leads {b : Bootstrap} {result : Result}
    (h : Leads out (job collection keyId) ⟨.wait b, s, d⟩ (.ended result s' d')) :
    ∃ p, Outcome collection keyId b (out.answer (b.request collection keyId) s).2
        { d with clock := out.time s.asked.length } p ∧
      Leads out (job collection keyId) (.after p (out.answer (b.request collection keyId) s).1)
        (.ended result s' d') := by
  obtain ⟨p, hp, hstep⟩ := step_outcome out collection keyId b s d
  cases h with
  | step h => exact ⟨p, hp, hstep ▸ h⟩

end Searches

end Bootstrap

end ModelFleet
