import ModelFleet.Proofs.Run.Frame

/-!
# Agreeing on the key, step by step

What the steps of the search for the master key do.  A stored key that cannot be read changes
nothing (`installStored_of_error`), and neither does one that is in use (`installStored_of_held`);
any other one is installed (`installStored_of_new`), unless the ring refuses keys.  A fresh key is
installed before it is offered (`offer_of_accepts`).

From these, `leads_of_healthy` says that a search succeeds when the store serves it, the ring
accepts keys, and a stored key can be read.
-/

namespace ModelFleet

theorem KeyRing.install_of_accepts {ring : KeyRing} (h : ring.refuses = false) (key : KeyMaterial) :
    ring.install key = .ok { ring with held := some key, installs := ring.installs + 1 } := by
  simp [install, h]

theorem KeyRing.install_of_refuses {ring : KeyRing} (h : ring.refuses = true) (key : KeyMaterial) :
    ring.install key = .error .poisoned := by
  simp [install, h]

namespace Bootstrap

open Outside

variable {source : Json} {key : KeyMaterial} {d : Daemon}

/-! ### Putting a key to use -/

theorem installStored_of_error {e : SyncError} (hk : keyOf source = .error e) (status : KeyStatus) :
    (installStored source status).run d = (.error e, d) := by
  unfold installStored
  rw [hk]
  rfl

theorem installStored_of_held (hk : keyOf source = .ok key)
    (hf : d.ring.fingerprint = some key.fingerprint) (status : KeyStatus) :
    (installStored source status).run d = (.ok .alreadyInstalled, d) := by
  unfold installStored
  rw [hk]
  show (if d.ring.fingerprint = some key.fingerprint then _ else _ : StateM Daemon Result).run d = _
  rw [if_pos hf]
  rfl

theorem installStored_of_refuses (hk : keyOf source = .ok key)
    (hf : d.ring.fingerprint ≠ some key.fingerprint) (hr : d.ring.refuses = true)
    (status : KeyStatus) :
    (installStored source status).run d = (.error (.crypto .poisoned), d) := by
  unfold installStored
  rw [hk]
  show (if d.ring.fingerprint = some key.fingerprint then _ else _ : StateM Daemon Result).run d = _
  rw [if_neg hf]
  simp [Daemon.install, KeyRing.install_of_refuses hr]
  rfl

/-- The feed after a stored key was installed. -/
def feedAfter (status : KeyStatus) (key : KeyMaterial) (d : Daemon) : Feed :=
  if status = .adopted then d.feed.emit d.clock none (.masterKeyAdopted key.fingerprint) else d.feed

theorem installStored_of_new (hk : keyOf source = .ok key)
    (hf : d.ring.fingerprint ≠ some key.fingerprint) (hr : d.ring.refuses = false)
    (status : KeyStatus) :
    (installStored source status).run d =
      (.ok status,
        { d with
          ring := { d.ring with held := some key, installs := d.ring.installs + 1 }
          feed := feedAfter status key d }) := by
  unfold installStored
  rw [hk]
  show (if d.ring.fingerprint = some key.fingerprint then _ else _ : StateM Daemon Result).run d = _
  rw [if_neg hf]
  simp [Daemon.install, KeyRing.install_of_accepts hr]
  cases status <;> rfl

theorem offer_of_refuses (hr : d.ring.refuses = true) :
    offer.run d =
      (.over (.error (.crypto .poisoned)), { d with ring := d.ring.draw, keySought := false }) := by
  have hd : d.ring.draw.refuses = true := hr
  simp [offer, Daemon.drawKey, Daemon.now, Daemon.install, KeyRing.install_of_refuses hd]
  rfl

theorem offer_of_accepts (hr : d.ring.refuses = false) :
    offer.run d =
      (.wait (.creating d.ring.next ⟨d.ring.next.encode, d.clock⟩),
        { d with
          ring := { d.ring.draw with
            held := some d.ring.next, installs := d.ring.installs + 1 } }) := by
  have hd : d.ring.draw.refuses = false := hr
  simp [offer, Daemon.drawKey, Daemon.now, Daemon.install, KeyRing.install_of_accepts hd]
  rfl

/-! ### A search that succeeds -/

/-- The ring accepts keys, and the key that is stored, if there is one, can be read. -/
structure Healthy (collection keyId : String) (store : MemoryStore) (d : Daemon) : Prop where
  accepts : d.ring.refuses = false
  readable : ∀ source, store.get? collection keyId = some source → ∃ key, keyOf source = .ok key

theorem installStored_of_accepts (hk : keyOf source = .ok key) (hr : d.ring.refuses = false)
    (status : KeyStatus) :
    ∃ status' d', (installStored source status).run d = (.ok status', d') ∧ d'.gate = d.gate := by
  by_cases hf : d.ring.fingerprint = some key.fingerprint
  · exact ⟨_, _, installStored_of_held hk hf status, rfl⟩
  · exact ⟨_, _, installStored_of_new hk hf hr status, rfl⟩

variable {γ : Type} {out : Outside γ} {collection keyId : String}

theorem resume_reading_some (source : Json) (d : Daemon) :
    (resume collection keyId .reading (.ok (some source))).run d =
      (.over ((installStored source .installed).run d).1,
        { ((installStored source .installed).run d).2 with keySought := false }) := rfl

/-- A search that finds the key that is stored. -/
theorem leads_of_some (hq : out.Quiet) {s : State γ} {d : Daemon} {source : Json}
    (hs : s.store.get? collection keyId = some source) (hk : keyOf source = .ok key)
    (hr : d.ring.refuses = false) :
    ∃ status d', Leads out (job collection keyId) ⟨.wait .queueing, s, d⟩
        (.ended (.ok status) ((s.note .turn).note (.fetch collection keyId)) d') ∧
      d'.gate = d.gate := by
  obtain ⟨status, d', hi, hg⟩ := installStored_of_accepts
    (d := { d with clock := out.time (s.note .turn).asked.length, keySought := true }) hk
    hr .installed
  refine ⟨status, { d' with keySought := false }, .next (answer_turn hq s) rfl
    (.next (answer_fetch hq collection keyId _) ?_ (.refl _)), hg⟩
  show (resume collection keyId .reading (.ok (s.store.get? collection keyId))).run _ = _
  rw [hs, resume_reading_some]
  exact congrArg (fun p : Result × Daemon => (Next.over p.1, { p.2 with keySought := false })) hi

/-- A search that finds no key and offers a fresh one. -/
theorem leads_of_none (hq : out.Quiet) {s : State γ} {d : Daemon}
    (hs : s.store.get? collection keyId = none) (hr : d.ring.refuses = false) :
    ∃ source s' d', Leads out (job collection keyId) ⟨.wait .queueing, s, d⟩
        (.ended (.ok .created) s' d') ∧
      s' = { (((s.note .turn).note (.fetch collection keyId)).note
          (.create collection keyId source)) with
        store := (s.store.create collection keyId source).1 } ∧
      d'.gate = d.gate := by
  -- the daemon when it is told that there is no key
  let d₁ : Daemon :=
    { d with clock := out.time (s.note .turn).asked.length, keySought := true }
  let record : KeyRecord := ⟨d₁.ring.next.encode, d₁.clock⟩
  obtain ⟨d₂, hoffer, hgate⟩ : ∃ d₂, offer.run d₁ =
      (.wait (.creating d₁.ring.next record), d₂) ∧ d₂.gate = d.gate :=
    ⟨_, offer_of_accepts hr, rfl⟩
  let t := out.time ((s.note .turn).note (.fetch collection keyId)).asked.length
  obtain ⟨d₃, hcreated, hgate'⟩ : ∃ d₃,
      (resume collection keyId (.creating d₁.ring.next record) (.ok ())).run
        { d₂ with clock := t } = (.over (.ok .created), d₃) ∧ d₃.gate = d.gate :=
    ⟨_, rfl, hgate⟩
  have hread : (resume collection keyId .reading (.ok (s.store.get? collection keyId))).run d₁ =
      (.wait (.creating d₁.ring.next record), d₂) := by
    rw [hs]
    exact hoffer
  have hc : (s.store.create collection keyId record.toDocument).2 = .ok () := by
    simp [MemoryStore.create, hs]
  have hwrite : (resume collection keyId (.creating d₁.ring.next record)
      (s.store.create collection keyId record.toDocument).2).run { d₂ with clock := t } =
      (.over (.ok .created), d₃) := by
    rw [hc]
    exact hcreated
  exact ⟨record.toDocument, _, d₃, .next (answer_turn hq s) rfl
    (.next (answer_fetch hq collection keyId _) hread
      (.next (answer_create hq collection keyId record.toDocument _) hwrite (.refl _))),
    rfl, hgate'⟩

/-- A search that can succeed does, and touches no collection but its own. -/
theorem leads_of_healthy (hq : out.Quiet) {s : State γ} {d : Daemon}
    (hh : Healthy collection keyId s.store d) :
    ∃ status s' d', Leads out (job collection keyId) ⟨.wait .queueing, s, d⟩
        (.ended (.ok status) s' d') ∧
      (∀ other, collection ≠ other → Untouched other s s') ∧
      s'.cluster = s.cluster ∧ d'.gate = d.gate := by
  have hread : ∀ other, Untouched other s ((s.note .turn).note (.fetch collection keyId)) :=
    fun other => (untouched_note rfl).trans (untouched_note rfl)
  cases hs : s.store.get? collection keyId with
  | some source =>
    obtain ⟨key, hk⟩ := hh.readable source hs
    obtain ⟨status, d', hl, hg⟩ := leads_of_some hq hs hk hh.accepts
    exact ⟨status, _, d', hl, fun other _ => hread other, rfl, hg⟩
  | none =>
    obtain ⟨source, s', d', hl, rfl, hg⟩ := leads_of_none hq hs hh.accepts
    exact ⟨.created, _, d', hl, fun other h => (hread other).trans (untouched_create h), rfl, hg⟩

end Bootstrap

end ModelFleet
