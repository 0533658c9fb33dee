import ModelFleet.Proofs.Key.Search

/-!
# Searches that fail

A search puts a fresh key to use before it offers it to the store.  So when the store does not take
the key and the search fails, the fresh key stays in use: `ring_of_failed_search` says exactly when
that happens, and that in all other cases the ring is left alone.  The store is always left alone
(`store_of_failed_search`).
-/

namespace ModelFleet

namespace Bootstrap

open Outside

variable {γ : Type} {out : Outside γ} {collection keyId : String} {s s' : State γ} {d d' : Daemon}
  {e : SyncError}

/-! ### The ring -/

/-- What a search is told when it first asks for the key. -/
def firstRead (out : Outside γ) (collection keyId : String) (s : State γ) :
    Except StoreError (Option Json) :=
  (out.answer (.fetch collection keyId) (out.answer .turn s).1).2

/-- Whether a search offers a fresh key: it is told that none is stored, and the ring accepts it. -/
def Offers (out : Outside γ) (collection keyId : String) (s : State γ) (d : Daemon) : Prop :=
  firstRead out collection keyId s = .ok none ∧ d.ring.refuses = false

/-- What holds from the offer of a key on: the ring stays as it is, unless the search ends well. -/
def Settled (ring : KeyRing) (m : Moment Bootstrap Result γ) : Prop :=
  match m.next with
  | .wait b => b ≠ .queueing ∧ b ≠ .reading ∧ m.daemon.ring = ring
  | .over (.error _) => m.daemon.ring = ring
  | .over (.ok _) => True

theorem settled_step (ring : KeyRing) (m : Moment Bootstrap Result γ) (h : Settled ring m) :
    Settled ring (out.step (job collection keyId) m) := by
  obtain ⟨b | result, s, d⟩ := m
  · obtain ⟨hq, hr, hring⟩ := h
    obtain ⟨p, hp, hstep⟩ := step_outcome out collection keyId b s d
    rw [hstep]
    cases hp with
    | begins hb => exact absurd hb hq
    | refuses hm => exact absurd ((misses_of_ne hr _).symm.trans hm) Bool.false_ne_true
    | offers hm => exact absurd ((misses_of_ne hr _).symm.trans hm) Bool.false_ne_true
    | fails e => exact hring
    | loses key record => exact ⟨by decide, by decide, hring⟩
    | creates key record => trivial
    | holds source key => trivial
    | installs source key status => trivial
  · exact h

/-- **The ring after a search that fails**: it holds the fresh key if one was offered, and is left
alone otherwise. -/
theorem ring_of_failed_search
    (h : Leads out (job collection keyId) ⟨.wait .queueing, s, d⟩ (.ended (.error e) s' d')) :
    (Offers out collection keyId s d →
      d'.ring.held = some d.ring.next ∧ d'.ring.installs = d.ring.installs + 1) ∧
    (¬ Offers out collection keyId s d →
      d'.ring.held = d.ring.held ∧ d'.ring.installs = d.ring.installs) := by
  have hread : Leads out (job collection keyId)
      ⟨.wait .reading, (out.answer .turn s).1,
        { d with clock := out.time s.asked.length, keySought := true }⟩
      (.ended (.error e) s' d') := by
    cases h with
    | step h => exact h
  obtain ⟨p, hp, hl⟩ := outcome_of_leads hread
  cases hp with
  | begins hb => cases hb
  | creates _ _ hb => cases hb
  | loses _ _ hb => cases hb
  | fails e₁ hm =>
    obtain ⟨-, -, rfl⟩ := hl.over_unique (.refl _)
    refine ⟨fun ho => ?_, fun _ => ⟨rfl, rfl⟩⟩
    exact absurd (hm.symm.trans (misses_reading_iff.2 ho.1)) Bool.false_ne_true
  | refuses hm hr =>
    obtain ⟨-, -, rfl⟩ := hl.over_unique (.refl _)
    refine ⟨fun ho => ?_, fun _ => ⟨rfl, rfl⟩⟩
    exact absurd (ho.2.symm.trans hr) Bool.false_ne_true
  | offers hm hr =>
    have hring : d'.ring = { d.ring.draw with
        held := some d.ring.next, installs := d.ring.installs + 1 } :=
      hl.keeps (settled_step _) ⟨nofun, nofun, rfl⟩
    refine ⟨fun _ => ?_, fun ho => absurd ⟨misses_reading_iff.1 hm, hr⟩ ho⟩
    rw [hring]
    exact ⟨rfl, rfl⟩
  | holds source key => cases (hl.over_unique (.refl _)).1
  | installs source key status => cases (hl.over_unique (.refl _)).1

/-- A store that can be read but takes no document, and no nodes. -/
def readOnly : Outside Unit where
  members _ := .ok []
  ask _ cluster node := (cluster, .error (.unreachable node "gone"))
  fate _ q :=
    match q with
    | .create .. => .failed (.transport "read only")
    | _ => .served
  meanwhile _ store := store
  time _ := .ofMillis 0

/-- The key that the store does not take stays in use. -/
theorem failed_search_keeps_fresh_key :
    ∃ s' d', Leads readOnly (job "config" "key")
        ⟨.wait .queueing, ⟨∅, (), []⟩, .fresh (.ofMillis 0) default default⟩
        (.ended (.error (.storage (.transport "read only"))) s' d') ∧
      d'.ring.held = some default ∧ d'.ring.installs = 1 := by
  have h : ∃ s' d', Leads readOnly (job "config" "key")
      ⟨.wait .queueing, ⟨∅, (), []⟩, .fresh (.ofMillis 0) default default⟩
      (.ended (.error (.storage (.transport "read only"))) s' d') :=
    ⟨_, _, .step (.step (.step (.refl _)))⟩
  obtain ⟨s', d', hl⟩ := h
  exact ⟨s', d', hl, (ring_of_failed_search hl).1 ⟨rfl, rfl⟩⟩

/-- Not every search that fails leaves the ring alone. -/
theorem not_ring_kept_by_failed_search :
    ¬ ∀ (out : Outside Unit) (collection keyId : String) (s s' : State Unit) (d d' : Daemon)
        (e : SyncError),
      Leads out (job collection keyId) ⟨.wait .queueing, s, d⟩ (.ended (.error e) s' d') →
        d'.ring.held = d.ring.held ∧ d'.ring.installs = d.ring.installs := by
  intro hkept
  -- the store is empty and takes nothing, and the daemon holds no key
  obtain ⟨hheld, -⟩ := hkept readOnly "config" "key" ⟨∅, (), []⟩ _
    (.fresh (.ofMillis 0) default default) _ _ (.step (.step (.step (.refl _))))
  cases hheld

/-! ### The store -/

/-- What holds all along: the store stays as it is, unless the search ends well. -/
def Unwritten (store : MemoryStore) (m : Moment Bootstrap Result γ) : Prop :=
  m.outside.store = store ∨ ∃ status, m.next = .over (.ok status)

theorem unwritten_step (ha : ∀ n store, out.meanwhile n store = store) (store : MemoryStore)
    (m : Moment Bootstrap Result γ) (h : Unwritten store m) :
    Unwritten store (out.step (job collection keyId) m) := by
  obtain ⟨b | result, s, d⟩ := m
  · rcases h with hs | ⟨status, hn⟩
    · obtain ⟨p, hp, hstep⟩ := step_outcome out collection keyId b s d
      rw [hstep]
      cases ht : taken collection keyId b (out.answer (b.request collection keyId) s).2 with
      | true => exact .inr ⟨_, hp.taken_iff.1 ht⟩
      | false => exact .inl (((store_of_not_taken ht).trans (ha _ _)).trans hs)
    · cases hn
  · exact h

/-- **A search that fails stores nothing**: if nobody else writes, the store stays as it is. -/
theorem store_of_failed_search (ha : ∀ n store, out.meanwhile n store = store)
    (h : Leads out (job collection keyId) ⟨.wait .queueing, s, d⟩ (.ended (.error e) s' d')) :
    s'.store = s.store := by
  rcases h.keeps (unwritten_step ha s.store) (.inl rfl) with hs | ⟨status, hn⟩
  · exact hs
  · cases hn

end Bootstrap

end ModelFleet
