import Mathlib.Logic.Function.Basic
import ModelFleet.Proofs.Key.Search

/-!
# Daemons that agree on the key

Several daemons share a store and look for the key there.  A `Fleet` is where all their searches
stand; `Fleet.advance` lets one search take a step, and `Fleet.run` lets searches take steps in any
order.  Requests may fail and reads may miss what is there; only, nobody else writes the document of
the key.

* `searches_agree`: the store takes one key at the most and keeps it, and every search that ends
  well ends with the key that is stored.
* `Fleet.Coherent` is the invariant.  A search that has its turn is the only one of its daemon
  (`Coherent.queueing_of_ne`), so the key that it offers is still in use when the store takes it.
-/

namespace ModelFleet

/-! ### What is sent -/

/-- The events that a daemon has sent since an earlier moment. -/
def Daemon.sentSince (before after : Daemon) : List SyncEvent :=
  (after.feed.recent (after.feed.sent - before.feed.sent)).map (·.event)

/-- Whether an event says that a key was created. -/
def SyncEvent.isCreation : SyncEvent → Bool
  | masterKeyCreated _ => true
  | _ => false

theorem Daemon.creations_of_eq {before after : Daemon} (h : after.feed = before.feed) :
    (before.sentSince after).countP SyncEvent.isCreation = 0 := by
  simp [sentSince, h, Feed.recent]

theorem Daemon.creations_of_emit {before after : Daemon} {time : Instant} {cycle : Option CycleId}
    {event : SyncEvent} (h : after.feed = before.feed.emit time cycle event) :
    (before.sentSince after).countP SyncEvent.isCreation = event.isCreation.toNat := by
  have hn : after.feed.sent - before.feed.sent = 1 := by
    rw [h]
    exact Nat.add_sub_cancel_left ..
  have hs : before.sentSince after = [event] := by
    rw [sentSince, hn, h]
    simp [Feed.recent, Feed.emit, Feed.slide, Envelope.ofEvent]
  rw [hs, List.countP_singleton]
  cases event.isCreation <;> rfl

namespace Bootstrap

open Outside

/-! ### One step -/

/-- What a search needs to go on: it has its turn, and the key that it offers is in use. -/
structure Prepared (b : Bootstrap) (d : Daemon) : Prop where
  turn : b ≠ .queueing → d.keySought = true
  offered : ∀ key record, b = .creating key record →
    d.ring.held = some key ∧ record.masterKey = key.encode

section Steps

variable {collection keyId : String} {b b' : Bootstrap} {d d' : Daemon}
  {reply : (b.request collection keyId).Reply}

theorem Outcome.prepared (h : Outcome collection keyId b reply d (.wait b', d'))
    (hp : Prepared b d) : b' ≠ .queueing ∧ Prepared b' d' := by
  cases h with
  | begins => exact ⟨nofun, fun _ => rfl, nofun⟩
  | offers hm =>
    have hb : b ≠ .queueing := by
      rintro rfl
      cases hm
    refine ⟨nofun, fun _ => hp.turn hb, ?_⟩
    rintro key record hk
    cases hk
    exact ⟨rfl, rfl⟩
  | loses key record hb =>
    subst hb
    exact ⟨nofun, fun _ => hp.turn nofun, nofun⟩

/-- **A search that ends well holds the key of a document that it has learned to be stored.** -/
theorem Outcome.agrees {status : KeyStatus}
    (h : Outcome collection keyId b reply d (.over (.ok status), d')) (hp : Prepared b d) :
    ∃ source key, learned collection keyId b reply = some source ∧ keyIn source = some key ∧
      d'.ring.fingerprint = some key.fingerprint := by
  cases h with
  | creates key record hb hl =>
    obtain ⟨hheld, hr⟩ := hp.offered key record hb
    refine ⟨record.toDocument, key, hl, keyIn_toDocument hr, ?_⟩
    exact congrArg (Option.map (·.fingerprint)) hheld
  | holds source key hl hk hf => exact ⟨source, key, hl, keyIn_of_keyOf hk, hf⟩
  | installs source key _ hl hk => exact ⟨source, key, hl, keyIn_of_keyOf hk, rfl⟩

/-- A search says that a key was created exactly when the store takes it. -/
theorem Outcome.announced {p : Next Bootstrap Result × Daemon}
    (h : Outcome collection keyId b reply d p) :
    (d.sentSince p.2).countP SyncEvent.isCreation = (taken collection keyId b reply).toNat := by
  cases h with
  | begins hb =>
    subst hb
    exact Daemon.creations_of_eq rfl
  | fails _ _ ht =>
    rw [ht]
    exact Daemon.creations_of_eq rfl
  | refuses hm =>
    rw [taken_of_misses hm]
    exact Daemon.creations_of_eq rfl
  | offers hm =>
    rw [taken_of_misses hm]
    exact Daemon.creations_of_eq rfl
  | creates _ _ _ _ ht =>
    rw [ht]
    exact Eq.trans (Daemon.creations_of_emit rfl) rfl
  | loses _ _ _ ht =>
    rw [ht]
    exact Daemon.creations_of_eq rfl
  | holds _ _ _ _ _ ht =>
    rw [ht]
    exact Daemon.creations_of_eq rfl
  | installs source key status _ _ _ ht =>
    rw [ht]
    by_cases hs : status = .adopted
    · exact Eq.trans (Daemon.creations_of_emit (if_pos hs)) rfl
    · exact Daemon.creations_of_eq (if_neg hs)

end Steps

/-! ### The document of the key -/

/-- The document of the key, if it is stored. -/
def stored {γ : Type} (collection keyId : String) (s : State γ) : Option Json :=
  s.store.get? collection keyId

section Documents

variable {γ : Type} {out : Outside γ} {collection keyId : String} {b : Bootstrap} {s : State γ}
  (ha : out.Undisturbed collection keyId)
include ha

theorem stored_of_not_taken
    (ht : taken collection keyId b (out.answer (b.request collection keyId) s).2 = false) :
    stored collection keyId (out.answer (b.request collection keyId) s).1 =
      stored collection keyId s := by
  rw [stored, store_of_not_taken ht, ha]
  rfl

/-- The store takes a key only when it has none, and then has it. -/
theorem stored_of_taken
    (ht : taken collection keyId b (out.answer (b.request collection keyId) s).2 = true) :
    stored collection keyId s = none ∧
      ∃ source, learned collection keyId b (out.answer (b.request collection keyId) s).2 =
          some source ∧
        stored collection keyId (out.answer (b.request collection keyId) s).1 = some source := by
  cases b with
  | queueing => cases ht
  | reading => cases ht
  | rereading => cases ht
  | creating key record =>
    rcases out.answer_create_cases collection keyId record.toDocument s with
      ⟨hn, hr, hs⟩ | ⟨e, hr, -⟩
    · refine ⟨(ha _ _).symm.trans hn, record.toDocument, learned_of_ok key record hr, ?_⟩
      show (out.answer (.create collection keyId record.toDocument) s).1.store.get? _ _ = _
      rw [hs, MemoryStore.get?_put, if_pos ⟨rfl, rfl⟩]
    · exact absurd ((taken_of_error key record hr).symm.trans ht) Bool.false_ne_true

/-- What a search has learned to be stored is stored. -/
theorem stored_of_learned {source : Json}
    (hl : learned collection keyId b (out.answer (b.request collection keyId) s).2 =
      some source) :
    stored collection keyId (out.answer (b.request collection keyId) s).1 = some source := by
  cases b with
  | queueing => cases hl
  | reading => exact Fate.get?_of_fetch (eq_ok_of_learned hl)
  | rereading => exact Fate.get?_of_fetch (eq_ok_of_learned hl)
  | creating key record =>
    obtain ⟨-, source', hl', hs⟩ := stored_of_taken ha (taken_of_learned hl)
    rw [hs, ← hl', hl]

end Documents

/-! ### Many searches -/

/-- A step that a search has taken: where it stood before and after. -/
structure Turn (κ γ : Type) where
  call : κ
  before : Moment Bootstrap Result γ
  after : Moment Bootstrap Result γ

/-- Daemons that share a store, where each of their searches stands, and the steps taken so far. -/
structure Fleet (ι κ γ : Type) where
  outside : State γ
  daemons : ι → Daemon
  calls : κ → Next Bootstrap Result
  turns : List (Turn κ γ)

variable {ι κ γ : Type}

namespace Turn

/-- Whether the store takes a key at this step. -/
def accepted (out : Outside γ) (collection keyId : String) (t : Turn κ γ) : Bool :=
  match t.before.next with
  | .wait b => taken collection keyId b (out.answer (b.request collection keyId) t.before.outside).2
  | .over _ => false

/-- Whether the search ends at this step as the one that created the key. -/
def created (t : Turn κ γ) : Bool :=
  match t.after.next with
  | .over (.ok .created) => true
  | _ => false

theorem created_iff {t : Turn κ γ} :
    t.created = true ↔ t.after.next = .over (.ok .created) := by
  unfold created
  constructor
  · intro h
    split at h
    · next hn => exact hn
    · cases h
  · intro h
    rw [h]

/-- The events that are sent at this step. -/
def events (t : Turn κ γ) : List SyncEvent := t.before.daemon.sentSince t.after.daemon

/-- Whether the key in use after this step is the one that is stored. -/
def Agrees (collection keyId : String) (t : Turn κ γ) (s : State γ) : Prop :=
  ∃ source key, stored collection keyId s = some source ∧ keyIn source = some key ∧
    t.after.daemon.ring.fingerprint = some key.fingerprint

/-- The step that a search takes next. -/
def ofMoment (out : Outside γ) (collection keyId : String) (call : κ)
    (before : Moment Bootstrap Result γ) : Turn κ γ :=
  ⟨call, before, out.step (job collection keyId) before⟩

end Turn

namespace Fleet

/-- The fleet before the first search. -/
def fresh (outside : State γ) (daemons : ι → Daemon) : Fleet ι κ γ :=
  ⟨outside, daemons, fun _ => .wait .queueing, []⟩

section Moves

variable [DecidableEq ι] [DecidableEq κ] (out : Outside γ) (collection keyId : String)
  (owner : κ → ι)

/-- Whether a search can take no step: it is over, or it waits while another one of its daemon has
the turn. -/
def isBlocked (f : Fleet ι κ γ) (call : κ) : Bool :=
  match f.calls call with
  | .over _ => true
  | .wait .queueing => (f.daemons (owner call)).keySought
  | .wait _ => false

/-- The fleet after a step of one of its searches. -/
def record (f : Fleet ι κ γ) (t : Turn κ γ) : Fleet ι κ γ where
  outside := t.after.outside
  daemons := Function.update f.daemons (owner t.call) t.after.daemon
  calls := Function.update f.calls t.call t.after.next
  turns := f.turns ++ [t]

/-- Lets a search take a step, if it can. -/
def advance (f : Fleet ι κ γ) (call : κ) : Fleet ι κ γ :=
  if f.isBlocked owner call then f
  else
    f.record owner
      (.ofMoment out collection keyId call ⟨f.calls call, f.outside, f.daemons (owner call)⟩)

/-- Lets searches take steps one after the other. -/
def run (f : Fleet ι κ γ) (calls : List κ) : Fleet ι κ γ :=
  calls.foldl (advance out collection keyId owner) f

variable {owner}

theorem calls_record_self (f : Fleet ι κ γ) (t : Turn κ γ) :
    (f.record owner t).calls t.call = t.after.next := Function.update_self ..

theorem calls_record_of_ne (f : Fleet ι κ γ) {t : Turn κ γ} {call : κ} (h : call ≠ t.call) :
    (f.record owner t).calls call = f.calls call := Function.update_of_ne h ..

theorem daemons_record_self (f : Fleet ι κ γ) (t : Turn κ γ) :
    (f.record owner t).daemons (owner t.call) = t.after.daemon := Function.update_self ..

theorem daemons_record_of_ne (f : Fleet ι κ γ) {t : Turn κ γ} {i : ι} (h : i ≠ owner t.call) :
    (f.record owner t).daemons i = f.daemons i := Function.update_of_ne h ..

/-- What holds of the daemon that has moved and of all others holds of every daemon. -/
theorem forall_daemons_record {P : ι → Daemon → Prop} {f : Fleet ι κ γ} {t : Turn κ γ}
    (hself : P (owner t.call) t.after.daemon)
    (hrest : ∀ i, i ≠ owner t.call → P i (f.daemons i)) (i : ι) :
    P i ((f.record owner t).daemons i) := by
  by_cases hi : i = owner t.call
  · rw [hi, daemons_record_self]
    exact hself
  · rw [daemons_record_of_ne f hi]
    exact hrest i hi

end Moves

end Fleet

/-- What a turn does. -/
structure Turn.Sound (out : Outside γ) (collection keyId : String) (t : Turn κ γ) : Prop where
  prepared : ∀ b, t.after.next = .wait b → b ≠ .queueing ∧ Prepared b t.after.daemon
  accepted : (t.accepted out collection keyId).toNat +
    (stored collection keyId t.before.outside).isSome.toNat =
      (stored collection keyId t.after.outside).isSome.toNat
  kept : ∀ source, stored collection keyId t.before.outside = some source →
    stored collection keyId t.after.outside = some source
  created : t.created = t.accepted out collection keyId
  announced : t.events.countP SyncEvent.isCreation = (t.accepted out collection keyId).toNat
  agrees : ∀ status, t.after.next = .over (.ok status) →
    t.Agrees collection keyId t.after.outside

/-- **Every step of a search that is prepared is sound.** -/
theorem Turn.sound {out : Outside γ} {collection keyId : String}
    (ha : out.Undisturbed collection keyId) {call : κ} {b : Bootstrap} {s : State γ} {d : Daemon}
    (hp : Prepared b d) :
    (Turn.ofMoment out collection keyId call ⟨.wait b, s, d⟩).Sound out collection keyId := by
  let s' := (out.answer (b.request collection keyId) s).1
  obtain ⟨⟨next, d'⟩, ho, hstep⟩ := step_outcome out collection keyId b s d
  have hp' : Prepared b { d with clock := out.time s.asked.length } := ⟨hp.turn, hp.offered⟩
  have ht : Turn.ofMoment out collection keyId call ⟨.wait b, s, d⟩ =
      ⟨call, ⟨.wait b, s, d⟩, ⟨next, s', d'⟩⟩ := congrArg (Turn.mk call _) hstep
  rw [ht]
  refine ⟨?prepared, ?accepted, ?kept, ?created, ho.announced, ?agrees⟩
  case prepared =>
    rintro b₁ rfl
    exact ho.prepared hp'
  case accepted =>
    show (taken collection keyId b _).toNat + _ = _
    cases htaken : taken collection keyId b (out.answer (b.request collection keyId) s).2 with
    | true =>
      obtain ⟨hnone, source, -, hsome⟩ := stored_of_taken ha htaken
      simp [hnone, s', hsome]
    | false => simp [s', stored_of_not_taken ha htaken]
  case kept =>
    intro source hs
    cases htaken : taken collection keyId b (out.answer (b.request collection keyId) s).2 with
    | true =>
      obtain ⟨hnone, -⟩ := stored_of_taken ha htaken
      exact absurd (hnone.symm.trans hs) (by simp)
    | false => exact (stored_of_not_taken ha htaken).trans hs
  case created => exact Bool.eq_iff_iff.2 (created_iff.trans ho.taken_iff.symm)
  case agrees =>
    rintro status rfl
    obtain ⟨source, key, hl, hk, hf⟩ := ho.agrees hp'
    exact ⟨source, key, stored_of_learned ha hl, hk, hf⟩

theorem Turn.Agrees.of_kept {collection keyId : String} {t : Turn κ γ} {s s' : State γ}
    (hk : ∀ source, stored collection keyId s = some source →
      stored collection keyId s' = some source) (h : t.Agrees collection keyId s) :
    t.Agrees collection keyId s' := by
  obtain ⟨source, key, hs, hrest⟩ := h
  exact ⟨source, key, hk source hs, hrest⟩

theorem prepared_queueing (d : Daemon) : Prepared .queueing d :=
  ⟨fun h => absurd rfl h, nofun⟩

namespace Fleet

variable {out : Outside γ} {collection keyId : String} {owner : κ → ι}

/-- **The invariant of a fleet** in which the document of the key was `start` at first. -/
structure Coherent (out : Outside γ) (collection keyId : String) (owner : κ → ι)
    (start : Option Json) (f : Fleet ι κ γ) : Prop where
  prepared : ∀ call b, f.calls call = .wait b → Prepared b (f.daemons (owner call))
  alone : ∀ call other b b', f.calls call = .wait b → b ≠ .queueing →
    f.calls other = .wait b' → b' ≠ .queueing → owner call = owner other → call = other
  ended : ∀ call result, f.calls call = .over result ↔
    ∃ t ∈ f.turns, t.call = call ∧ t.after.next = .over result
  accepted : f.turns.countP (Turn.accepted out collection keyId) + start.isSome.toNat =
    (stored collection keyId f.outside).isSome.toNat
  created : f.turns.countP Turn.created = f.turns.countP (Turn.accepted out collection keyId)
  announced : (f.turns.flatMap Turn.events).countP SyncEvent.isCreation =
    f.turns.countP (Turn.accepted out collection keyId)
  agrees : ∀ t ∈ f.turns, ∀ status, t.after.next = .over (.ok status) →
    t.Agrees collection keyId t.after.outside ∧ t.Agrees collection keyId f.outside

theorem coherent_fresh (s : State γ) (daemons : ι → Daemon) :
    Coherent out collection keyId owner (stored collection keyId s)
      (fresh s daemons : Fleet ι κ γ) where
  prepared := by
    intro call b hb
    cases hb
    exact prepared_queueing _
  alone := by
    intro call other b b' hb hq
    cases hb
    exact absurd rfl hq
  ended := by simp [fresh]
  accepted := Nat.zero_add _
  created := rfl
  announced := rfl
  agrees := by simp [fresh]

theorem exists_wait_of_not_blocked {f : Fleet ι κ γ} {call : κ}
    (h : f.isBlocked owner call = false) :
    ∃ b, f.calls call = .wait b ∧
      (b = .queueing → (f.daemons (owner call)).keySought = false) := by
  unfold isBlocked at h
  rcases hn : f.calls call with b | result
  · refine ⟨b, rfl, ?_⟩
    rintro rfl
    simpa [hn] using h
  · simp [hn] at h

namespace Coherent

variable {start : Option Json} {f : Fleet ι κ γ} {call : κ}

/-- While a search can take a step, the other ones of its daemon wait for their turn. -/
theorem queueing_of_ne (h : Coherent out collection keyId owner start f)
    (hb : f.isBlocked owner call = false) {other : κ} (hne : other ≠ call)
    (ho : owner other = owner call) {b : Bootstrap} (hw : f.calls other = .wait b) :
    b = .queueing := by
  by_contra hq
  obtain ⟨b₀, hw₀, hsought⟩ := exists_wait_of_not_blocked hb
  by_cases hq₀ : b₀ = .queueing
  · have hturn := (h.prepared other b hw).turn hq
    rw [ho, hsought hq₀] at hturn
    cases hturn
  · exact hne (h.alone other call b b₀ hw hq hw₀ hq₀ ho)

variable [DecidableEq ι] [DecidableEq κ]

section Recording

variable {t : Turn κ γ} (h : Coherent out collection keyId owner start f)
  (hb : f.isBlocked owner t.call = false)
include h hb

theorem prepared_record
    (hp : ∀ b, t.after.next = .wait b → b ≠ .queueing ∧ Prepared b t.after.daemon) (call : κ)
    (b : Bootstrap) (hw : (f.record owner t).calls call = .wait b) :
    Prepared b ((f.record owner t).daemons (owner call)) := by
  by_cases hc : call = t.call
  · subst hc
    rw [calls_record_self] at hw
    rw [daemons_record_self]
    exact (hp b hw).2
  · rw [calls_record_of_ne f hc] at hw
    by_cases ho : owner call = owner t.call
    · rw [h.queueing_of_ne hb hc ho hw]
      exact prepared_queueing _
    · rw [daemons_record_of_ne f ho]
      exact h.prepared call b hw

theorem alone_record (call other : κ) (b b' : Bootstrap)
    (hw : (f.record owner t).calls call = .wait b) (hq : b ≠ .queueing)
    (hw' : (f.record owner t).calls other = .wait b') (hq' : b' ≠ .queueing)
    (ho : owner call = owner other) : call = other := by
  by_cases hc : call = t.call
  · by_cases hc' : other = t.call
    · rw [hc, hc']
    · rw [calls_record_of_ne f hc'] at hw'
      exact absurd (h.queueing_of_ne hb hc' (hc ▸ ho.symm) hw') hq'
  · rw [calls_record_of_ne f hc] at hw
    by_cases hc' : other = t.call
    · exact absurd (h.queueing_of_ne hb hc (hc' ▸ ho) hw) hq
    · rw [calls_record_of_ne f hc'] at hw'
      exact h.alone call other b b' hw hq hw' hq' ho

theorem ended_record (call : κ) (result : Result) :
    (f.record owner t).calls call = .over result ↔
      ∃ u ∈ f.turns ++ [t], u.call = call ∧ u.after.next = .over result := by
  simp only [List.mem_append, List.mem_singleton]
  by_cases hc : call = t.call
  · subst hc
    rw [calls_record_self]
    refine ⟨fun hn => ⟨t, .inr rfl, rfl, hn⟩, ?_⟩
    rintro ⟨u, hu | rfl, hcall, hn⟩
    · -- a search that takes a step was not over
      obtain ⟨b, hw, -⟩ := exists_wait_of_not_blocked hb
      have hover := (h.ended t.call result).2 ⟨u, hu, hcall, hn⟩
      rw [hw] at hover
      cases hover
    · exact hn
  · rw [calls_record_of_ne f hc, h.ended]
    constructor
    · rintro ⟨u, hu, hrest⟩
      exact ⟨u, .inl hu, hrest⟩
    · rintro ⟨u, hu | rfl, hcall, hn⟩
      · exact ⟨u, hu, hcall, hn⟩
      · exact absurd hcall.symm hc

theorem record (hbefore : t.before.outside = f.outside) (hs : t.Sound out collection keyId) :
    Coherent out collection keyId owner start (f.record owner t) := by
  have hcount : ∀ p : Turn κ γ → Bool,
      (f.turns ++ [t]).countP p = f.turns.countP p + (p t).toNat := by
    intro p
    rw [List.countP_append, List.countP_singleton]
    cases p t <;> rfl
  have hkept := hs.kept
  have haccepted := hs.accepted
  rw [hbefore] at hkept haccepted
  refine ⟨h.prepared_record hb hs.prepared, h.alone_record hb, h.ended_record hb, ?accepted,
    ?created, ?announced, ?agrees⟩
  case accepted =>
    show (f.turns ++ [t]).countP _ + _ = (stored collection keyId t.after.outside).isSome.toNat
    rw [hcount, ← haccepted, ← h.accepted]
    omega
  case created =>
    show (f.turns ++ [t]).countP _ = (f.turns ++ [t]).countP _
    rw [hcount, hcount, h.created, hs.created]
  case announced =>
    show ((f.turns ++ [t]).flatMap _).countP _ = (f.turns ++ [t]).countP _
    rw [hcount, List.flatMap_append, List.countP_append, h.announced, List.flatMap_singleton,
      hs.announced]
  case agrees =>
    intro u hu status hn
    rcases List.mem_append.1 hu with hu | hu
    · obtain ⟨hthen, hnow⟩ := h.agrees u hu status hn
      exact ⟨hthen, hnow.of_kept hkept⟩
    · rw [List.mem_singleton] at hu
      subst hu
      exact ⟨hs.agrees status hn, hs.agrees status hn⟩

end Recording

/-- A step is none at all, or a sound turn of a search that is not blocked. -/
theorem advance_cases (ha : out.Undisturbed collection keyId)
    (h : Coherent out collection keyId owner start f) (call : κ) :
    f.advance out collection keyId owner call = f ∨
      ∃ t : Turn κ γ, f.isBlocked owner t.call = false ∧ t.before.outside = f.outside ∧
        t.Sound out collection keyId ∧
        f.advance out collection keyId owner call = f.record owner t := by
  cases hb : f.isBlocked owner call with
  | true => exact .inl (if_pos hb)
  | false =>
    obtain ⟨b, hw, -⟩ := exists_wait_of_not_blocked hb
    refine .inr ⟨_, hb, rfl, ?_, if_neg (hb ▸ Bool.false_ne_true)⟩
    rw [hw]
    exact Turn.sound ha (h.prepared call b hw)

/-- **A step keeps the invariant.** -/
theorem advance (ha : out.Undisturbed collection keyId)
    (h : Coherent out collection keyId owner start f) (call : κ) :
    Coherent out collection keyId owner start (f.advance out collection keyId owner call) := by
  rcases h.advance_cases ha call with he | ⟨t, hb, hbefore, hs, he⟩
  · rw [he]
    exact h
  · rw [he]
    exact h.record hb hbefore hs

/-- A step leaves a stored document as it is. -/
theorem stored_advance (ha : out.Undisturbed collection keyId)
    (h : Coherent out collection keyId owner start f) (call : κ) {source : Json}
    (hs : stored collection keyId f.outside = some source) :
    stored collection keyId (f.advance out collection keyId owner call).outside = some source := by
  rcases h.advance_cases ha call with he | ⟨t, -, hbefore, ht, he⟩
  · rw [he]
    exact hs
  · rw [he]
    exact ht.kept source (hbefore ▸ hs)

/-- **A run keeps the invariant**, and a stored document as it is. -/
theorem run (ha : out.Undisturbed collection keyId)
    (h : Coherent out collection keyId owner start f) (calls : List κ) :
    Coherent out collection keyId owner start (f.run out collection keyId owner calls) ∧
      ∀ source, stored collection keyId f.outside = some source →
        stored collection keyId (f.run out collection keyId owner calls).outside =
          some source := by
  induction calls generalizing f with
  | nil => exact ⟨h, fun _ hs => hs⟩
  | cons call rest ih =>
    obtain ⟨hrun, hkept⟩ := ih (h.advance ha call)
    exact ⟨hrun, fun source hs => hkept source (h.stored_advance ha call hs)⟩

end Coherent

end Fleet

/-! ### The agreement -/

/-- What the searches of a fleet have agreed on. -/
structure Agreement (out : Outside γ) (collection keyId : String) (f : Fleet ι κ γ) : Prop where
  /-- The store has taken one key at the most. -/
  accepted : f.turns.countP (Turn.accepted out collection keyId) ≤ 1
  /-- One search at the most has ended as the one that created the key. -/
  created : ∀ call other, f.calls call = .over (.ok .created) →
    f.calls other = .over (.ok .created) → call = other
  /-- It was said once at the most that a key was created. -/
  announced : (f.turns.flatMap Turn.events).countP SyncEvent.isCreation ≤ 1
  /-- The searches that are over are those that have ended in some turn. -/
  ended : ∀ call result, f.calls call = .over result ↔
    ∃ t ∈ f.turns, t.call = call ∧ t.after.next = .over result
  /-- A search that ended well held the key that was stored then, and is stored now. -/
  agrees : ∀ t ∈ f.turns, ∀ status, t.after.next = .over (.ok status) →
    t.Agrees collection keyId t.after.outside ∧ t.Agrees collection keyId f.outside
  /-- Any two searches that ended well held the same key. -/
  same : ∀ t ∈ f.turns, ∀ u ∈ f.turns, ∀ status status', t.after.next = .over (.ok status) →
    u.after.next = .over (.ok status') →
    t.after.daemon.ring.fingerprint = u.after.daemon.ring.fingerprint

theorem Turn.Agrees.fingerprint_eq {collection keyId : String} {t u : Turn κ γ} {s : State γ}
    (h : t.Agrees collection keyId s) (g : u.Agrees collection keyId s) :
    t.after.daemon.ring.fingerprint = u.after.daemon.ring.fingerprint := by
  obtain ⟨source, key, hs, hk, hf⟩ := h
  obtain ⟨source', key', hs', hk', hf'⟩ := g
  obtain rfl : source = source' := Option.some.inj (hs.symm.trans hs')
  obtain rfl : key = key' := Option.some.inj (hk.symm.trans hk')
  rw [hf, hf']

theorem eq_of_countP_le_one {α : Type} {p : α → Bool} {l : List α} (h : l.countP p ≤ 1) {a b : α}
    (ha : a ∈ l) (hb : b ∈ l) (hpa : p a = true) (hpb : p b = true) : a = b := by
  have ha' : a ∈ l.filter p := List.mem_filter.2 ⟨ha, hpa⟩
  have hb' : b ∈ l.filter p := List.mem_filter.2 ⟨hb, hpb⟩
  rw [List.countP_eq_length_filter] at h
  match hf : l.filter p with
  | [] => simp [hf] at ha'
  | [x] =>
    rw [hf, List.mem_singleton] at ha' hb'
    rw [ha', hb']
  | x :: y :: rest =>
    rw [hf] at h
    simp at h

theorem Fleet.Coherent.agreement {out : Outside γ} {collection keyId : String} {owner : κ → ι}
    {start : Option Json} {f : Fleet ι κ γ}
    (h : Fleet.Coherent out collection keyId owner start f) :
    Agreement out collection keyId f := by
  have hone : f.turns.countP (Turn.accepted out collection keyId) ≤ 1 := by
    have hcount := h.accepted
    have hle := Bool.toNat_le (stored collection keyId f.outside).isSome
    omega
  refine ⟨hone, ?created, h.announced ▸ hone, h.ended, h.agrees, ?same⟩
  case created =>
    intro call other hc ho
    obtain ⟨t, ht, rfl, hn⟩ := (h.ended _ _).1 hc
    obtain ⟨u, hu, rfl, hn'⟩ := (h.ended _ _).1 ho
    have he := eq_of_countP_le_one (h.created ▸ hone) ht hu (Turn.created_iff.2 hn)
      (Turn.created_iff.2 hn')
    rw [he]
  case same =>
    intro t ht u hu status status' hn hn'
    exact (h.agrees t ht status hn).2.fingerprint_eq (h.agrees u hu status' hn').2

/-- **Searches agree on the key**, whatever the order of their steps, as long as nobody else writes
its document: the store takes one key at the most and keeps it, and every search that ends well ends
with the key that is stored. -/
theorem searches_agree [DecidableEq ι] [DecidableEq κ] (out : Outside γ) (collection keyId : String)
    (owner : κ → ι) (s : State γ) (daemons : ι → Daemon) (earlier later : List κ)
    (ha : out.Undisturbed collection keyId) :
    let f := (Fleet.fresh s daemons).run out collection keyId owner earlier
    let f' := f.run out collection keyId owner later
    Agreement out collection keyId f' ∧
      ∀ source, stored collection keyId f.outside = some source →
        stored collection keyId f'.outside = some source := by
  intro f f'
  obtain ⟨hf, -⟩ := (Fleet.coherent_fresh s daemons).run ha earlier
  obtain ⟨hf', hkept⟩ := hf.run ha later
  exact ⟨hf'.agreement, hkept⟩

/-- Two daemons find no key and offer one each, the second one too late. -/
theorem searches_agree_of_race :
    let out : Outside Unit :=
      ⟨fun _ => .ok [], fun _ cluster node => (cluster, .error (.unreachable node "gone")),
        fun _ _ => .served, fun _ store => store, fun _ => .ofMillis 0⟩
    let daemons (first : Bool) : Daemon :=
      .fresh (.ofMillis 0) (.empty fun _ => .uniform (if first then 1 else 2)) default
    let f : Fleet Bool Bool Unit := (Fleet.fresh ⟨∅, (), []⟩ daemons).run out "config" "key" id
      [true, false, true, false, true]
    let f' := f.run out "config" "key" id [false]
    f'.calls true = .over (.ok .created) ∧
      ∃ t ∈ f'.turns, t.call = true ∧ t.after.next = .over (.ok .created) ∧
        t.Agrees "config" "key" f'.outside := by
  intro out daemons f f'
  obtain ⟨h, -⟩ := searches_agree out "config" "key" id ⟨∅, (), []⟩ daemons
    [true, false, true, false, true] [false] fun _ _ => rfl
  have hover : f'.calls true = .over (.ok .created) := rfl
  obtain ⟨t, ht, hcall, hn⟩ := (h.ended _ _).1 hover
  exact ⟨hover, t, ht, hcall, hn, (h.agrees t ht _ hn).2⟩

end Bootstrap

end ModelFleet
