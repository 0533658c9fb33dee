import Mathlib.Algebra.Order.BigOperators.Group.Finset
import ModelFleet.Proofs.Key.Agreement
import ModelFleet.Proofs.Key.Canonical

/-!
# Where the searches of daemons stand

A healthy store holds no key, and daemons without a key look for it, in searches that take their
steps in any order.

* `Progress` lists what one step of a search can do at such a store.
* Every step is one less that is left (`turns_add_left_advance`), so a fleet of searches takes four
  steps for each of them at the most (`turns_le`).
* What a daemon has done so far is told by where its searches stand (`Fleet.Standing`), since only
  one of them has its turn.  `Fleet.Orderly` is the invariant, and `Fleet.Orderly.run` says that
  every run keeps it.
-/

namespace ModelFleet

/-- A daemon that has no key and does not look for one. -/
structure Daemon.Keyless (d : Daemon) : Prop where
  held : d.ring.held = none
  installs : d.ring.installs = 0
  accepts : d.ring.refuses = false
  sought : d.keySought = false

namespace Bootstrap

open Outside

/-! ### One step at a healthy store -/

/-- **What a step of a search does at a healthy store**, which holds `found` under the identifier of
the key: what comes next, the daemon after it, and what the store holds then. -/
inductive Progress (found : Option Json) (d : Daemon) :
    Bootstrap → Next Bootstrap Result → Daemon → Option Json → Prop
  | begins : Progress found d .queueing (.wait .reading) { d with keySought := true } found
  | offers (hn : found = none) :
      Progress found d .reading (.wait (.creating d.ring.next ⟨d.ring.next.encode, d.clock⟩))
        { d with
          ring := { d.ring.draw with
            held := some d.ring.next, installs := d.ring.installs + 1 } }
        found
  | creates (key : KeyMaterial) (record : KeyRecord) (hn : found = none) :
      Progress found d (.creating key record) (.over (.ok .created))
        { d with
          feed := d.feed.emit d.clock none (.masterKeyCreated key.fingerprint)
          keySought := false }
        (some record.toDocument)
  | loses (key : KeyMaterial) (record : KeyRecord) (source : Json) (hs : found = some source) :
      Progress found d (.creating key record) (.wait .rereading) d found
  | holds (b : Bootstrap) (source : Json) (key : KeyMaterial) (hb : b = .reading ∨ b = .rereading)
      (hs : found = some source) (hk : keyOf source = .ok key)
      (hf : d.ring.fingerprint = some key.fingerprint) :
      Progress found d b (.over (.ok .alreadyInstalled)) { d with keySought := false } found
  | installs (b : Bootstrap) (source : Json) (key : KeyMaterial) (status : KeyStatus)
      (hb : b = .reading ∧ status = .installed ∨ b = .rereading ∧ status = .adopted)
      (hs : found = some source) (hk : keyOf source = .ok key)
      (hf : d.ring.fingerprint ≠ some key.fingerprint) :
      Progress found d b (.over (.ok status))
        { d with
          ring := { d.ring with held := some key, installs := d.ring.installs + 1 }
          feed := feedAfter status key d
          keySought := false }
        found

section Steps

variable {γ : Type} {out : Outside γ} {collection keyId : String} {b : Bootstrap} {s : State γ}
  {d : Daemon}

theorem progress_of_stored {found : Option Json} {source : Json} {key : KeyMaterial}
    {status : KeyStatus} (hr : d.ring.refuses = false)
    (hb : b = .reading ∧ status = .installed ∨ b = .rereading ∧ status = .adopted)
    (hs : found = some source) (hk : keyOf source = .ok key) :
    Progress found d b (.over ((installStored source status).run d).1)
      { ((installStored source status).run d).2 with keySought := false } found := by
  by_cases hf : d.ring.fingerprint = some key.fingerprint
  · rw [installStored_of_held hk hf]
    exact .holds b source key (hb.imp And.left And.left) hs hk hf
  · rw [installStored_of_new hk hf hr]
    exact .installs b source key status hb hs hk hf

theorem progress (hq : out.Quiet) (hr : d.ring.refuses = false)
    (hread : ∀ source, stored collection keyId s = some source → ∃ key, keyOf source = .ok key)
    (hlate : b = .rereading → stored collection keyId s ≠ none) :
    let m := out.step (job collection keyId) ⟨.wait b, s, d⟩
    Progress (stored collection keyId s) { d with clock := out.time s.asked.length } b m.next
      m.daemon (stored collection keyId m.outside) := by
  let d₁ : Daemon := { d with clock := out.time s.asked.length }
  show Progress (stored collection keyId s) d₁ b
    ((resume collection keyId b (out.answer (b.request collection keyId) s).2).run d₁).1
    ((resume collection keyId b (out.answer (b.request collection keyId) s).2).run d₁).2
    (stored collection keyId (out.answer (b.request collection keyId) s).1)
  cases b with
  | queueing =>
    rw [show out.answer (queueing.request collection keyId) s = _ from answer_turn hq s]
    exact .begins
  | reading =>
    rw [show out.answer (reading.request collection keyId) s = _ from
      answer_fetch hq collection keyId s]
    show Progress (stored collection keyId s) d₁ .reading
      ((resume collection keyId .reading (.ok (stored collection keyId s))).run d₁).1
      ((resume collection keyId .reading (.ok (stored collection keyId s))).run d₁).2
      (stored collection keyId s)
    cases hs : stored collection keyId s with
    | none =>
      have hoffer := offer_of_accepts (d := d₁) hr
      show Progress none d₁ .reading (offer.run d₁).1 (offer.run d₁).2 none
      rw [hoffer]
      exact .offers rfl
    | some source =>
      obtain ⟨key, hk⟩ := hread source hs
      rw [resume_reading_some]
      exact progress_of_stored hr (.inl ⟨rfl, rfl⟩) rfl hk
  | creating key record =>
    rw [show out.answer ((creating key record).request collection keyId) s = _ from
      answer_create hq collection keyId record.toDocument s]
    cases hs : stored collection keyId s with
    | none =>
      have hc : s.store.create collection keyId record.toDocument =
          (s.store.put collection keyId record.toDocument, .ok ()) := by
        simp [MemoryStore.create, show s.store.get? collection keyId = none from hs]
      rw [hc]
      have hput : stored collection keyId
          { s.note (.create collection keyId record.toDocument) with
            store := s.store.put collection keyId record.toDocument } =
          some record.toDocument := by
        show (s.store.put collection keyId record.toDocument).get? collection keyId = _
        rw [MemoryStore.get?_put, if_pos ⟨rfl, rfl⟩]
      rw [hput]
      exact .creates key record rfl
    | some source =>
      have hc : s.store.create collection keyId record.toDocument =
          (s.store, .error (.duplicate collection keyId)) := by
        simp [MemoryStore.create, show s.store.get? collection keyId = some source from hs]
      rw [hc]
      have hkept : stored collection keyId
          { s.note (.create collection keyId record.toDocument) with store := s.store } =
          some source := hs
      rw [hkept]
      exact .loses key record source rfl
  | rereading =>
    rw [show out.answer (rereading.request collection keyId) s = _ from
      answer_fetch hq collection keyId s]
    show Progress (stored collection keyId s) d₁ .rereading
      ((resume collection keyId .rereading (.ok (stored collection keyId s))).run d₁).1
      ((resume collection keyId .rereading (.ok (stored collection keyId s))).run d₁).2
      (stored collection keyId s)
    cases hs : stored collection keyId s with
    | none => exact absurd hs (hlate rfl)
    | some source =>
      obtain ⟨key, hk⟩ := hread source hs
      exact progress_of_stored hr (.inr ⟨rfl, rfl⟩) rfl hk

namespace Progress

variable {found found' : Option Json} {d' : Daemon} {next : Next Bootstrap Result}
  {P : KeyMaterial → Prop} (h : Progress found d b next d' found')
include h

/-- What a step leaves in a ring: a key that was drawn, or one that was stored. -/
theorem ring (hr : d.ring.refuses = false)
    (hread : ∀ source key, found = some source → keyOf source = .ok key → P key)
    (hheld : ∀ key, d.ring.held = some key → P key) (hnext : P d.ring.next) :
    d'.ring.refuses = false ∧ d'.ring.source = d.ring.source ∧
      ∀ key, d'.ring.held = some key → P key := by
  cases h with
  | offers =>
    refine ⟨hr, rfl, fun key hk => ?_⟩
    rw [← Option.some.inj hk]
    exact hnext
  | installs _ source key status _ hs hk =>
    refine ⟨hr, rfl, fun key' hk' => ?_⟩
    rw [← Option.some.inj hk']
    exact hread source key hs hk
  | _ => exact ⟨hr, rfl, hheld⟩

/-- After a step a search has its turn, or is over and has given the turn back. -/
theorem sought : (∃ b', next = .wait b' ∧ b' ≠ .queueing) ∨ d'.keySought = false := by
  cases h with
  | begins => exact .inl ⟨_, rfl, nofun⟩
  | offers => exact .inl ⟨_, rfl, nofun⟩
  | loses => exact .inl ⟨_, rfl, nofun⟩
  | _ => exact .inr rfl

/-- A step offers no key but a fresh one. -/
theorem offered (ht : d.clock.Dated) (hnext : P d.ring.next) {key : KeyMaterial}
    {record : KeyRecord} (hn : next = .wait (.creating key record)) :
    P key ∧ keyOf record.toDocument = .ok key := by
  cases h with
  | offers =>
    cases hn
    exact ⟨hnext, keyOf_toDocument rfl ht⟩
  | _ => cases hn

/-- A step stores no key but the one on offer. -/
theorem readable (hread : ∀ source, found = some source → ∃ key, keyOf source = .ok key ∧ P key)
    (hoffer : ∀ key record, b = .creating key record →
      P key ∧ keyOf record.toDocument = .ok key) :
    ∀ source, found' = some source → ∃ key, keyOf source = .ok key ∧ P key := by
  cases h with
  | creates key record =>
    rintro source ⟨⟩
    obtain ⟨hkey, hk⟩ := hoffer key record rfl
    exact ⟨key, hk, hkey⟩
  | _ => exact hread

end Progress

end Steps

/-! ### Every search ends -/

/-- How many steps a search has left, at the most. -/
def left : Next Bootstrap Result → Nat
  | .wait b => b.stepsLeft + 1
  | .over _ => 0

section Counting

variable {ι κ γ : Type} [DecidableEq ι] [DecidableEq κ] [Fintype κ] {out : Outside γ}
  {collection keyId : String} {owner : κ → ι}

theorem left_step_lt (b : Bootstrap) (s : State γ) (d : Daemon) :
    left (out.step (job collection keyId) ⟨.wait b, s, d⟩).next < b.stepsLeft + 1 := by
  obtain ⟨⟨next, d'⟩, ho, hstep⟩ := step_outcome out collection keyId b s d
  rw [hstep]
  obtain b' | result := next
  · exact Nat.succ_lt_succ ho.stepsLeft_lt
  · exact Nat.succ_pos _

variable (out collection keyId owner)

/-- **The steps that are taken and those that are left** do not become more. -/
theorem turns_add_left_advance (f : Fleet ι κ γ) (call : κ) :
    (f.advance out collection keyId owner call).turns.length +
        ∑ other, left ((f.advance out collection keyId owner call).calls other) ≤
      f.turns.length + ∑ other, left (f.calls other) := by
  cases hb : f.isBlocked owner call with
  | true => rw [Fleet.advance, if_pos hb]
  | false =>
    obtain ⟨b, hw, -⟩ := Fleet.exists_wait_of_not_blocked hb
    let t : Turn κ γ :=
      .ofMoment out collection keyId call ⟨.wait b, f.outside, f.daemons (owner call)⟩
    have he : f.advance out collection keyId owner call = f.record owner t := by
      rw [Fleet.advance, if_neg (hb ▸ Bool.false_ne_true), hw]
    have hself : left ((f.record owner t).calls call) < left (f.calls call) := by
      rw [show (f.record owner t).calls call = t.after.next from Fleet.calls_record_self f t, hw]
      exact left_step_lt b _ _
    have hsum : ∑ other, left ((f.record owner t).calls other) < ∑ other, left (f.calls other) := by
      refine Finset.sum_lt_sum (fun other _ => ?_) ⟨call, Finset.mem_univ call, hself⟩
      by_cases hc : other = call
      · rw [hc]
        exact Nat.le_of_lt hself
      · rw [Fleet.calls_record_of_ne f (t := t) hc]
    have hturns : (f.record owner t).turns.length = f.turns.length + 1 := List.length_append ..
    rw [he, hturns]
    omega

theorem turns_add_left_le (f : Fleet ι κ γ) (calls : List κ) :
    (f.run out collection keyId owner calls).turns.length +
        ∑ call, left ((f.run out collection keyId owner calls).calls call) ≤
      f.turns.length + ∑ call, left (f.calls call) := by
  induction calls generalizing f with
  | nil => exact Nat.le_refl _
  | cons call rest ih =>
    have hrest := ih (f.advance out collection keyId owner call)
    exact Nat.le_trans hrest (turns_add_left_advance out collection keyId owner f call)

/-- **A fleet of searches takes four steps for each of them, at the most.** -/
theorem turns_le (s : State γ) (daemons : ι → Daemon) (calls : List κ) :
    ((Fleet.fresh s daemons).run out collection keyId owner calls).turns.length ≤
      4 * Fintype.card κ := by
  have h := turns_add_left_le out collection keyId owner (Fleet.fresh s daemons) calls
  have hfour : ∑ call : κ, left ((Fleet.fresh s daemons : Fleet ι κ γ).calls call) =
      4 * Fintype.card κ := by
    rw [Nat.mul_comm]
    exact Finset.sum_const_nat fun call _ => rfl
  rw [hfour] at h
  have hzero : (Fleet.fresh s daemons : Fleet ι κ γ).turns.length = 0 := rfl
  omega

end Counting

/-! ### Where the searches of a daemon stand -/

namespace Fleet

variable {ι κ γ : Type} {out : Outside γ} {collection keyId : String} {owner : κ → ι}

/-- Some search of a daemon has ended with a stored key that the daemon adopted, because its own
offer came too late. -/
def Adopts (owner : κ → ι) (f : Fleet ι κ γ) (i : ι) : Prop :=
  ∃ call, owner call = i ∧ f.calls call = .over (.ok .adopted)

/-- How often a daemon has installed a key: twice if it has adopted one, and once otherwise. -/
structure Tallied (owner : κ → ι) (f : Fleet ι κ γ) (i : ι) : Prop where
  twice : Adopts owner f i → (f.daemons i).ring.installs = 2
  once : ¬ Adopts owner f i → (f.daemons i).ring.installs = 1

/-- A search that has not learned anything yet. -/
def Early (n : Next Bootstrap Result) : Prop := n = .wait .queueing ∨ n = .wait .reading

/-- A search that has not learned anything yet, or has ended well. -/
def EarlyOrDone (n : Next Bootstrap Result) : Prop := Early n ∨ ∃ status, n = .over (.ok status)

/-- **Where the searches of a daemon stand**, and what the daemon has done so far. -/
inductive Standing (collection keyId : String) (owner : κ → ι) (f : Fleet ι κ γ) (i : ι) : Prop
  /-- No search has learned anything yet. -/
  | without (hheld : (f.daemons i).ring.held = none) (hn : (f.daemons i).ring.installs = 0)
      (hc : ∀ call, owner call = i → Early (f.calls call))
  /-- One search has found no key and offers a fresh one, or has offered it too late. -/
  | offering (call : κ) (b : Bootstrap) (ho : owner call = i) (hw : f.calls call = .wait b)
      (hb : (∃ key record, b = .creating key record) ∨
        b = .rereading ∧ stored collection keyId f.outside ≠ none)
      (hn : (f.daemons i).ring.installs = 1)
      (hc : ∀ other, owner other = i → other ≠ call → f.calls other = .wait .queueing)
  /-- The daemon holds the key that is stored. -/
  | holding (source : Json) (key : KeyMaterial)
      (hs : stored collection keyId f.outside = some source) (hk : keyOf source = .ok key)
      (hf : (f.daemons i).ring.fingerprint = some key.fingerprint) (hn : Tallied owner f i)
      (hc : ∀ call, owner call = i → EarlyOrDone (f.calls call))

namespace Standing

variable {f : Fleet ι κ γ} {i : ι} {call : κ} {b : Bootstrap}

theorem of_offer (h : Standing collection keyId owner f i) (ho : owner call = i)
    (hw : f.calls call = .wait b) (hq : b ≠ .queueing) (hr : b ≠ .reading) :
    (f.daemons i).ring.installs = 1 ∧
      (∀ other, owner other = i → other ≠ call → f.calls other = .wait .queueing) ∧
      (b = .rereading → stored collection keyId f.outside ≠ none) := by
  have hpast : ¬ Early (f.calls call) := by
    rw [hw]
    rintro (he | he)
    · exact hq (Next.wait.inj he)
    · exact hr (Next.wait.inj he)
  cases h with
  | without _ _ hc => exact absurd (hc call ho) hpast
  | offering other b' ho' hw' hb hn hc =>
    by_cases he : call = other
    · subst he
      obtain rfl : b = b' := Next.wait.inj (hw.symm.trans hw')
      refine ⟨hn, hc, ?_⟩
      rintro rfl
      rcases hb with ⟨key, record, hb⟩ | ⟨-, hs⟩
      · cases hb
      · exact hs
    · exact absurd (.inl (hc call ho he)) hpast
  | holding _ _ _ _ _ _ hc =>
    rcases hc call ho with he | ⟨status, he⟩
    · exact absurd he hpast
    · rw [hw] at he
      cases he

/-- While a search that has learned nothing has its turn, its daemon offers no key. -/
theorem not_offering (h : Standing collection keyId owner f i) (hw : f.calls call = .wait b)
    (hb : b = .queueing ∨ b = .reading)
    (hothers : ∀ other, owner other = i → other ≠ call → ∀ b', f.calls other = .wait b' →
      b' = .queueing) :
    ((f.daemons i).ring.held = none ∧ (f.daemons i).ring.installs = 0 ∧
      ∀ call, owner call = i → Early (f.calls call)) ∨
    ∃ source key, stored collection keyId f.outside = some source ∧ keyOf source = .ok key ∧
      (f.daemons i).ring.fingerprint = some key.fingerprint ∧ Tallied owner f i ∧
      ∀ call, owner call = i → EarlyOrDone (f.calls call) := by
  cases h with
  | without hheld hn hc => exact .inl ⟨hheld, hn, hc⟩
  | holding source key hs hk hf hn hc => exact .inr ⟨source, key, hs, hk, hf, hn, hc⟩
  | offering other b' ho hw' hb' =>
    exfalso
    by_cases he : other = call
    · rw [he, hw] at hw'
      obtain rfl : b = b' := Next.wait.inj hw'
      rcases hb' with ⟨key, record, rfl⟩ | ⟨rfl, -⟩
      · rcases hb with hb | hb <;> cases hb
      · rcases hb with hb | hb <;> cases hb
    · obtain rfl := hothers other ho he b' hw'
      rcases hb' with ⟨key, record, hb'⟩ | ⟨hb', -⟩ <;> cases hb'

end Standing

section Recording

variable [DecidableEq ι] [DecidableEq κ] {f : Fleet ι κ γ} {t : Turn κ γ} {i : ι}

theorem adopts_record (hw : ∃ b, f.calls t.call = .wait b)
    (hn : t.after.next ≠ .over (.ok .adopted)) :
    Adopts owner (f.record owner t) i ↔ Adopts owner f i := by
  have hcall : ∀ call, (f.record owner t).calls call = .over (.ok .adopted) ↔
      f.calls call = .over (.ok .adopted) := by
    intro call
    by_cases hc : call = t.call
    · obtain ⟨b, hw⟩ := hw
      rw [hc, calls_record_self, hw]
      exact ⟨fun h => absurd h hn, nofun⟩
    · rw [calls_record_of_ne f hc]
  simp only [Adopts, hcall]

theorem Tallied.record (h : Tallied owner f i) (hw : ∃ b, f.calls t.call = .wait b)
    (hn : t.after.next ≠ .over (.ok .adopted))
    (hr : ((f.record owner t).daemons i).ring.installs = (f.daemons i).ring.installs) :
    Tallied owner (f.record owner t) i := by
  constructor
  · intro ha
    rw [hr]
    exact h.twice ((adopts_record hw hn).1 ha)
  · intro ha
    rw [hr]
    exact h.once (mt (adopts_record hw hn).2 ha)

/-- The first search of a daemon that ends settles the tally. -/
theorem tallied_of_first (hothers : ∀ other, owner other = owner t.call → other ≠ t.call →
      Early (f.calls other))
    (htwice : t.after.next = .over (.ok .adopted) → t.after.daemon.ring.installs = 2)
    (honce : t.after.next ≠ .over (.ok .adopted) → t.after.daemon.ring.installs = 1) :
    Tallied owner (f.record owner t) (owner t.call) := by
  have ha : Adopts owner (f.record owner t) (owner t.call) ↔
      t.after.next = .over (.ok .adopted) := by
    constructor
    · rintro ⟨call, ho, hover⟩
      by_cases hc : call = t.call
      · rwa [hc, calls_record_self] at hover
      · rw [calls_record_of_ne f hc] at hover
        rcases hothers call ho hc with he | he <;> rw [he] at hover <;> cases hover
    · intro he
      exact ⟨t.call, rfl, (calls_record_self f t).trans he⟩
  constructor
  · rw [ha, daemons_record_self]
    exact htwice
  · rw [ha, daemons_record_self]
    exact honce

/-- **The searches of the other daemons stand as they did.** -/
theorem Standing.stays (h : Standing collection keyId owner f i) (hi : i ≠ owner t.call)
    (hkept : ∀ source, stored collection keyId f.outside = some source →
      stored collection keyId t.after.outside = some source) :
    Standing collection keyId owner (f.record owner t) i := by
  have hcalls : ∀ call, owner call = i → (f.record owner t).calls call = f.calls call := by
    intro call ho
    refine calls_record_of_ne f ?_
    rintro rfl
    exact hi ho.symm
  have hd : (f.record owner t).daemons i = f.daemons i := daemons_record_of_ne f hi
  cases h with
  | without hheld hn hc =>
    refine .without (hd ▸ hheld) (hd ▸ hn) fun call ho => ?_
    rw [hcalls call ho]
    exact hc call ho
  | offering call b ho hw hb hn hc =>
    refine .offering call b ho ((hcalls call ho).trans hw) ?_ (hd ▸ hn) fun other ho' hne => ?_
    · refine hb.imp_right fun ⟨he, hs⟩ => ⟨he, ?_⟩
      obtain ⟨source, hs⟩ := Option.ne_none_iff_exists'.1 hs
      rw [show stored collection keyId (f.record owner t).outside = _ from hkept source hs]
      exact Option.some_ne_none source
    · rw [hcalls other ho']
      exact hc other ho' hne
  | holding source key hs hk hf hn hc =>
    refine .holding source key (hkept source hs) hk (hd ▸ hf) ?_ fun call ho => ?_
    · have ha : Adopts owner (f.record owner t) i ↔ Adopts owner f i := by
        refine exists_congr fun call => and_congr_right fun ho => ?_
        rw [hcalls call ho]
      exact ⟨fun h => hd ▸ hn.twice (ha.1 h), fun h => hd ▸ hn.once (mt ha.2 h)⟩
    · rw [hcalls call ho]
      exact hc call ho

theorem forall_record {P : Next Bootstrap Result → Prop} (hn : P t.after.next)
    (h : ∀ other, owner other = i → other ≠ t.call → P (f.calls other)) :
    ∀ other, owner other = i → P ((f.record owner t).calls other) := by
  intro other ho
  by_cases hc : other = t.call
  · rw [hc, calls_record_self]
    exact hn
  · rw [calls_record_of_ne f hc]
    exact h other ho hc

theorem Standing.ends {source : Json} {key : KeyMaterial} {status : KeyStatus}
    (hs : stored collection keyId t.after.outside = some source) (hk : keyOf source = .ok key)
    (hover : t.after.next = .over (.ok status))
    (hf : t.after.daemon.ring.fingerprint = some key.fingerprint)
    (hn : Tallied owner (f.record owner t) (owner t.call))
    (hc : ∀ other, owner other = owner t.call → other ≠ t.call →
      EarlyOrDone (f.calls other)) :
    Standing collection keyId owner (f.record owner t) (owner t.call) := by
  have hdone : EarlyOrDone t.after.next := .inr ⟨status, hover⟩
  refine .holding source key hs hk ?_ hn (forall_record (P := EarlyOrDone) hdone hc)
  rw [daemons_record_self]
  exact hf

/-- A search that ends which has offered a key, or too late: it is the first one of its daemon. -/
theorem Standing.ends_of_offer (h : Standing collection keyId owner f (owner t.call))
    {b : Bootstrap} (hw : f.calls t.call = .wait b) (hq : b ≠ .queueing) (hr : b ≠ .reading)
    {source : Json} {key : KeyMaterial} {status : KeyStatus}
    (hs : stored collection keyId t.after.outside = some source) (hk : keyOf source = .ok key)
    (hnext : t.after.next = .over (.ok status))
    (hf : t.after.daemon.ring.fingerprint = some key.fingerprint)
    (htwice : status = .adopted →
      t.after.daemon.ring.installs = (f.daemons (owner t.call)).ring.installs + 1)
    (honce : status ≠ .adopted →
      t.after.daemon.ring.installs = (f.daemons (owner t.call)).ring.installs) :
    Standing collection keyId owner (f.record owner t) (owner t.call) := by
  obtain ⟨hn, hc, -⟩ := h.of_offer rfl hw hq hr
  refine .ends hs hk hnext hf ?_ fun other ho hne => .inl (.inl (hc other ho hne))
  refine tallied_of_first (fun other ho hne => .inl (hc other ho hne)) (fun he => ?_) fun hne => ?_
  · rw [htwice (Except.ok.inj (Next.over.inj (hnext.symm.trans he))), hn]
  · rw [honce (fun he => hne (hnext.trans (by rw [he]))), hn]

/-- A search whose offer is refused is still the only one that its daemon has made. -/
theorem Standing.loses (h : Standing collection keyId owner f (owner t.call)) {key : KeyMaterial}
    {record : KeyRecord} (hw : f.calls t.call = .wait (.creating key record))
    (hnext : t.after.next = .wait .rereading)
    (hring : t.after.daemon.ring = (f.daemons (owner t.call)).ring)
    (hs : stored collection keyId t.after.outside ≠ none) :
    Standing collection keyId owner (f.record owner t) (owner t.call) := by
  obtain ⟨hn, hc, -⟩ := h.of_offer rfl hw nofun nofun
  refine .offering t.call _ rfl ((calls_record_self f t).trans hnext) (.inr ⟨rfl, hs⟩) ?_ ?_
  · rw [daemons_record_self, hring, hn]
  · intro other ho hne
    rw [calls_record_of_ne f hne]
    exact hc other ho hne

section Alone

variable (hothers : ∀ other, owner other = owner t.call → other ≠ t.call → ∀ b,
  f.calls other = .wait b → b = .queueing)
include hothers

/-- To take its turn teaches a search nothing. -/
theorem Standing.begins (h : Standing collection keyId owner f (owner t.call))
    (hw : f.calls t.call = .wait .queueing) (hnext : t.after.next = .wait .reading)
    (hring : t.after.daemon.ring = (f.daemons (owner t.call)).ring)
    (hs : stored collection keyId t.after.outside = stored collection keyId f.outside) :
    Standing collection keyId owner (f.record owner t) (owner t.call) := by
  have hself : ((f.record owner t).daemons (owner t.call)).ring =
      (f.daemons (owner t.call)).ring := by
    rw [daemons_record_self, hring]
  rcases h.not_offering hw (.inl rfl) hothers with
    ⟨hheld, hn, hc⟩ | ⟨source, key, hsource, hk, hf, hn, hc⟩
  · refine .without (hself ▸ hheld) (hself ▸ hn) ?_
    exact forall_record (P := Early) (.inr hnext) fun other ho _ => hc other ho
  · refine .holding source key (hs.trans hsource) hk (hself ▸ hf) ?_ ?_
    · exact hn.record ⟨_, hw⟩ (hnext ▸ nofun) (congrArg KeyRing.installs hself)
    · exact forall_record (P := EarlyOrDone) (.inl (.inr hnext)) fun other ho _ => hc other ho

/-- A search that finds no key offers one, the first that its daemon installs. -/
theorem Standing.offers (h : Standing collection keyId owner f (owner t.call))
    (hw : f.calls t.call = .wait .reading) (hnone : stored collection keyId f.outside = none)
    {key : KeyMaterial} {record : KeyRecord} (hnext : t.after.next = .wait (.creating key record))
    (hinstalls : t.after.daemon.ring.installs =
      (f.daemons (owner t.call)).ring.installs + 1) :
    Standing collection keyId owner (f.record owner t) (owner t.call) := by
  rcases h.not_offering hw (.inr rfl) hothers with ⟨-, hn, hc⟩ | ⟨source, key, hs, -⟩
  · refine .offering t.call _ rfl ((calls_record_self f t).trans hnext) (.inl ⟨_, _, rfl⟩) ?_ ?_
    · rw [daemons_record_self, hinstalls, hn]
    · intro other ho hne
      rw [calls_record_of_ne f hne]
      exact (hc other ho).resolve_right fun he => nomatch hothers other ho hne _ he
  · rw [hnone] at hs
    cases hs

/-- A search ends whose daemon holds the stored key: some other one has put it there. -/
theorem Standing.finds_held (h : Standing collection keyId owner f (owner t.call))
    (hw : f.calls t.call = .wait .reading) {source : Json} {key : KeyMaterial}
    (hs : stored collection keyId t.after.outside = some source) (hk : keyOf source = .ok key)
    (hnext : t.after.next = .over (.ok .alreadyInstalled))
    (hring : t.after.daemon.ring = (f.daemons (owner t.call)).ring)
    (hf : (f.daemons (owner t.call)).ring.fingerprint = some key.fingerprint) :
    Standing collection keyId owner (f.record owner t) (owner t.call) := by
  rcases h.not_offering hw (.inr rfl) hothers with ⟨hheld, -⟩ | ⟨-, -, -, -, -, hn, hc⟩
  · rw [KeyRing.fingerprint, hheld] at hf
    cases hf
  · refine .ends hs hk hnext (hring ▸ hf) ?_ fun other ho _ => hc other ho
    exact hn.record ⟨_, hw⟩ (hnext ▸ nofun) (by rw [daemons_record_self, hring])

/-- A search ends that installs the stored key, the first that its daemon installs: a daemon that
holds the stored key does not install it again. -/
theorem Standing.installs (h : Standing collection keyId owner f (owner t.call))
    (hw : f.calls t.call = .wait .reading) {source : Json} {key : KeyMaterial}
    (hfound : stored collection keyId f.outside = some source)
    (hs : stored collection keyId t.after.outside = some source) (hk : keyOf source = .ok key)
    (hnext : t.after.next = .over (.ok .installed))
    (hf : (f.daemons (owner t.call)).ring.fingerprint ≠ some key.fingerprint)
    (hf' : t.after.daemon.ring.fingerprint = some key.fingerprint)
    (hinstalls : t.after.daemon.ring.installs =
      (f.daemons (owner t.call)).ring.installs + 1) :
    Standing collection keyId owner (f.record owner t) (owner t.call) := by
  rcases h.not_offering hw (.inr rfl) hothers with
    ⟨-, hn, hc⟩ | ⟨source', key', hs', hk', hheld, -⟩
  · refine .ends hs hk hnext hf' ?_ fun other ho _ => .inl (hc other ho)
    refine tallied_of_first (fun other ho _ => hc other ho) (hnext ▸ nofun) fun _ => ?_
    rw [hinstalls, hn]
  · obtain rfl : source' = source := Option.some.inj (hs'.symm.trans hfound)
    obtain rfl : key' = key := Except.ok.inj (hk'.symm.trans hk)
    exact absurd hheld hf

/-- **The searches of the daemon that moves stand where they should.** -/
theorem Standing.moves (h : Standing collection keyId owner f (owner t.call))
    {b : Bootstrap} (hw : f.calls t.call = .wait b)
    (hoffer : ∀ key record, b = .creating key record →
      (f.daemons (owner t.call)).ring.held = some key ∧ keyOf record.toDocument = .ok key)
    {found found' : Option Json} {d d' : Daemon} {next : Next Bootstrap Result}
    (hd : (f.daemons (owner t.call)).ring = d.ring) (hd' : t.after.daemon = d')
    (hfound : stored collection keyId f.outside = found)
    (hfound' : stored collection keyId t.after.outside = found') (hnext : t.after.next = next)
    (hp : Progress found d b next d' found') :
    Standing collection keyId owner (f.record owner t) (owner t.call) := by
  have hring (hkept : d'.ring = d.ring) :
      t.after.daemon.ring = (f.daemons (owner t.call)).ring := by
    rw [hd', hkept, hd]
  have hinstalls (hmore : d'.ring.installs = d.ring.installs + 1) :
      t.after.daemon.ring.installs = (f.daemons (owner t.call)).ring.installs + 1 := by
    rw [hd', hmore, hd]
  cases hp with
  | begins => exact h.begins hothers hw hnext (hring rfl) (hfound'.trans hfound.symm)
  | offers hnone => exact h.offers hothers hw (hfound.trans hnone) hnext (hinstalls rfl)
  | creates key record =>
    -- the key that is stored now is the one that the daemon has installed before it offered it
    obtain ⟨hheld, hk⟩ := hoffer key record rfl
    refine h.ends_of_offer hw nofun nofun hfound' hk hnext ?_ nofun
      fun _ => congrArg KeyRing.installs (hring rfl)
    rw [hring rfl, KeyRing.fingerprint, hheld]
    rfl
  | loses key record source hs =>
    exact h.loses hw hnext (hring rfl) (hfound'.trans hs ▸ Option.some_ne_none source)
  | holds _ source key hb hs hk hf =>
    rcases hb with rfl | rfl
    · exact h.finds_held hothers hw (hfound'.trans hs) hk hnext (hring rfl) (hd ▸ hf)
    · -- the offer came too late, but the stored key has the fingerprint of the one offered
      refine h.ends_of_offer hw nofun nofun (hfound'.trans hs) hk hnext ?_ nofun
        fun _ => congrArg KeyRing.installs (hring rfl)
      rw [hring rfl, hd, hf]
  | installs _ source key status hb hs hk hf =>
    have hheld : t.after.daemon.ring.fingerprint = some key.fingerprint := by
      rw [hd']
      rfl
    rcases hb with ⟨rfl, rfl⟩ | ⟨rfl, rfl⟩
    · exact h.installs hothers hw (hfound.trans hs) (hfound'.trans hs) hk hnext (hd ▸ hf) hheld
        (hinstalls rfl)
    · -- the offer came too late, and the stored key is the second one
      exact h.ends_of_offer hw nofun nofun (hfound'.trans hs) hk hnext hheld
        (fun _ => hinstalls rfl) fun hne => absurd rfl hne

end Alone

end Recording

/-! ### The invariant -/

/-- Whether a key is one of those that daemons draw. -/
def Drawn (daemons : ι → Daemon) (key : KeyMaterial) : Prop :=
  ∃ i n, (daemons i).ring.source n = key

/-- **The invariant of a fleet at a healthy store**, for searches that have begun in `daemons`. -/
structure Orderly (out : Outside γ) (collection keyId : String) (owner : κ → ι)
    (daemons : ι → Daemon) (f : Fleet ι κ γ) : Prop where
  coherent : Coherent out collection keyId owner none f
  accepts : ∀ i, (f.daemons i).ring.refuses = false
  source : ∀ i, (f.daemons i).ring.source = (daemons i).ring.source
  held : ∀ i key, (f.daemons i).ring.held = some key → Drawn daemons key
  sought : ∀ i, (f.daemons i).keySought = true →
    ∃ call b, owner call = i ∧ f.calls call = .wait b ∧ b ≠ .queueing
  offered : ∀ call key record, f.calls call = .wait (.creating key record) →
    Drawn daemons key ∧ keyOf record.toDocument = .ok key
  readable : ∀ source, stored collection keyId f.outside = some source →
    ∃ key, keyOf source = .ok key ∧ Drawn daemons key
  standing : ∀ i, Standing collection keyId owner f i

theorem orderly_fresh {s : State γ} {daemons : ι → Daemon}
    (hs : stored collection keyId s = none) (hd : ∀ i, (daemons i).Keyless) :
    Orderly out collection keyId owner daemons (fresh s daemons : Fleet ι κ γ) where
  coherent := by
    have h : Coherent out collection keyId owner (stored collection keyId s)
        (fresh s daemons : Fleet ι κ γ) := coherent_fresh s daemons
    rwa [hs] at h
  accepts i := (hd i).accepts
  source _ := rfl
  held i key hk := nomatch (hd i).held.symm.trans hk
  sought i hi := nomatch (hd i).sought.symm.trans hi
  offered _ _ _ hw := nomatch hw
  readable source h := nomatch hs.symm.trans h
  standing i := .without (hd i).held (hd i).installs fun _ _ => .inl rfl

namespace Orderly

variable [DecidableEq ι] [DecidableEq κ] {daemons : ι → Daemon} {f : Fleet ι κ γ}

section Recording

variable {t : Turn κ γ} {b : Bootstrap} {d d' : Daemon} {next : Next Bootstrap Result}
  {found found' : Option Json}

theorem record (h : Orderly out collection keyId owner daemons f)
    (hcoherent : Coherent out collection keyId owner none (f.record owner t))
    (hb : f.isBlocked owner t.call = false) (hw : f.calls t.call = .wait b)
    (hkept : ∀ source, stored collection keyId f.outside = some source →
      stored collection keyId t.after.outside = some source)
    (hd : (f.daemons (owner t.call)).ring = d.ring) (ht : d.clock.Dated)
    (hp : Progress (stored collection keyId f.outside) d b t.after.next t.after.daemon
      (stored collection keyId t.after.outside)) :
    Orderly out collection keyId owner daemons (f.record owner t) := by
  have hdrawn : Drawn daemons d.ring.next := by
    refine ⟨owner t.call, d.ring.drawn, ?_⟩
    rw [← h.source, hd]
    rfl
  have hread : ∀ source key, stored collection keyId f.outside = some source →
      keyOf source = .ok key → Drawn daemons key := by
    intro source key hs hk
    obtain ⟨key', hk', hdrawn'⟩ := h.readable source hs
    obtain rfl : key' = key := Except.ok.inj (hk'.symm.trans hk)
    exact hdrawn'
  obtain ⟨haccepts, hsource, hheld⟩ := hp.ring (hd ▸ h.accepts (owner t.call)) hread
    (hd ▸ h.held (owner t.call)) hdrawn
  refine ⟨hcoherent, ?accepts, ?source, ?held, ?sought, ?offered, ?readable, ?standing⟩
  case accepts =>
    exact forall_daemons_record (P := fun _ daemon => daemon.ring.refuses = false) haccepts
      fun i _ => h.accepts i
  case source =>
    refine forall_daemons_record (P := fun i daemon => daemon.ring.source = (daemons i).ring.source)
      ?_ fun i _ => h.source i
    rw [hsource, ← hd]
    exact h.source _
  case held =>
    exact forall_daemons_record
      (P := fun _ daemon => ∀ key, daemon.ring.held = some key → Drawn daemons key) hheld
      fun i _ => h.held i
  case sought =>
    refine forall_daemons_record (P := fun i daemon => daemon.keySought = true →
      ∃ call b, owner call = i ∧ (f.record owner t).calls call = .wait b ∧ b ≠ .queueing) ?_ ?_
    · intro hsought
      rcases hp.sought with ⟨b', hn, hq⟩ | hfalse
      · exact ⟨t.call, b', rfl, (calls_record_self f t).trans hn, hq⟩
      · exact nomatch hfalse.symm.trans hsought
    · intro i hi hsought
      obtain ⟨call, b', ho, hw', hq⟩ := h.sought i hsought
      have hne : call ≠ t.call := by
        rintro rfl
        exact hi ho.symm
      exact ⟨call, b', ho, (calls_record_of_ne f hne).trans hw', hq⟩
  case offered =>
    intro call key record hn
    by_cases hc : call = t.call
    · rw [hc, calls_record_self] at hn
      exact hp.offered ht hdrawn hn
    · rw [calls_record_of_ne f hc] at hn
      exact h.offered call key record hn
  case readable =>
    refine hp.readable h.readable fun key record hb => ?_
    exact h.offered t.call key record (hb ▸ hw)
  case standing =>
    intro i
    by_cases hi : i = owner t.call
    · rw [hi]
      refine (h.standing (owner t.call)).moves (fun other ho hne b' hw' => ?_) hw
        (fun key record hb => ?_) hd rfl rfl rfl rfl hp
      · exact h.coherent.queueing_of_ne hb hne ho hw'
      · have hprepared := h.coherent.prepared t.call b hw
        exact ⟨(hprepared.offered key record hb).1, (h.offered t.call key record (hb ▸ hw)).2⟩
    · exact (h.standing i).stays hi hkept

end Recording

section Running

variable (hq : out.Quiet) (ht : ∀ n, (out.time n).Dated)
include hq ht

theorem advance (h : Orderly out collection keyId owner daemons f) (call : κ) :
    Orderly out collection keyId owner daemons (f.advance out collection keyId owner call) := by
  have ha : out.Undisturbed collection keyId := fun n store => by rw [hq.alone]
  have hcoherent := h.coherent.advance ha call
  have hkept : ∀ source, stored collection keyId f.outside = some source →
      stored collection keyId (f.advance out collection keyId owner call).outside = some source :=
    fun source => h.coherent.stored_advance ha call
  cases hb : f.isBlocked owner call with
  | true =>
    rw [Fleet.advance, if_pos hb]
    exact h
  | false =>
    obtain ⟨b, hw, -⟩ := exists_wait_of_not_blocked hb
    let t : Turn κ γ :=
      .ofMoment out collection keyId call ⟨.wait b, f.outside, f.daemons (owner call)⟩
    have he : f.advance out collection keyId owner call = f.record owner t := by
      rw [Fleet.advance, if_neg (hb ▸ Bool.false_ne_true), hw]
    rw [he] at hcoherent hkept ⊢
    have hlate : b = .rereading → stored collection keyId f.outside ≠ none := by
      rintro rfl
      exact ((h.standing (owner call)).of_offer rfl hw nofun nofun).2.2 rfl
    have hread : ∀ source, stored collection keyId f.outside = some source →
        ∃ key, keyOf source = .ok key := by
      intro source hs
      obtain ⟨key, hk, -⟩ := h.readable source hs
      exact ⟨key, hk⟩
    have hp := progress hq (h.accepts (owner call)) hread hlate
    refine h.record hcoherent hb hw hkept ?_ (ht f.outside.asked.length) hp
    rfl

theorem run (h : Orderly out collection keyId owner daemons f) (calls : List κ) :
    Orderly out collection keyId owner daemons (f.run out collection keyId owner calls) := by
  induction calls generalizing f with
  | nil => exact h
  | cons call rest ih => exact ih (h.advance hq ht call)

end Running

end Orderly

end Fleet

end Bootstrap

end ModelFleet
