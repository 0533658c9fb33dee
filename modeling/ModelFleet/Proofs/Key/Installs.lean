import ModelFleet.Proofs.Key.Standing

/-!
# How often keys are installed

Daemons without a key look for it at a healthy store that holds none.  Every search ends, and ends
well; the store takes one key, which all daemons then hold; and a daemon installs one key, and one
more if it offered a key of its own too late, because it puts its key to use before it offers it
(`installs_once_unless_late`).  So a daemon may well install two keys (`not_installs_once`).
-/

namespace ModelFleet

namespace Bootstrap

open Outside

/-! ### What daemons have in the end -/

section Results

variable {ι κ γ : Type} {out : Outside γ} {collection keyId : String} {owner : κ → ι}
  {daemons : ι → Daemon} {f : Fleet ι κ γ}

/-- Whether no two of the keys that daemons draw have the same fingerprint. -/
def Distinguishable (daemons : ι → Daemon) : Prop :=
  ∀ key key', Fleet.Drawn daemons key → Fleet.Drawn daemons key' →
    key.fingerprint = key'.fingerprint → key = key'

/-- **What a fleet of searches has brought about** that began in `daemons`. -/
structure Bootstrapped (out : Outside γ) (collection keyId : String) (owner : κ → ι)
    (daemons : ι → Daemon) (f : Fleet ι κ γ) : Prop where
  /-- Every search has ended well. -/
  ended : ∀ call, ∃ status, f.calls call = .over (.ok status)
  /-- The store has taken one key. -/
  accepted : f.turns.countP (Turn.accepted out collection keyId) = 1
  /-- Every daemon holds the key that is stored, as far as its fingerprint tells. -/
  shared : ∃ source key, stored collection keyId f.outside = some source ∧
    keyIn source = some key ∧ ∀ call,
      (f.daemons (owner call)).ring.fingerprint = some key.fingerprint ∧
      (Distinguishable daemons → (f.daemons (owner call)).ring.held = some key)
  /-- A daemon has installed two keys if it adopted one, and one otherwise. -/
  tallied : ∀ call, Fleet.Tallied owner f (owner call)

namespace Fleet.Orderly

variable (h : Orderly out collection keyId owner daemons f)
include h

theorem ok_of_over {call : κ} {result : Result} (hover : f.calls call = .over result) :
    ∃ status, result = .ok status := by
  cases h.standing (owner call) with
  | without _ _ hc =>
    rcases hc call rfl with he | he <;> cases hover.symm.trans he
  | offering other b ho hw _ _ hc =>
    by_cases he : call = other
    · cases hover.symm.trans (he ▸ hw)
    · cases hover.symm.trans (hc call rfl he)
  | holding _ _ _ _ _ _ hc =>
    rcases hc call rfl with (he | he) | ⟨status, he⟩
    · cases hover.symm.trans he
    · cases hover.symm.trans he
    · exact ⟨status, Next.over.inj (hover.symm.trans he)⟩

/-- **Searches do not wait for one another for ever**: one of them can take a step, or all are
over. -/
theorem progresses :
    (∃ call, f.isBlocked owner call = false) ∨ ∀ call, ∃ result, f.calls call = .over result := by
  refine or_iff_not_imp_left.2 fun hblocked call => ?_
  have hall : ∀ call, f.isBlocked owner call = true := by
    intro call
    exact Bool.of_not_eq_false fun hfalse => hblocked ⟨call, hfalse⟩
  rcases hw : f.calls call with b | result
  · exfalso
    have hb := hall call
    simp only [isBlocked, hw] at hb
    cases b with
    | queueing =>
      -- the search that has its turn can take a step
      obtain ⟨other, b', -, hw', hq⟩ := h.sought (owner call) hb
      have hb' := hall other
      simp only [isBlocked, hw'] at hb'
      cases b' with
      | queueing => exact hq rfl
      | _ => cases hb'
    | _ => cases hb
  · exact ⟨result, rfl⟩

/-- **Searches that are all over have brought about what they should.** -/
theorem bootstrapped [Nonempty κ] (hover : ∀ call, ∃ result, f.calls call = .over result) :
    Bootstrapped out collection keyId owner daemons f := by
  have hended : ∀ call, ∃ status, f.calls call = .over (.ok status) := by
    intro call
    obtain ⟨result, hresult⟩ := hover call
    obtain ⟨status, rfl⟩ := h.ok_of_over hresult
    exact ⟨status, hresult⟩
  have hholding : ∀ call, ∃ source key, stored collection keyId f.outside = some source ∧
      keyOf source = .ok key ∧
      (f.daemons (owner call)).ring.fingerprint = some key.fingerprint ∧
      Tallied owner f (owner call) := by
    intro call
    obtain ⟨status, hs⟩ := hended call
    cases h.standing (owner call) with
    | without _ _ hc => rcases hc call rfl with he | he <;> cases hs.symm.trans he
    | offering other b ho hw =>
      obtain ⟨status', hs'⟩ := hended other
      cases hs'.symm.trans hw
    | holding source key hsource hk hf hn => exact ⟨source, key, hsource, hk, hf, hn⟩
  obtain ⟨first⟩ := ‹Nonempty κ›
  obtain ⟨source, key, hs, hk, -⟩ := hholding first
  have hkey : ∀ call, (f.daemons (owner call)).ring.fingerprint = some key.fingerprint := by
    intro call
    obtain ⟨source', key', hs', hk', hf, -⟩ := hholding call
    obtain rfl : source' = source := Option.some.inj (hs'.symm.trans hs)
    obtain rfl : key' = key := Except.ok.inj (hk'.symm.trans hk)
    exact hf
  obtain ⟨key', hk', hdrawn⟩ := h.readable source hs
  obtain rfl : key' = key := Except.ok.inj (hk'.symm.trans hk)
  refine ⟨hended, ?accepted, ⟨source, key', hs, keyIn_of_keyOf hk, fun call => ⟨hkey call, ?held⟩⟩,
    fun call => ?tallied⟩
  case accepted =>
    have hcount := h.coherent.accepted
    rw [hs] at hcount
    simpa using hcount
  case held =>
    intro hdistinct
    have hf := hkey call
    cases hheld : (f.daemons (owner call)).ring.held with
    | none =>
      rw [KeyRing.fingerprint, hheld] at hf
      cases hf
    | some other =>
      rw [KeyRing.fingerprint, hheld] at hf
      exact congrArg some (hdistinct other key' (h.held _ other hheld) hdrawn (Option.some.inj hf))
  case tallied =>
    obtain ⟨-, -, -, -, -, hn⟩ := hholding call
    exact hn

end Fleet.Orderly

variable [DecidableEq ι] [DecidableEq κ]

theorem turns_length_advance_of_not_blocked (out : Outside γ) (collection keyId : String)
    {call : κ} (hb : f.isBlocked owner call = false) :
    (f.advance out collection keyId owner call).turns.length = f.turns.length + 1 := by
  rw [Fleet.advance, if_neg (hb ▸ Bool.false_ne_true)]
  exact List.length_append ..

/-- **Keys are installed once, or twice if a daemon offers its own too late.**

Any number of daemons without a key look for one at a healthy store that has none, in one search or
more.  In whatever order the searches take their steps, there are four steps for each at the most;
no search that is over has failed; and one of them can take a step, or all are over and have brought
about what `Bootstrapped` says.  However they have begun, they can all come to their end. -/
theorem installs_once_unless_late [Fintype κ] [Nonempty κ] (out : Outside γ)
    (collection keyId : String) (owner : κ → ι) (s : State γ) (daemons : ι → Daemon)
    (calls : List κ) (hq : out.Quiet) (ht : ∀ n, (out.time n).Dated)
    (hs : stored collection keyId s = none) (hd : ∀ i, (daemons i).Keyless) :
    let f := (Fleet.fresh s daemons).run out collection keyId owner calls
    f.turns.length ≤ 4 * Fintype.card κ ∧
    (∀ call result, f.calls call = .over result → ∃ status, result = .ok status) ∧
    ((∃ call, f.isBlocked owner call = false) ∨
      Bootstrapped out collection keyId owner daemons f) ∧
    ∃ later, Bootstrapped out collection keyId owner daemons
      (f.run out collection keyId owner later) := by
  intro f
  have hend : ∀ f : Fleet ι κ γ, Fleet.Orderly out collection keyId owner daemons f →
      (∃ call, f.isBlocked owner call = false) ∨
        Bootstrapped out collection keyId owner daemons f := fun f h =>
    h.progresses.imp_right h.bootstrapped
  have hf : Fleet.Orderly out collection keyId owner daemons f :=
    (Fleet.orderly_fresh hs hd).run hq ht calls
  refine ⟨turns_le out collection keyId owner s daemons calls,
    fun call result => hf.ok_of_over, hend f hf, ?_⟩
  -- every step that a search can take is one less that is left
  clear_value f
  induction hm : ∑ call, left (f.calls call) using Nat.strongRecOn generalizing f with
  | ind m ih =>
    rcases hend f hf with ⟨call, hb⟩ | hbootstrapped
    · have hturns := turns_length_advance_of_not_blocked out collection keyId hb
      have hadvance := turns_add_left_advance out collection keyId owner f call
      obtain ⟨later, hlater⟩ := ih _ (by omega) _ (hf.advance hq ht call) rfl
      exact ⟨call :: later, hlater⟩
    · exact ⟨[], hbootstrapped⟩

end Results

/-! ### A race -/

/-- A store that serves everything, with no nodes. -/
def serving : Outside Unit where
  members _ := .ok []
  ask _ cluster node := (cluster, .error (.unreachable node "gone"))
  fate _ _ := .served
  meanwhile _ store := store
  time _ := .ofMillis 0

/-- Two daemons that draw different keys. -/
def rivals (first : Bool) : Daemon :=
  .fresh (.ofMillis 0) (.empty fun _ => .uniform (if first then 1 else 2)) default

/-- Both rivals find no key and offer one each, the second one too late. -/
def race : Fleet Bool Bool Unit :=
  (Fleet.fresh ⟨∅, (), []⟩ rivals).run serving "config" "key" id
    [true, false, true, false, true, false, false]

theorem quiet_serving : serving.Quiet := ⟨fun _ _ _ => rfl, fun _ _ => rfl⟩

theorem dated_serving (n : Nat) : (serving.time n).Dated := by
  show (Instant.ofMillis 0).Dated
  decide

theorem keyless_rivals (first : Bool) : (rivals first).Keyless := ⟨rfl, rfl, rfl, rfl⟩

theorem not_isBlocked_race : ¬ ∃ call, race.isBlocked id call = false := by decide +kernel

theorem installs_race_late : (race.daemons false).ring.installs = 2 := by decide +kernel

/-- The rival whose offer comes too late has installed two keys. -/
theorem installs_of_race :
    Bootstrapped serving "config" "key" id rivals race ∧ Fleet.Adopts id race false := by
  obtain ⟨-, -, hend, -⟩ := installs_once_unless_late serving "config" "key" id ⟨∅, (), []⟩ rivals
    [true, false, true, false, true, false, false] quiet_serving dated_serving rfl keyless_rivals
  have hbootstrapped : Bootstrapped serving "config" "key" id rivals race :=
    hend.resolve_left not_isBlocked_race
  refine ⟨hbootstrapped, ?_⟩
  by_contra hadopts
  have hone := (hbootstrapped.tallied false).once hadopts
  rw [id_eq, installs_race_late] at hone
  cases hone

/-- Not every daemon installs one key only. -/
theorem not_installs_once :
    ¬ ∀ (out : Outside Unit) (collection keyId : String) (owner : Bool → Bool) (s : State Unit)
        (daemons : Bool → Daemon) (calls : List Bool), out.Quiet → (∀ n, (out.time n).Dated) →
      stored collection keyId s = none → (∀ i, (daemons i).Keyless) →
      let f := (Fleet.fresh s daemons).run out collection keyId owner calls
      (∀ call, ∃ result, f.calls call = .over result) →
        ∀ call, (f.daemons (owner call)).ring.installs = 1 := by
  intro honce
  have horderly : Fleet.Orderly serving "config" "key" id rivals race :=
    (Fleet.orderly_fresh rfl keyless_rivals).run quiet_serving dated_serving _
  have hover : ∀ call, ∃ result, race.calls call = .over result :=
    horderly.progresses.resolve_left not_isBlocked_race
  have hone := honce serving "config" "key" id ⟨∅, (), []⟩ rivals _ quiet_serving dated_serving rfl
    keyless_rivals hover false
  rw [← race, id_eq, installs_race_late] at hone
  cases hone

end Bootstrap

end ModelFleet
