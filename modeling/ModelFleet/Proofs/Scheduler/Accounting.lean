import Mathlib.Data.List.Induction
import Mathlib.Data.List.Infix
import ModelFleet.Proofs.Scheduler.Conservation

/-!
# Cycles are neither lost nor doubled

A scheduler that nobody stops accounts for its cycles at every moment.  The ticks of a loop that
wakes up in time come due once per period, whatever is triggered and however long cycles take
(`Paced`), and two turns of the loop leave nothing waiting (`Resting`).
-/

namespace ModelFleet

namespace Timeline

variable {period : Nat} {t : Timeline}

/-! ### Loops that wake up in time -/

/-- Whether the loop is not late: the tick that it waits for has not come due by much, and no later
one has. -/
def InTime (t : Timeline) : Prop :=
  ∀ tick, t.scheduler.phase = .looping tick →
    t.now ≤ tick + Scheduler.tolerance ∧ t.now < tick + t.scheduler.period

/-- Whether the loop is in time all along. -/
def Prompt (period : Nat) (happenings : List Happening) : Prop :=
  ∀ past, past <+: happenings → ((fresh period).run past).InTime

instance : DecidablePred InTime := fun t =>
  decidable_of_iff (∀ tick ∈ t.scheduler.nextTick?,
      t.now ≤ tick + Scheduler.tolerance ∧ t.now < tick + t.scheduler.period)
    (forall_congr' fun _ => imp_congr_left Scheduler.nextTick?_eq_some_iff)

instance (period : Nat) (happenings : List Happening) : Decidable (Prompt period happenings) :=
  decidable_of_iff (∀ past ∈ happenings.inits, ((fresh period).run past).InTime)
    (forall_congr' fun _ => imp_congr_left (List.mem_inits ..))

/-- Times that follow each other in periods. -/
def schedule (begun period count : Nat) : List Nat :=
  (List.range count).map fun k => begun + k * period

theorem schedule_succ (begun period count : Nat) : schedule begun period (count + 1) =
    schedule begun period count ++ [begun + count * period] := by
  rw [schedule, List.range_succ, List.map_append]
  rfl

/-- What holds of the ticks of a loop that is in time: those that have come due are the first `k` in
periods, and the next one is the one after them, unless it has come due, too. -/
structure Paced (period : Nat) (t : Timeline) : Prop where
  idle : t.begun = none → (∀ tick, t.scheduler.phase ≠ .looping tick) ∧ t.ticks = []
  going : ∀ begun, t.begun = some begun → begun ≤ t.now ∧
    ∃ k, t.scheduler.phase = .looping (begun + k * period) ∧
      begun + k * period ≤ t.now + period ∧
      t.ticks = schedule begun period (if begun + k * period ≤ t.now then k + 1 else k)

theorem ticks_append {t' : Timeline} {new : List Cause} (h : t'.asked = t.asked ++ new) :
    t'.ticks = t.ticks ++ new.filterMap Cause.due? := by
  rw [ticks, h, List.filterMap_append]
  rfl

theorem dueTick_filterMap {s : Scheduler} {tick now : Nat} (hp : s.phase = .looping tick) :
    (s.dueTick now).toList.filterMap Cause.due? = if tick ≤ now then [tick] else [] := by
  rw [Scheduler.dueTick_of_looping hp]
  split <;> rfl

namespace Paced

theorem fresh (period : Nat) : (fresh period).Paced period :=
  ⟨fun _ => ⟨by simp [Timeline.fresh, Scheduler.fresh], rfl⟩, by simp [Timeline.fresh]⟩

/-- Nothing changes for the ticks when the loop does not wake up and no time goes by. -/
theorem congr (h : t.Paced period) {t' : Timeline} (hbegun : t'.begun = t.begun)
    (hnow : t'.now = t.now) (hticks : t'.ticks = t.ticks)
    (hphase : ∀ tick, t'.scheduler.phase = .looping tick ↔ t.scheduler.phase = .looping tick) :
    t'.Paced period := by
  refine ⟨fun hb => ?_, fun begun hb => ?_⟩
  · obtain ⟨hl, ht⟩ := h.idle (hbegun ▸ hb)
    exact ⟨fun tick hp => hl tick ((hphase tick).1 hp), hticks ▸ ht⟩
  · obtain ⟨hle, k, hp, hk, ht⟩ := h.going begun (hbegun ▸ hb)
    rw [hnow, hticks]
    exact ⟨hle, k, (hphase _).2 hp, hk, ht⟩

theorem elapse (h : t.Paced period) (millis : Nat) : (t.elapse millis).Paced period := by
  refine ⟨fun hb => ?_, fun begun hb => ?_⟩
  · obtain ⟨hl, ht⟩ := h.idle hb
    refine ⟨hl, ?_⟩
    rw [ticks_append (t := t) rfl, ht]
    simp [Scheduler.dueTick_of_not_looping hl]
  · obtain ⟨hle, k, hp, hk, ht⟩ := h.going begun hb
    refine ⟨Nat.le_add_right_of_le hle, k, hp, ?_, ?_⟩
    · show begun + k * period ≤ t.now + millis + period
      omega
    · rw [ticks_append (t := t) rfl, ht]
      show _ = schedule begun period (if begun + k * period ≤ t.now + millis then k + 1 else k)
      by_cases hdue : begun + k * period ≤ t.now
      · simp [Scheduler.dueTick_of_looping hp, hdue, Nat.le_add_right_of_le hdue]
      · have hb : t.scheduler.dueTick t.now = none := by
          rw [Scheduler.dueTick_of_looping hp, if_neg hdue]
        rw [if_pos hb, dueTick_filterMap hp, if_neg hdue]
        split
        · rw [schedule_succ]
        · exact List.append_nil _

theorem enter (h : t.Paced period) (hs : t.scheduler.phase = .spawned) : t.enter.Paced period := by
  have hbegun : t.begun = none := by
    cases hb : t.begun with
    | none => rfl
    | some begun =>
      obtain ⟨-, k, hp, -⟩ := h.going begun hb
      cases hs.symm.trans hp
  refine ⟨fun hb => (by cases hb), fun begun hb => ?_⟩
  obtain rfl : t.now = begun := Option.some.inj hb
  have hp : (t.scheduler.enter t.now).phase = .looping t.now := rfl
  refine ⟨Nat.le_refl _, 0, ?_, by simp [Timeline.enter], ?_⟩
  · rw [Nat.zero_mul, Nat.add_zero]
    rfl
  · rw [ticks_append (t := t) rfl, (h.idle hbegun).2, dueTick_filterMap hp]
    simp [Timeline.enter, schedule]

theorem hear_tick {tick : Nat} (ha : t.Alive period) (h : t.Paced period) (hin : t.InTime)
    (hp : t.scheduler.phase = .looping tick) (hle : tick ≤ t.now) :
    (t.hear .tick).Paced period := by
  obtain ⟨hlate, hlt⟩ := hin tick hp
  rw [ha.period_eq] at hlt
  have hp' : (t.scheduler.hear t.now .tick).phase = .looping (tick + period) := by
    rw [Scheduler.hear_tick hp, ← ha.period_eq, ← Scheduler.tickAfter_of_le hlate]
  have hticks : (t.hear .tick).ticks = t.ticks := by
    rw [ticks_append (t := t) rfl, if_pos rfl, dueTick_filterMap hp', if_neg (by omega),
      List.append_nil]
  refine ⟨fun hb => absurd hp ((h.idle hb).1 tick), fun begun hb => ?_⟩
  obtain ⟨hbegun, k, hk, -, ht⟩ := h.going begun hb
  obtain rfl := SchedulerPhase.looping.inj (hk.symm.trans hp)
  have hnext : begun + (k + 1) * period = begun + k * period + period := by
    rw [Nat.succ_mul, Nat.add_assoc]
  refine ⟨hbegun, k + 1, ?_, ?_, ?_⟩
  · rw [hnext]
    exact hp'
  · rw [hnext]
    exact Nat.add_le_add_right hle _
  · rw [hticks, ht, if_pos hle, hnext, if_neg]
    exact Nat.not_le_of_lt hlt

theorem after (ha : t.Alive period) (h : t.Paced period) (hin : t.InTime)
    {happening : Happening} (hs : happening ≠ .stop) : (t.after happening).Paced period := by
  cases happening with
  | start =>
    refine h.congr rfl rfl rfl fun tick => ?_
    rw [Timeline.after, Scheduler.start]
    split
    · simp_all
    · rfl
  | stop => exact absurd rfl hs
  | trigger =>
    refine h.congr rfl rfl ?_ fun tick => ?_
    · rw [ticks_append (t := t) rfl]
      split <;> simp [Cause.due?]
    · rw [Timeline.after, Scheduler.trigger]
      split <;> rfl
  | elapse millis => exact h.elapse millis
  | enter =>
    rw [Timeline.after]
    split
    · exact h.enter ‹_›
    · exact h
  | hear rung first =>
    rcases t.after_hear_cases rung first with he | ⟨w, -, hr, he⟩
    · rw [he]
      exact h
    · rw [he]
      obtain ⟨tick, hp⟩ := Scheduler.exists_looping_of_isReady hr
      cases w with
      | tick =>
        have hle := Scheduler.le_of_isReady_tick hp hr
        exact h.hear_tick ha hin hp (Nat.le_trans hle (Nat.min_le_right ..))
      | trigger =>
        exact h.congr rfl rfl (by simp [ticks, hear]) fun _ => .rfl
  | goOn =>
    rw [Timeline.after]
    split
    · next cause hh =>
      have he := ha.wake hh
      refine h.congr rfl rfl rfl fun tick => ?_
      rw [Timeline.goOn, he]
    · exact h
  | finish index => exact h.congr rfl rfl rfl fun _ => .rfl

/-- By now a tick has come due for each period that has begun. -/
theorem ticks_eq (ha : t.Alive period) (h : t.Paced period) (hin : t.InTime)
    {begun : Nat} (hb : t.begun = some begun) :
    t.ticks = schedule begun period ((t.now - begun) / period + 1) := by
  obtain ⟨hbegun, k, hp, hk, ht⟩ := h.going begun hb
  have hlt := (hin _ hp).2
  rw [ha.period_eq] at hlt
  rw [ht]
  by_cases hle : begun + k * period ≤ t.now
  · have hk' : (t.now - begun) / period = k :=
      Nat.div_eq_of_lt_le (by omega) (by rw [Nat.succ_mul]; omega)
    rw [if_pos hle, hk']
  · rw [if_neg hle]
    cases k with
    | zero => omega
    | succ k =>
      -- the last tick that has come due was the one before
      rw [Nat.succ_mul] at hk hle
      have hk' : (t.now - begun) / period = k :=
        Nat.div_eq_of_lt_le (by omega) (by rw [Nat.succ_mul]; omega)
      rw [hk']

end Paced

/-! ### Turns of the loop -/

/-- What holds between two turns of a loop that is in time. -/
structure Resting (period : Nat) (t : Timeline) : Prop where
  alive : t.Alive period
  conserved : t.Conserved
  hand : t.hand = none
  in_time : ∃ tick, t.scheduler.phase = .looping tick ∧ t.now < tick + period

namespace Resting

theorem length_asked (h : t.Resting period) :
    t.asked.length = t.started.length + t.ready.length := by
  rw [h.conserved.perm.length_eq, heard, h.hand]
  simp

theorem of_goOn {cause : Cause} (ha : t.Alive period) (hc : t.Conserved)
    (hh : t.hand = some cause)
    (ht : ∃ tick, t.scheduler.phase = .looping tick ∧ t.now < tick + period) :
    (t.goOn cause).Resting period := by
  refine ⟨ha.goOn hh, hc.goOn ha hh, rfl, ?_⟩
  rw [goOn, ha.wake hh]
  exact ht

theorem ready_eq_nil (h : t.Resting period) {first : WakeUp}
    (hc : t.scheduler.choose t.now first = none) : t.ready = [] := by
  obtain ⟨tick, hp, -⟩ := h.in_time
  obtain ⟨ht, hg⟩ := Scheduler.choose_eq_none_iff.1 hc
  have hn := Scheduler.nextTick?_eq_some_iff.2 hp
  have hlt : ¬tick ≤ t.now := by simpa [Scheduler.isReady, hn] using ht
  have hfree : t.scheduler.triggered = false := by simpa [Scheduler.isReady, hn] using hg
  simp [ready, readyFor, Scheduler.dueTick_of_looping hp, hlt, hfree]

/-- When a tick is heard in time, the next one is not due yet. -/
theorem asked_hear (hperiod : 0 < period) (h : t.Resting period) {w : WakeUp}
    (hr : t.scheduler.isReady t.now w = true) :
    (t.hear w).asked = t.asked ∧
      ∃ tick, (t.hear w).scheduler.phase = .looping tick ∧ t.now < tick + period := by
  obtain ⟨tick, hp, hlt⟩ := h.in_time
  cases w with
  | tick =>
    have hp' : (t.scheduler.hear t.now .tick).phase =
        .looping (Scheduler.tickAfter period tick t.now) := by
      rw [Scheduler.hear_tick hp, h.alive.period_eq]
    have hnext : t.now < Scheduler.tickAfter period tick t.now := by
      unfold Scheduler.tickAfter
      split <;> omega
    refine ⟨?_, _, hp', Nat.lt_add_right _ hnext⟩
    simp [hear, Scheduler.dueTick_of_looping hp', Nat.not_le_of_lt hnext]
  | trigger => exact ⟨List.append_nil _, tick, hp, hlt⟩

/-- A turn takes one of those things that are ready, if there are any. -/
theorem turn (hperiod : 0 < period) (h : t.Resting period) (first : WakeUp) :
    (t.run [.hear t.now first, .goOn]).Resting period ∧
      (t.run [.hear t.now first, .goOn]).now = t.now ∧
      (t.run [.hear t.now first, .goOn]).asked = t.asked ∧
      (t.run [.hear t.now first, .goOn]).ready.length = t.ready.length - 1 := by
  cases hc : t.scheduler.choose t.now first with
  | none =>
    have he : t.run [.hear t.now first, .goOn] = t := by
      simp [run, after, h.hand, hc]
    rw [he, h.ready_eq_nil hc]
    exact ⟨h, rfl, rfl, rfl⟩
  | some w =>
    have hr := Scheduler.isReady_of_choose hc
    obtain ⟨cause, hcause⟩ := exists_readyFor (Nat.le_refl _) hr
    obtain ⟨hasked, hin⟩ := h.asked_hear hperiod hr
    have he : t.run [.hear t.now first, .goOn] = (t.hear w).goOn cause := by
      simp [run, after, h.hand, hc, hear, hcause]
    have hrest : ((t.hear w).goOn cause).Resting period := by
      refine of_goOn (h.alive.hear hr) ?_ hcause hin
      have hafter : t.after (.hear t.now first) = t.hear w := by simp [after, h.hand, hc]
      exact hafter ▸ h.conserved.after hperiod h.alive (by simp)
    rw [he]
    refine ⟨hrest, rfl, hasked, ?_⟩
    -- as much was asked for as before, and one more was started
    have hstarted : ((t.hear w).goOn cause).started = t.started ++ [cause] := by
      rw [goOn, (h.alive.hear hr).wake hcause]
      rfl
    have hbefore := h.length_asked
    have hafter := hrest.length_asked
    rw [hstarted, List.length_append, List.length_singleton,
      show ((t.hear w).goOn cause).asked = t.asked from hasked] at hafter
    omega

end Resting

/-! ### Whole runs -/

section Run

variable {happenings : List Happening}

/-- A scheduler that nobody stops goes on, and keeps what it was asked for. -/
theorem kept (hperiod : 0 < period) (hs : Happening.stop ∉ happenings) :
    ((fresh period).run happenings).Alive period ∧ ((fresh period).run happenings).Conserved := by
  induction happenings using List.reverseRecOn with
  | nil => exact ⟨.fresh period, .fresh period⟩
  | append_singleton past last ih =>
    rw [List.mem_append, not_or] at hs
    obtain ⟨ha, hc⟩ := ih hs.1
    have hlast : last ≠ .stop := fun he => hs.2 (he ▸ List.mem_singleton_self _)
    rw [run_concat]
    exact ⟨ha.after hlast, hc.after hperiod ha hlast⟩

theorem active_subperm (happenings : List Happening) :
    ((fresh period).run happenings).active.Subperm ((fresh period).run happenings).started := by
  induction happenings using List.reverseRecOn with
  | nil => exact .refl _
  | append_singleton past last ih =>
    rw [run_concat]
    exact active_subperm_after ih last

theorem Prompt.of_prefix {past : List Happening} (h : Prompt period happenings)
    (hp : past <+: happenings) : Prompt period past := fun _ hm => h _ (hm.trans hp)

theorem paced (hperiod : 0 < period) (hs : Happening.stop ∉ happenings)
    (h : Prompt period happenings) : ((fresh period).run happenings).Paced period := by
  induction happenings using List.reverseRecOn with
  | nil => exact .fresh period
  | append_singleton past last ih =>
    rw [List.mem_append, not_or] at hs
    have hpast := h.of_prefix (List.prefix_append past [last])
    rw [run_concat]
    refine (ih hs.1 hpast).after (kept hperiod hs.1).1 (hpast past List.prefix_rfl) ?_
    exact fun he => hs.2 (he ▸ List.mem_singleton_self _)

end Run

/-- **When cycles are started by a loop that is in time.** -/
structure Punctual (period : Nat) (t : Timeline) : Prop where
  /-- No tick comes due before the loop is entered. -/
  no_ticks : t.begun = none → t.ticks = []
  /-- The first tick comes due when the loop is entered, and then one in each period. -/
  ticks_eq : ∀ begun, t.begun = some begun →
    t.ticks = schedule begun period ((t.now - begun) / period + 1)
  /-- When the loop has gone on and then had two turns, there was one cycle for each tick and each
  trigger. -/
  served : ∀ begun, t.begun = some begun → ∀ first second,
    (t.run [.goOn, .hear t.now first, .goOn, .hear t.now second, .goOn]).started.Perm t.asked

theorem length_ready_le (t : Timeline) : t.ready.length ≤ 2 := by
  rw [ready, List.length_append]
  exact Nat.add_le_add Option.length_toList_le Option.length_toList_le

theorem Resting.of_in_time {begun : Nat} (ha : t.Alive period) (hc : t.Conserved)
    (h : t.Paced period) (hin : t.InTime) (hb : t.begun = some begun) :
    (t.after .goOn).Resting period ∧ (t.after .goOn).asked = t.asked ∧
      (t.after .goOn).now = t.now := by
  obtain ⟨-, k, hp, -⟩ := h.going begun hb
  have hlt := (hin _ hp).2
  rw [ha.period_eq] at hlt
  cases hh : t.hand with
  | none =>
    have he : t.after .goOn = t := by simp [after, hh]
    rw [he]
    exact ⟨⟨ha, hc, hh, _, hp, hlt⟩, rfl, rfl⟩
  | some cause =>
    have he : t.after .goOn = t.goOn cause := by simp [after, hh]
    rw [he]
    exact ⟨.of_goOn ha hc hh ⟨_, hp, hlt⟩, rfl, rfl⟩

theorem Punctual.of_paced (hperiod : 0 < period) (ha : t.Alive period) (hc : t.Conserved)
    (h : t.Paced period) (hin : t.InTime) : t.Punctual period := by
  refine ⟨fun hb => (h.idle hb).2, fun begun hb => h.ticks_eq ha hin hb, ?_⟩
  intro begun hb first second
  obtain ⟨hrest, hasked, hnow⟩ := Resting.of_in_time ha hc h hin hb
  obtain ⟨hrest', hnow', hasked', hlength⟩ := hrest.turn hperiod first
  obtain ⟨hrest'', -, hasked'', hlength'⟩ := hrest'.turn hperiod second
  rw [hnow', hnow] at hrest'' hasked'' hlength'
  rw [hnow] at hasked' hlength
  have hle := (t.after .goOn).length_ready_le
  have hnil : _ = [] := List.eq_nil_of_length_eq_zero (hlength'.trans (by omega))
  have hperm := hrest''.conserved.perm
  rw [heard, hrest''.hand, hnil, hasked'', hasked', hasked, Option.toList_none, List.append_nil,
    List.append_nil] at hperm
  exact hperm.symm

/-- **A scheduler neither loses nor doubles cycles**, whatever happens to it, as long as nobody
stops it; and the steps that its loop takes at once are among what may happen. -/
theorem accounted_of_unstopped {happenings : List Happening} (hperiod : 0 < period)
    (hs : Happening.stop ∉ happenings) :
    let t := (fresh period).run happenings
    t.Accounted ∧ (Prompt period happenings → t.Punctual period) ∧
      ∀ rung, rung ≤ t.now → t.hand = none → ∃ later,
        t.Turns later (t.scheduler.runAll rung t.now).1 (t.scheduler.runAll rung t.now).2 := by
  obtain ⟨ha, hc⟩ := kept hperiod hs
  refine ⟨.of_conserved ha hc (active_subperm happenings), fun h => ?_, fun rung hr hh =>
    exists_run_runAll hh hr⟩
  exact .of_paced hperiod ha hc (paced hperiod hs h) (h _ List.prefix_rfl)

/-- Two triggers before the loop is entered, of which one is accepted; one more between the waking
up for that one and the start of its cycle, when the first tick is due, too; and a second tick when
only one of the cycles has ended. -/
theorem accounted_of_tick_and_trigger :
    let happenings : List Happening :=
      [.start, .trigger, .trigger, .enter, .hear 0 .trigger, .trigger, .goOn, .hear 0 .trigger,
        .goOn, .hear 0 .trigger, .goOn, .elapse 12, .finish 0, .trigger]
    let t := (fresh 10).run happenings
    (0 < 10 ∧ Happening.stop ∉ happenings ∧ Prompt 10 happenings) ∧
      (t.Accounted ∧ t.Punctual 10) ∧ t.started = [.trigger 1, .trigger 2, .tick 0] ∧
      t.waiting = [.tick 10, .trigger 3] := by
  intro happenings t
  have hperiod : 0 < 10 := by decide
  have hs : Happening.stop ∉ happenings := by decide
  have hprompt : Prompt 10 happenings := by decide
  obtain ⟨haccounted, hpunctual, -⟩ := accounted_of_unstopped hperiod hs
  exact ⟨⟨hperiod, hs, hprompt⟩, ⟨haccounted, hpunctual hprompt⟩, by decide, by decide⟩

end Timeline

end ModelFleet
