import Mathlib.Data.List.Nodup
import ModelFleet.Scheduler

/-!
# The course of a scheduler

What can happen to a scheduler, one thing after another, and in any order: somebody starts, stops or
triggers it, time goes by, its loop is entered, wakes up and starts cycles, and cycles end.  Between
waking up and starting a cycle the loop holds what it has woken up for, and others may act.  Of a
tick and a trigger that are both ready the loop may take either first.

A timeline writes down what cycles were asked for, and for what cycles were started.  The program
lets its loop take all its steps at once; that is a course of a timeline, too (`exists_run_runAll`).
-/

namespace ModelFleet

/-- What the loop of a scheduler wakes up for. -/
inductive WakeUp
  | tick
  | trigger
  deriving DecidableEq

/-- The other thing to wake up for. -/
def WakeUp.other : WakeUp → WakeUp
  | tick => trigger
  | trigger => tick

/-- Why a cycle is asked for: the tick that was due at a time, or an accepted trigger. -/
inductive Cause
  | tick (due : Nat)
  | trigger (number : Nat)
  deriving DecidableEq

namespace Cause

/-- Whether a cause is a trigger. -/
def isTrigger : Cause → Bool
  | tick _ => false
  | trigger _ => true

/-- When a tick was due. -/
def due? : Cause → Option Nat
  | tick due => some due
  | trigger _ => none

end Cause

/-! ### Waking up -/

namespace Scheduler

/-- Whether the loop can wake up for something, when alarms have rung up to `rung`. -/
def isReady (s : Scheduler) (rung : Nat) : WakeUp → Bool
  | .tick => s.nextTick?.any (· ≤ rung)
  | .trigger => s.nextTick?.isSome && s.triggered

/-- What the loop wakes up for, if there is anything; `first` if it is among what is ready. -/
def choose (s : Scheduler) (rung : Nat) (first : WakeUp) : Option WakeUp :=
  if s.isReady rung first then some first
  else if s.isReady rung first.other then some first.other
  else none

/-- Wakes up at a time. -/
def hear (s : Scheduler) (now : Nat) : WakeUp → Scheduler
  | .tick =>
    match s.phase with
    | .looping tick => { s with phase := .looping (tickAfter s.period tick now) }
    | _ => s
  | .trigger => { s with triggered := false }

/-- Enters the loop at a time. -/
def enter (s : Scheduler) (now : Nat) : Scheduler :=
  { s with running := true, phase := .looping now }

/-- The tick that has come due and was not heard yet. -/
def dueTick (s : Scheduler) (now : Nat) : Option Cause :=
  (s.nextTick?.filter (· ≤ now)).map .tick

variable {s : Scheduler} {tick rung now : Nat} {first w : WakeUp}

theorem nextTick?_eq_some_iff : s.nextTick? = some tick ↔ s.phase = .looping tick := by
  unfold nextTick?
  cases s.phase <;> simp

theorem isReady_of_choose (h : s.choose rung first = some w) : s.isReady rung w = true := by
  unfold choose at h
  split at h
  · exact Option.some.inj h ▸ ‹_›
  · split at h
    · exact Option.some.inj h ▸ ‹_›
    · cases h

theorem choose_eq_none_iff : s.choose rung first = none ↔
    s.isReady rung .tick = false ∧ s.isReady rung .trigger = false := by
  cases ht : s.isReady rung .tick <;> cases hg : s.isReady rung .trigger <;> cases first <;>
    simp [choose, WakeUp.other, ht, hg]

/-- The loop can only wake up once it was entered. -/
theorem exists_looping_of_isReady (h : s.isReady rung w = true) :
    ∃ tick, s.phase = .looping tick := by
  cases hn : s.nextTick? with
  | none => cases w <;> simp [isReady, hn] at h
  | some tick => exact ⟨tick, nextTick?_eq_some_iff.1 hn⟩

theorem le_of_isReady_tick (hp : s.phase = .looping tick) (h : s.isReady rung .tick = true) :
    tick ≤ rung := by
  simpa [isReady, nextTick?_eq_some_iff.2 hp] using h

theorem triggered_of_isReady (h : s.isReady rung .trigger = true) : s.triggered = true :=
  (Bool.and_eq_true_iff.1 h).2

theorem dueTick_of_looping (hp : s.phase = .looping tick) :
    s.dueTick now = if tick ≤ now then some (.tick tick) else none := by
  rw [dueTick, nextTick?_eq_some_iff.2 hp, Option.filter_some]
  by_cases h : tick ≤ now <;> simp [h]

theorem dueTick_of_not_looping (hp : ∀ tick, s.phase ≠ .looping tick) : s.dueTick now = none := by
  cases hn : s.nextTick? with
  | none => rw [dueTick, hn]; rfl
  | some tick => exact absurd (nextTick?_eq_some_iff.1 hn) (hp tick)

/-- Later ticks are due later. -/
theorem lt_tickAfter {period : Nat} (h : 0 < period) (tick now : Nat) :
    tick < tickAfter period tick now := by
  unfold tickAfter tolerance
  split <;> omega

/-- A tick that is heard in time moves no other one. -/
theorem tickAfter_of_le {period : Nat} (h : now ≤ tick + tolerance) :
    tickAfter period tick now = tick + period := if_neg (by omega)

theorem hear_tick (hp : s.phase = .looping tick) :
    s.hear now .tick = { s with phase := .looping (tickAfter s.period tick now) } := by
  rw [hear, hp]

theorem step_of_spawned (hp : s.phase = .spawned) :
    s.step rung now = some (s.enter now, false) := by
  rw [step, hp]
  rfl

/-- The steps of the loop wake up for ticks first. -/
theorem step_of_looping (hp : s.phase = .looping tick) :
    s.step rung now = (s.choose rung .tick).map fun w => (s.hear now w).wake := by
  have hn := nextTick?_eq_some_iff.2 hp
  by_cases ht : tick ≤ rung
  · simp [step, choose, isReady, hp, hn, ht, hear_tick hp]
  · cases hs : s.triggered <;> simp [step, choose, isReady, WakeUp.other, hear, hp, hn, ht, hs]

theorem step_of_neither (hs : s.phase ≠ .spawned) (hl : ∀ tick, s.phase ≠ .looping tick) :
    s.step rung now = none := by
  unfold step
  split
  · exact absurd ‹_› hs
  · exact absurd ‹_› (hl _)
  · rfl

end Scheduler

/-! ### Timelines -/

/-- A scheduler in the course of time. -/
structure Timeline where
  scheduler : Scheduler
  now : Nat
  /-- When the loop was entered. -/
  begun : Option Nat
  /-- Why cycles were asked for: ticks that have come due and triggers that were accepted. -/
  asked : List Cause
  /-- What the loop has woken up for without going on yet. -/
  hand : Option Cause
  /-- Why cycles were started. -/
  started : List Cause
  /-- Why the cycles that have not ended were started. -/
  active : List Cause

/-- Something that happens to a scheduler. -/
inductive Happening
  | start
  | stop
  | trigger
  | elapse (millis : Nat)
  /-- The loop is entered. -/
  | enter
  /-- The loop wakes up, with alarms that have rung up to `rung`, rather for `first`. -/
  | hear (rung : Nat) (first : WakeUp)
  /-- The loop goes on after waking up. -/
  | goOn
  /-- A cycle ends. -/
  | finish (index : Nat)
  deriving DecidableEq

namespace Timeline

/-- A scheduler that was just made. -/
def fresh (period : Nat) : Timeline := ⟨.fresh period, 0, none, [], none, [], []⟩

/-- How many triggers were accepted. -/
def triggers (t : Timeline) : Nat := t.asked.countP Cause.isTrigger

/-- The ticks that have come due. -/
def ticks (t : Timeline) : List Nat := t.asked.filterMap Cause.due?

/-- What the loop wakes up for when it wakes up for one thing or the other. -/
def readyFor (t : Timeline) : WakeUp → Option Cause
  | .tick => t.scheduler.dueTick t.now
  | .trigger => if t.scheduler.triggered then some (.trigger t.triggers) else none

/-- What the loop could wake up for. -/
def ready (t : Timeline) : List Cause := (t.readyFor .tick).toList ++ (t.readyFor .trigger).toList

/-- What the loop has woken up for. -/
def heard (t : Timeline) : List Cause := t.started ++ t.hand.toList

/-- What was asked for and the loop has not woken up for. -/
def waiting (t : Timeline) : List Cause := t.asked.filter (· ∉ t.heard)

/-- Time goes by; the next tick may come due. -/
def elapse (t : Timeline) (millis : Nat) : Timeline :=
  let before := t.scheduler.dueTick t.now
  let after := t.scheduler.dueTick (t.now + millis)
  { t with
    now := t.now + millis
    asked := t.asked ++ if before = none then after.toList else [] }

/-- Enters the loop; the first tick is due at once. -/
def enter (t : Timeline) : Timeline :=
  { t with
    scheduler := t.scheduler.enter t.now
    begun := some t.now
    asked := t.asked ++ ((t.scheduler.enter t.now).dueTick t.now).toList }

/-- The loop wakes up; a tick may be due already when the one before is heard. -/
def hear (t : Timeline) (w : WakeUp) : Timeline :=
  let scheduler := t.scheduler.hear t.now w
  { t with
    scheduler
    asked := t.asked ++ if w = .tick then (scheduler.dueTick t.now).toList else []
    hand := t.readyFor w }

/-- The loop goes on after waking up. -/
def goOn (t : Timeline) (cause : Cause) : Timeline :=
  let (scheduler, starts) := t.scheduler.wake
  { t with
    scheduler
    hand := none
    started := t.started ++ if starts then [cause] else []
    active := t.active ++ if starts then [cause] else [] }

/-- What a timeline comes to when something happens; nothing, if it cannot happen then. -/
def after (t : Timeline) : Happening → Timeline
  | .start => { t with scheduler := t.scheduler.start.getD t.scheduler }
  | .stop => { t with scheduler := t.scheduler.stop }
  | .trigger =>
    { t with
      scheduler := t.scheduler.trigger
      asked := t.asked ++ if t.scheduler.accepts then [.trigger (t.triggers + 1)] else [] }
  | .elapse millis => t.elapse millis
  | .enter => if t.scheduler.phase = .spawned then t.enter else t
  | .hear rung first =>
    match t.hand, t.scheduler.choose (min rung t.now) first with
    | none, some w => t.hear w
    | _, _ => t
  | .goOn =>
    match t.hand with
    | some cause => t.goOn cause
    | none => t
  | .finish index => { t with active := t.active.eraseIdx index }

/-- What a timeline comes to when one thing happens after the other. -/
def run (t : Timeline) (happenings : List Happening) : Timeline := happenings.foldl after t

theorem run_append (t : Timeline) (past later : List Happening) :
    t.run (past ++ later) = (t.run past).run later := List.foldl_append ..

theorem run_concat (t : Timeline) (past : List Happening) (last : Happening) :
    t.run (past ++ [last]) = (t.run past).after last := run_append ..

variable {t : Timeline} {first : WakeUp} {rung : Nat}

/-- Either the loop does not wake up, or it was waiting, and one of two things was ready. -/
theorem after_hear_cases (t : Timeline) (rung : Nat) (first : WakeUp) :
    t.after (.hear rung first) = t ∨ ∃ w, t.hand = none ∧
      t.scheduler.isReady (min rung t.now) w = true ∧ t.after (.hear rung first) = t.hear w := by
  cases hh : t.hand with
  | some cause => exact .inl (by simp [after, hh])
  | none =>
    cases hc : t.scheduler.choose (min rung t.now) first with
    | none => exact .inl (by simp [after, hh, hc])
    | some w => exact .inr ⟨w, rfl, Scheduler.isReady_of_choose hc, by simp [after, hh, hc]⟩

/-! ### The steps that the program takes at once -/

/-- Some happenings at one time that leave nothing in the hands of the loop and start `starts`
cycles. -/
structure Turns (t : Timeline) (happenings : List Happening) (scheduler : Scheduler)
    (starts : Nat) : Prop where
  unstopped : Happening.stop ∉ happenings
  scheduler_eq : (t.run happenings).scheduler = scheduler
  now_eq : (t.run happenings).now = t.now
  hand_eq : (t.run happenings).hand = none
  length_eq : (t.run happenings).started.length = t.started.length + starts

namespace Turns

theorem nil (h : t.hand = none) : t.Turns [] t.scheduler 0 :=
  ⟨List.not_mem_nil, rfl, rfl, h, rfl⟩

theorem append {past later : List Happening} {s s' : Scheduler} {m n : Nat}
    (h : t.Turns past s m) (h' : (t.run past).Turns later s' n) :
    t.Turns (past ++ later) s' (m + n) := by
  refine ⟨?_, ?_, ?_, ?_, ?_⟩
  · simp [h.unstopped, h'.unstopped]
  · rw [run_append, h'.scheduler_eq]
  · rw [run_append, h'.now_eq, h.now_eq]
  · rw [run_append, h'.hand_eq]
  · rw [run_append, h'.length_eq, h.length_eq, Nat.add_assoc]

end Turns

/-- What the loop can wake up for is what it then holds. -/
theorem exists_readyFor {w : WakeUp} (hr : rung ≤ t.now)
    (h : t.scheduler.isReady rung w = true) : ∃ cause, t.readyFor w = some cause := by
  obtain ⟨tick, hp⟩ := Scheduler.exists_looping_of_isReady h
  cases w with
  | tick =>
    have hle := Nat.le_trans (Scheduler.le_of_isReady_tick hp h) hr
    exact ⟨_, (Scheduler.dueTick_of_looping hp).trans (if_pos hle)⟩
  | trigger => exact ⟨_, if_pos (Scheduler.triggered_of_isReady h)⟩

theorem exists_turns_step {s : Scheduler} {starts : Bool} (hh : t.hand = none) (hr : rung ≤ t.now)
    (h : t.scheduler.step rung t.now = some (s, starts)) :
    ∃ happenings, t.Turns happenings s starts.toNat := by
  by_cases hs : t.scheduler.phase = .spawned
  · rw [Scheduler.step_of_spawned hs] at h
    obtain ⟨rfl, rfl⟩ := Prod.mk.inj (Option.some.inj h)
    refine ⟨[.enter], ?_⟩
    constructor <;> simp [run, after, hs, enter, hh]
  · by_cases hl : ∃ tick, t.scheduler.phase = .looping tick
    · obtain ⟨tick, hp⟩ := hl
      rw [Scheduler.step_of_looping hp] at h
      obtain ⟨w, hw, hwake⟩ := Option.map_eq_some_iff.1 h
      obtain ⟨cause, hc⟩ := exists_readyFor hr (Scheduler.isReady_of_choose hw)
      have hhear : t.after (.hear rung .tick) = t.hear w := by
        simp [after, hh, Nat.min_eq_left hr, hw]
      have hgo : (t.hear w).after .goOn = (t.hear w).goOn cause := by simp [after, hear, hc]
      have hrun : t.run [.hear rung .tick, .goOn] = (t.hear w).goOn cause := by
        rw [← hgo, ← hhear]
        rfl
      refine ⟨[.hear rung .tick, .goOn], by simp, ?_, ?_, ?_, ?_⟩
      · rw [hrun, goOn, hear, hwake]
      · rw [hrun]
        rfl
      · rw [hrun]
        rfl
      · rw [hrun, goOn, hear, hwake]
        cases starts <;> simp
    · rw [Scheduler.step_of_neither hs fun tick hp => hl ⟨tick, hp⟩] at h
      cases h

theorem exists_turns_run (hh : t.hand = none) (hr : rung ≤ t.now) (fuel : Nat) :
    ∃ happenings, t.Turns happenings (Scheduler.run rung t.now fuel t.scheduler).1
      (Scheduler.run rung t.now fuel t.scheduler).2 := by
  induction fuel generalizing t with
  | zero => exact ⟨[], .nil hh⟩
  | succ fuel ih =>
    cases hstep : t.scheduler.step rung t.now with
    | none => exact ⟨[], by simpa only [Scheduler.run, hstep] using .nil hh⟩
    | some result =>
      obtain ⟨s, starts⟩ := result
      obtain ⟨past, hpast⟩ := exists_turns_step hh hr hstep
      obtain ⟨later, hlater⟩ := ih hpast.hand_eq (hpast.now_eq ▸ hr)
      rw [hpast.now_eq, hpast.scheduler_eq] at hlater
      refine ⟨past ++ later, ?_⟩
      simp only [Scheduler.run, hstep]
      rw [Nat.add_comm]
      exact hpast.append hlater

/-- **The steps that the loop of the program takes at once** are a course of the timeline. -/
theorem exists_run_runAll (hh : t.hand = none) (hr : rung ≤ t.now) :
    ∃ happenings, t.Turns happenings (t.scheduler.runAll rung t.now).1
      (t.scheduler.runAll rung t.now).2 :=
  exists_turns_run hh hr 4

end Timeline

end ModelFleet
