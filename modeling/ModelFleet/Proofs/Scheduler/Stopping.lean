import Mathlib.Data.List.Induction
import ModelFleet.Proofs.Scheduler.Timeline

/-!
# Stopping a scheduler

Whether a stop is final depends on whether the loop has been entered by then.

* A loop that was entered is `Closing` from the stop on, whatever happens: it starts nothing, and
  the first thing that it wakes up for ends it (`Final`).
* A loop that is yet to be entered undoes the stop, for entering it marks the scheduler as running.
  As long as it is not entered the scheduler is not running anyway, so such a stop changes nothing.

`final_or_lost` puts the two together, and `not_final_of_early_stop` is a stop that is lost.
-/

namespace ModelFleet

namespace Scheduler

/-! ## Steps that the loop takes at once -/

variable {s : Scheduler} (rung now : Nat)

variable {rung now} in
theorem run_of_step_eq_none (h : s.step rung now = none) (fuel : Nat) :
    run rung now fuel s = (s, 0) := by
  cases fuel with
  | zero => rfl
  | succ fuel => rw [run, h]

theorem step_of_ended (h : s.phase = .ended) : s.step rung now = none := by
  rw [step, h]

/-- The first step of a loop that finds the scheduler stopped is its last one. -/
theorem step_of_stopped {tick : Nat} (hp : s.phase = .looping tick) (hr : s.running = false) :
    s.step rung now = none ∧ s.choose rung .tick = none ∨
      ∃ s', s.step rung now = some (s', false) ∧ s'.phase = .ended ∧ s'.running = false := by
  rw [step_of_looping hp]
  cases hc : s.choose rung .tick with
  | none => exact .inl ⟨rfl, rfl⟩
  | some w =>
    have hrunning : (s.hear now w).running = false := by
      cases w with
      | tick => rw [hear_tick hp, hr]
      | trigger => exact hr
    refine .inr ⟨{ s.hear now w with phase := .ended }, ?_, rfl, hrunning⟩
    simp [wake, hrunning]

theorem runAll_of_stopped (hp : s.phase = .ended ∨ ∃ tick, s.phase = .looping tick)
    (hr : s.running = false) :
    (s.runAll rung now).2 = 0 ∧ (s.runAll rung now).1.running = false ∧
      (s.choose rung .tick ≠ none → (s.runAll rung now).1.phase = .ended) := by
  rcases hp with hp | ⟨tick, hp⟩
  · rw [runAll, run_of_step_eq_none (step_of_ended rung now hp)]
    exact ⟨rfl, hr, fun _ => hp⟩
  · rcases step_of_stopped rung now hp hr with ⟨hs, hc⟩ | ⟨s', hs, hp', hr'⟩
    · rw [runAll, run_of_step_eq_none hs]
      exact ⟨rfl, hr, fun h => absurd hc h⟩
    · rw [runAll, run, hs]
      simp only
      rw [run_of_step_eq_none (step_of_ended rung now hp')]
      exact ⟨rfl, hr', fun _ => hp'⟩

end Scheduler

namespace Timeline

variable {t t' : Timeline}

/-! ## What can happen to the loop -/

/-- What a happening can do to the loop of a scheduler. -/
inductive Moves (t t' : Timeline) : Prop
  /-- The loop is left alone; the scheduler may be stopped. -/
  | aside (phase : t'.scheduler.phase = t.scheduler.phase)
      (running : t.scheduler.running = false → t'.scheduler.running = false)
      (begun : t'.begun = t.begun) (hand : t'.hand = t.hand) (started : t'.started = t.started)
  | spawned (before : t.scheduler.phase = .idle) (phase : t'.scheduler.phase = .spawned)
      (running : t'.scheduler.running = t.scheduler.running) (begun : t'.begun = t.begun)
      (hand : t'.hand = t.hand) (started : t'.started = t.started)
  | entered (before : t.scheduler.phase = .spawned) (phase : t'.scheduler.phase = .looping t.now)
      (begun : t'.begun = some t.now)
  | heard {tick next : Nat} (before : t.scheduler.phase = .looping tick)
      (phase : t'.scheduler.phase = .looping next)
      (running : t'.scheduler.running = t.scheduler.running) (begun : t'.begun = t.begun)
      (started : t'.started = t.started)
  /-- The loop goes on after waking up, with a cycle. -/
  | wentOn (before : t.scheduler.running = true) (scheduler : t'.scheduler = t.scheduler)
      (begun : t'.begun = t.begun) (hand : t'.hand = none)
  /-- The loop finds after waking up that the scheduler was stopped. -/
  | closed (before : t.hand ≠ none) (phase : t'.scheduler.phase = .ended)
      (running : t'.scheduler.running = false) (begun : t'.begun = t.begun) (hand : t'.hand = none)
      (started : t'.started = t.started)

theorem moves_start (t : Timeline) : t.Moves (t.after .start) := by
  cases hs : t.scheduler.start with
  | none => apply Moves.aside <;> simp [after, hs]
  | some s =>
    rw [Scheduler.start] at hs
    split at hs
    · cases hs
      apply Moves.spawned ‹_› <;> simp [after, Scheduler.start, *]
    · cases hs

theorem moves_trigger (t : Timeline) : t.Moves (t.after .trigger) := by
  apply Moves.aside <;> simp only [after, Scheduler.trigger]
  · split <;> rfl
  · split <;> exact id

theorem moves_hear {w : WakeUp} {rung : Nat} (hr : t.scheduler.isReady rung w = true) :
    t.Moves (t.hear w) := by
  obtain ⟨tick, hp⟩ := Scheduler.exists_looping_of_isReady hr
  cases w with
  | tick =>
    have hs : (t.hear .tick).scheduler = _ := Scheduler.hear_tick hp
    exact .heard hp (by rw [hs]) (by rw [hs]) rfl rfl
  | trigger => exact .heard hp hp rfl rfl rfl

theorem moves_goOn {cause : Cause} (hh : t.hand = some cause) : t.Moves (t.goOn cause) := by
  cases hr : t.scheduler.running with
  | true => apply Moves.wentOn hr <;> simp [goOn, Scheduler.wake, hr]
  | false => apply Moves.closed <;> simp [goOn, Scheduler.wake, hr, hh]

theorem moves (t : Timeline) (happening : Happening) : t.Moves (t.after happening) := by
  have hnone : t.Moves t := .aside rfl id rfl rfl rfl
  cases happening with
  | start => exact t.moves_start
  | stop => exact .aside rfl (fun _ => rfl) rfl rfl rfl
  | trigger => exact t.moves_trigger
  | elapse millis => exact .aside rfl id rfl rfl rfl
  | enter =>
    rw [after]
    split
    · exact .entered ‹_› rfl rfl
    · exact hnone
  | hear rung first =>
    rcases t.after_hear_cases rung first with he | ⟨w, -, hr, he⟩
    · exact he.symm ▸ hnone
    · exact he.symm ▸ moves_hear hr
  | goOn =>
    rw [after]
    split
    · exact moves_goOn ‹_›
    · exact hnone
  | finish index => exact .aside rfl id rfl rfl rfl

/-- A loop that has ended does not go on. -/
theorem Moves.ended (hm : t.Moves t') (he : t.scheduler.phase = .ended) :
    t'.scheduler.phase = .ended := by
  cases hm with
  | aside phase => exact phase.trans he
  | spawned before =>
    rw [he] at before
    cases before
  | entered before =>
    rw [he] at before
    cases before
  | heard before =>
    rw [he] at before
    cases before
  | wentOn before scheduler => rw [scheduler, he]
  | closed before phase => exact phase

theorem ended_run (he : t.scheduler.phase = .ended) (later : List Happening) :
    (t.run later).scheduler.phase = .ended := by
  induction later using List.reverseRecOn with
  | nil => exact he
  | append_singleton past last ih =>
    rw [run_concat]
    exact (moves _ last).ended ih

/-! ## Before the stop -/

/-- How far the loop has come, and whether the scheduler is running. -/
structure WellPhased (t : Timeline) : Prop where
  unentered : t.begun = none → t.scheduler.running = false ∧
    (t.scheduler.phase = .idle ∨ t.scheduler.phase = .spawned)
  entered : t.begun ≠ none → t.scheduler.phase = .ended ∨ ∃ tick, t.scheduler.phase = .looping tick
  /-- Only a loop that was entered holds what it has woken up for. -/
  looping : t.hand ≠ none → ∃ tick, t.scheduler.phase = .looping tick

namespace WellPhased

theorem fresh (period : Nat) : (fresh period).WellPhased :=
  ⟨fun _ => ⟨rfl, .inl rfl⟩, fun h => absurd rfl h, fun h => absurd rfl h⟩

theorem begun_ne_none (h : t.WellPhased) {tick : Nat} (hp : t.scheduler.phase = .looping tick) :
    t.begun ≠ none := by
  intro hb
  rcases (h.unentered hb).2 with hi | hi <;> rw [hi] at hp <;> cases hp

theorem step (h : t.WellPhased) (hm : t.Moves t') : t'.WellPhased := by
  cases hm with
  | aside phase running begun hand started =>
    refine ⟨fun hb => ?_, ?_, ?_⟩
    · obtain ⟨hr, hp⟩ := h.unentered (begun ▸ hb)
      exact ⟨running hr, phase ▸ hp⟩
    · rw [begun, phase]
      exact h.entered
    · rw [hand, phase]
      exact h.looping
  | spawned before phase running begun hand started =>
    have hidle : t.begun = none := by
      by_contra hb
      rcases h.entered hb with hp | ⟨tick, hp⟩ <;> rw [before] at hp <;> cases hp
    refine ⟨fun hb => ?_, ?_, ?_⟩
    · rw [running]
      exact ⟨(h.unentered hidle).1, .inr phase⟩
    · rw [begun]
      exact absurd hidle
    · rw [hand]
      intro hh
      obtain ⟨tick, hp⟩ := h.looping hh
      rw [before] at hp
      cases hp
  | entered before phase begun =>
    refine ⟨?_, fun _ => .inr ⟨_, phase⟩, fun _ => ⟨_, phase⟩⟩
    rw [begun]
    intro hb
    cases hb
  | heard before phase running begun started =>
    refine ⟨?_, fun _ => .inr ⟨_, phase⟩, fun _ => ⟨_, phase⟩⟩
    rw [begun]
    intro hb
    exact absurd hb (h.begun_ne_none before)
  | wentOn before scheduler begun hand =>
    refine ⟨?_, ?_, fun hh => absurd hand hh⟩
    · rw [begun, scheduler]
      exact h.unentered
    · rw [begun, scheduler]
      exact h.entered
  | closed before phase running begun hand started =>
    obtain ⟨tick, hp⟩ := h.looping before
    refine ⟨?_, fun _ => .inl phase, fun hh => absurd hand hh⟩
    rw [begun]
    intro hb
    exact absurd hb (h.begun_ne_none hp)

theorem run (period : Nat) (happenings : List Happening) :
    ((Timeline.fresh period).run happenings).WellPhased := by
  induction happenings using List.reverseRecOn with
  | nil => exact .fresh period
  | append_singleton past last ih =>
    rw [run_concat]
    exact ih.step (moves _ last)

/-- A stop changes nothing before the loop is entered. -/
theorem after_stop (h : t.WellPhased) (hb : t.begun = none) : t.after .stop = t := by
  have hr := (h.unentered hb).1
  rw [after, Scheduler.stop, ← hr]

end WellPhased

/-! ## After the stop -/

/-- What holds from the stop on if the loop was entered before: only `causes` were started. -/
structure Closing (causes : List Cause) (t : Timeline) : Prop where
  entered : t.scheduler.phase = .ended ∨ ∃ tick, t.scheduler.phase = .looping tick
  looping : t.hand ≠ none → ∃ tick, t.scheduler.phase = .looping tick
  running : t.scheduler.running = false
  started : t.started = causes

namespace Closing

variable {causes : List Cause}

theorem of_stop (h : t.WellPhased) (hb : t.begun ≠ none) : (t.after .stop).Closing t.started :=
  ⟨h.entered hb, h.looping, rfl, rfl⟩

theorem step (h : t.Closing causes) (hm : t.Moves t') : t'.Closing causes := by
  cases hm with
  | aside phase running begun hand started =>
    refine ⟨?_, ?_, running h.running, started.trans h.started⟩
    · rw [phase]
      exact h.entered
    · rw [hand, phase]
      exact h.looping
  | spawned before =>
    rcases h.entered with hp | ⟨tick, hp⟩ <;> rw [before] at hp <;> cases hp
  | entered before =>
    rcases h.entered with hp | ⟨tick, hp⟩ <;> rw [before] at hp <;> cases hp
  | heard before phase running begun started =>
    exact ⟨.inr ⟨_, phase⟩, fun _ => ⟨_, phase⟩, running.trans h.running, started.trans h.started⟩
  | wentOn before =>
    rw [h.running] at before
    cases before
  | closed before phase running begun hand started =>
    exact ⟨.inl phase, fun hh => absurd hand hh, running, started.trans h.started⟩

theorem run (h : t.Closing causes) (later : List Happening) : (t.run later).Closing causes := by
  induction later using List.reverseRecOn with
  | nil => exact h
  | append_singleton past last ih =>
    rw [run_concat]
    exact ih.step (moves _ last)

/-- A loop that has woken up ends when it goes on. -/
theorem ended_goOn (h : t.Closing causes) (hh : t.hand ≠ none) :
    (t.after .goOn).scheduler.phase = .ended := by
  obtain ⟨cause, hc⟩ := Option.ne_none_iff_exists'.1 hh
  simp [after, hc, goOn, Scheduler.wake, h.running]

/-- A loop that waits ends when there is something to wake up for. -/
theorem ended_hear (h : t.Closing causes) (hh : t.hand = none) {rung : Nat} {first : WakeUp}
    (hc : t.scheduler.choose (min rung t.now) first ≠ none) :
    (t.run [.hear rung first, .goOn]).scheduler.phase = .ended := by
  obtain ⟨w, hw⟩ := Option.ne_none_iff_exists'.1 hc
  have hr := Scheduler.isReady_of_choose hw
  have hhear : t.after (.hear rung first) = t.hear w := by simp [after, hh, hw]
  have hhand : (t.hear w).hand ≠ none := by
    obtain ⟨cause, hcause⟩ := exists_readyFor (Nat.min_le_right rung t.now) hr
    show t.readyFor w ≠ none
    rw [hcause]
    exact Option.some_ne_none cause
  show ((t.after (.hear rung first)).after .goOn).scheduler.phase = .ended
  rw [hhear]
  exact (h.step (moves_hear hr)).ended_goOn hhand

/-- Its next tick is something to wake up for. -/
theorem ended_elapse (h : t.Closing causes) (hh : t.hand = none) {tick millis : Nat}
    (hp : t.scheduler.phase = .looping tick) (hle : tick ≤ t.now + millis) (first : WakeUp) :
    (t.run [.elapse millis, .hear (t.now + millis) first, .goOn]).scheduler.phase = .ended := by
  have helapse := h.step (t.moves (.elapse millis))
  show ((t.after (.elapse millis)).run [.hear (t.now + millis) first, .goOn]).scheduler.phase = _
  refine helapse.ended_hear hh fun hc => ?_
  have hready : t.scheduler.isReady (t.now + millis) .tick = true := by
    simpa [Scheduler.isReady, Scheduler.nextTick?_eq_some_iff.2 hp] using hle
  have hnone := (Scheduler.choose_eq_none_iff.1 hc).1
  rw [show min (t.now + millis) (t.after (.elapse millis)).now = t.now + millis from
    Nat.min_self _] at hnone
  rw [show (t.after (.elapse millis)).scheduler = t.scheduler from rfl, hready] at hnone
  cases hnone

end Closing

/-- **What a stop comes to that is final**: only `causes`, those from before the stop, were started,
the scheduler is not running, and its loop ends at its next wake-up. -/
structure Final (causes : List Cause) (t : Timeline) : Prop where
  started : t.started = causes
  running : t.scheduler.running = false
  /-- If the loop has woken up, it ends when it goes on. -/
  ends_awake : t.hand ≠ none → (t.after .goOn).scheduler.finished = true
  /-- If it waits, it ends as soon as it wakes up. -/
  ends_waiting : t.hand = none → ∀ rung first, t.scheduler.choose (min rung t.now) first ≠ none →
    (t.run [.hear rung first, .goOn]).scheduler.finished = true
  /-- It wakes up for its next tick at the latest. -/
  ends_in_time : t.hand = none → ∀ tick, t.scheduler.phase = .looping tick →
    ∀ millis first, tick ≤ t.now + millis →
      (t.run [.elapse millis, .hear (t.now + millis) first, .goOn]).scheduler.finished = true
  /-- Once it has ended it does not go on. -/
  stays_ended : t.scheduler.finished = true → ∀ later, (t.run later).scheduler.finished = true
  /-- All steps that the loop takes at once start nothing, and end it if there are any. -/
  at_once : ∀ rung now, (t.scheduler.runAll rung now).2 = 0 ∧
    (t.scheduler.runAll rung now).1.running = false ∧
    (t.scheduler.choose rung .tick ≠ none → (t.scheduler.runAll rung now).1.finished = true)

theorem Closing.final {causes : List Cause} (h : t.Closing causes) : t.Final causes where
  started := h.started
  running := h.running
  ends_awake hh := decide_eq_true (h.ended_goOn hh)
  ends_waiting hh rung first hc := decide_eq_true (h.ended_hear hh hc)
  ends_in_time hh tick hp millis first hle := decide_eq_true (h.ended_elapse hh hp hle first)
  stays_ended he later := decide_eq_true (ended_run (of_decide_eq_true he) later)
  at_once rung now := by
    obtain ⟨hstarts, hrunning, hends⟩ :=
      Scheduler.runAll_of_stopped rung now h.entered h.running
    exact ⟨hstarts, hrunning, fun hc => decide_eq_true (hends hc)⟩

/-- **A stop is final if the loop was entered before**, whatever happens later; otherwise it changes
nothing at all, and so it is lost as soon as the loop is entered. -/
theorem final_or_lost (period : Nat) (past later : List Happening) :
    let t := (fresh period).run past
    (t.begun ≠ none → ((t.after .stop).run later).Final t.started) ∧
      (t.begun = none → t.after .stop = t) := by
  intro t
  have hw : t.WellPhased := .run period past
  refine ⟨fun hb => ?_, fun hb => hw.after_stop hb⟩
  exact ((Closing.of_stop hw hb).run later).final

/-- A stop between the start and the moment at which the loop is entered: a cycle is started. -/
theorem not_final_of_early_stop :
    ¬ ∀ (period : Nat) (past later : List Happening),
      ((((fresh period).run past).after .stop).run later).Final ((fresh period).run past).started := by
  intro h
  have hstarted := (h 10 [.start] [.enter, .hear 0 .tick, .goOn]).started
  revert hstarted
  decide

end Timeline

end ModelFleet
