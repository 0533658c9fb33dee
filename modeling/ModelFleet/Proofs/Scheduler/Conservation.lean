import Mathlib.Data.List.Perm.Subperm
import ModelFleet.Proofs.Scheduler.Timeline

/-!
# What was asked for is started or waits

Whatever happens to a scheduler that nobody stops, its loop goes on (`Alive`), and each tick that
has come due and each trigger that was accepted is among what the loop has woken up for or among
what it can wake up for next (`Conserved`).  Each happening keeps both.  So one tick at most and one
trigger at most wait at any time, and what was started adds up (`Accounted`).
-/

namespace ModelFleet

namespace Timeline

variable {period : Nat} {t : Timeline}

/-! ### What holds at every moment -/

/-- What holds of a timeline of a scheduler that was not stopped: the loop goes on. -/
structure Alive (period : Nat) (t : Timeline) : Prop where
  period_eq : t.scheduler.period = period
  unended : t.scheduler.phase ≠ .ended
  running : ∀ tick, t.scheduler.phase = .looping tick → t.scheduler.running = true
  looping : ∀ cause, t.hand = some cause → ∃ tick, t.scheduler.phase = .looping tick

/-- What was asked for is what the loop has heard and what it could hear, each once. -/
structure Conserved (t : Timeline) : Prop where
  perm : t.asked.Perm (t.heard ++ t.ready)
  nodup : t.asked.Nodup
  /-- Ticks that have come due are not due again. -/
  tick_mem : ∀ due, .tick due ∈ t.asked → ∃ next, t.scheduler.phase = .looping next ∧
    (due < next ∨ due = next ∧ next ≤ t.now)
  trigger_mem : ∀ number, .trigger number ∈ t.asked → number ≤ t.triggers

theorem Alive.fresh (period : Nat) : (fresh period).Alive period :=
  ⟨rfl, by simp [Timeline.fresh, Scheduler.fresh], by simp [Timeline.fresh, Scheduler.fresh],
    by simp [Timeline.fresh]⟩

theorem Conserved.fresh (period : Nat) : (fresh period).Conserved := by
  refine ⟨?_, List.nodup_nil, ?_, ?_⟩
  · simp [heard, ready, readyFor, Timeline.fresh, Scheduler.fresh, Scheduler.dueTick,
      Scheduler.nextTick?]
  · simp [Timeline.fresh]
  · simp [Timeline.fresh]

theorem nodup_append_toList {α : Type} {l : List α} {a : Option α} (h : l.Nodup)
    (ha : ∀ x, a = some x → x ∉ l) : (l ++ a.toList).Nodup := by
  cases a with
  | none => simpa using h
  | some x =>
    refine List.nodup_append.2 ⟨h, by simp, ?_⟩
    rintro y hy z hz rfl
    exact ha x rfl (List.mem_singleton.1 hz ▸ hy)

/-- New ticks are no triggers. -/
theorem countP_dueTick (s : Scheduler) (now : Nat) :
    (s.dueTick now).toList.countP Cause.isTrigger = 0 := by
  unfold Scheduler.dueTick
  cases s.nextTick?.filter (· ≤ now) <;> rfl

theorem exists_of_dueTick {s : Scheduler} {now : Nat} {cause : Cause}
    (h : s.dueTick now = some cause) :
    ∃ tick, s.phase = .looping tick ∧ tick ≤ now ∧ cause = .tick tick := by
  obtain ⟨tick, ht, rfl⟩ := Option.map_eq_some_iff.1 h
  obtain ⟨hn, hle⟩ := Option.filter_eq_some_iff.1 ht
  exact ⟨tick, Scheduler.nextTick?_eq_some_iff.1 hn, of_decide_eq_true hle, rfl⟩

/-! ### What each happening keeps -/

namespace Alive

theorem start (h : t.Alive period) : (t.after .start).Alive period := by
  obtain ⟨⟨p, running, triggered, phase⟩, _⟩ := t
  cases phase with
  | idle => exact ⟨h.period_eq, by simp [after, Scheduler.start],
      by simp [after, Scheduler.start], fun cause hc => by
        obtain ⟨tick, ht⟩ := h.looping cause hc
        cases ht⟩
  | spawned => exact h
  | looping => exact h
  | ended => exact h

theorem trigger (h : t.Alive period) : (t.after .trigger).Alive period := by
  have hp : t.scheduler.trigger.phase = t.scheduler.phase := by
    unfold Scheduler.trigger
    split <;> rfl
  have hr : t.scheduler.trigger.running = t.scheduler.running := by
    unfold Scheduler.trigger
    split <;> rfl
  refine ⟨?_, ?_, ?_, ?_⟩
  · rw [← h.period_eq]
    simp only [after, Scheduler.trigger]
    split <;> rfl
  · simpa only [after, hp] using h.unended
  · simpa only [after, hp, hr] using h.running
  · simpa only [after, hp] using h.looping

theorem elapse (h : t.Alive period) (millis : Nat) : (t.elapse millis).Alive period :=
  ⟨h.period_eq, h.unended, h.running, h.looping⟩

theorem enter (h : t.Alive period) : t.enter.Alive period :=
  ⟨h.period_eq, by simp [Timeline.enter, Scheduler.enter], fun _ _ => rfl, fun _ _ => ⟨t.now, rfl⟩⟩

theorem hear {w : WakeUp} {rung : Nat} (h : t.Alive period)
    (hr : t.scheduler.isReady rung w = true) : (t.hear w).Alive period := by
  obtain ⟨tick, hp⟩ := Scheduler.exists_looping_of_isReady hr
  cases w with
  | tick =>
    simp only [Timeline.hear, Scheduler.hear_tick hp]
    exact ⟨h.period_eq, by simp, fun _ _ => h.running tick hp, fun _ _ => ⟨_, rfl⟩⟩
  | trigger => exact ⟨h.period_eq, h.unended, h.running, fun _ _ => ⟨tick, hp⟩⟩

theorem wake {cause : Cause} (h : t.Alive period) (hh : t.hand = some cause) :
    t.scheduler.wake = (t.scheduler, true) := by
  obtain ⟨tick, hp⟩ := h.looping cause hh
  exact if_pos (h.running tick hp)

theorem goOn {cause : Cause} (h : t.Alive period) (hh : t.hand = some cause) :
    (t.goOn cause).Alive period := by
  simp only [Timeline.goOn, h.wake hh]
  exact ⟨h.period_eq, h.unended, h.running, by simp⟩

theorem after (h : t.Alive period) {happening : Happening} (hs : happening ≠ .stop) :
    (t.after happening).Alive period := by
  cases happening with
  | start => exact h.start
  | stop => exact absurd rfl hs
  | trigger => exact h.trigger
  | elapse millis => exact h.elapse millis
  | enter =>
    rw [Timeline.after]
    split
    · exact h.enter
    · exact h
  | hear rung first =>
    rcases t.after_hear_cases rung first with he | ⟨w, -, hr, he⟩
    · rw [he]
      exact h
    · rw [he]
      exact h.hear hr
  | goOn =>
    rw [Timeline.after]
    split
    · exact h.goOn ‹_›
    · exact h
  | finish index => exact ⟨h.period_eq, h.unended, h.running, h.looping⟩

end Alive

/-! ### What was asked for is kept -/

theorem triggers_append {t' : Timeline} {new : List Cause} (h : t'.asked = t.asked ++ new)
    (hnew : new.countP Cause.isTrigger = 0) : t'.triggers = t.triggers := by
  rw [triggers, triggers, h, List.countP_append, hnew, Nat.add_zero]

@[simp]
theorem triggers_elapse (t : Timeline) (millis : Nat) :
    (t.elapse millis).triggers = t.triggers := by
  refine triggers_append rfl ?_
  split
  · exact countP_dueTick _ _
  · rfl

@[simp]
theorem triggers_enter (t : Timeline) : t.enter.triggers = t.triggers :=
  triggers_append rfl (countP_dueTick _ _)

@[simp]
theorem triggers_hear (t : Timeline) (w : WakeUp) : (t.hear w).triggers = t.triggers := by
  refine triggers_append rfl ?_
  split
  · exact countP_dueTick _ _
  · rfl

theorem ready_elapse (t : Timeline) (millis : Nat) : (t.elapse millis).ready =
    (t.scheduler.dueTick (t.now + millis)).toList ++ (t.readyFor .trigger).toList := by
  simp only [ready, readyFor, triggers_elapse]
  rfl

theorem ready_enter (t : Timeline) : t.enter.ready =
    ((t.scheduler.enter t.now).dueTick t.now).toList ++ (t.readyFor .trigger).toList := by
  simp only [ready, readyFor, triggers_enter]
  rfl

theorem ready_hear_tick {tick : Nat} (hp : t.scheduler.phase = .looping tick) :
    (t.hear .tick).ready =
      ((t.scheduler.hear t.now .tick).dueTick t.now).toList ++ (t.readyFor .trigger).toList := by
  have ht : (t.hear .tick).scheduler.triggered = t.scheduler.triggered := by
    rw [hear, Scheduler.hear_tick hp]
  simp only [ready, readyFor, triggers_hear, ht]
  rfl

theorem ready_hear_trigger (t : Timeline) :
    (t.hear .trigger).ready = (t.readyFor .tick).toList := by
  simp [ready, readyFor, hear, Scheduler.hear, Scheduler.dueTick, Scheduler.nextTick?]

namespace Conserved

/-- What was asked for is kept when nothing but a tick comes in, and what is heard was ready. -/
theorem of_newTick (h : t.Conserved) {t' : Timeline} (new : Option Cause)
    (hasked : t'.asked = t.asked ++ new.toList)
    (hnew : ∀ cause, new = some cause →
      t'.scheduler.dueTick t'.now = some cause ∧ cause ∉ t.asked)
    (hold : ∀ due, .tick due ∈ t.asked → ∃ next, t'.scheduler.phase = .looping next ∧
      (due < next ∨ due = next ∧ next ≤ t'.now))
    (hperm : (t'.heard ++ t'.ready).Perm (t.heard ++ t.ready ++ new.toList)) : t'.Conserved := by
  have htick {cause : Cause} (hc : new = some cause) := exists_of_dueTick (hnew cause hc).1
  refine ⟨?_, ?_, fun due hd => ?_, fun number hn => ?_⟩
  · rw [hasked]
    exact (h.perm.append_right _).trans hperm.symm
  · rw [hasked]
    exact nodup_append_toList h.nodup fun cause hc => (hnew cause hc).2
  · rw [hasked] at hd
    rcases List.mem_append.1 hd with hd | hd
    · exact hold due hd
    · obtain ⟨next, hp, hle, he⟩ := htick (Option.mem_toList.1 hd)
      exact ⟨next, hp, .inr ⟨Cause.tick.inj he, hle⟩⟩
  · have hzero : new.toList.countP Cause.isTrigger = 0 := by
      refine List.countP_eq_zero.2 fun cause hc => ?_
      obtain ⟨_, -, -, rfl⟩ := htick (Option.mem_toList.1 hc)
      simp [Cause.isTrigger]
    rw [triggers_append hasked hzero]
    rw [hasked] at hn
    rcases List.mem_append.1 hn with hn | hn
    · exact h.trigger_mem number hn
    · obtain ⟨_, -, -, he⟩ := htick (Option.mem_toList.1 hn)
      cases he

theorem start (h : t.Conserved) : (t.after .start).Conserved := by
  obtain ⟨⟨p, running, triggered, phase⟩, _⟩ := t
  cases phase with
  | idle =>
    refine ⟨h.perm, h.nodup, fun due hd => ?_, h.trigger_mem⟩
    obtain ⟨next, hp, -⟩ := h.tick_mem due hd
    cases hp
  | spawned => exact h
  | looping => exact h
  | ended => exact h

theorem trigger (h : t.Conserved) : (t.after .trigger).Conserved := by
  cases ha : t.scheduler.accepts with
  | false =>
    have he : t.after .trigger = t := by simp [after, Scheduler.trigger, ha]
    exact he.symm ▸ h
  | true =>
    have hfree : t.scheduler.triggered = false := by simpa using (Bool.and_eq_true_iff.1 ha).1
    have he : t.after .trigger = { t with
        scheduler := { t.scheduler with triggered := true }
        asked := t.asked ++ [.trigger (t.triggers + 1)] } := by
      simp [after, Scheduler.trigger, ha]
    have hcount : (t.after .trigger).triggers = t.triggers + 1 := by
      simp [he, triggers, Cause.isTrigger]
    have hnew : .trigger (t.triggers + 1) ∉ t.asked := fun hm =>
      Nat.not_succ_le_self _ (h.trigger_mem _ hm)
    have hready : (t.after .trigger).ready = t.ready ++ [.trigger (t.triggers + 1)] := by
      simp only [ready, readyFor, hcount]
      simp [he, hfree, Scheduler.dueTick, Scheduler.nextTick?]
    refine ⟨?_, ?_, fun due hd => ?_, fun number hn => ?_⟩
    · rw [hready, ← List.append_assoc, he]
      exact h.perm.append_right _
    · rw [he]
      exact nodup_append_toList h.nodup (a := some _) fun x hx => Option.some.inj hx ▸ hnew
    · rw [he] at hd ⊢
      exact h.tick_mem due (by simpa using hd)
    · rw [hcount]
      rw [he] at hn
      rcases List.mem_append.1 hn with hn | hn
      · exact Nat.le_succ_of_le (h.trigger_mem number hn)
      · exact Nat.le_of_eq (Cause.trigger.inj (List.mem_singleton.1 hn))

theorem elapse (h : t.Conserved) (millis : Nat) : (t.elapse millis).Conserved := by
  have hold (due : Nat) (hd : .tick due ∈ t.asked) : ∃ next, t.scheduler.phase = .looping next ∧
      (due < next ∨ due = next ∧ next ≤ t.now + millis) := by
    obtain ⟨next, hp, hn⟩ := h.tick_mem due hd
    exact ⟨next, hp, hn.imp_right fun hn => ⟨hn.1, Nat.le_add_right_of_le hn.2⟩⟩
  cases hb : t.scheduler.dueTick t.now with
  | none =>
    refine h.of_newTick (t.scheduler.dueTick (t.now + millis))
      (by simp [Timeline.elapse, hb]) (fun cause hc => ⟨hc, fun hm => ?_⟩) hold ?_
    · -- a tick that was asked for before would have been due before
      obtain ⟨next, hp, -, rfl⟩ := exists_of_dueTick hc
      obtain ⟨_, hp', hn⟩ := h.tick_mem next hm
      obtain rfl := SchedulerPhase.looping.inj (hp.symm.trans hp')
      rw [Scheduler.dueTick_of_looping hp, if_pos (by omega)] at hb
      cases hb
    · rw [ready_elapse, ready, readyFor, hb, List.append_assoc]
      exact List.perm_append_comm.append_left _
  | some cause =>
    obtain ⟨tick, hp, hle, rfl⟩ := exists_of_dueTick hb
    have hb' : t.scheduler.dueTick (t.now + millis) = some (.tick tick) := by
      rw [Scheduler.dueTick_of_looping hp, if_pos (Nat.le_add_right_of_le hle)]
    refine h.of_newTick none (by simp [Timeline.elapse, hb]) (by simp) hold ?_
    rw [ready_elapse, ready, readyFor, hb, hb']
    exact .of_eq (List.append_nil _).symm

theorem enter (h : t.Conserved) (hs : t.scheduler.phase = .spawned) : t.enter.Conserved := by
  have hno (due : Nat) : .tick due ∉ t.asked := fun hm => by
    obtain ⟨next, hp, -⟩ := h.tick_mem due hm
    cases hs.symm.trans hp
  have hb : t.readyFor .tick = none :=
    Scheduler.dueTick_of_not_looping fun tick hp => by cases hs.symm.trans hp
  refine h.of_newTick _ rfl (fun cause hc => ⟨hc, ?_⟩) (fun due hd => absurd hd (hno due)) ?_
  · obtain ⟨tick, -, -, rfl⟩ := exists_of_dueTick hc
    exact hno tick
  · rw [ready_enter, ready, hb, List.append_assoc]
    exact List.perm_append_comm.append_left _

theorem hear_tick {tick : Nat} (hperiod : 0 < t.scheduler.period) (h : t.Conserved)
    (hh : t.hand = none) (hp : t.scheduler.phase = .looping tick) (hle : tick ≤ t.now) :
    (t.hear .tick).Conserved := by
  have hlt := Scheduler.lt_tickAfter hperiod tick t.now
  have hp' : (t.hear .tick).scheduler.phase =
      .looping (Scheduler.tickAfter t.scheduler.period tick t.now) := by
    rw [hear, Scheduler.hear_tick hp]
  have hb : t.readyFor .tick = some (.tick tick) := by
    rw [readyFor, Scheduler.dueTick_of_looping hp, if_pos hle]
  have hmem (due : Nat) (hd : .tick due ∈ t.asked) : due ≤ tick := by
    obtain ⟨_, hn, hd⟩ := h.tick_mem due hd
    obtain rfl := SchedulerPhase.looping.inj (hp.symm.trans hn)
    omega
  refine h.of_newTick ((t.scheduler.hear t.now .tick).dueTick t.now)
    (by simp [hear]) (fun cause hc => ⟨hc, fun hm => ?_⟩)
    (fun due hd => ⟨_, hp', .inl (Nat.lt_of_le_of_lt (hmem due hd) hlt)⟩) ?_
  · obtain ⟨next, hn, -, rfl⟩ := exists_of_dueTick hc
    obtain rfl := SchedulerPhase.looping.inj (hp'.symm.trans hn)
    exact absurd (hmem _ hm) (by omega)
  · have hheard : (t.hear .tick).heard = t.started ++ [.tick tick] := by
      rw [heard, hear, hb]
      rfl
    rw [ready_hear_tick hp, hheard, heard, hh, ready, hb]
    simp only [Option.toList_none, Option.toList_some, List.append_nil, List.append_assoc]
    exact (List.perm_append_comm.append_left _).append_left _

theorem hear_trigger (h : t.Conserved) (hh : t.hand = none) (ht : t.scheduler.triggered = true) :
    (t.hear .trigger).Conserved := by
  have hb : t.readyFor .trigger = some (.trigger t.triggers) := if_pos ht
  refine h.of_newTick none (by simp [hear]) (by simp) h.tick_mem ?_
  have hheard : (t.hear .trigger).heard = t.started ++ [.trigger t.triggers] := by
    rw [heard, hear, hb]
    rfl
  rw [ready_hear_trigger, hheard, heard, hh, ready, hb]
  simp only [Option.toList_none, Option.toList_some, List.append_nil, List.append_assoc]
  exact List.perm_append_comm.append_left _

theorem goOn {cause : Cause} (ha : t.Alive period) (h : t.Conserved) (hh : t.hand = some cause) :
    (t.goOn cause).Conserved := by
  have he : (t.goOn cause).heard ++ (t.goOn cause).ready = t.heard ++ t.ready := by
    simp [heard, Timeline.goOn, ha.wake hh, ready, readyFor, triggers, hh]
  simp only [Timeline.goOn, ha.wake hh] at he ⊢
  exact ⟨he ▸ h.perm, h.nodup, h.tick_mem, h.trigger_mem⟩

theorem after (hperiod : 0 < period) (ha : t.Alive period) (h : t.Conserved)
    {happening : Happening} (hs : happening ≠ .stop) : (t.after happening).Conserved := by
  cases happening with
  | start => exact h.start
  | stop => exact absurd rfl hs
  | trigger => exact h.trigger
  | elapse millis => exact h.elapse millis
  | enter =>
    rw [Timeline.after]
    split
    · exact h.enter ‹_›
    · exact h
  | hear rung first =>
    rcases t.after_hear_cases rung first with he | ⟨w, hh, hr, he⟩
    · rw [he]
      exact h
    · rw [he]
      obtain ⟨tick, hp⟩ := Scheduler.exists_looping_of_isReady hr
      cases w with
      | tick =>
        have hle := Scheduler.le_of_isReady_tick hp hr
        exact h.hear_tick (ha.period_eq ▸ hperiod) hh hp (Nat.le_trans hle (Nat.min_le_right ..))
      | trigger => exact h.hear_trigger hh (Scheduler.triggered_of_isReady hr)
  | goOn =>
    rw [Timeline.after]
    split
    · exact h.goOn ha ‹_›
    · exact h
  | finish index => exact ⟨h.perm, h.nodup, h.tick_mem, h.trigger_mem⟩

end Conserved

/-! ### What waits -/

/-- What is left of distinct items when some are taken out that they were made of. -/
theorem filter_not_mem_perm {α : Type} [DecidableEq α] {l taken rest : List α} (h : l.Nodup)
    (hp : l.Perm (taken ++ rest)) : (l.filter (· ∉ taken)).Perm rest := by
  have hd := (List.nodup_append.1 (hp.nodup_iff.1 h)).2.2
  have htaken : taken.filter (fun a => decide (a ∉ taken)) = [] := by simp
  have hrest : rest.filter (fun a => decide (a ∉ taken)) = rest :=
    List.filter_eq_self.2 fun a ha => decide_eq_true fun hm => hd a hm a ha rfl
  have := hp.filter (fun a => decide (a ∉ taken))
  rwa [List.filter_append, htaken, hrest] at this

/-- What waits is what the loop could hear. -/
theorem Conserved.waiting_perm (h : t.Conserved) : t.waiting.Perm t.ready :=
  filter_not_mem_perm h.nodup h.perm

/-- **How what was asked for and what was started belong together.** -/
structure Accounted (t : Timeline) : Prop where
  /-- No tick and no accepted trigger is like another one. -/
  asked_nodup : t.asked.Nodup
  /-- The loop wakes up once at most for each of them, and so one cycle at most is started. -/
  heard_nodup : t.heard.Nodup
  /-- The loop wakes up for nothing else. -/
  heard_subset : t.heard ⊆ t.asked
  /-- One tick at most waits. -/
  ticks_waiting : t.waiting.countP (!·.isTrigger) ≤ 1
  /-- One trigger at most waits. -/
  triggers_waiting : t.waiting.countP Cause.isTrigger ≤ 1
  /-- A trigger is accepted exactly when none waits. -/
  accepts_iff : t.scheduler.accepts = true ↔ t.waiting.countP Cause.isTrigger = 0
  /-- A trigger that is not accepted changes nothing. -/
  rejects : t.scheduler.accepts = false → t.after .trigger = t
  /-- What was started, what the loop has just woken up for, and what waits add up. -/
  count : t.started.length + t.hand.toList.length + t.waiting.length =
    t.ticks.length + t.triggers
  /-- Cycles that have not ended were started. -/
  active : t.active.Subperm t.started

theorem length_ticks (t : Timeline) :
    t.ticks.length + t.triggers = t.asked.length := by
  have hd (cause : Cause) : cause.due?.isSome = !cause.isTrigger := by cases cause <;> rfl
  rw [ticks, List.length_filterMap_eq_countP, triggers, Nat.add_comm,
    List.length_eq_countP_add_countP Cause.isTrigger]
  simp [hd]

theorem countP_isTrigger_ready (t : Timeline) :
    t.ready.countP Cause.isTrigger = t.scheduler.triggered.toNat := by
  rw [ready, List.countP_append, readyFor, countP_dueTick, Nat.zero_add, readyFor]
  cases t.scheduler.triggered <;> rfl

theorem countP_tick_ready_le (t : Timeline) : t.ready.countP (!·.isTrigger) ≤ 1 := by
  have hzero : (t.readyFor .trigger).toList.countP (!·.isTrigger) = 0 := by
    rw [readyFor]
    cases t.scheduler.triggered <;> rfl
  rw [ready, List.countP_append, hzero]
  exact Nat.le_trans List.countP_le_length Option.length_toList_le

theorem active_subperm_after (h : t.active.Subperm t.started) (happening : Happening) :
    (t.after happening).active.Subperm (t.after happening).started := by
  cases happening with
  | start => exact h
  | stop => exact h
  | trigger => exact h
  | elapse => exact h
  | enter =>
    rw [after]
    split <;> exact h
  | hear rung first =>
    rcases t.after_hear_cases rung first with he | ⟨w, -, -, he⟩
    · rwa [he]
    · rwa [he]
  | goOn =>
    rw [after]
    split
    · exact (List.subperm_append_right _).2 h
    · exact h
  | finish index => exact (List.eraseIdx_sublist ..).subperm.trans h

theorem Accounted.of_conserved (ha : t.Alive period) (h : t.Conserved)
    (hactive : t.active.Subperm t.started) : t.Accounted := by
  have hw := h.waiting_perm
  have htriggers : t.waiting.countP Cause.isTrigger = t.scheduler.triggered.toNat :=
    (hw.countP_eq _).trans t.countP_isTrigger_ready
  have hnodup := h.perm.nodup_iff.1 h.nodup
  refine ⟨h.nodup, (List.nodup_append.1 hnodup).1, ?_, ?_, ?_, ?_, ?_, ?_, hactive⟩
  · exact fun cause hc => h.perm.mem_iff.2 (List.mem_append_left _ hc)
  · rw [hw.countP_eq]
    exact t.countP_tick_ready_le
  · rw [htriggers]
    exact Bool.toNat_le _
  · rw [htriggers, Scheduler.accepts]
    cases t.scheduler.triggered <;> simp [ha.unended]
  · intro hr
    simp [after, Scheduler.trigger, hr]
  · have hlength := h.perm.length_eq
    rw [List.length_append, heard, List.length_append, ← hw.length_eq] at hlength
    rw [length_ticks, hlength]

end Timeline

end ModelFleet
