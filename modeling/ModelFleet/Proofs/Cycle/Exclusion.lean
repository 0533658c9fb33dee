import ModelFleet.Proofs.Cycle.Corrections
import ModelFleet.Proofs.Run.Overlap

/-!
# One cycle at a time

Of the cycles that overlap one at the most is inside the gate, which is open exactly when none is
(`Overlap.Held`), and a cycle that finds the gate closed ends without having read or written any
record (`Overlap.skipping_run`).
-/

namespace ModelFleet

open Outside

/-- Whether a cycle is inside the gate in a phase. -/
def Phase.holds {settings : SyncSettings} : Phase settings → Bool
  | .asking cycle _ _ | .told cycle _ _ => cycle.holdsGate
  | _ => false

namespace Overlap

variable {settings : SyncSettings} {κ γ : Type}

/-- Whether a cycle is inside the gate. -/
def holds (w : Overlap settings κ γ) (call : κ) : Bool := (w.phases call).holds

/-- One cycle at the most is inside the gate, which is open exactly when none is. -/
structure Held (w : Overlap settings κ γ) : Prop where
  alone : ∀ call other, w.holds call = true → w.holds other = true → call = other
  gate : w.daemon.gate.isOpen = true ↔ ∀ call, w.holds call = false

theorem held_fresh (store : MemoryStore) (cluster : γ) {daemon : Daemon}
    (h : daemon.gate.isOpen = true) :
    Held (fresh settings store cluster daemon : Overlap settings κ γ) :=
  ⟨nofun, fun _ _ => rfl, fun _ => h⟩

variable {w w' : Overlap settings κ γ} {call : κ}

theorem Held.of_same (h : Held w) (hp : ∀ other, w'.holds other = w.holds other)
    (hg : w'.daemon.gate = w.daemon.gate) : Held w' where
  alone := by simpa only [hp] using h.alone
  gate := by simpa only [hp, hg] using h.gate

/-- A cycle comes in. -/
theorem Held.enter (h : Held w) (hopen : w.daemon.gate.isOpen = true)
    (hp : ∀ other, other ≠ call → w'.holds other = w.holds other) (hin : w'.holds call = true)
    (hg : w'.daemon.gate.isOpen = false) : Held w' := by
  have hout := h.gate.1 hopen
  have honly : ∀ other, w'.holds other = true → other = call := by
    intro other ho
    by_contra hne
    rw [hp other hne, hout] at ho
    cases ho
  refine ⟨fun a b ha hb => (honly a ha).trans (honly b hb).symm, ?_⟩
  rw [hg]
  refine ⟨nofun, fun hnone => ?_⟩
  rw [hnone call] at hin
  cases hin

/-- A cycle that was inside comes out. -/
theorem Held.leave (h : Held w) (hin : w.holds call = true)
    (hp : ∀ other, other ≠ call → w'.holds other = w.holds other) (hout : w'.holds call = false)
    (hg : w'.daemon.gate.isOpen = true) : Held w' := by
  have hnone : ∀ other, w'.holds other = false := by
    intro other
    by_cases hne : other = call
    · rw [hne, hout]
    · rw [hp other hne, Bool.eq_false_iff]
      exact fun ho => hne (h.alone other call ho hin)
  refine ⟨fun a b ha => ?_, fun _ => hnone, fun _ => hg⟩
  rw [hnone a] at ha
  cases ha

variable [DecidableEq κ] {peers : Peers γ}

theorem holds_put_self (w : Overlap settings κ γ) (call : κ) (phase : Phase settings) :
    (w.put call phase).holds call = phase.holds :=
  congrArg Phase.holds (phases_put_self w call phase)

theorem holds_put_of_ne (w : Overlap settings κ γ) {other : κ} (h : other ≠ call)
    (phase : Phase settings) : (w.put call phase).holds other = w.holds other :=
  congrArg Phase.holds (phases_put_of_ne w h phase)

theorem holds_put_of_eq (w : Overlap settings κ γ) {phase : Phase settings}
    (h : phase.holds = w.holds call) (other : κ) :
    (w.put call phase).holds other = w.holds other := by
  by_cases ho : other = call
  · rw [ho, holds_put_self, h]
  · exact holds_put_of_ne w ho phase

theorem holds_proceed_self (w : Overlap settings κ γ) (call : κ) (trail : List Exchange)
    (p : Next Cycle CycleReport × Daemon) :
    (w.proceed call trail p).holds call = Cycle.insideAfter p.1 := by
  refine (holds_put_self ..).trans ?_
  cases p.1 <;> rfl

theorem holds_proceed_of_ne (w : Overlap settings κ γ) {other : κ} (h : other ≠ call)
    (trail : List Exchange) (p : Next Cycle CycleReport × Daemon) :
    (w.proceed call trail p).holds other = w.holds other :=
  holds_put_of_ne { w with daemon := p.2 } h _

/-- **What may happen at the gate**: nothing, or one cycle comes in, which finds it open, or out. -/
inductive Passage (w w' : Overlap settings κ γ) : Prop
  | none (hp : ∀ other, w'.holds other = w.holds other) (hg : w'.daemon.gate = w.daemon.gate)
  | enters (call : κ) (hp : ∀ other, other ≠ call → w'.holds other = w.holds other)
      (hopen : w.daemon.gate.isOpen = true) (hin : w'.holds call = true)
      (hg : w'.daemon.gate.isOpen = false)
  | leaves (call : κ) (hp : ∀ other, other ≠ call → w'.holds other = w.holds other)
      (hin : w.holds call = true) (hout : w'.holds call = false)
      (hg : w'.daemon.gate.isOpen = true)

theorem passage_proceed {cycle : Cycle} {x : Exchange} {d : Daemon} {trail : List Exchange}
    {p : Next Cycle CycleReport × Daemon} (hd : d.gate = w.daemon.gate)
    (hw : w.holds call = cycle.holdsGate) (ha : Cycle.Advance settings d cycle x p.1 p.2.gate) :
    Passage w (w.proceed call trail p) := by
  have hne : ∀ other, other ≠ call → (w.proceed call trail p).holds other = w.holds other :=
    fun other ho => holds_proceed_of_ne w ho trail p
  have hself := holds_proceed_self w call trail p
  rcases ha.gate_cases with ⟨hin, hg⟩ | ⟨-, hopen, hin, hg⟩ | ⟨hin, hout, hg⟩
  · refine .none (fun other => ?_) (hg.trans hd)
    by_cases ho : other = call
    · rw [ho, hself, hin, hw]
    · exact hne other ho
  · refine .enters call hne (hd ▸ hopen) (hself.trans hin) ?_
    show p.2.gate.isOpen = false
    rw [hg]
    rfl
  · refine .leaves call hne (hw.trans hin) (hself.trans hout) ?_
    show p.2.gate.isOpen = true
    rw [hg]
    rfl

theorem gate_cancel (cycle : Cycle) (d : Daemon) :
    (cycle.cancel.run d).2.gate = if cycle.holdsGate then ⟨false⟩ else d.gate := by
  unfold Cycle.cancel
  cases cycle.holdsGate <;> cases cycle.seeksKey <;> rfl

theorem holds_of_underWay {phase : Phase settings} {cycle : Cycle} {trail : List Exchange}
    (h : phase.underWay? = some (cycle, trail)) : phase.holds = cycle.holdsGate := by
  cases phase with
  | asking | told =>
    cases h
    rfl
  | _ => cases h

theorem Moved.passage {m : Move κ γ} (h : Moved peers w m w') : Passage w w' := by
  cases h with
  | still | writes | changes => exact .none (fun _ => rfl) rfl
  | starts now h =>
    refine .none (fun other => holds_put_of_eq _ ?_ other) rfl
    exact (congrArg Phase.holds h).symm
  | serves h | arrives h | delivers h | expires h =>
    refine .none (fun other => holds_put_of_eq _ ?_ other) rfl
    exact (congrArg Phase.holds h).symm
  | resumes now h =>
    exact passage_proceed (d := { w.daemon with clock := now }) rfl (congrArg Phase.holds h)
      (Cycle.advance _ _ _)
  | @cancels call cycle trail h =>
    have hcall : w.holds call = cycle.holdsGate := holds_of_underWay h
    have hgate := gate_cancel cycle w.daemon
    cases hin : cycle.holdsGate with
    | true =>
      rw [if_pos hin] at hgate
      refine .leaves call (fun other ho => holds_put_of_ne _ ho _) (hcall.trans hin)
        (holds_put_self ..) ?_
      show (cycle.cancel.run w.daemon).2.gate.isOpen = true
      rw [hgate]
      rfl
    | false =>
      rw [if_neg (by simp [hin])] at hgate
      refine .none (fun other => holds_put_of_eq _ ?_ other) hgate
      exact (hcall.trans hin).symm

/-- **A move keeps the gate in order.** -/
theorem Moved.held {m : Move κ γ} (h : Moved peers w m w') (hw : Held w) : Held w' := by
  cases h.passage with
  | none hp hg => exact hw.of_same hp hg
  | enters call hp hopen hin hg => exact hw.enter hopen hp hin hg
  | leaves call hp hin hout hg => exact hw.leave hin hp hout hg

/-- A cycle comes inside by going through the gate, which it finds open. -/
theorem Moved.isOpen_of_enters {m : Move κ γ} (h : Moved peers w m w')
    (hout : w.holds call = false) (hin : w'.holds call = true) : w.daemon.gate.isOpen = true := by
  cases h.passage with
  | none hp =>
    rw [hp, hout] at hin
    cases hin
  | enters _ _ hopen => exact hopen
  | leaves other hp _ hnot =>
    by_cases ho : call = other
    · rw [ho, hnot] at hin
      cases hin
    · rw [hp call ho, hout] at hin
      cases hin

/-- **Any moves keep the gate in order.** -/
theorem held_run (hw : Held w) (moves : List (Move κ γ)) : Held (w.run peers moves) :=
  keeps_run (fun _ _ _ _ h => h.held) hw

end Overlap

/-! ### Cycles that find the gate closed -/

/-- Whether a request reads or writes records. -/
def Request.refreshes : Request → Bool
  | .search .. | .update .. => true
  | _ => false

/-- No record was read or written. -/
def Calm (trail : List Exchange) : Prop := ∀ x ∈ trail, x.request.refreshes = false

theorem Calm.append {front back : List Exchange} (hf : Calm front) (hb : Calm back) :
    Calm (front ++ back) := by
  intro x hx
  rcases List.mem_append.1 hx with hx | hx
  · exact hf x hx
  · exact hb x hx

theorem calm_singleton {x : Exchange} (h : x.request.refreshes = false) : Calm [x] := by
  intro y hy
  rw [List.mem_singleton.1 hy]
  exact h

namespace Cycle

variable {settings : SyncSettings}

theorem Preliminary.refreshes_eq_false {q : Request} (h : Preliminary settings q) :
    q.refreshes = false := by
  cases h with
  | key b => cases b <;> rfl
  | _ => rfl

/-- A cycle that asks for records is inside the gate. -/
theorem holdsGate_of_refreshes {cycle : Cycle} (h : (cycle.request settings).refreshes = true) :
    cycle.holdsGate = true := by
  obtain ⟨report, stage⟩ := cycle
  cases stage with
  | bootstrapping b => cases b <;> cases h
  | gathering g => cases g <;> cases h
  | scanning | writing => rfl
  | _ => cases h

/-- A cycle in its second round has read or written no record. -/
theorem Stands.calm {id : CycleId} {now : Instant} {trail : List Exchange} {cycle : Cycle}
    {r : Routing} (h : Stands settings id now trail cycle) (hr : cycle.stage = .routing r) :
    Calm trail := by
  cases h with
  | routing h nodes answers =>
    intro x hx
    refine (h.preliminary (fun y hy => ?_) hx).refreshes_eq_false
    simp only [List.mem_cons, List.not_mem_nil, or_false] at hy
    rcases hy with rfl | rfl | rfl
    · exact .probe
    · exact .members
    · exact .broadcast ..
  | _ => cases hr

end Cycle

/-- A cycle has ended that has found the gate closed, unless it was dropped before. -/
def Phase.Skipped {settings : SyncSettings} : Phase settings → Prop
  | .ended report trail => report.outcome = .skipped ∧ Calm trail
  | .dropped trail => Calm trail
  | _ => False

/-- A cycle that has found the gate closed has nothing left but to file its report. -/
def Phase.Skipping {settings : SyncSettings} : Phase settings → Prop
  | .asking cycle _ trail | .told cycle _ trail =>
    cycle.stage = .filing ∧ cycle.report.outcome = .skipped ∧ Calm trail
  | phase => phase.Skipped

theorem Phase.Skipped.skipping {settings : SyncSettings} {phase : Phase settings}
    (h : phase.Skipped) : phase.Skipping := by
  cases phase with
  | ended | dropped => exact h
  | _ => exact h.elim

namespace Overlap

variable {settings : SyncSettings} {κ γ : Type} {w w' : Overlap settings κ γ} {call : κ}
  [DecidableEq κ] {peers : Peers γ}

theorem skipping_of_underWay {phase : Phase settings} {cycle : Cycle} {trail : List Exchange}
    (h : phase.underWay? = some (cycle, trail)) (hp : phase.Skipping) :
    cycle.stage = .filing ∧ cycle.report.outcome = .skipped ∧ Calm trail := by
  cases phase with
  | asking | told =>
    cases h
    exact hp
  | _ => cases h

/-- A step of a cycle that has only to file its report. -/
theorem skipping_next {cycle : Cycle} {x : Exchange} {d : Daemon} {next : Next Cycle CycleReport}
    {gate : Gate} (hs : cycle.stage = .filing)
    (ha : Cycle.Advance settings d cycle x next gate) :
    next = .over cycle.report ∧ x.request = .file := by
  cases ha with
  | files => exact ⟨rfl, rfl⟩
  | _ => cases hs

theorem skipped_proceed {cycle : Cycle} {x : Exchange} {d : Daemon} {trail : List Exchange}
    {p : Next Cycle CycleReport × Daemon}
    (h : cycle.stage = .filing ∧ cycle.report.outcome = .skipped ∧ Calm trail)
    (ha : Cycle.Advance settings d cycle x p.1 p.2.gate) :
    ((w.proceed call (trail ++ [x]) p).phases call).Skipped := by
  obtain ⟨hs, ho, hc⟩ := h
  obtain ⟨hn, hx⟩ := skipping_next hs ha
  rw [Overlap.proceed, phases_put_self, hn]
  exact ⟨ho, hc.append (calm_singleton (by rw [hx]; rfl))⟩

/-- **A cycle that has found the gate closed does nothing more**, whatever moves are made. -/
theorem Moved.skipping {m : Move κ γ} (h : Moved peers w m w') (hw : (w.phases call).Skipping) :
    (w'.phases call).Skipping := by
  cases h with
  | still => exact hw
  | @starts other now h =>
    refine of_put (P := Phase.Skipping) hw ?_
    rintro rfl
    rw [h] at hw
    exact hw.elim
  | serves h | arrives h | delivers h | expires h =>
    refine of_put (P := Phase.Skipping) hw ?_
    rintro rfl
    rw [h] at hw
    exact hw
  | @resumes other cycle reply trail now h =>
    by_cases ho : call = other
    · subst ho
      rw [h] at hw
      exact (skipped_proceed hw (Cycle.advance ..)).skipping
    · rw [Overlap.proceed, phases_put_of_ne _ ho]
      exact hw
  | cancels h =>
    refine of_put (P := Phase.Skipping) hw ?_
    rintro rfl
    exact (skipping_of_underWay h hw).2.2
  | writes | changes => exact hw

theorem skipping_run (hw : (w.phases call).Skipping) (moves : List (Move κ γ)) :
    ((w.run peers moves).phases call).Skipping :=
  keeps_run (P := fun w => (w.phases call).Skipping) (fun _ _ _ _ h => h.skipping) hw

theorem move_resume_of_told {cycle : Cycle} {reply : (cycle.request settings).Reply}
    {trail : List Exchange} (h : w.phases call = .told cycle reply trail)
    (hb : w.blocks cycle = false) (now : Instant) :
    w.move peers (.resume call now) = w.proceed call (trail ++ [⟨_, reply⟩])
      ((cycle.resume settings reply).run { w.daemon with clock := now }) := by
  simp only [move, h]
  rw [if_neg (by simp [hb])]

theorem skipped_resume {phase : Phase settings} (hp : w.phases call = phase)
    (hw : phase.Skipping) (ha : ∀ cycle calls trail, phase ≠ .asking cycle calls trail)
    (now : Instant) : ((w.move peers (.resume call now)).phases call).Skipped := by
  cases phase with
  | asking => exact absurd rfl (ha _ _ _)
  | told cycle reply trail =>
    have hb : w.blocks cycle = false := by simp [blocks, hw.1]
    rw [move_resume_of_told hp hb]
    exact skipped_proceed hw (Cycle.advance ..)
  | idle => exact hw.elim
  | ended | dropped =>
    simp only [move, hp]
    exact hw

/-- It ends when its report is filed and it goes on. -/
theorem skipped_of_skipping (hw : (w.phases call).Skipping) (fate : Fate) (now : Instant) :
    ((w.run peers [.serve call fate, .resume call now]).phases call).Skipped := by
  have hs : ((w.move peers (.serve call fate)).phases call).Skipping :=
    (moved peers w (.serve call fate)).skipping hw
  show (((w.move peers (.serve call fate)).move peers (.resume call now)).phases call).Skipped
  refine skipped_resume rfl hs (fun cycle calls trail hc => ?_) now
  -- a report that waits to be filed is filed
  cases hp : w.phases call with
  | asking cycle' calls' trail' =>
    obtain ⟨report, stage⟩ := cycle'
    rw [hp] at hw
    obtain rfl : stage = .filing := hw.1
    have hserve : w.move peers (.serve call fate) =
        w.put call (.told ⟨report, .filing⟩ () trail') := by
      simp only [move, hp]
      rfl
    rw [hserve, phases_put_self] at hc
    cases hc
  | _ =>
    simp only [move, hp] at hc
    cases hc

/-- A cycle that finds the gate closed. -/
theorem skipping_resume (hw : w.Legal) {report : CycleReport} {r : Routing} {answers : List Answer}
    {trail : List Exchange} (hp : w.phases call = .told ⟨report, .routing r⟩ answers trail)
    (hg : w.daemon.gate.isOpen = false) (now : Instant) :
    ((w.move peers (.resume call now)).phases call).Skipping := by
  obtain ⟨id, begun, hs⟩ := hw.of_eq hp
  have hc := hs.calm rfl
  have ha : Cycle.Advance settings { w.daemon with clock := now } ⟨report, .routing r⟩
      (Cycle.routed report.cycle r.state answers) _ _ :=
    Cycle.advance ⟨report, .routing r⟩ answers _
  rw [move_resume_of_told hp rfl, Overlap.proceed, phases_put_self]
  generalize (Cycle.resume settings ⟨report, .routing r⟩ answers).run _ = p at *
  obtain ⟨next, d⟩ := p
  change Cycle.Advance settings _ _ _ next d.gate at ha
  generalize d.gate = gate at ha
  cases ha with
  | enters _ hopen => exact absurd (hopen.symm.trans hg) nofun
  | skips => exact ⟨rfl, rfl, hc.append (calm_singleton rfl)⟩

end Overlap

end ModelFleet
