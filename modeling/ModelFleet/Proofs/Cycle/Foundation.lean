import Mathlib.Data.List.Induction
import ModelFleet.Proofs.Cycle.Confinement

/-!
# What corrections are founded on

A cycle decides by what the nodes have said to it and by the time at which it comes inside the gate,
and asks for its corrections to be written at a later time.  `Overlap.Acted` says at which move of a
run a cycle did so, and by `Overlap.reasoned_run` every cycle that has corrections to write has
them from what it heard and from such a move (`Phase.Founded`).

`Overlap.exists_writtenLast` finds the move of a run that wrote a document last.
-/

namespace ModelFleet

open Outside MemoryStore

/-! ### What a cycle does at a time -/

/-- A cycle comes inside the gate with what it has heard, and begins to read.  From now on it
decides by what it has heard and by this time. -/
def Phase.Enters {settings : SyncSettings} (id : CycleId) (o : Cycle.Opening settings)
    (decided : Instant) (before after : Phase settings) : Prop :=
  before.holds = false ∧ ∃ report calls, after =
    .asking ⟨report, .scanning (o.rounds.reconciler settings decided) .start .empty⟩ calls
      (o.trail id)

/-- A cycle comes to ask for these corrections to be written. -/
def Phase.Decides {settings : SyncSettings} (write : Write) (before after : Phase settings) :
    Prop :=
  before.write? = none ∧ after.write? = some write

/-- What a cycle has done by acting at which times. -/
abbrev Past (settings : SyncSettings) : Type :=
  Instant → (Phase settings → Phase settings → Prop) → Prop

namespace Overlap

variable {settings : SyncSettings} {κ γ : Type} [DecidableEq κ] {peers : Peers γ}
  {w : Overlap settings κ γ} {moves : List (Move κ γ)} {call : κ} {t : Instant}
  {P : Phase settings → Phase settings → Prop}

/-- **At one of these moves a cycle acted at this time**, which took it from one phase to the
next. -/
def Acted (peers : Peers γ) (w : Overlap settings κ γ) (moves : List (Move κ γ)) (call : κ) :
    Past settings := fun t P =>
  ∃ earlier later, moves = earlier ++ .resume call t :: later ∧
    P ((w.run peers earlier).phases call)
      (((w.run peers earlier).move peers (.resume call t)).phases call)

theorem Acted.append (h : Acted peers w moves call t P) (more : List (Move κ γ)) :
    Acted peers w (moves ++ more) call t P := by
  obtain ⟨earlier, later, rfl, hp⟩ := h
  exact ⟨earlier, later ++ more, by simp, hp⟩

theorem acted_append_singleton {m : Move κ γ} (hm : m = .resume call t)
    (h : P ((w.run peers moves).phases call) (((w.run peers moves).move peers m).phases call)) :
    Acted peers w (moves ++ [m]) call t P := by
  subst hm
  exact ⟨moves, [], rfl, h⟩

end Overlap

/-! ### What corrections come from -/

/-- A cycle with this trail came inside the gate at this time with what it had heard. -/
structure Past.Entered {settings : SyncSettings} (past : Past settings) (trail : List Exchange)
    (id : CycleId) (o : Cycle.Opening settings) (decided : Instant) : Prop where
  acted : past decided (Phase.Enters id o decided)
  heard : ∃ pages, trail = o.trail id ++ pages

theorem Past.Entered.append {settings : SyncSettings} {past : Past settings}
    {trail : List Exchange} {id : CycleId} {o : Cycle.Opening settings} {decided : Instant}
    (h : past.Entered trail id o decided) (x : Exchange) :
    past.Entered (trail ++ [x]) id o decided := by
  obtain ⟨pages, rfl⟩ := h.heard
  exact ⟨h.acted, pages ++ [x], List.append_assoc ..⟩

/-- A cycle inside the gate decides by what it had heard when it came inside, and by this time.  The
corrections that it asks to be written come from that and from the first of these documents. -/
def Phase.Founded {settings : SyncSettings} (past : Past settings) (documents : Collection) :
    Phase settings → Prop
  | .asking ⟨_, .scanning r _ _⟩ _ trail | .told ⟨_, .scanning r _ _⟩ _ trail =>
    ∃ id o decided, past.Entered trail id o decided ∧ r = o.rounds.reconciler settings decided
  | .asking ⟨_, .writing _ write⟩ _ trail =>
    past write.time (Phase.Decides write) ∧ ∃ id o decided, past.Entered trail id o decided ∧
      ∃ rest, (o.rounds.reconciler settings decided).FromFirst documents rest write.corrections
  | _ => True

namespace Overlap

variable {settings : SyncSettings} {κ γ : Type} {w w' : Overlap settings κ γ}
  {past past' : κ → Past settings}

def Founded (past : κ → Past settings) (w : Overlap settings κ γ) : Prop :=
  ∀ call, (w.phases call).Founded (past call) w.documents

theorem founded_of_not_holds {phase : Phase settings} (past : Past settings)
    (documents : Collection) (h : phase.holds = false) : phase.Founded past documents := by
  match phase with
  | .asking ⟨_, stage⟩ _ _ =>
    cases stage with
    | scanning | writing => cases h
    | _ => trivial
  | .told ⟨_, stage⟩ _ _ =>
    cases stage with
    | scanning | writing => cases h
    | _ => trivial
  | .idle | .ended .. | .dropped _ => trivial

/-- What a cycle has done it has still done later. -/
theorem Founded.mono (h : w.Founded past) (hpast : ∀ call t P, past call t P → past' call t P) :
    w.Founded past' := by
  intro call
  have entered {trail : List Exchange} {id : CycleId} {o : Cycle.Opening settings}
      {decided : Instant} (he : (past call).Entered trail id o decided) :
      (past' call).Entered trail id o decided := ⟨hpast _ _ _ he.acted, he.heard⟩
  have hcall := h call
  generalize w.phases call = phase at hcall ⊢
  match phase with
  | .asking ⟨_, stage⟩ _ _ =>
    cases stage with
    | scanning =>
      obtain ⟨id, o, decided, he, hr⟩ := hcall
      exact ⟨id, o, decided, entered he, hr⟩
    | writing =>
      obtain ⟨ha, id, o, decided, he, hfirst⟩ := hcall
      exact ⟨hpast _ _ _ ha, id, o, decided, entered he, hfirst⟩
    | _ => trivial
  | .told ⟨_, stage⟩ _ _ =>
    cases stage with
    | scanning =>
      obtain ⟨id, o, decided, he, hr⟩ := hcall
      exact ⟨id, o, decided, entered he, hr⟩
    | _ => trivial
  | .idle | .ended .. | .dropped _ => trivial

/-- Corrections that a cycle has to write were asked to be written at their time. -/
theorem Founded.acted (h : w.Founded past) {call : κ} {write : Write}
    (hw : (w.phases call).write? = some write) : past call write.time (Phase.Decides write) := by
  obtain ⟨report, refresh, calls, trail, hp⟩ := Phase.eq_of_write? hw
  have hcall : Phase.Founded (past call) w.documents
      (.asking ⟨report, .writing refresh write⟩ calls trail) := hp ▸ h call
  exact hcall.1

variable [DecidableEq κ] {peers : Peers γ} {call : κ}

theorem founded_put (hw : w.Founded past) {phase : Phase settings}
    (hp : phase.Founded (past call) w.documents) : (w.put call phase).Founded past :=
  forall_put (P := fun call phase => phase.Founded (past call) w.documents) hw hp

/-- What becomes of a message does not touch what a cycle has decided. -/
theorem founded_reach (hw : w.Founded past) {cycle : Cycle} {calls : List (NodeId × Call)}
    {trail : List Exchange} (h : w.phases call = .asking cycle calls trail) (cluster : γ)
    (calls' : List (NodeId × Call)) :
    ({ w with cluster }.put call (.asking cycle calls' trail)).Founded past := by
  have hcall : Phase.Founded (past call) w.documents (.asking cycle calls trail) := h ▸ hw call
  refine founded_put (w := { w with cluster }) hw ?_
  obtain ⟨report, stage⟩ := cycle
  cases stage with
  | scanning | writing => exact hcall
  | _ => trivial

theorem founded_serve (hc : settings.configCollection ≠ settings.modelCollection)
    (hw : w.Founded past) (hheld : Held w) {fate : Fate} {cycle : Cycle}
    {calls : List (NodeId × Call)} {trail : List Exchange} {store : MemoryStore}
    {reply : (cycle.request settings).Reply} (h : w.phases call = .asking cycle calls trail)
    (hr : w.serve? peers fate calls (cycle.request settings) = some (store, reply)) :
    ({ w with store }.put call (.told cycle reply trail)).Founded past := by
  refine forall_serve (P := fun documents call phase => phase.Founded (past call) documents)
    (fun documents other _ => founded_of_not_holds (past other) documents) hc hw hheld h hr ?_
  have hcall : Phase.Founded (past call) w.documents (.asking cycle calls trail) := h ▸ hw call
  obtain ⟨report, stage⟩ := cycle
  cases stage with
  | scanning => exact hcall
  | _ => trivial

/-- **A cycle that acts** comes inside the gate by what it has heard, reads on, or asks for what it
has decided to be written. -/
theorem founded_resume (hw : w.Founded past) (hlegal : w.Legal) (hcurrent : w.Current)
    {cycle : Cycle} {reply : (cycle.request settings).Reply} {trail : List Exchange}
    (h : w.phases call = .told cycle reply trail) {p : Next Cycle CycleReport × Daemon}
    {d : Daemon} (ha : Cycle.Advance settings d cycle ⟨cycle.request settings, reply⟩ p.1
      p.2.gate)
    (hnow : ∀ P : Phase settings → Phase settings → Prop, P (w.phases call)
      ((w.proceed call (trail ++ [⟨_, reply⟩]) p).phases call) → past call d.clock P) :
    (w.proceed call (trail ++ [⟨_, reply⟩]) p).Founded past := by
  obtain ⟨id, now, hs⟩ := hlegal.of_eq h
  have hcall : Phase.Founded (past call) w.documents (.told cycle reply trail) := h ▸ hw call
  have hread : Phase.Current w.documents (.told cycle reply trail) := h ▸ hcurrent call
  obtain ⟨next, d'⟩ := p
  simp only [proceed, phases_put_self, h] at hnow
  refine founded_put (w := { w with daemon := d' }) hw ?_
  generalize hgate : d'.gate = gate at ha
  generalize hx : (⟨cycle.request settings, reply⟩ : Exchange) = x at ha hnow ⊢
  cases ha with
  | @enters report state answers =>
    obtain ⟨o, htrail, hrounds, -⟩ := hs.opens answers
    refine ⟨id, o, d.clock, ⟨hnow _ ⟨rfl, ?_⟩, [], ?_⟩, ?_⟩
    · rw [Rounds.reconciler, hrounds, ← htrail]
      exact ⟨_, _, rfl⟩
    · rw [List.append_nil, htrail]
    · rw [Rounds.reconciler, hrounds]
  | turns reply' =>
    obtain ⟨id, o, decided, he, hr⟩ := hcall
    exact ⟨id, o, decided, he.append _, hr⟩
  | @corrects report r cursor refresh refresh' reply' hadd =>
    obtain rfl := eq_of_heq (Exchange.mk.inj hx).2
    obtain ⟨id, o, decided, he, rfl⟩ := hcall
    obtain ⟨hfirst, hgenuine⟩ := hread
    exact ⟨hnow _ ⟨rfl, rfl⟩, id, o, decided, he.append _, (hfirst.read hgenuine hadd).1⟩
  | _ => trivial

/-- **A move leaves what corrections are founded on**, if only cycles write, and adds what a cycle
does by it. -/
theorem Moved.founded (hc : settings.configCollection ≠ settings.modelCollection) {m : Move κ γ}
    (hm : m.Spares settings.modelCollection) (h : Moved peers w m w') (hlegal : w.Legal)
    (hheld : Held w) (hcurrent : w.Current)
    (hnow : ∀ call t P, m = .resume call t → P (w.phases call) (w'.phases call) → past call t P)
    (hw : w.Founded past) : w'.Founded past := by
  cases h with
  | still => exact hw
  | starts now h => exact founded_put (w := { w with daemon := _ }) hw trivial
  | serves h hr => exact founded_serve hc hw hheld h hr
  | arrives h | delivers h | expires h => exact founded_reach hw h _ _
  | resumes now h =>
    exact founded_resume hw hlegal hcurrent h (Cycle.advance ..) fun P hp => hnow _ now P rfl hp
  | cancels h => exact founded_put (w := { w with daemon := _ }) hw trivial
  | writes act =>
    intro call
    rw [show ({ w with store := act w.store } : Overlap settings κ γ).documents = w.documents from
      documents_of_get? (hm w.store)]
    exact hw call
  | changes => exact hw

/-- What holds of cycles that write by what they have heard themselves. -/
structure Reasoned (past : κ → Past settings) (w : Overlap settings κ γ) : Prop where
  legal : w.Legal
  held : Held w
  current : w.Current
  founded : w.Founded past

omit [DecidableEq κ] in
theorem reasoned_fresh (store : MemoryStore) (cluster : γ) {daemon : Daemon}
    (h : daemon.gate.isOpen = true) (past : κ → Past settings) :
    (fresh settings store cluster daemon : Overlap settings κ γ).Reasoned past :=
  ⟨legal_fresh store cluster daemon, held_fresh store cluster h, fun _ => trivial, fun _ => trivial⟩

theorem Moved.reasoned (hc : settings.configCollection ≠ settings.modelCollection) {m : Move κ γ}
    (hm : m.Spares settings.modelCollection) (h : Moved peers w m w')
    (hpast : ∀ call t P, past call t P → past' call t P)
    (hnow : ∀ call t P, m = .resume call t → P (w.phases call) (w'.phases call) → past' call t P)
    (hw : w.Reasoned past) : w'.Reasoned past' where
  legal := h.legal hw.legal
  held := h.held hw.held
  current := h.current hc hm hw.held hw.current
  founded := h.founded hc hm hw.legal hw.held hw.current hnow (hw.founded.mono hpast)

/-- **After any moves cycles write by what they have heard**, and by what they did at which times of
the run. -/
theorem reasoned_run (hc : settings.configCollection ≠ settings.modelCollection)
    {moves : List (Move κ γ)} (hm : ∀ m ∈ moves, m.Spares settings.modelCollection)
    (hw : w.Reasoned (Acted peers w [])) : (w.run peers moves).Reasoned (Acted peers w moves) := by
  induction moves using List.reverseRecOn with
  | nil => exact hw
  | append_singleton moves m ih =>
    rw [List.forall_mem_append, List.forall_mem_singleton] at hm
    rw [run_append]
    exact (moved peers (w.run peers moves) m).reasoned hc hm.2 (fun _ _ _ h => h.append [m])
      (fun _ _ _ he hp => acted_append_singleton he hp) (ih hm.1)

/-! ### What was written last -/

variable {moves earlier : List (Move κ γ)} {m : Move κ γ} {id : String} {write : Write}

/-- **A document was written last** by this cycle after these moves: no move since has changed
it. -/
structure WrittenLast (peers : Peers γ) (w : Overlap settings κ γ) (moves : List (Move κ γ))
    (id : String) (earlier : List (Move κ γ)) (call : κ) (write : Write) : Prop where
  /-- The cycle acted at the time that it wrote, and so came to ask for its corrections to be
  written. -/
  dated : Acted peers w earlier call write.time (Phase.Decides write)
  written : ∃ fate since, moves = earlier ++ .serve call fate :: since ∧
    let before := w.run peers earlier
    let after := before.move peers (.serve call fate)
    (∃ c source, Rewritten before call id write c source
      (after.store.get? settings.modelCollection id)) ∧
    ∀ part, part <+: since → (after.run peers part).store.get? settings.modelCollection id =
      after.store.get? settings.modelCollection id

theorem writtenLast_of_ne (hc : settings.configCollection ≠ settings.modelCollection)
    (hm : m.Spares settings.modelCollection)
    (hw : (w.run peers moves).Reasoned (Acted peers w moves))
    (hne : ((w.run peers moves).move peers m).store.get? settings.modelCollection id ≠
      (w.run peers moves).store.get? settings.modelCollection id) :
    ∃ call write, WrittenLast peers w (moves ++ [m]) id moves call write := by
  obtain ⟨call, fate, write, c, source, rfl, hr⟩ :=
    (moved peers (w.run peers moves) m).rewritten hc hm hw.current hne
  refine ⟨call, write, hw.founded.acted hr.asked, fate, [], rfl, ⟨c, source, hr⟩, ?_⟩
  rintro part hpart
  rw [List.prefix_nil.1 hpart]
  rfl

theorem WrittenLast.append_singleton (h : WrittenLast peers w moves id earlier call write)
    (he : ((w.run peers moves).move peers m).store.get? settings.modelCollection id =
      (w.run peers moves).store.get? settings.modelCollection id) :
    WrittenLast peers w (moves ++ [m]) id earlier call write := by
  obtain ⟨hdated, fate, since, rfl, hr, hsince⟩ := h
  refine ⟨hdated, fate, since ++ [m], by simp, hr, fun part hpart => ?_⟩
  rcases List.prefix_concat_iff.1 hpart with rfl | hpart
  · rw [run_append] at he ⊢
    exact he.trans (hsince since List.prefix_rfl)
  · exact hsince part hpart

/-- **A document that some move has changed was written last** by that move or a later one. -/
theorem exists_writtenLast (hc : settings.configCollection ≠ settings.modelCollection)
    {before : List (Move κ γ)}
    (hm : ∀ m' ∈ before ++ m :: moves, m'.Spares settings.modelCollection)
    (hw : w.Reasoned (Acted peers w []))
    (hne : ((w.run peers before).move peers m).store.get? settings.modelCollection id ≠
      (w.run peers before).store.get? settings.modelCollection id) :
    ∃ earlier call write, before <+: earlier ∧
      WrittenLast peers w (before ++ m :: moves) id earlier call write := by
  induction moves using List.reverseRecOn with
  | nil =>
    rw [List.forall_mem_append, List.forall_mem_singleton] at hm
    obtain ⟨call, write, h⟩ := writtenLast_of_ne hc hm.2 (reasoned_run hc hm.1 hw) hne
    exact ⟨before, call, write, List.prefix_rfl, h⟩
  | append_singleton moves m' ih =>
    have hmoves : before ++ m :: (moves ++ [m']) = before ++ m :: moves ++ [m'] := by simp
    rw [hmoves] at hm ⊢
    rw [List.forall_mem_append, List.forall_mem_singleton] at hm
    by_cases he : ((w.run peers (before ++ m :: moves)).move peers m').store.get?
        settings.modelCollection id =
      (w.run peers (before ++ m :: moves)).store.get? settings.modelCollection id
    · obtain ⟨earlier, call, write, hbefore, h⟩ := ih hm.1
      exact ⟨earlier, call, write, hbefore, h.append_singleton he⟩
    · obtain ⟨call, write, h⟩ := writtenLast_of_ne hc hm.2 (reasoned_run hc hm.1 hw) he
      exact ⟨_, call, write, List.prefix_append .., h⟩

omit [DecidableEq κ] in
theorem Rewritten.updated {c : Correction} {source source' : Json} {record : ModelRecord}
    (h : Rewritten w call id write c source (some source'))
    (hr : ModelRecord.ofDocument ⟨id⟩ source' = .ok record) :
    record.updated = some (.ofMillis write.time.millis) := by
  obtain ⟨r, hd⟩ := h.decided
  obtain ⟨before, hbefore, -⟩ := Reconciler.correction_eq_some hd
  obtain rfl : source' = Document.rewrite c.toState c.toCount write.time source :=
    Option.some.inj h.after
  have hnow := ModelRecord.ofDocument_rewrite (Scan.recordIn_eq_some_iff.1 hbefore).2 c.toState
    c.toCount write.time
  rw [hr] at hnow
  obtain ⟨t, ht, rfl⟩ := Option.map_eq_some_iff.1 hnow.symm
  exact congrArg some (Instant.ofMillis?_eq_some_iff.1 ht).2.symm

/-- A document says when it was written last. -/
theorem WrittenLast.updated (h : WrittenLast peers w moves id earlier call write) {source : Json}
    {record : ModelRecord}
    (hs : (w.run peers moves).store.get? settings.modelCollection id = some source)
    (hr : ModelRecord.ofDocument ⟨id⟩ source = .ok record) :
    record.updated = some (.ofMillis write.time.millis) := by
  obtain ⟨-, fate, since, rfl, ⟨c, source', hrewritten⟩, hsince⟩ := h
  rw [run_append] at hs
  rw [← hsince since List.prefix_rfl] at hrewritten
  exact Rewritten.updated (hs ▸ hrewritten) hr

end Overlap

end ModelFleet
