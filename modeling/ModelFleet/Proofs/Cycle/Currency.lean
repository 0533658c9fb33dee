import ModelFleet.Proofs.Cycle.Exclusion
import ModelFleet.Proofs.Run.Trace

/-!
# Corrections are never stale

While a cycle is inside the gate nobody else writes the documents of the models, if only cycles do.
So what it has read so far are the first of the documents as they stand (`Overlap.Current`), and
when it asks for its corrections to be written, each of them says what its document says now
(`Overlap.upToDate_of_current`).
-/

namespace ModelFleet

open Outside MemoryStore

/-! ### Corrections of the first documents -/

/-- Corrections come from the first of the documents to be read, after which these are left. -/
def Reconciler.FromFirst (r : Reconciler) (documents : Collection) (rest : List StoredDocument)
    (corrections : List Correction) : Prop :=
  ∃ before, matchesAfter documents Scan.query none = before ++ rest ∧
    corrections = (Scan.records before).filterMap r.decide

namespace Reconciler.FromFirst

variable {r : Reconciler} {documents : Collection} {rest : List StoredDocument}
  {corrections : List Correction}

theorem start (r : Reconciler) (documents : Collection) :
    r.FromFirst documents (matchesAfter documents Scan.query none) [] := ⟨[], rfl, rfl⟩

theorem page {hits : List StoredDocument} {refresh : Refresh}
    (h : r.FromFirst documents (hits ++ rest) refresh.corrections) :
    r.FromFirst documents rest (refresh.addAll r (Scan.records hits)).corrections := by
  obtain ⟨before, hb, hc⟩ := h
  refine ⟨before ++ hits, by rw [hb, List.append_assoc], ?_⟩
  rw [Scan.records_append, List.filterMap_append, ← hc]
  rfl

/-- They are the first of all corrections. -/
theorem isPrefix (h : r.FromFirst documents rest corrections) :
    corrections <+: r.corrections documents := by
  obtain ⟨before, hb, hc⟩ := h
  refine ⟨(Scan.records rest).filterMap r.decide, ?_⟩
  rw [Reconciler.corrections, hb, Scan.records_append, List.filterMap_append, hc]

/-- What a correction says of the document that it is about. -/
theorem stored (h : r.FromFirst documents rest corrections) {c : Correction}
    (hc : c ∈ corrections) :
    ∃ source record, documents.get? c.model.text = some source ∧
      ModelRecord.ofDocument c.model source = .ok record ∧
      record.state = c.fromState ∧ record.current = c.fromCount ∧ record.tenant = c.tenant := by
  obtain ⟨source, hs, hcorr⟩ := correction_of_mem (h.isPrefix.mem hc) rfl
  obtain ⟨record, hr, hd, -, ht⟩ := correction_eq_some hcorr
  obtain ⟨-, -, -, hfields⟩ := decide_eq_some hd
  refine ⟨source, record, hs, (Scan.recordIn_eq_some_iff.1 hr).2, ?_, ?_, ht.symm⟩
  · rw [hfields]
  · rw [hfields]

/-- **All of them can be written.** -/
theorem results (h : r.FromFirst documents rest corrections) (collection : String)
    (time : Instant) :
    (updateAll collection documents (corrections.map (Write.itemOf time))).2 =
      corrections.map fun c => ⟨c.model.text, none⟩ := by
  rw [results_updateAll collection]
  · rw [List.map_map]
    rfl
  · have hall := items_nodup r documents time
    rw [List.map_map] at hall ⊢
    exact hall.sublist (h.isPrefix.sublist.map _)
  · intro item hi
    obtain ⟨c, hc, rfl⟩ := List.mem_map.1 hi
    obtain ⟨source, record, hs, hr, -, -, ht⟩ := h.stored hc
    refine ⟨source, _, hs, ?_, ModelRecord.merge_changes hr c time⟩
    rw [show (Write.itemOf time c).tenant = record.tenant from ht.symm]
    exact ModelRecord.tenantAgrees_of_ofDocument hr

end Reconciler.FromFirst

/-! ### What a cycle inside the gate knows -/

/-- The documents that are left to be read at a cursor. -/
def Cursor.rest (documents : Collection) (cursor : Cursor) : List StoredDocument :=
  matchesAfter documents Scan.query (Scan.page 0 cursor).after

/-- A reply to a search that is not a failure says what the documents say. -/
def Genuine (settings : SyncSettings) (documents : Collection) (cursor : Cursor)
    (reply : Except StoreError SearchPage) : Prop :=
  ∀ page, reply = .ok page →
    page = pageOf documents Scan.query (Scan.page settings.pageSize cursor)

/-- What a cycle inside the gate has read are the first of these documents. -/
def Phase.Current {settings : SyncSettings} (documents : Collection) : Phase settings → Prop
  | .asking ⟨_, .scanning r cursor refresh⟩ _ _ =>
    r.FromFirst documents (cursor.rest documents) refresh.corrections
  | .told ⟨_, .scanning r cursor refresh⟩ reply _ =>
    r.FromFirst documents (cursor.rest documents) refresh.corrections ∧
      Genuine settings documents cursor reply
  | .asking ⟨_, .writing _ write⟩ _ _ =>
    ∃ r : Reconciler, ∃ rest, r.FromFirst documents rest write.corrections
  | _ => True

/-- The corrections that a cycle asks to be written. -/
def Phase.write? {settings : SyncSettings} : Phase settings → Option Write
  | .asking ⟨_, .writing _ write⟩ _ _ => some write
  | _ => none

theorem Phase.eq_of_write? {settings : SyncSettings} {phase : Phase settings} {write : Write}
    (h : phase.write? = some write) :
    ∃ report refresh calls trail, phase = .asking ⟨report, .writing refresh write⟩ calls trail := by
  unfold write? at h
  split at h
  · cases h
    exact ⟨_, _, _, _, rfl⟩
  · cases h

/-- What a step makes of what a cycle knows. -/
def Cycle.KnowsNext (documents : Collection) : Next Cycle CycleReport → Prop
  | .wait ⟨_, .scanning r cursor refresh⟩ =>
    r.FromFirst documents (cursor.rest documents) refresh.corrections
  | .wait ⟨_, .writing _ write⟩ =>
    ∃ r : Reconciler, ∃ rest, r.FromFirst documents rest write.corrections
  | _ => True

section Pages

variable {settings : SyncSettings} {documents : Collection} {r : Reconciler} {cursor : Cursor}
  {refresh refresh' : Refresh} {reply : Except StoreError SearchPage}

/-- **A page that was read leaves the first of the documents read.** -/
theorem Reconciler.FromFirst.read
    (h : r.FromFirst documents (cursor.rest documents) refresh.corrections)
    (hg : Genuine settings documents cursor reply)
    (ha : refresh.addStream r (Scan.read reply).1 = .ok refresh') :
    (∃ rest, r.FromFirst documents rest refresh'.corrections) ∧
      ∀ cursor', (Scan.read reply).2 = some cursor' →
        r.FromFirst documents (cursor'.rest documents) refresh'.corrections := by
  have hroom : 0 < (Scan.page settings.pageSize cursor).size :=
    Nat.lt_of_lt_of_le Nat.one_pos (Nat.le_max_right _ _)
  rcases Scan.read_cases r refresh reply with
    ⟨page, rfl, hn, hok⟩ | ⟨detail, -, hn, hok⟩ | ⟨e, -, -, he⟩
  · rw [hok] at ha
    cases ha
    rw [hn]
    rcases pageOf_cases documents Scan.query hroom with hpage | ⟨hits, last, hpage, -, hleft⟩
    · obtain rfl := (hg page rfl).trans hpage
      refine ⟨⟨[], Reconciler.FromFirst.page ?_⟩, nofun⟩
      rw [List.append_nil]
      exact h
    · obtain rfl := (hg page rfl).trans hpage
      have hp : r.FromFirst documents ((Cursor.after last).rest documents)
          (refresh.addAll r (Scan.records hits)).corrections :=
        Reconciler.FromFirst.page (hleft ▸ h)
      refine ⟨⟨_, hp⟩, fun cursor' hc => ?_⟩
      cases hc
      exact hp
  · rw [hok] at ha
    cases ha
    rw [hn]
    exact ⟨⟨_, h⟩, nofun⟩
  · rw [he] at ha
    cases ha

/-- **A step of a cycle that knows the first of the documents.** -/
theorem Cycle.Advance.knowsNext {cycle : Cycle} {d : Daemon} {x : Exchange}
    {next : Next Cycle CycleReport} {gate : Gate} (ha : Cycle.Advance settings d cycle x next gate)
    (h : ∀ report r cursor refresh reply, cycle = ⟨report, .scanning r cursor refresh⟩ →
      x = Cycle.paged settings cursor reply →
      r.FromFirst documents (cursor.rest documents) refresh.corrections ∧
        Genuine settings documents cursor reply) : Cycle.KnowsNext documents next := by
  cases ha with
  | enters => exact .start _ documents
  | turns reply hr hn =>
    obtain ⟨hfirst, hg⟩ := h _ _ _ _ _ rfl rfl
    exact (hfirst.read hg hr).2 _ hn
  | corrects reply hr hn =>
    obtain ⟨hfirst, hg⟩ := h _ _ _ _ _ rfl rfl
    exact ⟨_, (hfirst.read hg hr).1⟩
  | _ => trivial

end Pages

namespace Overlap

variable {settings : SyncSettings} {κ γ : Type} {w w' : Overlap settings κ γ}

/-- The documents of the models. -/
def documents (w : Overlap settings κ γ) : Collection :=
  w.store.documents settings.modelCollection

/-- What each cycle has read are the first of the documents as they stand. -/
def Current (w : Overlap settings κ γ) : Prop := ∀ call, (w.phases call).Current w.documents

theorem current_of_not_holds {phase : Phase settings} (documents : Collection)
    (h : phase.holds = false) : phase.Current documents := by
  match phase with
  | .asking ⟨_, stage⟩ _ _ =>
    cases stage with
    | scanning | writing => cases h
    | _ => trivial
  | .told ⟨_, stage⟩ _ _ =>
    cases stage with
    | scanning | writing => cases h
    | _ => trivial
  | .idle | .ended .. | .dropped _ => trivial

variable {peers : Peers γ} {call : κ} {fate : Fate}

theorem documents_of_get? {a b : MemoryStore} {collection : String}
    (h : a.collections.get? collection = b.collections.get? collection) :
    a.documents collection = b.documents collection := by
  rw [MemoryStore.documents, MemoryStore.documents, h]

/-- A request that does not write the documents of the models leaves them as they are. -/
theorem documents_of_serve? {calls : List (NodeId × Call)} {q : Request} {store : MemoryStore}
    {reply : q.Reply} (h : w.serve? peers fate calls q = some (store, reply))
    (hq : ¬ q.Writes settings.modelCollection) :
    store.documents settings.modelCollection = w.documents := by
  rcases serve?_cases h with ⟨-, rfl⟩ | ⟨rfl, -⟩
  · rfl
  · exact documents_of_get? (answer_of_not_writes (fun _ _ => rfl) hq)

theorem genuine_of_serve? {calls : List (NodeId × Call)} {cursor : Cursor} {store : MemoryStore}
    {reply : Except StoreError SearchPage}
    (h : w.serve? peers fate calls
      (Scan.request settings.modelCollection settings.pageSize cursor) = some (store, reply)) :
    Genuine settings w.documents cursor reply := by
  rcases serve?_cases h with ⟨⟨_, _, hq⟩, -⟩ | ⟨-, rfl⟩
  · cases hq
  · intro page hp
    rcases answer_search_cases (peers.outside fate) settings.modelCollection Scan.query
      (Scan.page settings.pageSize cursor) ⟨w.store, w.cluster, []⟩ with
      ⟨e, he⟩ | ⟨documents, hs, he⟩
    · exact absurd (he.symm.trans hp) nofun
    · obtain rfl := Except.ok.inj (he.symm.trans hp)
      have hd : w.documents = documents := by
        rw [Overlap.documents, MemoryStore.documents,
          show w.store.collections.get? settings.modelCollection = some documents from hs]
        rfl
      rw [hd]

variable [DecidableEq κ]

/-- What is served is written by the only cycle inside the gate, or leaves the documents alone: what
is said of the cycles inside the gate and the documents holds of the others afterwards. -/
theorem forall_serve {P : Collection → κ → Phase settings → Prop}
    (hout : ∀ documents other phase, phase.holds = false → P documents other phase)
    (hc : settings.configCollection ≠ settings.modelCollection)
    (hw : ∀ other, P w.documents other (w.phases other)) (hheld : Held w) {cycle : Cycle}
    {calls : List (NodeId × Call)} {trail : List Exchange} {store : MemoryStore}
    {reply : (cycle.request settings).Reply} (h : w.phases call = .asking cycle calls trail)
    (hr : w.serve? peers fate calls (cycle.request settings) = some (store, reply))
    (hself : P (store.documents settings.modelCollection) call (.told cycle reply trail))
    (other : κ) :
    P (store.documents settings.modelCollection) other
      (({ w with store }.put call (.told cycle reply trail)).phases other) := by
  by_cases ho : other = call
  · rw [ho, phases_put_self]
    exact hself
  · rw [phases_put_of_ne _ ho]
    by_cases hs : ∃ refresh write, cycle.stage = .writing refresh write
    · -- the documents change, but no other cycle is inside the gate
      have hin : w.holds call = true := by
        obtain ⟨refresh, write, hs⟩ := hs
        rw [holds, h]
        simp [Phase.holds, Cycle.holdsGate, hs]
      refine hout _ _ _ ?_
      rw [Bool.eq_false_iff]
      exact fun hother => ho (hheld.alone other call hother hin)
    · have hd : store.documents settings.modelCollection = w.documents :=
        documents_of_serve? hr (Cycle.not_writes hc fun refresh write he => hs ⟨refresh, write, he⟩)
      rw [hd]
      exact hw other

theorem current_serve (hc : settings.configCollection ≠ settings.modelCollection) (hw : w.Current)
    (hheld : Held w) {cycle : Cycle} {calls : List (NodeId × Call)} {trail : List Exchange}
    {store : MemoryStore} {reply : (cycle.request settings).Reply}
    (h : w.phases call = .asking cycle calls trail)
    (hr : w.serve? peers fate calls (cycle.request settings) = some (store, reply)) :
    Current ({ w with store }.put call (.told cycle reply trail)) := by
  refine forall_serve (P := fun documents _ phase => phase.Current documents)
    (fun documents _ _ => current_of_not_holds documents) hc hw hheld h hr ?_
  have hcall : Phase.Current w.documents (.asking cycle calls trail) := h ▸ hw call
  obtain ⟨report, stage⟩ := cycle
  cases stage with
  | scanning r cursor refresh =>
    have hd : store.documents settings.modelCollection = w.documents :=
      documents_of_serve? hr (Cycle.not_writes hc nofun)
    show Phase.Current (store.documents settings.modelCollection) _
    rw [hd]
    exact ⟨hcall, genuine_of_serve? hr⟩
  | _ => trivial

theorem current_proceed (hw : w.Current) (trail : List Exchange)
    {p : Next Cycle CycleReport × Daemon} (hp : Cycle.KnowsNext w.documents p.1) :
    Current (w.proceed call trail p) := by
  refine forall_put (w := { w with daemon := p.2 })
    (P := fun _ phase => phase.Current w.documents) hw ?_
  obtain ⟨⟨report, stage⟩ | report, d⟩ := p
  · cases stage with
    | scanning | writing => exact hp
    | _ => trivial
  · trivial

/-- What becomes of a message does not touch the records. -/
theorem current_reach (hw : w.Current) {call : κ} {cycle : Cycle} {calls : List (NodeId × Call)}
    {trail : List Exchange} (h : w.phases call = .asking cycle calls trail) (cluster : γ)
    (calls' : List (NodeId × Call)) :
    Current ({ w with cluster }.put call (.asking cycle calls' trail)) := by
  have hcall : Phase.Current w.documents (.asking cycle calls trail) := h ▸ hw call
  refine forall_put (w := { w with cluster })
    (P := fun _ phase => phase.Current w.documents) hw ?_
  obtain ⟨report, stage⟩ := cycle
  cases stage with
  | scanning | writing => exact hcall
  | _ => trivial

end Overlap

/-- A move does not write to a collection, unless a cycle does. -/
def Move.Spares {κ γ : Type} (collection : String) : Move κ γ → Prop
  | .write act =>
    ∀ store, (act store).collections.get? collection = store.collections.get? collection
  | _ => True

namespace Overlap

variable {settings : SyncSettings} {κ γ : Type} [DecidableEq κ] {w w' : Overlap settings κ γ}
  {peers : Peers γ}

/-- **A move leaves what the cycles have read as it is stored**, if only cycles write. -/
theorem Moved.current (hc : settings.configCollection ≠ settings.modelCollection) {m : Move κ γ}
    (hm : m.Spares settings.modelCollection) (h : Moved peers w m w') (hheld : Held w)
    (hw : w.Current) : w'.Current := by
  cases h with
  | still => exact hw
  | starts now h => exact current_proceed hw [] trivial
  | serves h hr => exact current_serve hc hw hheld h hr
  | arrives h | delivers h | expires h => exact current_reach hw h _ _
  | @resumes call cycle reply trail now h =>
    have hcall : Phase.Current w.documents (.told cycle reply trail) := h ▸ hw call
    refine current_proceed hw _ ((Cycle.advance cycle reply _).knowsNext ?_)
    rintro report r cursor refresh reply' rfl hx
    obtain rfl := eq_of_heq (Exchange.mk.inj hx).2
    exact hcall
  | cancels h =>
    exact forall_put (w := { w with daemon := _ }) (P := fun _ phase => phase.Current w.documents)
      hw trivial
  | writes act =>
    intro call
    rw [show ({ w with store := act w.store } : Overlap settings κ γ).documents = w.documents from
      documents_of_get? (hm w.store)]
    exact hw call
  | changes => exact hw

theorem current_run (hc : settings.configCollection ≠ settings.modelCollection)
    {moves : List (Move κ γ)} (hm : ∀ m ∈ moves, m.Spares settings.modelCollection)
    (hheld : Held w) (hw : w.Current) : (w.run peers moves).Current := by
  -- with the gate in order: what one cycle writes no other has read, for it is alone inside
  have hboth : Held (w.run peers moves) ∧ (w.run peers moves).Current :=
    keeps_run (P := fun w => Held w ∧ w.Current)
      (fun m hin _ _ h hw => ⟨h.held hw.1, h.current hc (hm m hin) hw.1 hw.2⟩) ⟨hheld, hw⟩
  exact hboth.2

/-! ### When corrections are written -/

/-- **What corrections are when they are to be written**: each says what its document says now, and
the store would carry out all of them. -/
structure UpToDate (settings : SyncSettings) (store : MemoryStore) (write : Write) : Prop where
  stored : ∀ c ∈ write.corrections, ∃ source record,
    store.get? settings.modelCollection c.model.text = some source ∧
      ModelRecord.ofDocument c.model source = .ok record ∧
      record.state = c.fromState ∧ record.current = c.fromCount
  succeeds : (store.bulkUpdate settings.modelCollection
      (write.corrections.map (Write.itemOf write.time))).2 =
    .ok ⟨write.corrections.map fun c => ⟨c.model.text, none⟩⟩

omit [DecidableEq κ] in
theorem upToDate_of_current (hlegal : w.Legal) (hw : w.Current) {call : κ} {write : Write}
    (hp : (w.phases call).write? = some write) : UpToDate settings w.store write := by
  obtain ⟨report, refresh, calls, trail, h⟩ := Phase.eq_of_write? hp
  have hcall : Phase.Current w.documents
      (.asking ⟨report, .writing refresh write⟩ calls trail : Phase settings) := h ▸ hw call
  obtain ⟨r, rest, hfirst⟩ := hcall
  obtain ⟨id, now, hs⟩ := hlegal.of_eq h
  have hne : write.corrections ≠ [] := by
    cases hs with
    | writing _ _ hne => exact hne
  refine ⟨fun c hc => ?_, ?_⟩
  · obtain ⟨source, record, hd, hr, hstate, hcount, -⟩ := hfirst.stored hc
    exact ⟨source, record, hd, hr, hstate, hcount⟩
  · -- the collection is there, since some correction is about one of its documents
    obtain ⟨c, hc⟩ := List.exists_mem_of_ne_nil _ hne
    obtain ⟨source, record, hd, -⟩ := hfirst.stored hc
    cases hcollection : w.store.collections.get? settings.modelCollection with
    | none =>
      rw [Overlap.documents, MemoryStore.documents, hcollection] at hd
      cases hd
    | some documents =>
      have hdocs : w.documents = documents := by
        rw [Overlap.documents, MemoryStore.documents, hcollection]
        rfl
      rw [hdocs] at hfirst
      rw [MemoryStore.bulkUpdate_of_some hcollection, hfirst.results]

/-- **One cycle at a time**, whatever moves are made. -/
structure SingleFlight (peers : Peers γ) (w : Overlap settings κ γ) : Prop where
  /-- One cycle at the most is inside the gate. -/
  alone : ∀ call other, w.holds call = true → w.holds other = true → call = other
  /-- A cycle comes inside only through the gate, which it finds open. -/
  enters : ∀ call m, w.holds call = false → (w.move peers m).holds call = true →
    w.daemon.gate.isOpen = true
  /-- The gate is open exactly when no cycle is inside. -/
  gate : w.daemon.gate.isOpen = true ↔ ∀ call, w.holds call = false
  /-- Only the cycle inside reads or writes records. -/
  inside : ∀ call cycle calls trail, w.phases call = .asking cycle calls trail →
    (cycle.request settings).refreshes = true → w.holds call = true
  /-- A cycle that finds the gate closed ends as skipped, unless it is dropped, and has not read or
  written any record: whatever moves are made, it ends when its report is filed. -/
  skips : ∀ call report r answers trail now moves fate now',
    w.phases call = .told ⟨report, .routing r⟩ answers trail → w.daemon.gate.isOpen = false →
    ((((w.move peers (.resume call now)).run peers moves).run peers
      [.serve call fate, .resume call now']).phases call).Skipped

/-- **Cycles refresh the records one at a time, and never write what is stale.** -/
theorem single_flight (settings : SyncSettings) (peers : Peers γ) (store : MemoryStore)
    (cluster : γ) (daemon : Daemon) (moves : List (Move κ γ))
    (hg : daemon.gate.isOpen = true) :
    let w : Overlap settings κ γ := (fresh settings store cluster daemon).run peers moves
    SingleFlight peers w ∧
      (settings.configCollection ≠ settings.modelCollection →
        (∀ m ∈ moves, m.Spares settings.modelCollection) →
        ∀ call write, (w.phases call).write? = some write → UpToDate settings w.store write) := by
  intro w
  have hheld : Held w := held_run (held_fresh store cluster hg) moves
  have hlegal : w.Legal := legal_run (legal_fresh store cluster daemon) moves
  refine ⟨⟨hheld.alone, fun call m => (moved peers w m).isOpen_of_enters, hheld.gate, ?inside,
    ?skips⟩, ?current⟩
  case inside =>
    intro call cycle calls trail hp hq
    rw [holds, hp]
    exact Cycle.holdsGate_of_refreshes hq
  case skips =>
    intro call report r answers trail now moves' fate now' hp hclosed
    refine skipped_of_skipping (skipping_run ?_ moves') fate now'
    exact skipping_resume hlegal hp hclosed now
  case current =>
    intro hc hm call write hp
    have hw : w.Current := current_run hc hm (held_fresh store cluster hg) fun _ => trivial
    exact upToDate_of_current hlegal hw hp

/-- A cycle that is about to correct the record of a lost model. -/
theorem single_flight_of_lost_model :
    let settings : SyncSettings := default
    let source : Json := .object [(Document.stateField, .str "DEPLOYED"),
      (Document.plannedField, .int 2), (Document.currentField, .int 1)]
    let store := (∅ : MemoryStore).put settings.modelCollection "m" source
    let daemon := Daemon.fresh (.ofMillis 0) default default
    let peers : Peers Unit :=
      ⟨fun _ => .ok [], fun _ cluster => (cluster, .waiting),
        fun _ node cluster => (cluster, .error (.unreachable node "gone")),
        fun node => .timedOut node 5000⟩
    let moves : List (Move Unit Unit) := .start () (.ofMillis 1000) ::
      (List.replicate 8 [.serve () .served, .resume () (.ofMillis 2000)]).flatten
    let w : Overlap settings Unit Unit := (fresh settings store () daemon).run peers moves
    let write : Write := ⟨[⟨⟨"m"⟩, none, .deployed, .deployFailed, 1, 0⟩], .ofMillis 2000⟩
    (w.phases ()).write? = some write ∧ UpToDate settings w.store write := by
  intro settings source store daemon peers moves w write
  have hphase : (w.phases ()).write? = some write := by decide +kernel
  obtain ⟨-, hcurrent⟩ := single_flight settings peers store () daemon moves rfl
  rw [show (fresh settings store () daemon).run peers moves = w from rfl] at hcurrent
  have hspares : ∀ m ∈ moves, m.Spares settings.modelCollection := by
    simp [moves, Move.Spares, List.replicate]
  exact ⟨hphase, hcurrent (by decide) hspares () write hphase⟩

end Overlap

end ModelFleet
