import ModelFleet.Proofs.Run.Trace

/-!
# Cycles are never half done

Whatever the store, the nodes and the listing of the nodes fail to do, a cycle ends with a report,
and `Orderly` says what it has kept to on the way: a cycle that has not done all its work has
written nothing, the nodes are asked only when there is a key and a collection, records are read
only inside the gate, and the gate is left as it was found.  `runs_orderly` shows it for every
cycle.
-/

namespace ModelFleet

open Outside

namespace Cycle

variable {settings : SyncSettings} {id : CycleId} {now : Instant} {trail : List Exchange}
  {report : CycleReport} {x : Exchange}

/-! ### Before the first record -/

namespace Preliminary

variable {q : Request}

theorem not_writes (hc : settings.configCollection ≠ settings.modelCollection)
    (h : Preliminary settings q) : ¬ q.Writes settings.modelCollection := by
  cases h with
  | key b =>
    cases b with
    | creating => exact hc
    | _ => exact fun h => h
  | _ => exact fun h => h

theorem not_search (h : Preliminary settings q) {collection : String} {query : Query}
    {page : PageRequest} : q ≠ .search collection query page := by
  cases h with
  | key b => cases b <;> nofun
  | _ => nofun

end Preliminary

/-! ### How far a cycle comes -/

/-- How far a cycle has come that has ended: it has not read any records, or it was given up while
it read them, or it has read all of them and written its corrections, if there were any. -/
inductive Reached (settings : SyncSettings) (id : CycleId) (trail : List Exchange)
    (report : CycleReport) : Prop
  | early (hp : ∀ x ∈ trail, Preliminary settings x.request)
      (ho : report.outcome ≠ .completed) (hc : report.corrections = []) (hb : report.bulk = none)
  | unread (o : Opening settings) {r : Reconciler} {pages : List Exchange} {refresh : Refresh}
      {cursor : Cursor} {reply : Except StoreError SearchPage} {e : SyncError}
      (h : Reading settings r pages refresh (some cursor))
      (hr : refresh.addStream r (Scan.read reply).1 = .error e)
      (ht : trail = o.trail id ++ pages ++ [paged settings cursor reply])
      (ho : report.outcome = .aborted (.scan e)) (hc : report.corrections = [])
      (hb : report.bulk = none)
  | idle (o : Opening settings) {r : Reconciler} {pages : List Exchange} {refresh : Refresh}
      (h : Reading settings r pages refresh none) (ht : trail = o.trail id ++ pages)
      (ho : report.outcome = .completed) (hc : report.corrections = [])
  | written (o : Opening settings) {r : Reconciler} {pages : List Exchange} {refresh : Refresh}
      {write : Write} {reply : Except StoreError BulkResponse}
      (h : Reading settings r pages refresh none)
      (ht : trail = o.trail id ++ pages ++ [written settings write reply])
      (ho : report.outcome = .completed) (hc : report.corrections ≠ [])

theorem Closed.reached (h : Closed settings id now trail report) :
    Reached settings id trail report := by
  cases h with
  | keyless h => exact .early (fun x hx => h.preliminary hx) nofun rfl rfl
  | noModelIndex h | unprobed h =>
    refine .early (fun x hx => h.preliminary (fun y hy => ?_) hx) nofun rfl rfl
    rw [List.mem_singleton.1 hy]
    exact .probe
  | unlisted h =>
    refine .early (fun x hx => h.preliminary (fun y hy => ?_) hx) nofun rfl rfl
    simp only [List.mem_cons, List.not_mem_nil, or_false] at hy
    rcases hy with rfl | rfl
    · exact .probe
    · exact .members
  | skipped o => exact .early (fun x hx => o.preliminary hx) nofun rfl rfl
  | unread o h hr => exact .unread o h hr rfl rfl rfl rfl
  | idle o h hc => exact .idle o h rfl rfl hc
  | written o h hc reply => exact .written o h rfl rfl hc

/-! ### What is read -/

section Searches

variable {r : Reconciler} {pages : List Exchange} {refresh : Refresh} {next : Option Cursor}
  {collection : String} {query : Query} {page : PageRequest} {e : StoreError}

theorem Reading.not_writes (h : Reading settings r pages refresh next) (hx : x ∈ pages) :
    ¬ x.request.Writes collection := by
  induction h with
  | start => cases hx
  | page _ reply _ ih =>
    rcases List.mem_append.1 hx with hx | hx
    · exact ih hx
    · rw [List.mem_singleton.1 hx]
      exact fun h => h

/-- What a search that has failed makes of a reading. -/
theorem addStream_of_error (hne : ∀ detail, e ≠ .notFound detail) :
    refresh.addStream r (Scan.read (.error e)).1 = .error (.storage e) := by
  rcases Scan.read_cases r refresh (.error e) with ⟨_, hok, -⟩ | ⟨detail, hd, -⟩ | ⟨e', he, -, hn⟩
  · cases hok
  · exact absurd (Except.error.inj hd) (hne detail)
  · rw [hn, Except.error.inj he]

/-- A reading that goes on has met with no failure. -/
theorem Reading.not_error (h : Reading settings r pages refresh next)
    (hne : ∀ detail, e ≠ .notFound detail) :
    (⟨.search collection query page, .error e⟩ : Exchange) ∉ pages := by
  induction h with
  | start => exact List.not_mem_nil
  | page _ reply ha ih =>
    rw [List.mem_append, List.mem_singleton, not_or]
    refine ⟨ih, fun hx => ?_⟩
    obtain ⟨hq, hr⟩ := Exchange.mk.inj hx
    cases hq
    obtain rfl := eq_of_heq hr
    rw [addStream_of_error hne] at ha
    cases ha

/-- **A search that fails ends the cycle**, unless it only says that there is nothing to search. -/
theorem Reached.aborted (h : Reached settings id trail report)
    (hx : ⟨.search collection query page, .error e⟩ ∈ trail)
    (hne : ∀ detail, e ≠ .notFound detail) :
    report.outcome = .aborted (.scan (.storage e)) := by
  have hopening : ∀ o : Opening settings, ⟨.search collection query page, .error e⟩ ∉ o.trail id :=
    fun o ho => (o.preliminary ho).not_search rfl
  cases h with
  | early hp => exact absurd rfl (hp _ hx).not_search
  | unread o h hr ht ho =>
    rw [ht, List.mem_append, List.mem_append, List.mem_singleton] at hx
    rcases hx with (hx | hx) | hx
    · exact absurd hx (hopening o)
    · exact absurd hx (h.not_error hne)
    · obtain ⟨hq, hreply⟩ := Exchange.mk.inj hx
      cases hq
      obtain rfl := eq_of_heq hreply
      rw [addStream_of_error hne] at hr
      rw [ho, Except.error.inj hr]
  | idle o h ht =>
    rw [ht, List.mem_append] at hx
    rcases hx with hx | hx
    · exact absurd hx (hopening o)
    · exact absurd hx (h.not_error hne)
  | written o h ht =>
    rw [ht, List.mem_append, List.mem_append, List.mem_singleton] at hx
    rcases hx with (hx | hx) | hx
    · exact absurd hx (hopening o)
    · exact absurd hx (h.not_error hne)
    · cases (Exchange.mk.inj hx).1

end Searches

/-! ### What is written -/

/-- What a cycle has written that has ended: nothing, or all its corrections at once. -/
inductive Wrote (settings : SyncSettings) (trail : List Exchange) (report : CycleReport) : Prop
  | nothing (hw : ∀ x ∈ trail, ¬ x.request.Writes settings.modelCollection)
      (hc : report.corrections = [])
  | once {before : List Exchange} {write : Write} {reply : Except StoreError BulkResponse}
      (ht : trail = before ++ [written settings write reply])
      (hw : ∀ x ∈ before, ¬ x.request.Writes settings.modelCollection)
      (ho : report.outcome = .completed) (hc : report.corrections ≠ [])

theorem Reached.wrote (hc : settings.configCollection ≠ settings.modelCollection)
    (h : Reached settings id trail report) : Wrote settings trail report := by
  have hread : ∀ (o : Opening settings) {r pages refresh next},
      Reading settings r pages refresh next → ∀ x ∈ o.trail id ++ pages,
        ¬ x.request.Writes settings.modelCollection := by
    intro o r pages refresh next h x hx
    rcases List.mem_append.1 hx with hx | hx
    · exact (o.preliminary hx).not_writes hc
    · exact h.not_writes hx
  cases h with
  | early hp _ hnil => exact .nothing (fun x hx => (hp x hx).not_writes hc) hnil
  | unread o h _ ht _ hnil =>
    refine .nothing (fun x hx => ?_) hnil
    rw [ht] at hx
    rcases List.mem_append.1 hx with hx | hx
    · exact hread o h x hx
    · rw [List.mem_singleton.1 hx]
      exact fun h => h
  | idle o h ht _ hnil =>
    subst ht
    exact .nothing (hread o h) hnil
  | written o h ht ho hne => exact .once ht (hread o h) ho hne

/-! ### The gate -/

section Gates

variable {γ : Type} {out : Outside γ} {gate : Gate} {m m' : Moment Cycle CycleReport γ}

/-- A cycle that finds the gate like this has left it so, or has come in. -/
def FindsGate (gate : Gate) (m : Moment Cycle CycleReport γ) : Prop :=
  if insideAfter m.next = true then gate.isOpen = true else m.daemon.gate = gate

theorem eq_of_isOpen {gate : Gate} (h : gate.isOpen = true) : gate = ⟨false⟩ := by
  obtain ⟨taken⟩ := gate
  cases taken with
  | false => rfl
  | true => cases h

theorem FindsGate.advance {d : Daemon} {cycle : Cycle} {p : Next Cycle CycleReport × Daemon}
    {s s' : State γ} (h : FindsGate gate ⟨.wait cycle, s, d⟩)
    (ha : Advance settings d cycle x p.1 p.2.gate) : FindsGate gate (.after p s') := by
  change if cycle.holdsGate = true then _ else d.gate = gate at h
  change if insideAfter p.1 = true then _ else p.2.gate = gate
  rcases ha.gate_cases with ⟨hin, hg⟩ | ⟨hout, hopen, hin, -⟩ | ⟨hin, hout, hg⟩
  · rw [hin, hg]
    exact h
  · rw [if_neg (by simp [hout])] at h
    rw [if_pos hin, ← h]
    exact hopen
  · rw [if_pos hin] at h
    rw [if_neg (by simp [hout]), hg, eq_of_isOpen h]

theorem FindsGate.trace (h : FindsGate gate m) (ht : Trace out (job settings) m trail m') :
    FindsGate gate m' := by
  induction ht with
  | nil => exact h
  | @cons cycle s d trail m' _ ih =>
    exact ih (FindsGate.advance (d := { d with clock := out.time s.asked.length }) (s := s) h
      (Cycle.advance cycle _ _))

end Gates

/-! ### Every cycle -/

/-- **What every cycle has kept to that has ended**, whatever has failed: it began in the state `s`
of a daemon `d`, made the requests of `trail`, and ended in `s'` and `d'`. -/
structure Orderly {γ : Type} (settings : SyncSettings) (s s' : State γ) (d d' : Daemon)
    (trail : List Exchange) (report : CycleReport) : Prop where
  /-- A cycle that has not done all its work has asked for no bulk update, has changed no document,
  and reports no corrections. -/
  unfinished : report.outcome ≠ .completed →
    trail.countP (·.request.isUpdate) = 0 ∧
      s'.store.collections.get? settings.modelCollection =
        s.store.collections.get? settings.modelCollection ∧
      report.corrections = [] ∧ report.bulk = none
  /-- A cycle whose search has failed is given up, unless there was nothing to search. -/
  unread : ∀ collection query page e, ⟨.search collection query page, .error e⟩ ∈ trail →
    (∀ detail, e ≠ .notFound detail) → report.outcome = .aborted (.scan (.storage e))
  /-- The nodes are asked only after a search for the key that has succeeded, and when the
  collection of models is there. -/
  asked : ∀ front nodes message answers back,
    trail = front ++ ⟨.broadcast nodes message, answers⟩ :: back →
    ∃ keys rest, Keyed settings keys ∧ front = keys ++ probed settings (.ok true) :: rest
  /-- Records are read only after both rounds, and inside the gate. -/
  searched : ∀ front collection query page reply back,
    trail = front ++ ⟨.search collection query page, reply⟩ :: back →
    d.gate.isOpen = true ∧
      ∃ (o : Opening settings) (pages : List Exchange), front = o.trail report.cycle ++ pages
  /-- A cycle that has done all its work has asked for one bulk update if there were corrections,
  and for none if there were none. -/
  written : report.outcome = .completed →
    trail.countP (·.request.isUpdate) = if report.corrections = [] then 0 else 1
  /-- A bulk update that fails as a whole changes no document. -/
  refused : ∀ collection items e, ⟨.update collection items, .error e⟩ ∈ trail →
    s'.store.collections.get? settings.modelCollection =
      s.store.collections.get? settings.modelCollection
  /-- The gate is as it was. -/
  gate : d'.gate = d.gate

/-- The nodes are asked when there is a key and a collection. -/
theorem Stands.exists_keys {cycle : Cycle} {nodes : List NodeId} {message : SyncRequest}
    (h : Stands settings id now trail cycle)
    (hq : cycle.request settings = .broadcast nodes message) :
    ∃ keys rest, Keyed settings keys ∧ trail = keys ++ probed settings (.ok true) :: rest := by
  cases h with
  | @bootstrapping _ b => cases b <;> cases hq
  | asking h nodes => exact ⟨_, _, h, rfl⟩
  | routing h nodes answers => exact ⟨_, _, h, rfl⟩
  | _ => cases hq

/-- Records are read after both rounds, inside the gate. -/
theorem Stands.exists_opening {cycle : Cycle} {collection : String} {query : Query}
    {page : PageRequest} (h : Stands settings id now trail cycle)
    (hq : cycle.request settings = .search collection query page) :
    cycle.holdsGate = true ∧
      ∃ (o : Opening settings) (pages : List Exchange), trail = o.trail id ++ pages := by
  cases h with
  | @bootstrapping _ b => cases b <;> cases hq
  | scanning o h => exact ⟨rfl, o, _, rfl⟩
  | _ => cases hq

theorem Closed.cycle_eq (h : Closed settings id now trail report) : report.cycle = id := by
  cases h <;> rfl

section Run

variable {γ : Type} {out : Outside γ} {s s' : State γ} {d d' : Daemon}
  {m m' : Moment Cycle CycleReport γ}

theorem Wrote.documents_of_refused (h : Wrote settings trail report)
    (ht : Trace out (job settings) m (trail ++ [⟨.file, ()⟩]) m')
    (hs : out.Spared settings.modelCollection) {collection : String} {items : List BulkItem}
    {e : StoreError} (hx : ⟨.update collection items, .error e⟩ ∈ trail) :
    m'.outside.store.collections.get? settings.modelCollection =
      m.outside.store.collections.get? settings.modelCollection := by
  cases h with
  | nothing hw => exact absurd trivial (hw _ hx)
  | once hback hw =>
    rw [hback, List.mem_append, List.mem_singleton] at hx
    rcases hx with hx | hx
    · exact absurd trivial (hw _ hx)
    rw [hback, ← hx, List.append_assoc] at ht
    obtain ⟨cycle, s, d, hfront, hrest, hupdate⟩ := ht.exists_moment
    have hfirst := hfront.documents_eq hs hw
    have hlast := hrest.documents_eq hs fun x hx => by
      rw [List.mem_singleton.1 hx]
      exact fun h => h
    obtain ⟨hq, hr⟩ := eq_of_exchange hupdate.symm
    have hrefused := answer_of_refused (s := s) hs hr.symm
    rw [hlast, ← hfirst, ← hrefused, ← hq]
    rfl

theorem countP_isUpdate_eq_zero {collection : String}
    (h : ∀ x ∈ trail, ¬ x.request.Writes collection) :
    trail.countP (·.request.isUpdate) = 0 := by
  rw [List.countP_eq_zero]
  intro x hx
  rw [Request.isUpdate_eq_false (h x hx)]
  exact Bool.false_ne_true

/-- How many bulk updates a cycle has asked for. -/
theorem Wrote.countP_isUpdate (h : Wrote settings trail report) :
    trail.countP (·.request.isUpdate) = if report.corrections = [] then 0 else 1 := by
  cases h with
  | nothing hw hc => rw [if_pos hc, countP_isUpdate_eq_zero hw]
  | once ht hw _ hc =>
    rw [ht, if_neg hc, List.countP_append, countP_isUpdate_eq_zero hw]
    rfl

theorem Wrote.documents_of_unfinished (h : Wrote settings trail report)
    (ho : report.outcome ≠ .completed) (ht : Trace out (job settings) m (trail ++ [⟨.file, ()⟩]) m')
    (hs : out.Spared settings.modelCollection) :
    m'.outside.store.collections.get? settings.modelCollection =
      m.outside.store.collections.get? settings.modelCollection := by
  cases h with
  | once _ _ hdone => exact absurd hdone ho
  | nothing hw =>
    refine ht.documents_eq hs fun x hx => ?_
    rcases List.mem_append.1 hx with hx | hx
    · exact hw x hx
    · rw [List.mem_singleton.1 hx]
      exact fun h => h

theorem Reached.bulk_eq_none (h : Reached settings id trail report)
    (ho : report.outcome ≠ .completed) : report.corrections = [] ∧ report.bulk = none := by
  cases h with
  | early _ _ hc hb => exact ⟨hc, hb⟩
  | unread _ _ _ _ _ hc hb => exact ⟨hc, hb⟩
  | idle _ _ _ hdone => exact absurd hdone ho
  | written _ _ _ hdone => exact absurd hdone ho

/-- A request that is not the last one of a cycle was made before. -/
theorem mem_of_ne_file (hq : x.request ≠ .file) (hx : x ∈ trail ++ [⟨.file, ()⟩]) : x ∈ trail := by
  rcases List.mem_append.1 hx with hx | hx
  · exact hx
  · exact absurd (congrArg Exchange.request (List.mem_singleton.1 hx)) hq

/-- **A cycle that has ended was orderly.** -/
theorem orderly_of_trace (hc : settings.configCollection ≠ settings.modelCollection)
    (hs : out.Spared settings.modelCollection)
    (ht : Trace out (job settings) (.after (start.run d) s) trail (.ended report s' d')) :
    Orderly settings s s' d d' trail report := by
  obtain ⟨closed, rfl, hclosed⟩ : Went settings _ _ trail (.over report) :=
    went_of_course (ht.course .start)
  have hreached := hclosed.reached
  have hwrote := hreached.wrote hc
  have hcount : (closed ++ [(⟨.file, ()⟩ : Exchange)]).countP (·.request.isUpdate) =
      if report.corrections = [] then 0 else 1 := by
    rw [List.countP_append, hwrote.countP_isUpdate]
    rfl
  have hfinds : FindsGate d.gate (.after (start.run d) s : Moment Cycle CycleReport γ) := rfl
  refine ⟨?unfinished, ?unread, ?asked, ?searched, fun _ => hcount, ?refused, hfinds.trace ht⟩
  case unfinished =>
    intro ho
    obtain ⟨hnil, hb⟩ := hreached.bulk_eq_none ho
    rw [if_pos hnil] at hcount
    exact ⟨hcount, hwrote.documents_of_unfinished ho ht hs, hnil, hb⟩
  case unread =>
    intro collection query page e hx hne
    exact hreached.aborted (mem_of_ne_file nofun hx) hne
  case asked =>
    intro front nodes message answers back hsplit
    rw [hsplit] at ht
    obtain ⟨cycle, s₁, d₁, hfront, -, hx⟩ := ht.exists_moment
    have hstands : Went settings _ _ front (.wait cycle) := went_of_course (hfront.course .start)
    exact hstands.exists_keys (congrArg Exchange.request hx).symm
  case searched =>
    intro front collection query page reply back hsplit
    rw [hsplit] at ht
    obtain ⟨cycle, s₁, d₁, hfront, -, hx⟩ := ht.exists_moment
    have hstands : Went settings _ _ front (.wait cycle) := went_of_course (hfront.course .start)
    obtain ⟨hin, ho⟩ := hstands.exists_opening (congrArg Exchange.request hx).symm
    have hopen := hfinds.trace hfront
    unfold FindsGate at hopen
    rw [if_pos (show insideAfter (.wait cycle) = true from hin)] at hopen
    rw [hclosed.cycle_eq]
    exact ⟨hopen, ho⟩
  case refused =>
    intro collection items e hx
    exact hwrote.documents_of_refused ht hs (mem_of_ne_file nofun hx)

/-- **Every cycle ends with a report and is orderly**, whatever the store, the nodes and the listing
of the nodes fail to do, as long as others leave the documents of the models alone. -/
theorem runs_orderly (settings : SyncSettings) (out : Outside γ) (s : State γ) (d : Daemon)
    (hc : settings.configCollection ≠ settings.modelCollection)
    (hs : out.Spared settings.modelCollection) :
    ∃ trail report s' d',
      Trace out (job settings) (.after (start.run d) s) trail (.ended report s' d') ∧
        Orderly settings s s' d d' trail report := by
  obtain ⟨trail, report, s', d', ht⟩ := exists_trace hc hs
    ⟨.fresh (.ofNat (d.begun + 1)) d.clock, .bootstrapping .queueing⟩ s (start.run d).2
  exact ⟨trail, report, s', d', ht, orderly_of_trace hc hs ht⟩

/-- A cycle whose search fails. -/
theorem runs_orderly_of_failed_search :
    let settings : SyncSettings := default
    let out : Outside Unit :=
      ⟨fun _ => .ok [⟨"n"⟩], fun _ cluster node => (cluster, .error (.unreachable node "gone")),
        fun _ q => if q matches .search .. then .failed (.transport "down") else .served,
        fun _ store => store, fun _ => .ofMillis 1000⟩
    let s : State Unit :=
      ⟨(∅ : MemoryStore).put settings.modelCollection "m" (.object []), (), []⟩
    let d := Daemon.fresh (.ofMillis 0) default default
    ∃ trail report s' d',
      Trace out (job settings) (.after (start.run d) s) trail (.ended report s' d') ∧
        Orderly settings s s' d d' trail report := by
  intro settings out s d
  exact runs_orderly settings out s d (by decide) fun _ _ => rfl

end Run

end Cycle

end ModelFleet
