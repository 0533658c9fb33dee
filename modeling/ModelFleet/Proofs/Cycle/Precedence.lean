import ModelFleet.Proofs.Cluster.Expiry
import ModelFleet.Proofs.Cycle.Foundation

/-!
# Older observations that come later

Cycles overlap, and a cycle that has heard the nodes early may write, or tell the nodes the routing,
after one that has heard them late.  Nothing orders them by what they have heard.

* A cycle writes a document by what it has heard itself and by the document as it stands
  (`Phase.Founded`).  So after another cycle has written the document it is written again only where
  a model is being deployed, or by a cycle that came inside the gate when the grace period was over
  (`Overlap.Rewritten.justified`).
* A node holds the routing that it was told last (`Overlap.routingOn_run`).

`Overlap.own_views` puts both together, and by `Overlap.not_newest_prevails` a cycle may override
what another one has written or told that has heard the nodes later.
-/

namespace ModelFleet

open Outside MemoryStore

/-! ### Documents that are written again -/

/-- A correction is of a model that is being deployed, or is decided when the grace period is
over. -/
theorem Reconciler.deploying_or_late {r : Reconciler} {id : String} {source : Json}
    {record : ModelRecord} {c : Correction} {t : Instant} (h : r.correction id source = some c)
    (hr : ModelRecord.ofDocument ⟨id⟩ source = .ok record)
    (ht : record.updated = some (.ofMillis t.millis)) :
    r.state.isDeploying ⟨id⟩ = true ∨ t.millis + r.graceMillis ≤ r.now.millis := by
  obtain ⟨record', hr', hd, -, -⟩ := correction_eq_some h
  obtain rfl : record' = record :=
    Except.ok.inj ((Scan.recordIn_eq_some_iff.1 hr').2.symm.trans hr)
  rw [← Scan.id_of_recordIn hr']
  refine (withinGrace_of_decide hd).imp_right fun hgrace => ?_
  have hnanos : r.graceMillis * 1000000 ≤ r.now.nanos - t.millis * 1000000 := by
    simp only [withinGrace, ht, Instant.ofMillis, Bool.or_eq_false_iff, decide_eq_false_iff_not]
      at hgrace
    omega
  show t.millis + r.graceMillis ≤ r.now.nanos / 1000000
  omega

/-- **Why a cycle corrects the document of a model** that was written last at this time. -/
structure Justified {settings : SyncSettings} (past : Past settings) (phase : Phase settings)
    (model : String) (source : Json) (c : Correction) (written : Instant) (id : CycleId)
    (o : Cycle.Opening settings) (decided : Instant) : Prop where
  /-- The cycle has heard the nodes itself. -/
  heard : ∃ cycle calls pages, phase = .asking cycle calls (o.trail id ++ pages)
  /-- With what it had heard it came inside the gate at the time by which it decides. -/
  entered : past decided (Phase.Enters id o decided)
  /-- By what the nodes have said it corrects the document as it stands. -/
  corrects : (o.rounds.reconciler settings decided).correction model source = some c
  /-- They have said that the model is being deployed, or the cycle came inside the gate when the
  grace period was over. -/
  deploying_or_late : o.state.isDeploying ⟨model⟩ = true ∨
    written.millis + settings.graceMillis ≤ decided.millis

/-- **A cycle that corrects a document** has its reasons. -/
theorem Overlap.Rewritten.justified {settings : SyncSettings} {κ γ : Type}
    {w : Overlap settings κ γ} {past : κ → Past settings} (hw : w.Founded past) {call : κ}
    {id : String} {write : Write} {c : Correction} {source : Json} {after : Option Json}
    (h : Rewritten w call id write c source after) {t : Instant}
    (ht : ∀ record, ModelRecord.ofDocument ⟨id⟩ source = .ok record →
      record.updated = some (.ofMillis t.millis)) :
    ∃ cid o decided, Justified (past call) (w.phases call) id source c t cid o decided := by
  obtain ⟨report, refresh, calls, trail, hp⟩ := Phase.eq_of_write? h.asked
  have hcall : Phase.Founded (past call) w.documents
      (.asking ⟨report, .writing refresh write⟩ calls trail) := hp ▸ hw call
  obtain ⟨-, cid, o, decided, ⟨hentered, pages, htrail⟩, rest, hfirst⟩ := hcall
  obtain ⟨r, hd⟩ := h.decided
  obtain ⟨record, hr, -, hmodel, -⟩ := Reconciler.correction_eq_some hd
  have hid : c.model.text = id := by rw [hmodel]
  obtain ⟨source', hsource, hcorrects⟩ :=
    Reconciler.correction_of_mem (hfirst.isPrefix.mem h.mem) hid
  obtain rfl : source' = source := Option.some.inj (hsource.symm.trans h.stored)
  have hrecord := (Scan.recordIn_eq_some_iff.1 hr).2
  have hlate := Reconciler.deploying_or_late hcorrects hrecord (ht record hrecord)
  -- what the nodes dropped in the second round is not what they deploy
  rw [Outside.Rounds.reconciler, Aggregate.isDeploying, Aggregate.deploying_afterRouting] at hlate
  exact ⟨cid, o, decided, ⟨_, calls, pages, htrail ▸ hp⟩, hentered, hcorrects, hlate⟩

/-! ### The routing that nodes hold -/

namespace LocalCluster

/-- The routing that a node holds. -/
def routingOn (cluster : LocalCluster) (node : NodeId) : Placement .model :=
  ((cluster.nodes.get? node).map (·.routing)).getD ∅

variable {cluster : LocalCluster} {node : NodeId}

theorem routingOn_of_get? {runtime : NodeRuntime} (h : cluster.nodes.get? node = some runtime) :
    cluster.routingOn node = runtime.routing := by
  rw [routingOn, h]
  rfl

theorem routingOn_applied {runtime : NodeRuntime} (h : cluster.reach node = .ok runtime)
    (sender : CycleId) (push : RoutingPush) :
    (cluster.serve node (.applyRouting sender push)).1.routingOn node = push.routing := by
  have hafter : (cluster.serve node (.applyRouting sender push)).1.nodes.get? node =
      some (runtime.apply push) := by
    rw [serve, h]
    exact SortedMap.get?_insert_self ..
  rw [routingOn_of_get? hafter]
  rfl

/-- The routing that a node holds changes only by a message that tells it the routing. -/
theorem told_of_routingOn_ne {other : NodeId} {message : SyncRequest}
    (h : (cluster.serve other message).1.routingOn node ≠ cluster.routingOn node) :
    other = node ∧ ∃ sender push, message = .applyRouting sender push ∧
      (cluster.serve other message).1.routingOn node = push.routing := by
  rcases cluster.serve_cases other message with ⟨e, he⟩ | ⟨runtime, hr, hs⟩
  · rw [he] at h
    exact absurd rfl h
  · rw [hs] at h ⊢
    have hafter := SortedMap.get?_insert cluster.nodes other node (runtime.serve other message).1
    by_cases ho : node = other
    · subst ho
      rw [if_pos rfl] at hafter
      rw [routingOn_of_get? hafter, routingOn_of_get? hr] at h
      cases message with
      | gather => exact absurd rfl h
      | applyRouting sender push =>
        refine ⟨rfl, sender, push, rfl, ?_⟩
        rw [routingOn_of_get? hafter]
        rfl
    · rw [if_neg ho] at hafter
      refine absurd ?_ h
      rw [routingOn, routingOn, hafter]

end LocalCluster

namespace Overlap

open LocalCluster

variable {settings : SyncSettings} {κ : Type} {w w' : Overlap settings κ LocalCluster}
  {timeout : Nat} {call : κ} {place : Nat} {node : NodeId} {routing : Placement .model}

/-- **A message of a cycle waits at a node that tells it this routing**, which the cycle has from
what the nodes have said to it in its first round. -/
def Tells (w : Overlap settings κ LocalCluster) (call : κ) (place : Nat) (node : NodeId)
    (routing : Placement .model) : Prop :=
  ∃ cycle calls trail asked answers, w.phases call = .asking cycle calls trail ∧
    calls[place]? = some (node, .waiting) ∧ cycle.stage = .routing ⟨Gather.state answers⟩ ∧
    Cycle.gathered cycle.report.cycle asked answers ∈ trail ∧
    routing = (Gather.state answers).push.routing

variable [DecidableEq κ]

theorem routingOn_deliver (h : w.Tells call place node routing) {runtime : NodeRuntime}
    (hr : w.cluster.reach node = .ok runtime) :
    (w.move (peers timeout) (.deliver call place)).cluster.routingOn node = routing := by
  obtain ⟨⟨report, stage⟩, calls, trail, asked, answers, hp, hplace, hstage, -, rfl⟩ := h
  obtain rfl : stage = .routing ⟨Gather.state answers⟩ := hstage
  simp only [move, reach, hp, hplace]
  exact routingOn_applied hr report.cycle (Gather.state answers).push

/-- What may change the routing that a node holds: it serves a message that tells it, or others
change the nodes. -/
inductive Retold (w : Overlap settings κ LocalCluster) (node : NodeId)
    (routing : Placement .model) : Move κ LocalCluster → Prop
  | told {call : κ} {place : Nat} (h : w.Tells call place node routing) :
      Retold w node routing (.deliver call place)
  | changed (act : LocalCluster → LocalCluster) : Retold w node routing (.change act)

/-- **The routing that a node holds changes only when the node is told another one.** -/
theorem Moved.routingOn {m : Move κ LocalCluster} (h : Moved (peers timeout) w m w')
    (hlegal : w.Legal) (hne : w'.cluster.routingOn node ≠ w.cluster.routingOn node) :
    Retold w node (w'.cluster.routingOn node) m := by
  cases h with
  | @delivers call cycle calls trail place other nodes message h hplace hq =>
    obtain ⟨rfl, sender, push, rfl, hnow⟩ := told_of_routingOn_ne hne
    obtain ⟨id, now, hs⟩ := hlegal.of_eq h
    obtain ⟨asked, answers, hstage, -, hg, rfl⟩ := hs.of_applyRouting hq
    exact .told ⟨cycle, calls, trail, asked, answers, h, hplace, hstage, hg, hnow⟩
  | changes act => exact .changed act
  | _ => exact absurd rfl hne

/-- **A node holds the routing that it was told last.** -/
theorem routingOn_run (hlegal : w.Legal) (moves : List (Move κ LocalCluster)) (node : NodeId) :
    let after := w.run (peers timeout) moves
    after.cluster.routingOn node = w.cluster.routingOn node ∨
      ∃ earlier m later, moves = earlier ++ m :: later ∧
        Retold (w.run (peers timeout) earlier) node (after.cluster.routingOn node) m := by
  induction moves using List.reverseRecOn with
  | nil => exact .inl rfl
  | append_singleton moves m ih =>
    intro after
    have hafter : after = (w.run (peers timeout) moves).move (peers timeout) m :=
      run_append (peers timeout) w moves [m]
    by_cases hne : after.cluster.routingOn node =
        (w.run (peers timeout) moves).cluster.routingOn node
    · -- the last move tells the node nothing new, so an earlier one counts
      rw [hne]
      refine ih.imp_right ?_
      rintro ⟨earlier, m', later, rfl, htold⟩
      exact ⟨earlier, m', later ++ [m], by simp, htold⟩
    · have hmoved := moved (peers timeout) (w.run (peers timeout) moves) m
      rw [← hafter] at hmoved
      exact .inr ⟨moves, m, [], rfl, hmoved.routingOn (legal_run hlegal moves) hne⟩

/-! ### What prevails -/

/-- **Each cycle acts by its own view**, whatever moves are made before and after. -/
structure OwnViews (timeout : Nat) (start : Overlap settings κ LocalCluster)
    (before moves : List (Move κ LocalCluster)) (m : Move κ LocalCluster) : Prop where
  /-- A document that a cycle has written is changed only by a cycle that has its own reasons, which
  go by the time of the last writing. -/
  documents : ∀ call fate write id,
    let w := start.run (peers timeout) before
    let written := w.move (peers timeout) (.serve call fate)
    let past := before ++ .serve call fate :: moves
    let later := start.run (peers timeout) past
    let after := later.move (peers timeout) m
    (w.phases call).write? = some write →
    written.store.get? settings.modelCollection id ≠ w.store.get? settings.modelCollection id →
    after.store.get? settings.modelCollection id ≠ later.store.get? settings.modelCollection id →
    ∃ other fate' write' c source earlier author last cid o decided, m = .serve other fate' ∧
      Rewritten later other id write' c source
        (after.store.get? settings.modelCollection id) ∧
      before <+: earlier ∧ WrittenLast (peers timeout) start past id earlier author last ∧
      Justified (Acted (peers timeout) start past other) (later.phases other) id source c last.time
        cid o decided
  /-- A node holds the routing that it was told last. -/
  tables : ∀ node, let w := start.run (peers timeout) before
    let after := w.run (peers timeout) moves
    after.cluster.routingOn node = w.cluster.routingOn node ∨
      ∃ earlier m' later, moves = earlier ++ m' :: later ∧
        Retold (w.run (peers timeout) earlier) node (after.cluster.routingOn node) m'
  /-- It takes over whatever routing it is told, if it can be reached. -/
  takes : ∀ call place node routing runtime, let w := start.run (peers timeout) before
    w.Tells call place node routing → w.cluster.reach node = .ok runtime →
    (w.move (peers timeout) (.deliver call place)).cluster.routingOn node = routing

/-- **What cycles override**, however they overlap and the nodes change, if only cycles write the
documents of models: nothing orders the cycles by what they have heard. -/
theorem own_views (settings : SyncSettings) (timeout : Nat) (store : MemoryStore)
    (cluster : LocalCluster) (daemon : Daemon) (before moves : List (Move κ LocalCluster))
    (m : Move κ LocalCluster) (hc : settings.configCollection ≠ settings.modelCollection)
    (hg : daemon.gate.isOpen = true)
    (hm : ∀ m' ∈ before ++ moves ++ [m], m'.Spares settings.modelCollection) :
    OwnViews timeout (fresh settings store cluster daemon) before moves m := by
  simp only [List.forall_mem_append, List.forall_mem_singleton] at hm
  obtain ⟨⟨hbefore, hmoves⟩, hlast⟩ := hm
  generalize hstart : (fresh settings store cluster daemon : Overlap settings κ LocalCluster) =
    start
  have hfresh : start.Reasoned (Acted (peers timeout) start []) :=
    hstart ▸ reasoned_fresh store cluster hg _
  have hlegal : (start.run (peers timeout) before).Legal := legal_run hfresh.legal before
  refine ⟨?documents, routingOn_run hlegal moves,
    fun call place node routing runtime htells hr => routingOn_deliver htells hr⟩
  case documents =>
    intro call fate write id w written past later after hwrite hwritten hafter
    have hpast : ∀ m' ∈ past, m'.Spares settings.modelCollection :=
      List.forall_mem_append.2 ⟨hbefore, List.forall_mem_cons.2 ⟨trivial, hmoves⟩⟩
    have hlater : later.Reasoned (Acted (peers timeout) start past) :=
      reasoned_run hc hpast hfresh
    obtain ⟨other, fate', write', c, source, he, hrewritten⟩ :=
      (moved (peers timeout) later m).rewritten hc hlast hlater.current hafter
    obtain ⟨earlier, author, last, hprefix, hauthor⟩ :=
      exists_writtenLast hc hpast hfresh hwritten
    obtain ⟨cid, o, decided, hjustified⟩ := hrewritten.justified hlater.founded fun _ hr =>
      hauthor.updated hrewritten.stored hr
    exact ⟨other, fate', write', c, source, earlier, author, last, cid, o, decided, he, hrewritten,
      hprefix, hauthor, hjustified⟩

end Overlap

/-- The first round of a cycle under way is over. -/
def Phase.hasHeard {settings : SyncSettings} (phase : Phase settings) : Bool :=
  phase.underWay?.any fun (_, trail) => trail.any fun x =>
    match x.request with
    | .broadcast _ (.gather _) => true
    | _ => false

namespace Overlap

open LocalCluster

/-! ### A cycle that is overtaken

The node `n1` deploys a model when a cycle hears it, and has it when the next one does. -/

namespace Overtaken

def source : Json := .object [(Document.stateField, .str "DEPLOYED"),
  (Document.plannedField, .int 2), (Document.currentField, .int 2)]

def store : MemoryStore := (∅ : MemoryStore).put (default : SyncSettings).modelCollection "m" source

def deploying : LocalCluster := (LocalCluster.ofNodes [⟨"n1"⟩]).update ⟨"n1"⟩ fun r =>
  { r with deploying := r.deploying.insert ⟨"t"⟩ ⟨"m"⟩ }

def deployed (cluster : LocalCluster) : LocalCluster := cluster.update ⟨"n1"⟩ fun r =>
  { r with deploying := ∅, deployed := r.deployed.insert ⟨"m"⟩ }

def daemon : Daemon := .fresh (.ofMillis 0) default default

def asks (call : Bool) : List (Move Bool LocalCluster) :=
  [.serve call .served, .resume call (.ofMillis 1000)]

/-- A cycle hears the node, and its message that tells the routing waits there. -/
def hears (call : Bool) : List (Move Bool LocalCluster) :=
  .start call (.ofMillis 1000) :: (List.replicate 5 (asks call)).flatten ++
    [.arrive call 0, .deliver call 0] ++ asks call ++ [.arrive call 0]

/-- The node has been told, and the cycle goes on until its corrections wait to be written. -/
def decides (call : Bool) : List (Move Bool LocalCluster) := asks call ++ asks call

def start : Overlap default Bool LocalCluster := fresh default store deploying daemon

/-- The first cycle has heard the node. -/
def heard : Overlap default Bool LocalCluster := start.run (peers 5000) (hears false)

/-- The second cycle hears the node when it has the model. -/
def overtakes : List (Move Bool LocalCluster) := .change deployed :: hears true

/-- The second cycle is about to tell the node. -/
def before : Overlap default Bool LocalCluster := heard.run (peers 5000) overtakes

/-- The second cycle is about to write. -/
def ahead : Overlap default Bool LocalCluster :=
  heard.run (peers 5000) (overtakes ++ .deliver true 0 :: decides true)

/-- All that happens until the second cycle is about to write. -/
def earlier : List (Move Bool LocalCluster) :=
  hears false ++ (overtakes ++ .deliver true 0 :: decides true)

/-- The second cycle ends, and the first one comes to write its corrections. -/
def follows : List (Move Bool LocalCluster) :=
  .resume true (.ofMillis 1000) :: asks true ++ .deliver false 0 :: decides false

/-- The first cycle is about to write. -/
def behind : Overlap default Bool LocalCluster :=
  (ahead.move (peers 5000) (.serve true .served)).run (peers 5000) follows

theorem run_earlier : start.run (peers 5000) earlier = ahead := run_append ..

theorem run_follows :
    start.run (peers 5000) (earlier ++ .serve true .served :: follows) = behind := by
  calc start.run (peers 5000) (earlier ++ .serve true .served :: follows)
    _ = (start.run (peers 5000) earlier).run (peers 5000) (.serve true .served :: follows) :=
      run_append ..
    _ = ahead.run (peers 5000) (.serve true .served :: follows) := by rw [run_earlier]
    _ = behind := run_cons ..

theorem begins : (heard.phases false).hasHeard = true ∧
    (heard.phases true).underWay?.isNone = true := by decide +kernel

theorem writes :
    let collection := (default : SyncSettings).modelCollection
    let write (c : Correction) : Write := ⟨[c], .ofMillis 1000⟩
    (ahead.phases true).write? = some (write ⟨⟨"m"⟩, none, .deployed, .partiallyDeployed, 2, 1⟩) ∧
      (ahead.move (peers 5000) (.serve true .served)).store.get? collection "m" ≠
        ahead.store.get? collection "m" ∧
      (behind.phases false).write? =
        some (write ⟨⟨"m"⟩, none, .partiallyDeployed, .deploying, 1, 0⟩) ∧
      (behind.move (peers 5000) (.serve false .served)).store.get? collection "m" ≠
        behind.store.get? collection "m" := by decide +kernel

theorem tells :
    let told := before.move (peers 5000) (.deliver true 0)
    let later := told.run (peers 5000) (asks true)
    told.cluster.routingOn ⟨"n1"⟩ ≠ before.cluster.routingOn ⟨"n1"⟩ ∧
      (later.move (peers 5000) (.deliver false 0)).cluster.routingOn ⟨"n1"⟩ ≠
        later.cluster.routingOn ⟨"n1"⟩ := by decide +kernel

theorem spares : ∀ m ∈ earlier ++ follows, m.Spares (default : SyncSettings).modelCollection := by
  simp [earlier, hears, overtakes, decides, follows, asks, Move.Spares, List.replicate]

end Overtaken

/-- The cycle that is overtaken corrects the document again, by what it has heard. -/
theorem own_views_of_overtaken :
    OwnViews 5000 Overtaken.start Overtaken.earlier Overtaken.follows (.serve false .served) ∧
      let past := Overtaken.earlier ++ .serve true .served :: Overtaken.follows
      ∃ write source c before author last cid o decided,
        Rewritten Overtaken.behind false "m" write c source
          ((Overtaken.behind.move (peers 5000) (.serve false .served)).store.get?
            (default : SyncSettings).modelCollection "m") ∧
        WrittenLast (peers 5000) Overtaken.start past "m" before author last ∧
        Justified (Acted (peers 5000) Overtaken.start past false) (Overtaken.behind.phases false)
          "m" source c last.time cid o decided ∧
        c.fromState = .partiallyDeployed ∧ c.toState = .deploying := by
  have hspares : ∀ m ∈ Overtaken.earlier ++ Overtaken.follows ++ [.serve false .served],
      m.Spares (default : SyncSettings).modelCollection := by
    rw [List.forall_mem_append]
    exact ⟨Overtaken.spares, List.forall_mem_singleton.2 trivial⟩
  have hviews : OwnViews 5000 Overtaken.start Overtaken.earlier Overtaken.follows
      (.serve false .served) :=
    own_views default 5000 Overtaken.store Overtaken.deploying Overtaken.daemon Overtaken.earlier
      Overtaken.follows (.serve false .served) (by decide) rfl hspares
  refine ⟨hviews, ?_⟩
  have hdocuments := hviews.documents true .served
  simp only [Overtaken.run_earlier, Overtaken.run_follows] at hdocuments
  obtain ⟨hwrite, hwritten, hagain, hrewritten⟩ := Overtaken.writes
  obtain ⟨other, _, write, c, source, before, author, last, cid, o, decided, he, hr, -, hl, hj⟩ :=
    hdocuments _ "m" hwrite hwritten hrewritten
  cases he
  have hc : write = _ := Option.some.inj (hr.asked.symm.trans hagain)
  obtain rfl := List.mem_singleton.1 (hc ▸ hr.mem)
  exact ⟨write, source, _, before, author, last, cid, o, decided, hr, hl, hj, rfl, rfl⟩

/-- **What was heard last does not prevail**: a cycle has heard a node before another one begins,
and overrides what the other one has written, or what it has told the node. -/
theorem not_newest_prevails :
    (¬ ∀ (settings : SyncSettings) (timeout : Nat) (store : MemoryStore) (cluster : LocalCluster)
        (daemon : Daemon) (before between after : List (Move Bool LocalCluster))
        (fate fate' : Fate) (id : String),
      let heard : Overlap settings Bool LocalCluster :=
        (fresh settings store cluster daemon).run (peers timeout) before
      let w := heard.run (peers timeout) between
      let written := w.move (peers timeout) (.serve true fate)
      let later := written.run (peers timeout) after
      settings.configCollection ≠ settings.modelCollection → daemon.gate.isOpen = true →
      (∀ m ∈ before ++ between ++ after, m.Spares settings.modelCollection) →
      (heard.phases false).hasHeard = true → (heard.phases true).underWay?.isNone = true →
      written.store.get? settings.modelCollection id ≠ w.store.get? settings.modelCollection id →
      (later.move (peers timeout) (.serve false fate')).store.get? settings.modelCollection id =
        later.store.get? settings.modelCollection id) ∧
    ¬ ∀ (settings : SyncSettings) (timeout : Nat) (store : MemoryStore) (cluster : LocalCluster)
        (daemon : Daemon) (before between after : List (Move Bool LocalCluster))
        (place place' : Nat) (node : NodeId),
      let heard : Overlap settings Bool LocalCluster :=
        (fresh settings store cluster daemon).run (peers timeout) before
      let w := heard.run (peers timeout) between
      let told := w.move (peers timeout) (.deliver true place)
      let later := told.run (peers timeout) after
      (heard.phases false).hasHeard = true → (heard.phases true).underWay?.isNone = true →
      told.cluster.routingOn node ≠ w.cluster.routingOn node →
      (later.move (peers timeout) (.deliver false place')).cluster.routingOn node =
        later.cluster.routingOn node := by
  obtain ⟨hheard, hbegins⟩ := Overtaken.begins
  constructor
  · intro h
    obtain ⟨-, hwritten, -, hagain⟩ := Overtaken.writes
    unfold Overtaken.behind at hagain
    unfold Overtaken.ahead at hagain hwritten
    unfold Overtaken.heard at *
    exact hagain (h default 5000 Overtaken.store Overtaken.deploying Overtaken.daemon
      (Overtaken.hears false) (Overtaken.overtakes ++ .deliver true 0 :: Overtaken.decides true)
      Overtaken.follows .served .served "m" (by decide) rfl Overtaken.spares hheard hbegins
      hwritten)
  · intro h
    obtain ⟨htold, hagain⟩ := Overtaken.tells
    unfold Overtaken.before Overtaken.heard at *
    exact hagain (h default 5000 Overtaken.store Overtaken.deploying Overtaken.daemon
      (Overtaken.hears false) Overtaken.overtakes (Overtaken.asks true) 0 0 ⟨"n1"⟩ hheard hbegins
      htold)

end Overlap

end ModelFleet
