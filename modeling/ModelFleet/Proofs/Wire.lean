import ModelFleet.Event.Basic
import ModelFleet.Node.Message
import ModelFleet.Proofs.Json.Spelling
import ModelFleet.Proofs.Model.Rewrite

/-!
# Messages and events are read back as they were written

Nodes exchange requests, answers and reports, the elected node keeps a state of all reports, and
watchers see events; all of them travel as documents.  Reading such a document gives back what was
written (`ofJson_toJson` for each of them), and the documents are plain ones (`plain_toJson`), which
are read back from their texts.  So no two values are written alike (`wire_faithful`).
A request or an answer has its name under `kind`, which none of its other members uses, whatever the
nodes and models are called (`Json.Tagged`).
-/

namespace ModelFleet

/-! ### Names, sets and placements -/

namespace Name

variable {kind : Kind}

theorem ofJson_toJson (name : Name kind) : ofJson name.toJson = .ok name := rfl

end Name

theorem CycleId.ofJson_toJson (cycle : CycleId) : ofJson cycle.toJson = .ok cycle := by
  rw [ofJson, toJson, Decode.uuid_of_toString]
  rfl

theorem SortedSet.ofJson_toJson {kind : Kind} (names : SortedSet (Name kind)) :
    ofJson names.toJson = .ok names :=
  Decode.set_of_items Name.ofJson_toJson names

theorem SortedSet.plain_toJson {kind : Kind} (names : SortedSet (Name kind)) :
    Json.Plain 1 names.toJson :=
  .arr (List.forall_mem_map.2 fun name _ => .str name.text)

namespace Placement

variable {kind : Kind}

/-- The document of a placement has its entries in the order of the texts of its names. -/
theorem toJson_eq (p : Placement kind) :
    p.toJson = .obj (p.entries.map fun entry => (entry.1.text, entry.2.toJson)) := by
  rw [toJson, Json.object, Entries.ofList_of_sorted]
  exact List.pairwise_map.2 p.sorted

theorem ofJson_toJson (p : Placement kind) : ofJson p.toJson = .ok p := by
  have hentries := mapM_map_eq_ok
    (fun entry : Name kind × SortedSet NodeId => (entry.1.text, entry.2.toJson))
    (fun m => do return (Name.mk m.1, ← SortedSet.ofJson m.2))
    (fun entry => by simp only [SortedSet.ofJson_toJson]; rfl) p.entries
  rw [toJson_eq, ofJson, Decode.map, hentries]
  exact congrArg Except.ok p.ofList_entries

theorem plain_toJson (p : Placement kind) : Json.Plain 2 p.toJson :=
  .object (List.forall_mem_map.2 fun entry _ => entry.2.plain_toJson)

end Placement

/-! ### Reports -/

namespace NodeReport

theorem nodup_members (report : NodeReport) : (report.members.map (·.1)).Nodup := by simp [members]

theorem named_members (report : NodeReport) :
    fields.named (Entries.ofList report.members) = .ok report := by
  have hn := report.nodup_members
  unfold fields
  refine Fields.named_seq (Fields.named_seq (Fields.named_seq (Fields.named_seq
    (Fields.named_map mk ?_) ?_) ?_) ?_) ?_
  · exact Fields.named_required hn (by simp [members]) (Name.ofJson_toJson report.node)
  · exact Fields.named_withDefault hn (by simp [members]) (SortedSet.ofJson_toJson report.deployed)
  · exact Fields.named_withDefault hn (by simp [members]) (SortedSet.ofJson_toJson report.deploying)
  · exact Fields.named_withDefault hn (by simp [members]) (SortedSet.ofJson_toJson report.tasks)
  · exact Fields.named_withDefault hn (by simp [members]) (SortedSet.ofJson_toJson report.expired)

theorem ofJson_toJson (report : NodeReport) : ofJson report.toJson = .ok report :=
  Fields.ofMembers_of_named report.named_members

theorem plain_members (report : NodeReport) : ∀ m ∈ report.members, Json.Plain 1 m.2 := by
  simp only [members, List.forall_mem_cons, List.not_mem_nil, false_implies, implies_true, and_true]
  exact ⟨.str _, report.deployed.plain_toJson, report.deploying.plain_toJson,
    report.tasks.plain_toJson, report.expired.plain_toJson⟩

end NodeReport

namespace Aggregate

/-- The members of the document of a state. -/
def members (state : Aggregate) : List (String × Json) :=
  [("model_worker_nodes", state.workers.toJson), ("deploying_models", state.deploying.toJson),
    ("running_deploy_tasks", state.tasks.toJson), ("expired_models", state.expired.toJson),
    ("responded_nodes", state.responded.toJson), ("failed_nodes", state.failed.toJson)]

theorem toJson_eq (state : Aggregate) : state.toJson = .object state.members := rfl

theorem nodup_members (state : Aggregate) : (state.members.map (·.1)).Nodup := by simp [members]

theorem named_members (state : Aggregate) :
    fields.named (Entries.ofList state.members) = .ok state := by
  have hn := state.nodup_members
  unfold fields
  refine Fields.named_seq (Fields.named_seq (Fields.named_seq (Fields.named_seq (Fields.named_seq
    (Fields.named_map mk ?_) ?_) ?_) ?_) ?_) ?_
  · exact Fields.named_required hn (by simp [members]) (Placement.ofJson_toJson state.workers)
  · exact Fields.named_required hn (by simp [members]) (Placement.ofJson_toJson state.deploying)
  · exact Fields.named_required hn (by simp [members]) (Placement.ofJson_toJson state.tasks)
  · exact Fields.named_required hn (by simp [members]) (Placement.ofJson_toJson state.expired)
  · exact Fields.named_required hn (by simp [members]) (SortedSet.ofJson_toJson state.responded)
  · exact Fields.named_required hn (by simp [members]) (SortedSet.ofJson_toJson state.failed)

theorem ofJson_toJson (state : Aggregate) : ofJson state.toJson = .ok state := by
  rw [toJson_eq]
  exact Fields.ofMembers_of_named state.named_members

theorem plain_members (state : Aggregate) : ∀ m ∈ state.members, Json.Plain 2 m.2 := by
  simp only [members, List.forall_mem_cons, List.not_mem_nil, false_implies, implies_true, and_true]
  exact ⟨state.workers.plain_toJson, state.deploying.plain_toJson, state.tasks.plain_toJson,
    state.expired.plain_toJson, state.responded.plain_toJson.mono (by decide),
    state.failed.plain_toJson.mono (by decide)⟩

end Aggregate

/-! ### Messages -/

namespace SyncRequest

/-- The name of a request in documents. -/
def kind : SyncRequest → String
  | gather _ => "gather"
  | applyRouting .. => "apply_routing"

/-- The fields of a request, without its name. -/
def payload : SyncRequest → List (String × Json)
  | gather cycle => [("cycle_id", cycle.toJson)]
  | applyRouting cycle push =>
    [("cycle_id", cycle.toJson), ("routing_table", push.routing.toJson),
      ("running_deploy_tasks", push.tasks.toJson), ("expired_model_ids", push.expired.toJson)]

theorem toJson_eq (request : SyncRequest) :
    request.toJson = .object (("kind", .str request.kind) :: request.payload) := by
  cases request <;> rfl

theorem nodup_payload (request : SyncRequest) :
    ((("kind", Json.str request.kind) :: request.payload).map (·.1)).Nodup := by
  cases request <;> simp [payload]

theorem ofJson_toJson (request : SyncRequest) : ofJson request.toJson = .ok request := by
  have hkind := request.nodup_payload
  have hn := (List.nodup_cons.1 hkind).2
  rw [toJson_eq]
  cases request with
  | gather cycle =>
    refine Decode.tagged_of_object hkind rfl rfl (Fields.named_map gather ?_)
    exact Fields.named_required hn (by simp [payload]) (CycleId.ofJson_toJson cycle)
  | applyRouting cycle push =>
    refine Decode.tagged_of_object hkind rfl rfl ?_
    unfold pushFields
    refine Fields.named_seq (Fields.named_seq (Fields.named_seq (Fields.named_map _ ?_) ?_) ?_) ?_
    · exact Fields.named_required hn (by simp [payload]) (CycleId.ofJson_toJson cycle)
    · exact Fields.named_required hn (by simp [payload]) (Placement.ofJson_toJson push.routing)
    · exact Fields.named_required hn (by simp [payload]) (Placement.ofJson_toJson push.tasks)
    · exact Fields.named_required hn (by simp [payload]) (SortedSet.ofJson_toJson push.expired)

theorem plain_toJson (request : SyncRequest) : Json.Plain 3 request.toJson := by
  rw [toJson_eq]
  refine .object (List.forall_mem_cons.2 ⟨.str _, ?_⟩)
  cases request with
  | gather cycle => exact List.forall_mem_singleton.2 (.str _)
  | applyRouting cycle push =>
    simp only [payload, List.forall_mem_cons, List.not_mem_nil, false_implies, implies_true,
      and_true]
    exact ⟨.str _, push.routing.plain_toJson, push.tasks.plain_toJson,
      push.expired.plain_toJson.mono (by decide)⟩

end SyncRequest

namespace SyncResponse

/-- The name of an answer in documents. -/
def kind : SyncResponse → String
  | report _ => "report"
  | applied .. => "applied"

/-- The fields of an answer, without its name; those of a report are the members of its document. -/
def payload : SyncResponse → List (String × Json)
  | report r => r.members
  | applied node undeployed =>
    [("node_id", node.toJson), ("undeployed_model_ids", undeployed.toJson)]

theorem toJson_eq (response : SyncResponse) :
    response.toJson = .object (("kind", .str response.kind) :: response.payload) := by
  cases response <;> rfl

theorem nodup_payload (response : SyncResponse) :
    ((("kind", Json.str response.kind) :: response.payload).map (·.1)).Nodup := by
  cases response <;> simp [payload, NodeReport.members]

theorem ofJson_toJson (response : SyncResponse) : ofJson response.toJson = .ok response := by
  have hkind := response.nodup_payload
  have hn := (List.nodup_cons.1 hkind).2
  rw [toJson_eq]
  cases response with
  | report r =>
    refine Decode.tagged_of_object hkind rfl rfl (Fields.named_map report ?_)
    rw [payload]
    exact r.named_members
  | applied node undeployed =>
    refine Decode.tagged_of_object hkind rfl rfl (Fields.named_seq (Fields.named_map applied ?_) ?_)
    · exact Fields.named_required hn (by simp [payload]) (Name.ofJson_toJson node)
    · exact Fields.named_required hn (by simp [payload]) (SortedSet.ofJson_toJson undeployed)

theorem plain_toJson (response : SyncResponse) : Json.Plain 2 response.toJson := by
  rw [toJson_eq]
  refine .object (List.forall_mem_cons.2 ⟨.str _, ?_⟩)
  cases response with
  | report r => exact r.plain_members
  | applied node undeployed =>
    simp only [payload, List.forall_mem_cons, List.not_mem_nil, false_implies, implies_true,
      and_true]
    exact ⟨.str _, undeployed.plain_toJson⟩

end SyncResponse

/-! ### Events -/

namespace SyncEvent

theorem nullable_of_optionalText {kind : Kind} (name : Option (Name kind)) :
    Decode.nullable Name.ofJson (.optionalText (name.map (·.text))) = .ok name := by
  cases name <;> rfl

theorem ofJson_toJson (event : SyncEvent) : ofJson event.toJson = .ok event := by
  unfold ofJson
  cases event with
  | cycleStarted => exact Decode.choice_of_name rfl rfl
  | cycleSkipped reason =>
    rw [toJson, tagged]
    refine Decode.choice_of_object rfl rfl (Fields.named_map cycleSkipped ?_)
    exact Fields.named_required (by simp) (by simp) (Decode.text_of_str _)
  | cycleAborted reason =>
    rw [toJson, tagged]
    refine Decode.choice_of_object rfl rfl (Fields.named_map cycleAborted ?_)
    exact Fields.named_required (by simp) (by simp) (Decode.text_of_str _)
  | cycleCompleted scanned corrected durationMillis =>
    rw [toJson, tagged]
    refine Decode.choice_of_object rfl rfl (Fields.named_seq (Fields.named_seq
      (Fields.named_map cycleCompleted ?_) ?_) ?_)
    · exact Fields.named_required (by simp) (by simp) (Decode.size_of_toNat scanned)
    · exact Fields.named_required (by simp) (by simp) (Decode.size_of_toNat corrected)
    · exact Fields.named_required (by simp) (by simp) (Decode.count64_of_toNat durationMillis)
  | nodeUnreachable node reason =>
    rw [toJson, tagged]
    refine Decode.choice_of_object rfl rfl (Fields.named_seq (Fields.named_map nodeUnreachable ?_)
      ?_)
    · exact Fields.named_required (by simp) (by simp) (Name.ofJson_toJson node)
    · exact Fields.named_required (by simp) (by simp) (Decode.text_of_str _)
  | expiredModelsUndeployed node models =>
    rw [toJson, tagged]
    refine Decode.choice_of_object rfl rfl (Fields.named_seq
      (Fields.named_map expiredModelsUndeployed ?_) ?_)
    · exact Fields.named_required (by simp) (by simp) (Name.ofJson_toJson node)
    · exact Fields.named_required (by simp) (by simp)
        (Decode.list_of_items Name.ofJson_toJson models)
  | modelStateCorrected model fromState toState fromCount toCount =>
    rw [toJson, tagged]
    refine Decode.choice_of_object rfl rfl (Fields.named_seq (Fields.named_seq (Fields.named_seq
      (Fields.named_seq (Fields.named_map modelStateCorrected ?_) ?_) ?_) ?_) ?_)
    · exact Fields.named_required (by simp) (by simp) (Name.ofJson_toJson model)
    · exact Fields.named_required (by simp) (by simp) (Document.ofJson_toJson fromState)
    · exact Fields.named_required (by simp) (by simp) (Document.ofJson_toJson toState)
    · exact Fields.named_required (by simp) (by simp) (Decode.count32_of_toNat fromCount)
    · exact Fields.named_required (by simp) (by simp) (Decode.count32_of_toNat toCount)
  | bulkWriteFailed model reason =>
    rw [toJson, tagged]
    refine Decode.choice_of_object rfl rfl (Fields.named_seq (Fields.named_map bulkWriteFailed ?_)
      ?_)
    · exact Fields.named_nullable (by simp) (by simp) (nullable_of_optionalText model)
    · exact Fields.named_required (by simp) (by simp) (Decode.text_of_str _)
  | masterKeyCreated fingerprint =>
    rw [toJson, tagged]
    refine Decode.choice_of_object rfl rfl (Fields.named_map masterKeyCreated ?_)
    exact Fields.named_required (by simp) (by simp) (Decode.text_of_str _)
  | masterKeyAdopted fingerprint =>
    rw [toJson, tagged]
    refine Decode.choice_of_object rfl rfl (Fields.named_map masterKeyAdopted ?_)
    exact Fields.named_required (by simp) (by simp) (Decode.text_of_str _)

theorem plain_tagged (name : String) {members : List (String × Json)}
    (h : ∀ m ∈ members, Json.Plain 1 m.2) : Json.Plain 3 (tagged name members) :=
  .object (List.forall_mem_singleton.2 (.object h))

theorem plain_toJson (event : SyncEvent) : Json.Plain 3 event.toJson := by
  cases event with
  | cycleStarted => exact .str _
  | cycleSkipped | cycleAborted | masterKeyCreated | masterKeyAdopted =>
    exact plain_tagged _ (List.forall_mem_singleton.2 (.str _))
  | cycleCompleted scanned corrected durationMillis =>
    refine plain_tagged _ ?_
    simp only [List.forall_mem_cons, List.not_mem_nil, false_implies, implies_true, and_true]
    exact ⟨.nat scanned.toNat_lt, .nat corrected.toNat_lt, .nat durationMillis.toNat_lt⟩
  | nodeUnreachable node reason =>
    exact plain_tagged _ (List.forall_mem_cons.2 ⟨.str _, List.forall_mem_singleton.2 (.str _)⟩)
  | expiredModelsUndeployed node models =>
    have hmodels : Json.Plain 1 (.arr (models.map Name.toJson)) :=
      .arr (List.forall_mem_map.2 fun model _ => .str model.text)
    exact plain_tagged _ (List.forall_mem_cons.2 ⟨.str _, List.forall_mem_singleton.2 hmodels⟩)
  | modelStateCorrected model fromState toState fromCount toCount =>
    have hcount (n : UInt32) : Json.Plain 1 (.int n.toNat) :=
      .nat (Nat.lt_trans n.toNat_lt (by decide))
    refine plain_tagged _ ?_
    simp only [List.forall_mem_cons, List.not_mem_nil, false_implies, implies_true, and_true]
    exact ⟨.str _, .str _, .str _, hcount fromCount, hcount toCount⟩
  | bulkWriteFailed model reason =>
    have hmodel : Json.Plain 1 (.optionalText (model.map (·.text))) := by
      cases model with
      | none => exact .null
      | some model => exact .str model.text
    exact plain_tagged _ (List.forall_mem_cons.2 ⟨hmodel, List.forall_mem_singleton.2 (.str _)⟩)

end SyncEvent

/-! ### The wire -/

/-- **Whether values are read back as they were written**, and no two are written alike, be it in
documents or in texts. -/
structure Json.Faithful {α : Type} (write : α → Json) (read : Decoder α) : Prop where
  read_write : ∀ a, read (write a) = .ok a
  injective : ∀ a b, write a = write b → a = b
  isText_render : ∀ a, Json.IsText (write a).render (write a)
  read_text : ∀ a text, Json.IsText text (write a) →
    (Json.read text).toOption.map read = some (.ok a)
  text_injective : ∀ a b text, Json.IsText text (write a) → Json.IsText text (write b) → a = b

theorem Json.faithful_of_plain {α : Type} {write : α → Json} {read : Decoder α} {depth : Nat}
    (h : ∀ a, read (write a) = .ok a) (hp : ∀ a, Json.Plain depth (write a))
    (hd : depth ≤ Json.maxDepth) : Json.Faithful write read := by
  have hinjective (a b : α) (hab : write a = write b) : a = b := by
    have hb := h b
    rw [← hab, h a] at hb
    exact Except.ok.inj hb
  refine ⟨h, hinjective, fun a => Json.isText_render (hp a) hd, fun a text ht => ?_,
    fun a b text ha hb => ?_⟩
  · rw [Json.read_of_isText ht]
    exact congrArg some (h a)
  · have hread := Json.read_of_isText ha
    rw [Json.read_of_isText hb] at hread
    exact hinjective a b (Except.ok.inj hread).symm

/-- Whether a document has all members of another one, and beside them a name under a tag that the
other one does not have. -/
structure Json.Tagged (tag name : String) (payload document : Json) : Prop where
  name : document.get? tag = some (.str name)
  apart : payload.get? tag = none
  rest : ∀ key, key ≠ tag → document.get? key = payload.get? key

theorem Json.tagged_of_nodup {tag name : String} {payload : List (String × Json)}
    (h : (((tag, Json.str name) :: payload).map (·.1)).Nodup) :
    Json.Tagged tag name (.object payload) (.object ((tag, .str name) :: payload)) := by
  obtain ⟨hne, hn⟩ := List.nodup_cons.1 h
  have hpayload (key : String) : (Json.object payload).get? key = Entries.get? key payload :=
    Entries.get?_ofList hn key
  have hdocument (key : String) : (Json.object ((tag, .str name) :: payload)).get? key =
      Entries.get? key ((tag, .str name) :: payload) := Entries.get?_ofList h key
  refine ⟨?_, ?_, fun key hk => ?_⟩
  · rw [hdocument, Entries.get?_cons, if_pos rfl]
  · rw [hpayload, Entries.get?_eq_none hne]
  · rw [hdocument, hpayload, Entries.get?_cons, if_neg hk]

/-- **What nodes and watchers are sent is read back as it was written**, whatever it holds; the name
of a request or an answer stands beside its fields, and beside those of a report that is sent as an
answer. -/
theorem wire_faithful :
    Json.Faithful SyncRequest.toJson SyncRequest.ofJson ∧
    Json.Faithful SyncResponse.toJson SyncResponse.ofJson ∧
    Json.Faithful NodeReport.toJson NodeReport.ofJson ∧
    Json.Faithful Aggregate.toJson Aggregate.ofJson ∧
    Json.Faithful SyncEvent.toJson SyncEvent.ofJson ∧
    (∀ request : SyncRequest,
      Json.Tagged "kind" request.kind (.object request.payload) request.toJson) ∧
    (∀ response : SyncResponse,
      Json.Tagged "kind" response.kind (.object response.payload) response.toJson) ∧
    ∀ report : NodeReport,
      Json.Tagged "kind" "report" report.toJson (SyncResponse.report report).toJson :=
  ⟨Json.faithful_of_plain SyncRequest.ofJson_toJson SyncRequest.plain_toJson (by decide),
    Json.faithful_of_plain SyncResponse.ofJson_toJson SyncResponse.plain_toJson (by decide),
    Json.faithful_of_plain NodeReport.ofJson_toJson (fun r => .object r.plain_members) (by decide),
    Json.faithful_of_plain Aggregate.ofJson_toJson (fun s => .object s.plain_members) (by decide),
    Json.faithful_of_plain SyncEvent.ofJson_toJson SyncEvent.plain_toJson (by decide),
    fun request => request.toJson_eq ▸ Json.tagged_of_nodup request.nodup_payload,
    fun response => response.toJson_eq ▸ Json.tagged_of_nodup response.nodup_payload,
    fun report => Json.tagged_of_nodup (SyncResponse.report report).nodup_payload⟩

end ModelFleet
