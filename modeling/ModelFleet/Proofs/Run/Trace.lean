import ModelFleet.Proofs.Run.Trail

/-!
# Cycles that meet with failures

A `Trace` is a run of a job with all its requests and replies.  A cycle ends whatever fails
(`Cycle.exists_trace`), and a trace leaves the documents of a collection as they are unless one of
its requests writes there (`Trace.documents_eq`).
-/

namespace ModelFleet

/-- Whether a request may write documents of a collection. -/
def Request.Writes (collection : String) : Request → Prop
  | .create c _ _ => c = collection
  | .update .. => True
  | _ => False

theorem Request.isUpdate_eq_false {collection : String} {q : Request} (h : ¬ q.Writes collection) :
    q.isUpdate = false := by
  cases q with
  | update => exact absurd trivial h
  | _ => rfl

namespace Outside

variable {σ α γ : Type} {out : Outside γ} {job : Job σ α}

/-- A run of a job with its requests and their replies. -/
inductive Trace (out : Outside γ) (job : Job σ α) :
    Moment σ α γ → List Exchange → Moment σ α γ → Prop
  | nil (m : Moment σ α γ) : Trace out job m [] m
  | cons {state : σ} {s : State γ} {d : Daemon} {trail : List Exchange} {m : Moment σ α γ}
      (h : Trace out job (out.step job ⟨.wait state, s, d⟩) trail m) :
      Trace out job ⟨.wait state, s, d⟩
        (⟨job.request state, (out.answer (job.request state) s).2⟩ :: trail) m

namespace Trace

variable {m m' : Moment σ α γ} {trail : List Exchange}

/-- A trace is a run, of which there is one only. -/
theorem leads (h : Trace out job m trail m') : Leads out job m m' := by
  induction h with
  | nil => exact .refl _
  | cons _ ih => exact .step ih

theorem course (h : Trace out job m trail m') {start : Next σ α} {before : List Exchange}
    (hb : job.Course start before m.next) : job.Course start (before ++ trail) m'.next := by
  induction h generalizing before with
  | nil =>
    rw [List.append_nil]
    exact hb
  | cons h ih =>
    have := ih (hb.step _ _)
    rwa [List.append_assoc] at this

/-- Every request of a trace was made at a moment of the run. -/
theorem exists_moment {front back : List Exchange} {x : Exchange}
    (h : Trace out job m (front ++ x :: back) m') :
    ∃ state s d, Trace out job m front ⟨.wait state, s, d⟩ ∧
      Trace out job (out.step job ⟨.wait state, s, d⟩) back m' ∧
      x = ⟨job.request state, (out.answer (job.request state) s).2⟩ := by
  induction front generalizing m with
  | nil =>
    cases h with
    | cons h => exact ⟨_, _, _, .nil _, h, rfl⟩
  | cons y front ih =>
    cases h with
    | cons h =>
      obtain ⟨state, s, d, hf, hb, hx⟩ := ih h
      exact ⟨state, s, d, .cons hf, hb, hx⟩

end Trace

/-! ### The documents of a collection -/

/-- Others leave the documents of a collection alone. -/
def Spared (out : Outside γ) (collection : String) : Prop :=
  ∀ n store, (out.meanwhile n store).collections.get? collection =
    store.collections.get? collection

variable {collection : String} {s : State γ}

theorem get?_put_of_ne {store : MemoryStore} {other id : String} {source : Json}
    (h : other ≠ collection) :
    (store.put other id source).collections.get? collection =
      store.collections.get? collection := by
  rw [MemoryStore.put, MemoryStore.setDocuments, SortedMap.get?_insert, if_neg h.symm]

/-- A request that does not write to a collection leaves its documents as they are. -/
theorem answer_of_not_writes (hs : out.Spared collection) {q : Request}
    (hq : ¬ q.Writes collection) :
    (out.answer q s).1.store.collections.get? collection =
      s.store.collections.get? collection := by
  rw [← hs s.asked.length s.store]
  cases q with
  | create c id source =>
    rcases out.answer_create_cases c id source s with ⟨-, -, he⟩ | ⟨e, -, he⟩
    · rw [he]
      exact get?_put_of_ne hq
    · rw [he]
  | update => exact absurd trivial hq
  | _ => rfl

/-- A bulk update that is refused as a whole leaves all documents as they are. -/
theorem answer_of_refused (hs : out.Spared collection) {other : String} {items : List BulkItem}
    {e : StoreError} (hr : (out.answer (.update other items) s).2 = .error e) :
    (out.answer (.update other items) s).1.store.collections.get? collection =
      s.store.collections.get? collection := by
  rw [← hs s.asked.length s.store]
  generalize hf : out.fate s.asked.length (.update other items) = fate
  generalize hm : out.meanwhile s.asked.length s.store = store
  have ha : out.answer (.update other items) s =
      ({ s with
          store := (fate.guard (·.bulkUpdate other items) store).1
          asked := s.asked ++ [.update other items] },
        (fate.guard (·.bulkUpdate other items) store).2) := by
    rw [answer, hf, hm]
  rw [ha] at hr ⊢
  simp only at hr ⊢
  rcases fate.guard_cases (·.bulkUpdate other items) store with ⟨_, -, hg⟩ | hg
  · rw [hg]
  · rw [hg] at hr ⊢
    unfold MemoryStore.bulkUpdate at hr ⊢
    cases hd : store.collections.get? other with
    | none => rfl
    | some documents =>
      rw [hd] at hr
      cases hr

theorem eq_of_exchange {q q' : Request} {reply : q'.Reply}
    (h : (⟨q, (out.answer q s).2⟩ : Exchange) = ⟨q', reply⟩) :
    q = q' ∧ reply = (out.answer q' s).2 := by
  cases h
  exact ⟨rfl, rfl⟩

/-- A search fails, or finds what is there. -/
theorem answer_search_cases (out : Outside γ) (collection : String) (query : Query)
    (page : PageRequest) (s : State γ) :
    (∃ e, (out.answer (.search collection query page) s).2 = .error e) ∨
      ∃ documents,
        (out.meanwhile s.asked.length s.store).collections.get? collection = some documents ∧
        (out.answer (.search collection query page) s).2 =
          .ok (MemoryStore.pageOf documents query page) := by
  let act (m : MemoryStore) := (m, m.search collection query page)
  let store := out.meanwhile s.asked.length s.store
  let fate := out.fate s.asked.length (.search collection query page)
  show (∃ e, (fate.guard act store).2 = .error e) ∨ ∃ documents,
    store.collections.get? collection = some documents ∧ (fate.guard act store).2 = _
  rcases fate.guard_cases act store with ⟨e, -, hg⟩ | hg
  · exact .inl ⟨e, by rw [hg]⟩
  · rw [hg]
    cases hd : store.collections.get? collection with
    | none => exact .inl ⟨.noCollection collection, by simp only [act, MemoryStore.search, hd]⟩
    | some documents => exact .inr ⟨documents, rfl, by simp only [act, MemoryStore.search, hd]⟩

/-- **A run that does not write to a collection leaves its documents as they are.** -/
theorem Trace.documents_eq {m m' : Moment σ α γ} {trail : List Exchange}
    (h : Trace out job m trail m') (hs : out.Spared collection)
    (hw : ∀ x ∈ trail, ¬ x.request.Writes collection) :
    m'.outside.store.collections.get? collection =
      m.outside.store.collections.get? collection := by
  induction h with
  | nil => rfl
  | cons h ih =>
    rw [ih fun x hx => hw x (List.mem_cons_of_mem _ hx)]
    exact answer_of_not_writes hs (hw _ (List.mem_cons_self ..))

end Outside

/-! ### Every cycle ends -/

namespace Cycle

open Outside MemoryStore

variable {γ : Type} {out : Outside γ} {settings : SyncSettings} {documents : Option Collection}

/-- How many documents come after a cursor. -/
def remaining (documents : Option Collection) (cursor : Cursor) : Nat :=
  (matchesAfter (documents.getD ∅) Scan.query (Scan.page 0 cursor).after).length

/-- How many requests come after the one that a cycle waits for, at the most, if these are the
documents that it is to read. -/
def requestsLeft (documents : Option Collection) (cycle : Cycle) : Nat :=
  match cycle.stage with
  | .bootstrapping b => remaining documents .start + 7 + b.stepsLeft
  | .probing => remaining documents .start + 6
  | .gathering .listing => remaining documents .start + 5
  | .gathering (.asking _) => remaining documents .start + 4
  | .routing _ => remaining documents .start + 3
  | .scanning _ cursor _ => remaining documents cursor + 2
  | .writing .. => 1
  | .filing => 0

/-- A page is followed by another one only if it brings something. -/
theorem remaining_lt {s : State γ} {cursor cursor' : Cursor}
    (hd : (out.meanwhile s.asked.length s.store).collections.get? settings.modelCollection =
      documents)
    (hn : (Scan.read (out.answer
      (Scan.request settings.modelCollection settings.pageSize cursor) s).2).2 = some cursor') :
    remaining documents cursor' < remaining documents cursor := by
  have hroom : 0 < (Scan.page settings.pageSize cursor).size :=
    Nat.lt_of_lt_of_le Nat.one_pos (Nat.le_max_right _ _)
  rcases out.answer_search_cases settings.modelCollection Scan.query
    (Scan.page settings.pageSize cursor) s with ⟨e, he⟩ | ⟨documents, hs, he⟩
  · change (Scan.read (out.answer (.search ..) s).2).2 = _ at hn
    rw [he] at hn
    cases e <;> cases hn
  · obtain rfl := hd.symm.trans hs
    change (Scan.read (out.answer (.search ..) s).2).2 = _ at hn
    rw [he] at hn
    rcases pageOf_cases documents Scan.query hroom with hpage | ⟨hits, last, hpage, hne, hleft⟩
    · rw [hpage] at hn
      cases hn
    · rw [hpage] at hn
      cases hn
      have hpos := List.length_pos_iff.2 hne
      show (matchesAfter documents Scan.query (some last)).length <
        (matchesAfter documents Scan.query (Scan.page settings.pageSize cursor).after).length
      rw [hleft, List.length_append]
      omega

/-- **A step of a cycle brings it closer to its end.** -/
theorem Advance.requestsLeft_lt {cycle cycle' : Cycle} {x : Exchange} {d : Daemon} {gate : Gate}
    (h : Advance settings d cycle x (.wait cycle') gate)
    (hx : ∀ cursor reply cursor', x = paged settings cursor reply →
      (Scan.read reply).2 = some cursor' →
        remaining documents cursor' < remaining documents cursor) :
    cycle'.requestsLeft documents < cycle.requestsLeft documents := by
  cases h with
  | @seeks report b b' reply hn =>
    have hlt := (Bootstrap.resume_outcome b reply d)
    generalize hp : (b.resume settings.configCollection settings.masterKeyId reply).run d = p at *
    obtain ⟨next, d'⟩ := p
    obtain rfl : next = .wait b' := hn
    exact Nat.add_lt_add_left hlt.stepsLeft_lt _
  | turns reply _ hn => exact Nat.add_lt_add_right (hx _ _ _ rfl hn) _
  | _ => simp [requestsLeft]; try omega

/-- A cycle that does not write its corrections writes no document of a model. -/
theorem not_writes (hc : settings.configCollection ≠ settings.modelCollection) {cycle : Cycle}
    (h : ∀ refresh write, cycle.stage ≠ .writing refresh write) :
    ¬ (cycle.request settings).Writes settings.modelCollection := by
  obtain ⟨report, stage⟩ := cycle
  cases stage with
  | bootstrapping b =>
    cases b with
    | creating => exact hc
    | _ => exact fun h => h
  | gathering g => cases g <;> exact fun h => h
  | writing refresh write => exact absurd rfl (h refresh write)
  | _ => exact fun h => h

theorem not_writing_of_requestsLeft {cycle : Cycle} (h : 1 < cycle.requestsLeft documents)
    (refresh : Refresh) (write : Write) : cycle.stage ≠ .writing refresh write := by
  intro hs
  simp [requestsLeft, hs] at h

theorem requestsLeft_of_search {cycle : Cycle} {collection : String} {query : Query}
    {page : PageRequest} (h : cycle.request settings = .search collection query page) :
    1 < cycle.requestsLeft documents := by
  obtain ⟨report, stage⟩ := cycle
  cases stage with
  | bootstrapping b => cases b <;> cases h
  | gathering g => cases g <;> cases h
  | scanning => simp [requestsLeft]
  | _ => cases h

/-- **Every cycle ends**, whatever fails, if others leave the documents alone that it reads. -/
theorem exists_trace (hc : settings.configCollection ≠ settings.modelCollection)
    (hs : out.Spared settings.modelCollection) (cycle : Cycle) (s : State γ) (d : Daemon) :
    ∃ trail report s' d',
      Trace out (job settings) ⟨.wait cycle, s, d⟩ trail (.ended report s' d') := by
  generalize hd : s.store.collections.get? settings.modelCollection = documents
  -- once the cycle writes, the documents no longer count
  replace hd : 1 < cycle.requestsLeft documents →
    s.store.collections.get? settings.modelCollection = documents := fun _ => hd
  induction hn : cycle.requestsLeft documents using Nat.strongRecOn generalizing cycle s d with
  | _ n ih =>
    let s₁ := (out.answer (cycle.request settings) s).1
    have ha := advance cycle (out.answer (cycle.request settings) s).2
      { d with clock := out.time s.asked.length }
    have hstep : out.step (job settings) ⟨.wait cycle, s, d⟩ =
        .after ((cycle.resume settings (out.answer (cycle.request settings) s).2).run
          { d with clock := out.time s.asked.length }) s₁ := rfl
    generalize (cycle.resume settings (out.answer (cycle.request settings) s).2).run _ = p at *
    obtain ⟨cycle₁ | report, d₁⟩ := p
    · have hlt : cycle₁.requestsLeft documents < cycle.requestsLeft documents := by
        refine ha.requestsLeft_lt fun cursor reply cursor' hx hnext => ?_
        obtain ⟨hq, rfl⟩ := eq_of_exchange hx
        refine remaining_lt ?_ hnext
        rw [hs, hd (requestsLeft_of_search hq)]
      have hd₁ : 1 < cycle₁.requestsLeft documents →
          s₁.store.collections.get? settings.modelCollection = documents := by
        intro h
        rw [answer_of_not_writes hs
          (not_writes hc (not_writing_of_requestsLeft (Nat.lt_trans h hlt)))]
        exact hd (Nat.lt_trans h hlt)
      obtain ⟨trail, report, s', d', h⟩ := ih _ (hn ▸ hlt) cycle₁ s₁ d₁ hd₁ rfl
      have hnext : Trace out (job settings) (out.step (job settings) ⟨.wait cycle, s, d⟩) trail
          (.ended report s' d') := by
        rw [hstep]
        exact h
      exact ⟨_, report, s', d', .cons hnext⟩
    · have hnext : Trace out (job settings) (out.step (job settings) ⟨.wait cycle, s, d⟩) []
          (.ended report s₁ d₁) := by
        rw [hstep]
        exact .nil _
      exact ⟨_, report, s₁, d₁, .cons hnext⟩

end Cycle

end ModelFleet
