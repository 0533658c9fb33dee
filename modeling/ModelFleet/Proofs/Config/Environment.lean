import ModelFleet.Proofs.Config.Sections
import ModelFleet.Proofs.Config.Texts

/-!
# Settings from the environment

A variable of the environment sets one setting of a part, and of several variables that set it the
last one counts (`spoken`).  Variables that set texts never spoil anything: settings that can be
loaded without them can be loaded with them (`exists_toSettings`).  What becomes of the texts is
said by `load_texts`.  A text of the environment is taken over, but written again if it was taken
for a truth value or a number; the others are those that the file gives by itself, or the defaults.
Only a part that the file writes as a list is given up as a whole when the environment sets one of
its settings.
-/

namespace ModelFleet.Config

/-! ### Variables -/

/-- The path of what a variable sets, if it is a setting. -/
def variablePath (name : String) : Option Path :=
  (Tree.ofVariable name "").map fun entry => Path.ofKey entry.1

/-- Whether a variable sets a setting of a part. -/
def Sets (part key name : String) : Prop := variablePath name = some ⟨part, [.member key]⟩

instance (part key name : String) : Decidable (Sets part key name) :=
  inferInstanceAs (Decidable (_ = _))

/-- Whether a variable sets anything in a part. -/
def Enters (part name : String) : Prop := (variablePath name).map Path.first = some part

instance (part name : String) : Decidable (Enters part name) :=
  inferInstanceAs (Decidable (_ = _))

/-- What the environment says about a setting of a part: the value of the last variable that sets
it. -/
def spoken (part key : String) (environment : List (String × String)) : Option String :=
  (environment.filter fun entry => Sets part key entry.1).getLast?.map (·.2)

/-- Whether a path leads to a setting of a part and not to the part or into a setting. -/
def Path.isSetting (path : Path) : Bool :=
  match path.rest with
  | [.member _] => true
  | _ => false

/-- Every variable that enters a part sets one setting of it. -/
def Proper (environment : List (String × String)) : Prop :=
  ∀ entry ∈ environment, ∀ path ∈ variablePath entry.1,
    (∃ part ∈ sections, part.key = path.first) → path.isSetting = true

instance (environment : List (String × String)) : Decidable (Proper environment) :=
  inferInstanceAs (Decidable (∀ _ ∈ _, ∀ _ ∈ _, _ → _))

/-- What the variables of the environment say. -/
def Tree.ofEnvironment (environment : List (String × String)) : List (String × Tree) :=
  environment.filterMap fun (name, value) => ofVariable name value

section

variable {environment : List (String × String)}

theorem Sets.enters {part key name : String} (h : Sets part key name) : Enters part name := by
  rw [Enters, h]
  rfl

theorem spoken_concat (part key : String) (environment : List (String × String))
    (entry : String × String) :
    spoken part key (environment ++ [entry]) =
      if Sets part key entry.1 then some entry.2 else spoken part key environment := by
  rw [spoken, List.filter_append, List.filter_singleton]
  by_cases h : Sets part key entry.1
  · simp [h]
  · simp [h, spoken]

theorem exists_sets_of_spoken {part key s : String} (h : spoken part key environment = some s) :
    ∃ entry ∈ environment, Sets part key entry.1 := by
  obtain ⟨entry, hlast, -⟩ := Option.map_eq_some_iff.1 h
  obtain ⟨hentry, hsets⟩ := List.mem_filter.1 (List.mem_of_getLast? hlast)
  exact ⟨entry, hentry, of_decide_eq_true hsets⟩

theorem Proper.left {later : List (String × String)} (h : Proper (environment ++ later)) :
    Proper environment := fun entry hentry => h entry (List.mem_append_left _ hentry)

/-- What the variables of the environment do to a part. -/
theorem reaching_ofEnvironment (part : String) (environment : List (String × String)) :
    Tree.reaching part (Tree.ofEnvironment environment) = environment.filterMap fun entry =>
      (variablePath entry.1).bind fun path =>
        if path.first = part then some (path.rest, .leaf .environment (Tree.ofText entry.2))
        else none := by
  have hvariable : ∀ name value, Tree.ofVariable name value = (Tree.ofVariable name "").map
      fun entry => (entry.1, .leaf .environment (Tree.ofText value)) := by
    intro name value
    rw [Tree.ofVariable, Tree.ofVariable]
    split
    · rw [Option.map_some]
    · rfl
  rw [Tree.reaching, Tree.ofEnvironment, List.filterMap_filterMap]
  refine congrArg (List.filterMap · environment) (funext fun entry => ?_)
  show (Tree.ofVariable entry.1 entry.2).bind _ = _
  rw [hvariable, variablePath]
  cases Tree.ofVariable entry.1 "" <;> rfl

/-- A part as it was before the environment, and as the environment leaves it. -/
structure Revised (part : String) (environment : List (String × String)) (before after : Tree) :
    Prop where
  untouched : (∀ entry ∈ environment, ¬ Enters part entry.1) → after = before
  table : (∃ entry ∈ environment, Enters part entry.1) → after = .table after.origin after.members
  get? : ∀ key, after.get? key = ((spoken part key environment).map fun s =>
    .leaf .environment (Tree.ofText s)).or (before.get? key)

/-- A variable that does not enter a part leaves it as it is. -/
theorem Revised.pass {part : String} {entry : String × String} {before after : Tree}
    (h : Revised part environment before after) (he : ¬ Enters part entry.1) :
    Revised part (environment ++ [entry]) before after where
  untouched hall := h.untouched fun entry hentry => hall entry (List.mem_append_left _ hentry)
  table := by
    rintro ⟨other, hother, henters⟩
    rcases List.mem_append.1 hother with hother | hother
    · exact h.table ⟨other, hother, henters⟩
    · obtain rfl := List.mem_singleton.1 hother
      exact absurd henters he
  get? key := by
    have hsets : ¬ Sets part key entry.1 := fun hs => he hs.enters
    rw [spoken_concat, if_neg hsets]
    exact h.get? key

/-- A variable that sets a setting makes a table of the part. -/
theorem Revised.set {part name : String} {entry : String × String} {before after : Tree}
    (h : Revised part environment before after) (hs : Sets part name entry.1) :
    Revised part (environment ++ [entry]) before
      (Tree.put (.leaf .environment (Tree.ofText entry.2)) [.member name] after) where
  untouched hall :=
    absurd hs.enters (hall entry (List.mem_append_right _ (List.mem_singleton_self _)))
  table _ := by
    rw [Tree.put_member]
    rfl
  get? key := by
    have hsets : Sets part key entry.1 ↔ key = name := by
      rw [Sets, hs]
      simp [eq_comm]
    rw [Tree.get?_put_member, spoken_concat]
    by_cases hkey : key = name
    · rw [if_pos hkey, if_pos (hsets.2 hkey)]
      rfl
    · rw [if_neg hkey, if_neg (mt hsets.1 hkey)]
      exact h.get? key

/-- The environment leaves a part as its last words about each setting say. -/
theorem exists_revised {part : Section} (hp : part ∈ sections) (h : Proper environment)
    (before : Tree) :
    ∃ after, Tree.lay (some before) (Tree.reaching part.key (Tree.ofEnvironment environment)) =
      some after ∧ Revised part.key environment before after := by
  rw [reaching_ofEnvironment]
  -- From the end of the environment, since the last variable that sets a setting counts.
  induction environment using List.reverseRecOn with
  | nil => exact ⟨before, rfl, fun _ => rfl, nofun, fun _ => rfl⟩
  | append_singleton environment entry ih =>
    obtain ⟨after, hafter, hrevised⟩ := ih h.left
    rw [List.filterMap_append, Tree.lay_append, hafter, List.filterMap_cons, List.filterMap_nil]
    cases hpath : variablePath entry.1 with
    | none =>
      refine ⟨after, rfl, hrevised.pass ?_⟩
      rw [Enters, hpath]
      nofun
    | some path =>
      dsimp only [Option.bind_some]
      by_cases hfirst : path.first = part.key
      · have hsetting : path.isSetting = true :=
          h entry (List.mem_append_right _ (List.mem_singleton_self _)) path hpath
            ⟨part, hp, hfirst.symm⟩
        obtain ⟨name, hrest⟩ : ∃ name, path.rest = [.member name] := by
          rw [Path.isSetting] at hsetting
          split at hsetting
          · next name hrest => exact ⟨name, hrest⟩
          · cases hsetting
        have hsets : Sets part.key name entry.1 := by
          rw [Sets, hpath, ← hfirst, ← hrest]
        rw [if_pos hfirst, hrest]
        exact ⟨_, rfl, hrevised.set hsets⟩
      · rw [if_neg hfirst]
        refine ⟨after, rfl, hrevised.pass fun henters => hfirst ?_⟩
        rw [Enters, hpath] at henters
        exact Option.some.inj henters

end

/-! ### Texts and other settings -/

namespace TextSetting

/-- All settings that are texts. -/
def all : List TextSetting := [modelCollection, configCollection, masterKeyId, node, level]

theorem mem_all (t : TextSetting) : t ∈ all := by
  cases t <;> decide

theorem part_mem (t : TextSetting) : t.part ∈ sections := by
  rw [sections_eq]
  cases t <;> simp [part]

theorem lookup_of_part (t : TextSetting) {part : Section} (hp : part ∈ sections)
    (h : t.part.key = part.key) : part.fields.lookup t.key = some .text := by
  have hall : ∀ part ∈ sections, ∀ t ∈ all, t.part.key = part.key →
      part.fields.lookup t.key = some .text := by decide
  exact hall part hp t t.mem_all h

/-- The name of the variable of a setting. -/
def name : TextSetting → String
  | modelCollection => "MODELSYNC_SYNC__MODEL_COLLECTION"
  | configCollection => "MODELSYNC_SYNC__CONFIG_COLLECTION"
  | masterKeyId => "MODELSYNC_SYNC__MASTER_KEY_ID"
  | node => "MODELSYNC_CLUSTER__NODE_ID"
  | level => "MODELSYNC_LOGGING__LEVEL"

theorem sets_name (t : TextSetting) : Sets t.part.key t.key t.name := by
  cases t <;> decide +kernel

/-- The variable of the name says what the setting is, if no other one says something else. -/
theorem spoken_of_mem (t : TextSetting) {environment : List (String × String)} {s : String}
    (h : (t.name, s) ∈ environment)
    (hone : ∀ entry ∈ environment, Sets t.part.key t.key entry.1 → entry.2 = s) :
    spoken t.part.key t.key environment = some s := by
  have hmem : (t.name, s) ∈ environment.filter fun entry => Sets t.part.key t.key entry.1 :=
    List.mem_filter.2 ⟨h, decide_eq_true t.sets_name⟩
  rw [spoken]
  cases hlast : (environment.filter fun entry => Sets t.part.key t.key entry.1).getLast? with
  | none =>
    rw [List.getLast?_eq_none_iff] at hlast
    exact absurd (hlast ▸ hmem) List.not_mem_nil
  | some last =>
    obtain ⟨hentry, hsets⟩ := List.mem_filter.1 (List.mem_of_getLast? hlast)
    rw [Option.map_some, hone last hentry (of_decide_eq_true hsets)]

end TextSetting

/-- The variables that set no text. -/
def others (environment : List (String × String)) : List (String × String) :=
  environment.filter fun entry => ∀ t ∈ TextSetting.all, ¬ Sets t.part.key t.key entry.1

section

variable {environment : List (String × String)}

/-- Variables that all set texts are proper, and besides them there are none. -/
theorem proper_of_texts
    (h : ∀ entry ∈ environment, ∃ t : TextSetting, Sets t.part.key t.key entry.1) :
    Proper environment ∧ others environment = [] := by
  constructor
  · intro entry hentry path hpath _
    obtain ⟨t, ht⟩ := h entry hentry
    cases ht.symm.trans hpath
    rfl
  · refine List.filter_eq_nil_iff.2 fun entry hentry hnone => ?_
    obtain ⟨t, ht⟩ := h entry hentry
    exact of_decide_eq_true hnone t t.mem_all ht

theorem Proper.others (h : Proper environment) : Proper (others environment) :=
  fun entry hentry => h entry (List.mem_of_mem_filter hentry)

/-- What is said about settings that are no texts is said by the other variables. -/
theorem spoken_others {part key : String} (h : ∀ t : TextSetting, t.part.key = part → t.key ≠ key) :
    spoken part key (others environment) = spoken part key environment := by
  have hfilter : (others environment).filter (fun entry => Sets part key entry.1) =
      environment.filter fun entry => Sets part key entry.1 := by
    rw [others, List.filter_filter]
    refine List.filter_congr fun entry _ => ?_
    rw [Bool.and_eq_left_iff_imp, decide_eq_true_iff, decide_eq_true_iff]
    intro hs t _ ht
    rw [Sets, hs, Option.some.injEq, Path.mk.injEq] at ht
    exact h t ht.1.symm (by simpa using ht.2.symm)
  rw [spoken, hfilter, spoken]

theorem spoken_others_text (t : TextSetting) (environment : List (String × String)) :
    spoken t.part.key t.key (others environment) = none := by
  have hfilter : (others environment).filter (fun entry => Sets t.part.key t.key entry.1) = [] := by
    refine List.filter_eq_nil_iff.2 fun entry hentry hs => ?_
    have hnone := of_decide_eq_true (List.mem_filter.1 hentry).2
    exact hnone t t.mem_all (of_decide_eq_true hs)
  rw [spoken, hfilter]
  rfl

/-- What happens to a part without texts is done by the other variables. -/
theorem reaching_others {part : String} (h : ∀ t : TextSetting, t.part.key ≠ part) :
    Tree.reaching part (Tree.ofEnvironment (others environment)) =
      Tree.reaching part (Tree.ofEnvironment environment) := by
  rw [reaching_ofEnvironment, reaching_ofEnvironment, others, List.filterMap_filter]
  refine congrArg (List.filterMap · environment) (funext fun entry => ?_)
  split
  · rfl
  · next hsets =>
    simp only [decide_eq_true_eq, not_forall, not_not] at hsets
    obtain ⟨t, -, ht⟩ := hsets
    rw [ht, Option.bind_some, if_neg (h t)]

end

/-! ### Defaults -/

/-- The text that a tree can be written as. -/
def Tree.text? : Tree → Option String
  | .leaf _ scalar => scalar.toText.toOption
  | _ => none

/-- The defaults as a tree. -/
def defaults : Tree := .ofJson .nowhere (default : Settings).toJson

/-- Whether a part is a table of settings, with a text under a key. -/
def holds (key text : String) : Option Tree → Bool
  | some (.table .nowhere members) =>
    members.all (fun member => member.2 matches .leaf ..) && Entries.Sorted members &&
      (Entries.get? key members).bind Tree.text? = some text
  | _ => false

theorem holds_defaults : ∀ t ∈ TextSetting.all,
    holds t.key (t.value default) (defaults.get? t.part.key) = true := by
  decide +kernel

/-- A default text stands in a table of settings that are no tables and no lists. -/
theorem exists_get?_defaults (t : TextSetting) : ∃ base,
    defaults.get? t.part.key = some (.table .nowhere base) ∧ Entries.Sorted base ∧
    (∀ key tree, Entries.get? key base = some tree → ∃ origin scalar, tree = .leaf origin scalar) ∧
    (Entries.get? t.key base).bind Tree.text? = some (t.value default) := by
  have h := holds_defaults t t.mem_all
  unfold holds at h
  split at h
  · next members hmembers =>
    simp only [Bool.and_eq_true, decide_eq_true_eq, List.all_eq_true] at h
    obtain ⟨⟨hleaves, hsorted⟩, htext⟩ := h
    refine ⟨members, hmembers, hsorted, fun key tree hkey => ?_, htext⟩
    have hleaf := hleaves _ (Entries.mem_of_get? hkey)
    cases tree with
    | leaf origin scalar => exact ⟨origin, scalar, rfl⟩
    | _ => cases hleaf
  · cases h

/-! ### What a file gives -/

/-- What a file says by itself. -/
def fileTree (files : List (String × String)) (path : Option String) : Tree :=
  match fileEntries files path with
  | .ok said => (default : Tree).apply said
  | .error _ => default

/-- Whether a list stands in a place. -/
def isList : Option Tree → Bool
  | some (.list ..) => true
  | _ => false

/-- Whether a part is written as a list. -/
def Tree.lists (tree : Tree) (part : Section) : Bool := isList (tree.get? part.key)

/-- The text that a tree gives for a setting, by its name or by its place. -/
def TextSetting.given (t : TextSetting) (tree : Tree) : Option String :=
  (Section.item? t.key t.place (tree.get? t.part.key)).bind Tree.text?

theorem text_of_words {fallback s : String} {tree : Option Tree}
    (h : Section.Words fallback s tree) : s = (tree.bind Tree.text?).getD fallback := by
  match tree with
  | none => exact h
  | some (.leaf _ scalar) =>
    replace h : scalar.toText = .ok s := h
    rw [Option.bind_some, Tree.text?, h]
    rfl
  | some (.list ..) | some (.table ..) => exact absurd h not_false

theorem text_of_shows {fallback : String} {base alone merged : Option Tree}
    (hb : base.bind Tree.text? = some fallback) (h : Tree.Shows base alone merged) :
    (merged.bind Tree.text?).getD fallback = (alone.bind Tree.text?).getD fallback := by
  cases h with
  | same => rfl
  | behind h =>
    rw [hb]
    rcases h with rfl | rfl <;> rfl

section

variable {base : List (String × Tree)} {alone : Option Tree} {merged : Tree}

/-- A file gives the same texts over the defaults as by itself. -/
theorem text_of_showsTable {key fallback : String} {place : Nat}
    (hb : (Entries.get? key base).bind Tree.text? = some fallback)
    (h : Tree.ShowsTable base alone merged) :
    ((Section.item? key place (some merged)).bind Tree.text?).getD fallback =
      ((Section.item? key place alone).bind Tree.text?).getD fallback := by
  cases h with
  | same => rfl
  | @members _ left right hleft h =>
    have halone : Section.item? key place alone = Entries.get? key left := by
      cases alone with
      | none =>
        cases hleft
        rfl
      | some tree =>
        obtain rfl : tree = .table .nowhere left := hleft
        rfl
    rw [halone]
    exact text_of_shows hb (h key)

/-- A part is a list over the defaults if the file says so. -/
theorem lists_iff_of_showsTable (h : Tree.ShowsTable base alone merged) :
    isList alone = true ↔ ∃ origin items, merged = .list origin items := by
  cases h with
  | same => cases merged <;> simp [isList]
  | members hleft =>
    refine iff_of_false (fun h => ?_) nofun
    match alone with
    | some (.list ..) => cases hleft
    | some (.leaf ..) | some (.table ..) | none => cases h

end

/-! ### Loading -/

/-- The defaults with a file and the environment over them. -/
def layered (said : List (String × Tree)) (environment : List (String × String)) : Tree :=
  (defaults.apply said).apply (Tree.ofEnvironment environment)

theorem load_eq {files : List (String × String)} {path : Option String}
    {said : List (String × Tree)} (h : fileEntries files path = .ok said)
    (environment : List (String × String)) :
    load files path environment = (layered said environment).toSettings := by
  rw [load, h]
  rfl

section

variable {environment : List (String × String)}

/-- What becomes of a part with texts: the file shows over the defaults what it says by itself, and
the environment revises it. -/
theorem exists_layers (t : TextSetting) (said : List (String × Tree)) :
    ∃ base before, (Entries.get? t.key base).bind Tree.text? = some (t.value default) ∧
      Tree.ShowsTable base (((default : Tree).apply said).get? t.part.key) before ∧
      ∀ environment, Proper environment →
        ∃ after, (layered said environment).get? t.part.key = some after ∧
          Entries.Sorted after.members ∧ Revised t.part.key environment before after := by
  obtain ⟨base, hbase, hsorted, hleaves, htext⟩ := exists_get?_defaults t
  obtain ⟨before, hbefore, hshows⟩ :=
    (Tree.ShowsTable.of_leaves hleaves).lay (Tree.reaching t.part.key said)
  refine ⟨base, before, htext, ?_, fun environment hproper => ?_⟩
  · rw [Tree.get?_apply]
    exact hshows
  · obtain ⟨after, hafter, hrevised⟩ := exists_revised t.part_mem hproper before
    have hlayered : (layered said environment).get? t.part.key = some after := by
      rw [layered, Tree.get?_apply, Tree.get?_apply, hbase, hbefore, hafter]
    have hordered : ∀ tree ∈ some before, Entries.Sorted tree.members := by
      rw [← hbefore]
      refine Tree.sorted_lay ?_
      rintro _ ⟨⟩
      exact hsorted
    exact ⟨after, hlayered, Tree.sorted_lay hordered after hafter, hrevised⟩

/-- A part that can be read as a table of what its tree has under its keys. -/
theorem exists_table_of_reads {α : Type} {part : Section} {decoder : Decoder α} {fallback a : α}
    {tree : Tree} (hempty : ∃ a, part.Reads decoder fallback (some default) a)
    (hs : Entries.Sorted tree.members) (h : part.Reads decoder fallback (some tree) a) :
    ∃ origin members a', part.Reads decoder fallback (some (.table origin members)) a' ∧
      Entries.Sorted members ∧ ∀ key, Entries.get? key members = tree.get? key := by
  match tree with
  | .leaf .. =>
    obtain ⟨_, hvalue, -⟩ := h
    cases hvalue
  | .list .. =>
    obtain ⟨a', ha'⟩ := hempty
    exact ⟨.nowhere, [], a', ha', .nil, fun _ => rfl⟩
  | .table origin members => exact ⟨origin, members, a, h, hs, fun _ => rfl⟩

/-- **A part stays readable** when variables that set texts are added to the others. -/
theorem exists_reads_of_revised {α : Type} {part : Section} {decoder : Decoder α}
    {fallback a : α} {before after plain : Tree} (hp : part ∈ sections)
    (htexts : part.TakesTexts decoder)
    (hempty : ∃ a, part.Reads decoder fallback (some default) a)
    (hplain : Entries.Sorted plain.members) (hafter : Entries.Sorted after.members)
    (hothers : Revised part.key (others environment) before plain)
    (hall : Revised part.key environment before after)
    (h : part.Reads decoder fallback (some plain) a) :
    ∃ a', part.Reads decoder fallback (some after) a' := by
  by_cases henters : ∃ entry ∈ environment, Enters part.key entry.1
  · obtain ⟨origin, members, a', ha', hsorted, hget⟩ := exists_table_of_reads hempty hplain h
    rw [hall.table henters]
    refine htexts.exists_reads (Entries.nodup_keys_of_sorted hsorted)
      (Entries.nodup_keys_of_sorted hafter) ha' fun key kind hkind => ?_
    rw [hget, hothers.get?]
    show after.get? key = _ ∨ _ ∧ ∃ _ _ _, _ ∧ after.get? key = _
    rw [hall.get?]
    -- Only under the key of a text do the other variables leave anything unsaid.
    by_cases hkey : ∀ t : TextSetting, t.part.key = part.key → t.key ≠ key
    · exact .inl (by rw [spoken_others hkey])
    · simp only [not_forall, not_not] at hkey
      obtain ⟨t, hpart, rfl⟩ := hkey
      have htext := t.lookup_of_part hp hpart
      cases hspoken : spoken part.key t.key environment with
      | none => exact .inl (by rw [← hpart, spoken_others_text])
      | some s =>
        obtain ⟨u, hu⟩ := exists_becomes s
        rw [htext] at hkind
        exact .inr ⟨(Option.some.inj hkind).symm, _, _, u, hu.toText_ofText, rfl⟩
  · have hnone : ∀ entry ∈ environment, ¬ Enters part.key entry.1 :=
      fun entry hentry he => henters ⟨entry, hentry, he⟩
    rw [hall.untouched hnone]
    rw [hothers.untouched fun entry hentry => hnone entry (List.mem_of_mem_filter hentry)] at h
    exact ⟨a, h⟩

/-- What loading makes of a setting that is a text, given what a file says by itself. -/
structure Loaded (t : TextSetting) (file : Tree) (environment : List (String × String))
    (c : Settings) : Prop where
  /-- What the environment says is taken over, and as it was said unless it was written in another
  way than the value that it is taken for. -/
  taken : ∀ s, spoken t.part.key t.key environment = some s →
    Becomes s (t.value c) ∧ (t.value c = s ↔ ¬ Respelled s)
  /-- Otherwise it is what the file gives, or the default. -/
  kept : spoken t.part.key t.key environment = none →
    (file.lists t.part = true → ∀ entry ∈ environment, ¬ Enters t.part.key entry.1) →
    t.value c = (t.given file).getD (t.value default)
  /-- A list gives way to a table, and what it gave is not kept. -/
  dropped : spoken t.part.key t.key environment = none → file.lists t.part = true →
    (∃ entry ∈ environment, Enters t.part.key entry.1) → t.value c = t.value default

theorem loaded_of_toSettings {said : List (String × Tree)} {c : Settings}
    (hproper : Proper environment) (h : (layered said environment).toSettings = .ok c)
    (t : TextSetting) : Loaded t ((default : Tree).apply said) environment c := by
  obtain ⟨base, before, htext, hshows, hlayers⟩ := exists_layers t said
  obtain ⟨after, hafter, hsorted, hrevised⟩ := hlayers environment hproper
  have hordered : ∀ found ∈ (layered said environment).get? t.part.key,
      Entries.Sorted found.members := by
    rw [hafter]
    rintro _ ⟨⟩
    exact hsorted
  have hwords := t.words_of_toSettings hordered h
  rw [hafter] at hwords
  have hitem : (∃ entry ∈ environment, Enters t.part.key entry.1) →
      Section.item? t.key t.place (some after) = after.get? t.key := by
    intro henters
    rw [hrevised.table henters]
    rfl
  have hlists := lists_iff_of_showsTable hshows
  constructor
  · intro s hs
    obtain ⟨entry, hentry, hsets⟩ := exists_sets_of_spoken hs
    rw [hitem ⟨entry, hentry, hsets.enters⟩, hrevised.get?, hs] at hwords
    have hbecomes : Becomes s (t.value c) := becomes_iff.2 hwords
    exact ⟨hbecomes, hbecomes.eq_iff⟩
  · intro hs hlist
    have hsame : Section.item? t.key t.place (some after) =
        Section.item? t.key t.place (some before) := by
      by_cases henters : ∃ entry ∈ environment, Enters t.part.key entry.1
      · rw [hitem henters, hrevised.get?, hs]
        cases before with
        | list origin items =>
          obtain ⟨entry, hentry, he⟩ := henters
          exact absurd he (hlist (hlists.2 ⟨origin, items, rfl⟩) entry hentry)
        | _ => rfl
      · rw [hrevised.untouched fun entry hentry he => henters ⟨entry, hentry, he⟩]
    rw [hsame] at hwords
    exact (text_of_words hwords).trans (text_of_showsTable htext hshows)
  · intro hs hlist henters
    obtain ⟨origin, items, rfl⟩ := hlists.1 hlist
    rw [hitem henters, hrevised.get?, hs] at hwords
    exact hwords

theorem exists_reads_of_others {α : Type} (t : TextSetting) {said : List (String × Tree)}
    {decoder : Decoder α} {fallback a : α} (hproper : Proper environment)
    (htexts : t.part.TakesTexts decoder)
    (hempty : ∃ a, t.part.Reads decoder fallback (some default) a)
    (h : t.part.Reads decoder fallback ((layered said (others environment)).get? t.part.key) a) :
    ∃ a', t.part.Reads decoder fallback ((layered said environment).get? t.part.key) a' := by
  obtain ⟨-, before, -, -, hlayers⟩ := exists_layers t said
  obtain ⟨plain, hplain, hplainSorted, hothers⟩ := hlayers _ hproper.others
  obtain ⟨after, hafter, hafterSorted, hall⟩ := hlayers _ hproper
  rw [hplain] at h
  rw [hafter]
  exact exists_reads_of_revised t.part_mem htexts hempty hplainSorted hafterSorted hothers hall h

/-- Settings that can be loaded without the variables that set texts can be loaded with them. -/
theorem exists_toSettings {said : List (String × Tree)} {c₀ : Settings}
    (hproper : Proper environment)
    (h : (layered said (others environment)).toSettings = .ok c₀) :
    ∃ c, (layered said environment).toSettings = .ok c := by
  obtain ⟨hserver, hsync, hcluster, hlogging⟩ := Tree.toSettings_eq_ok_iff.1 h
  have hsame : (layered said environment).get? Section.server.key =
      (layered said (others environment)).get? Section.server.key := by
    have hno : ∀ t : TextSetting, t.part.key ≠ Section.server.key := by
      rintro ⟨⟩ <;> decide
    rw [layered, layered, Tree.get?_apply, Tree.get?_apply (defaults.apply said),
      reaching_others hno]
  obtain ⟨sync, hsync⟩ := exists_reads_of_others .modelCollection hproper SyncSettings.takesTexts
    ⟨_, _, rfl, rfl⟩ hsync
  obtain ⟨cluster, hcluster⟩ := exists_reads_of_others .node hproper ClusterSettings.takesTexts
    ⟨_, _, rfl, rfl⟩ hcluster
  obtain ⟨logging, hlogging⟩ := exists_reads_of_others .level hproper LoggingSettings.takesTexts
    ⟨_, _, rfl, rfl⟩ hlogging
  exact ⟨⟨c₀.server, sync, cluster, logging⟩, Tree.toSettings_eq_ok_iff.2
    ⟨hsame ▸ hserver, hsync, hcluster, hlogging⟩⟩

/-- **What loading makes of texts.**  If a file can be loaded with the variables that set no texts,
it can be loaded with all variables, and each text is what the last variable that sets it says, or
else what the file gives by itself, or the default. -/
theorem load_texts {files : List (String × String)} {path : Option String} {c₀ : Settings}
    (hvalid : load files path (others environment) = .ok c₀) (hproper : Proper environment) :
    ∃ c, load files path environment = .ok c ∧
      ∀ t : TextSetting, Loaded t (fileTree files path) environment c := by
  obtain ⟨said, hfile, -⟩ := Except.exists_of_bind hvalid
  rw [load_eq hfile] at hvalid
  rw [load_eq hfile, fileTree, hfile]
  obtain ⟨c, hc⟩ := exists_toSettings hproper hvalid
  exact ⟨c, hc, loaded_of_toSettings hproper hc⟩

end

/-- A path without an ending means the file of that name in one of the formats. -/
theorem fileEntries_of_stem (content : String) :
    fileEntries [("c.json", content)] (some "c") = readFile "c.json" content := by
  have hsplit : "c".splitOn "/" = ["c"] := by
    rw [String.splitOn, if_neg (by decide), String.splitOnAux, if_neg (by decide +kernel),
      if_neg (by decide +kernel), String.splitOnAux, if_pos (by decide +kernel)]
    decide +kernel
  have hfind : findFile [("c.json", content)] "c" = some ("c.json", content) := by
    simp only [findFile, isDirectory, plainPath, extendedPaths, pathSteps, hsplit]
    rfl
  rw [fileEntries, Option.bind_some, hfind]

/-- A text that was written as a number is written again, and the others are those of the file and
the defaults. -/
theorem load_texts_of_padded_number :
    ∃ c, load [("c.json", "\x7b\"sync\":[10,30,5000,100,\"a\",\"b\",\"c\"]\x7d")] (some "c")
        [("MODELSYNC_CLUSTER__NODE_ID", "007"), ("MODELSYNC_LOGGING__JSON", "true")] = .ok c ∧
      c.cluster.node = "7" ∧ c.sync.configCollection = "b" ∧ c.logging.level = "info" := by
  have hvalid : load [("c.json", "\x7b\"sync\":[10,30,5000,100,\"a\",\"b\",\"c\"]\x7d")] (some "c")
      (others [("MODELSYNC_CLUSTER__NODE_ID", "007"), ("MODELSYNC_LOGGING__JSON", "true")]) =
      .ok ⟨default, ⟨10, 30, 5000, 100, "a", "b", "c"⟩, default, ⟨"info", true⟩⟩ := by
    rw [load, fileEntries_of_stem]
    refine Except.eq_ok_of_toOption ?_
    decide +kernel
  obtain ⟨c, hc, h⟩ := load_texts hvalid (by decide +kernel)
  rw [fileTree, fileEntries_of_stem] at h
  refine ⟨c, hc, ?_, ?_, ?_⟩
  · have hnode := becomes_iff.1 ((h .node).taken "007" (by decide +kernel)).1
    exact Except.ok.inj (hnode.symm.trans (by decide +kernel))
  · exact ((h .configCollection).kept (by decide +kernel) (by decide +kernel)).trans
      (by decide +kernel)
  · exact ((h .level).kept (by decide +kernel) (by decide +kernel)).trans (by decide +kernel)

/-- Neither is every text taken over as it was said, nor is every text of a file kept. -/
theorem not_load_verbatim :
    (¬ ∀ (files : List (String × String)) (path : Option String)
      (environment : List (String × String)) (c₀ c : Settings), Proper environment →
      load files path (others environment) = .ok c₀ → load files path environment = .ok c →
      ∀ (t : TextSetting) (s : String), s ≠ "" →
        spoken t.part.key t.key environment = some s → t.value c = s) ∧
    ¬ ∀ (files : List (String × String)) (path : Option String)
      (environment : List (String × String)) (c₀ c : Settings), Proper environment →
      load files path (others environment) = .ok c₀ → load files path environment = .ok c →
      ∀ t : TextSetting, spoken t.part.key t.key environment = none →
        t.value c = (t.given (fileTree files path)).getD (t.value default) := by
  have htexts : ∀ entry ∈ [(TextSetting.modelCollection.name, "007")],
      ∃ t : TextSetting, Sets t.part.key t.key entry.1 := by
    rw [List.forall_mem_singleton]
    exact ⟨.modelCollection, TextSetting.sets_name _⟩
  obtain ⟨hproper, hothers⟩ := proper_of_texts htexts
  have hfile : load [("c.json", "\x7b\"sync\":[10,30,5000,100,\"a\",\"b\",\"c\"]\x7d")] (some "c")
      (others [(TextSetting.modelCollection.name, "007")]) =
      .ok ⟨default, ⟨10, 30, 5000, 100, "a", "b", "c"⟩, default, default⟩ := by
    rw [hothers, load, fileEntries_of_stem]
    refine Except.eq_ok_of_toOption ?_
    decide +kernel
  have hload : load [("c.json", "\x7b\"sync\":[10,30,5000,100,\"a\",\"b\",\"c\"]\x7d")] (some "c")
      [(TextSetting.modelCollection.name, "007")] =
      .ok ⟨default, ⟨10, 30, 5000, 100, "7", ".plugins-ml-config", "master_key"⟩, default,
        default⟩ := by
    rw [load, fileEntries_of_stem]
    refine Except.eq_ok_of_toOption ?_
    decide +kernel
  constructor
  · intro h
    have hspoken : spoken TextSetting.modelCollection.part.key TextSetting.modelCollection.key
        [(TextSetting.modelCollection.name, "007")] = some "007" :=
      TextSetting.spoken_of_mem _ (List.mem_singleton_self _)
        (List.forall_mem_singleton.2 fun _ => rfl)
    have hmodel := h _ _ _ _ _ hproper hfile hload .modelCollection "007" (by decide) hspoken
    revert hmodel
    decide
  · intro h
    have hconfig := h _ _ _ _ _ hproper hfile hload .configCollection (by decide +kernel)
    rw [fileTree, fileEntries_of_stem] at hconfig
    revert hconfig
    decide +kernel

end ModelFleet.Config
