import ModelFleet.Config.Load
import ModelFleet.Proofs.Config.Layers
import ModelFleet.Proofs.Json.Inversion

/-!
# Settings read from a tree

The parts of the settings are read one by one (`Tree.toSettings_eq_ok_iff`), each from its members
by their names or from its items by their places.  A part stays readable when texts are put into it
(`Section.TakesTexts.exists_reads`), and a setting that is a text is what stands in its place
(`TextSetting.words_of_toSettings`).
-/

namespace ModelFleet

namespace Config

open Fields (Told)

/-! ### Parts -/

namespace Section

variable {α : Type}

/-- The settings of a part, read from what stands in its place. -/
def Reads (part : Section) (decoder : Decoder α) (fallback : α) : Option Tree → α → Prop
  | none, a => a = fallback
  | some tree, a => ∃ value, part.ofTree tree = .ok value ∧ decoder value = .ok a

/-- The document of a part, if anything stands in its place. -/
def document? (part : Section) : Option Tree → Except LoadError (Option Json)
  | none => .ok none
  | some tree => (part.ofTree tree).map some

theorem exists_document?_of_reads {part : Section} {decoder : Decoder α} {fallback a : α}
    {tree : Option Tree} (h : part.Reads decoder fallback tree a) :
    ∃ found, part.document? tree = .ok found := by
  cases tree with
  | none => exact ⟨none, rfl⟩
  | some tree =>
    obtain ⟨value, hvalue, -⟩ := h
    exact ⟨some value, by rw [document?, hvalue]; rfl⟩

theorem reads_iff_told {part : Section} {decoder : Decoder α} {fallback a : α}
    {tree : Option Tree} {found : Option Json} (h : part.document? tree = .ok found) :
    part.Reads decoder fallback tree a ↔ Told decoder fallback found a := by
  cases tree with
  | none =>
    cases h
    exact Iff.rfl
  | some tree =>
    simp only [document?] at h
    simp only [Reads]
    cases hvalue : part.ofTree tree with
    | error e =>
      rw [hvalue] at h
      cases h
    | ok value =>
      rw [hvalue] at h
      cases h
      simp [Told]

/-- How the daemon answers requests. -/
def server : Section := sections.get ⟨0, by decide⟩

/-- How cycles are run. -/
def sync : Section := sections.get ⟨1, by decide⟩

/-- What the node is called. -/
def cluster : Section := sections.get ⟨2, by decide⟩

/-- How the log is written. -/
def logging : Section := sections.get ⟨3, by decide⟩

end Section

theorem sections_eq : sections = [.server, .sync, .cluster, .logging] := rfl

theorem Tree.toSettings_eq (tree : Tree) :
    tree.toSettings = (do
      let parts ← sections.filterMapM fun part =>
        (part.document? (tree.get? part.key)).map (·.map (part.key, ·))
      (Settings.ofJson (.object parts)).mapError .mismatch) := by
  rw [toSettings]
  congr 1
  congr 1
  funext part
  cases tree.get? part.key with
  | none => rfl
  | some tree =>
    simp only [Section.document?]
    cases part.ofTree tree <;> rfl

/-- Each part of the settings is read on its own. -/
theorem Tree.toSettings_eq_ok_iff {tree : Tree} {c : Settings} :
    tree.toSettings = .ok c ↔
      Section.server.Reads ServerSettings.ofJson default (tree.get? Section.server.key) c.server ∧
      Section.sync.Reads SyncSettings.ofJson default (tree.get? Section.sync.key) c.sync ∧
      Section.cluster.Reads ClusterSettings.ofJson default (tree.get? Section.cluster.key)
        c.cluster ∧
      Section.logging.Reads LoggingSettings.ofJson default (tree.get? Section.logging.key)
        c.logging := by
  have hnodup : (sections.map Section.key).Nodup := by decide
  have hread : ∀ parts : List (String × Json), (parts.map (·.1)).Nodup →
      (Settings.ofJson (.object parts) = .ok c ↔
        Told ServerSettings.ofJson default (Entries.get? "server" parts) c.server ∧
        Told SyncSettings.ofJson default (Entries.get? "sync" parts) c.sync ∧
        Told ClusterSettings.ofJson default (Entries.get? "cluster" parts) c.cluster ∧
        Told LoggingSettings.ofJson default (Entries.get? "logging" parts) c.logging) := by
    intro parts hn
    obtain ⟨server, sync, cluster, logging⟩ := c
    show Fields.ofMembers _ _ = _ ↔ _
    simp only [Fields.ofMembers_eq_ok_iff, Fields.named_seq_eq_ok_iff, Fields.named_map_eq_ok_iff,
      Fields.named_withDefault_eq_ok_iff, Entries.get?_ofList hn]
    constructor
    · rintro ⟨_, _, ⟨_, _, ⟨_, _, ⟨_, hs, rfl⟩, hy, rfl⟩, hc, rfl⟩, hl, ⟨⟩⟩
      exact ⟨hs, hy, hc, hl⟩
    · rintro ⟨hs, hy, hc, hl⟩
      exact ⟨_, _, ⟨_, _, ⟨_, _, ⟨_, hs, rfl⟩, hy, rfl⟩, hc, rfl⟩, hl, rfl⟩
  have hiff : ∀ parts, (sections.filterMapM fun part =>
      (part.document? (tree.get? part.key)).map (·.map (part.key, ·))) = .ok parts →
      (tree.toSettings = .ok c ↔
        Section.server.Reads ServerSettings.ofJson default (tree.get? Section.server.key) c.server ∧
        Section.sync.Reads SyncSettings.ofJson default (tree.get? Section.sync.key) c.sync ∧
        Section.cluster.Reads ClusterSettings.ofJson default (tree.get? Section.cluster.key)
          c.cluster ∧
        Section.logging.Reads LoggingSettings.ofJson default (tree.get? Section.logging.key)
          c.logging) := by
    intro parts hparts
    obtain ⟨hsub, hget⟩ := get?_of_filterMapM hnodup hparts
    simp only [sections_eq, List.forall_mem_cons] at hget
    obtain ⟨hserver, hsync, hcluster, hlogging, -⟩ := hget
    rw [Section.reads_iff_told hserver, Section.reads_iff_told hsync,
      Section.reads_iff_told hcluster, Section.reads_iff_told hlogging, toSettings_eq, hparts]
    exact Except.mapError_eq_ok_iff.trans (hread parts (hsub.nodup hnodup))
  constructor
  · intro h
    obtain ⟨parts, hparts, -⟩ := Except.exists_of_bind (tree.toSettings_eq ▸ h)
    exact (hiff parts hparts).1 h
  · intro h
    have hall : ∀ part ∈ sections, ∃ found, part.document? (tree.get? part.key) = .ok found := by
      simp only [sections_eq, List.forall_mem_cons]
      exact ⟨Section.exists_document?_of_reads h.1, Section.exists_document?_of_reads h.2.1,
        Section.exists_document?_of_reads h.2.2.1, Section.exists_document?_of_reads h.2.2.2,
        List.forall_mem_nil _⟩
    obtain ⟨parts, hparts⟩ := exists_of_forall_filterMapM hall
    exact (hiff parts hparts).2 h

/-! ### Members of a part -/

namespace Section

variable {α : Type} {part : Section}

/-- The document of a member of a part, if there is such a member and it is a setting. -/
def memberDocument? (part : Section) (key : String) : Option Tree → Except LoadError (Option Json)
  | none => .ok none
  | some tree =>
    match part.fields.lookup key with
    | none => .ok none
    | some kind => (kind.ofTree s!"{part.key}.{key}" tree).map some

theorem memberDocument?_of_unknown {key : String} (hk : part.fields.lookup key = none)
    (tree : Option Tree) : part.memberDocument? key tree = .ok none := by
  cases tree with
  | none => rfl
  | some tree => simp only [memberDocument?, hk]

theorem memberDocument?_text {key s : String} {origin : Origin} {scalar : Scalar}
    (hk : part.fields.lookup key = some .text) (hs : scalar.toText = .ok s) :
    part.memberDocument? key (some (.leaf origin scalar)) = .ok (some (.str s)) := by
  simp only [memberDocument?, hk, Kind.ofTree, Kind.ofScalar, hs]
  rfl

theorem named_eq (part : Section) (members : List (String × Tree)) :
    part.named members = members.filterMapM fun member =>
      (part.memberDocument? member.1 (some member.2)).map (·.map (member.1, ·)) := by
  rw [named]
  congr 1
  funext ⟨key, tree⟩
  simp only [memberDocument?]
  cases part.fields.lookup key with
  | none => rfl
  | some kind =>
    dsimp only
    cases kind.ofTree s!"{part.key}.{key}" tree <;> rfl

theorem get?_of_named {members : List (String × Tree)} {out : List (String × Json)}
    (hn : (members.map (·.1)).Nodup) (h : part.named members = .ok out) (key : String) :
    part.memberDocument? key (Entries.get? key members) =
      .ok (Entries.get? key (Entries.ofList out)) := by
  rw [named_eq] at h
  obtain ⟨hsub, hget⟩ := get?_of_filterMapM hn h
  rw [Entries.get?_ofList (hsub.nodup hn)]
  cases hkey : Entries.get? key members with
  | none =>
    have hnot : key ∉ members.map (·.1) := by
      intro hm
      obtain ⟨member, hmember, rfl⟩ := List.mem_map.1 hm
      cases hkey.symm.trans (Entries.get?_of_mem hn hmember)
    rw [Entries.get?_eq_none fun hm => hnot (hsub.subset hm)]
    rfl
  | some tree => exact hget _ (Entries.mem_of_get? hkey)

theorem exists_named {members : List (String × Tree)} (hn : (members.map (·.1)).Nodup)
    (h : ∀ key, ∃ found, part.memberDocument? key (Entries.get? key members) = .ok found) :
    ∃ out, part.named members = .ok out := by
  rw [named_eq]
  refine exists_of_forall_filterMapM fun member hmember => ?_
  obtain ⟨found, hfound⟩ := h member.1
  rw [Entries.get?_of_mem hn hmember] at hfound
  exact ⟨found, hfound⟩

/-- Whether a part can be read does not depend on what its texts are. -/
def TakesTexts (part : Section) (decoder : Decoder α) : Prop :=
  ∃ tests, Decode.Tests decoder tests ∧
    ∀ test ∈ tests, part.fields.lookup test.1 = some .text → ∀ s, test.2 (.str s)

/-- **A part stays readable when texts are put into it**: if a table can be read, so can every table
that differs from it in texts only. -/
theorem TakesTexts.exists_reads {decoder : Decoder α} {fallback a : α} {origin origin' : Origin}
    {base members : List (String × Tree)} (htexts : part.TakesTexts decoder)
    (hb : (base.map (·.1)).Nodup) (hm : (members.map (·.1)).Nodup)
    (hbase : part.Reads decoder fallback (some (.table origin base)) a)
    (h : ∀ key kind, part.fields.lookup key = some kind →
      Entries.get? key members = Entries.get? key base ∨
      kind = .text ∧ ∃ origin scalar s, scalar.toText = .ok s ∧
        Entries.get? key members = some (.leaf origin scalar)) :
    ∃ a', part.Reads decoder fallback (some (.table origin' members)) a' := by
  obtain ⟨tests, ht, htext⟩ := htexts
  obtain ⟨_, hdocument, hread⟩ := hbase
  obtain ⟨out, hout, rfl⟩ := Except.map_eq_ok_iff.1 hdocument
  have hpassed := (ht _).1 ⟨a, hread⟩
  have hsame := get?_of_named hb hout
  have hmember : ∀ key, ∃ found,
      part.memberDocument? key (Entries.get? key members) = .ok found := by
    intro key
    cases hk : part.fields.lookup key with
    | none => exact ⟨none, memberDocument?_of_unknown hk _⟩
    | some kind =>
      rcases h key kind hk with he | ⟨rfl, _, _, s, hs, he⟩
      · exact ⟨_, he ▸ hsame key⟩
      · exact ⟨some (.str s), he ▸ memberDocument?_text hk hs⟩
  obtain ⟨out', hout'⟩ := exists_named hm hmember
  -- A member that was readable passed its test before, and a text passes any test of a text.
  have hpasses : ∀ test ∈ tests, ∀ value,
      Entries.get? test.1 (Entries.ofList out') = some value → test.2 value := by
    intro test htest value hvalue
    have hfound := hvalue ▸ get?_of_named hm hout' test.1
    cases hk : part.fields.lookup test.1 with
    | none =>
      rw [memberDocument?_of_unknown hk] at hfound
      cases hfound
    | some kind =>
      rcases h test.1 kind hk with he | ⟨rfl, _, _, s, hs, he⟩
      · have hbase := hsame test.1
        rw [← he, hfound] at hbase
        exact hpassed test htest value (Except.ok.inj hbase).symm
      · rw [he, memberDocument?_text hk hs] at hfound
        cases hfound
        exact htext test htest hk s
  obtain ⟨a', ha'⟩ := (ht _).2 hpasses
  exact ⟨a', _, Except.map_eq_ok_iff.2 ⟨out', hout', rfl⟩, ha'⟩

/-! ### Texts of a part -/

/-- A text that a setting is, given what stands in its place: a tree that can be written as this
text, or nothing, where the text is the default. -/
def Words (fallback s : String) : Option Tree → Prop
  | none => s = fallback
  | some (.leaf _ scalar) => scalar.toText = .ok s
  | some _ => False

/-- What stands in the place of a setting, in a part that is a table or a list. -/
def item? (key : String) (place : Nat) : Option Tree → Option Tree
  | some (.table _ members) => Entries.get? key members
  | some (.list _ items) => items[place]?
  | _ => none

theorem words_of_ofTree {path fallback s : String} {tree : Tree} {value : Json}
    (h : Kind.text.ofTree path tree = .ok value) (hs : Decode.text value = .ok s) :
    Words fallback s (some tree) := by
  cases tree with
  | leaf origin scalar =>
    obtain ⟨_, hturned, h⟩ := Except.exists_of_bind h
    obtain ⟨text, htext, rfl⟩ := Except.map_eq_ok_iff.1 (Except.mapError_eq_ok_iff.1 hturned)
    cases h
    cases hs
    exact htext
  | _ => cases h

/-- A text of a part that was read is what stands in its place, by its name or by its position. -/
theorem words_of_reads {decoder : Decoder α} {default a : α} {tree : Option Tree} {key : String}
    {place : Nat} (text : α → String) (hk : part.fields.lookup key = some .text)
    (hp : part.fields[place]? = some (key, .text))
    (hobj : ∀ members a, decoder (.obj members) = .ok a →
      Told Decode.text (text default) (Entries.get? key members) (text a))
    (harr : ∀ items a, decoder (.arr items) = .ok a →
      Told Decode.text (text default) items[place]? (text a))
    (hs : ∀ t ∈ tree, Entries.Sorted t.members) (h : part.Reads decoder default tree a) :
    Words (text default) (text a) (item? key place tree) := by
  match tree with
  | none => exact congrArg text h
  | some (.leaf ..) =>
    obtain ⟨_, hvalue, -⟩ := h
    cases hvalue
  | some (.table _ members) =>
    obtain ⟨_, hvalue, hread⟩ := h
    obtain ⟨out, hout, rfl⟩ := Except.map_eq_ok_iff.1 hvalue
    have hn : (members.map (·.1)).Nodup := Entries.nodup_keys_of_sorted (hs _ rfl)
    have hfound := get?_of_named hn hout key
    have htold := hobj _ _ hread
    show Words _ _ (Entries.get? key members)
    cases hkey : Entries.get? key members with
    | none =>
      rw [hkey] at hfound
      rw [← Except.ok.inj hfound] at htold
      exact htold
    | some tree =>
      simp only [hkey, memberDocument?, hk] at hfound
      obtain ⟨value, hvalue, hget⟩ := Except.map_eq_ok_iff.1 hfound
      rw [← hget] at htold
      exact words_of_ofTree hvalue htold
  | some (.list _ items) =>
    obtain ⟨_, hvalue, hread⟩ := h
    obtain ⟨out, hout, rfl⟩ := Except.map_eq_ok_iff.1 hvalue
    have htold := harr _ _ hread
    show Words _ _ items[place]?
    -- The items are taken together with the fields in their order, so that the place is the same.
    have hzip : (part.fields.zip items).zipIdx[place]? =
        items[place]?.map fun tree => (((key, .text), tree), 0 + place) := by
      rw [List.getElem?_zipIdx, List.zip, List.getElem?_zipWith, hp]
      cases items[place]? <;> rfl
    rcases getElem?_of_forall₂ (forall₂_of_mapM hout) place with ⟨hnone, hout⟩ | ⟨a, b, ha, hb, hab⟩
    · rw [hzip] at hnone
      rw [hout] at htold
      rw [Option.map_eq_none_iff.1 hnone]
      exact htold
    · rw [hzip] at ha
      obtain ⟨tree, htree, rfl⟩ := Option.map_eq_some_iff.1 ha
      rw [hb] at htold
      rw [htree]
      exact words_of_ofTree hab htold

end Section

end Config

/-! ### Texts in documents -/

open Fields (Told)

variable {members : List (String × Json)} {items : List Json}

namespace SyncSettings

theorem told_of_obj {a : SyncSettings} (h : ofJson (.obj members) = .ok a) :
    Told Decode.text (default : SyncSettings).modelCollection
      (Entries.get? "model_collection" members) a.modelCollection ∧
    Told Decode.text (default : SyncSettings).configCollection
      (Entries.get? "config_collection" members) a.configCollection ∧
    Told Decode.text (default : SyncSettings).masterKeyId
      (Entries.get? "master_key_id" members) a.masterKeyId := by
  replace h := Fields.ofMembers_eq_ok_iff.1 h
  simp only [Fields.named_seq_eq_ok_iff, Fields.named_map_eq_ok_iff,
    Fields.named_withDefault_eq_ok_iff] at h
  obtain ⟨_, _, ⟨_, _, ⟨_, _, hcounts, hmodel, rfl⟩, hconfig, rfl⟩, hkey, rfl⟩ := h
  obtain ⟨_, _, ⟨_, _, ⟨_, _, ⟨_, -, rfl⟩, -, rfl⟩, -, rfl⟩, -, rfl⟩ := hcounts
  exact ⟨hmodel, hconfig, hkey⟩

theorem told_of_arr {a : SyncSettings} (h : ofJson (.arr items) = .ok a) :
    Told Decode.text (default : SyncSettings).modelCollection items[4]? a.modelCollection ∧
    Told Decode.text (default : SyncSettings).configCollection items[5]? a.configCollection ∧
    Told Decode.text (default : SyncSettings).masterKeyId items[6]? a.masterKeyId := by
  obtain ⟨_, _, h₇⟩ := Decode.exists_of_record_arr h
  obtain ⟨_, _, _, _, h₆, hkey, rfl⟩ := Fields.exists_of_listed_seq h₇
  obtain ⟨_, _, _, _, h₅, hconfig, rfl⟩ := Fields.exists_of_listed_seq h₆
  obtain ⟨_, _, _, _, h₄, hmodel, rfl⟩ := Fields.exists_of_listed_seq h₅
  obtain ⟨_, _, _, _, h₃, hpage, rfl⟩ := Fields.exists_of_listed_seq h₄
  obtain ⟨_, _, _, _, h₂, htimeout, rfl⟩ := Fields.exists_of_listed_seq h₃
  obtain ⟨_, _, _, _, h₁, hgrace, rfl⟩ := Fields.exists_of_listed_seq h₂
  obtain ⟨_, hinterval, rfl⟩ := Fields.exists_of_listed_map h₁
  -- Each field takes one item off the front of the list.
  obtain ⟨-, rfl⟩ := Fields.told_of_listed_withDefault hinterval
  obtain ⟨-, rfl⟩ := Fields.told_of_listed_withDefault hgrace
  obtain ⟨-, rfl⟩ := Fields.told_of_listed_withDefault htimeout
  obtain ⟨-, rfl⟩ := Fields.told_of_listed_withDefault hpage
  obtain ⟨tmodel, rfl⟩ := Fields.told_of_listed_withDefault hmodel
  obtain ⟨tconfig, rfl⟩ := Fields.told_of_listed_withDefault hconfig
  obtain ⟨tkey, -⟩ := Fields.told_of_listed_withDefault hkey
  simp only [← List.drop_one, List.drop_drop, List.head?_drop] at tmodel tconfig tkey
  exact ⟨tmodel, tconfig, tkey⟩

theorem takesTexts : Config.Section.sync.TakesTexts ofJson := by
  refine ⟨_, ((((((((Fields.tests_withDefault _ _ _).map _).seq
    (Fields.tests_withDefault _ _ _)).seq (Fields.tests_withDefault _ _ _)).seq
    (Fields.tests_withDefault _ _ _)).seq (Fields.tests_withDefault _ _ _)).seq
    (Fields.tests_withDefault _ _ _)).seq (Fields.tests_withDefault _ _ _)).record _, ?_⟩
  simp only [List.cons_append, List.nil_append, List.forall_mem_cons]
  exact ⟨nofun, nofun, nofun, nofun, fun _ s => ⟨s, rfl⟩, fun _ s => ⟨s, rfl⟩, fun _ s => ⟨s, rfl⟩,
    nofun⟩

end SyncSettings

namespace ClusterSettings

theorem told_of_obj {a : ClusterSettings} (h : ofJson (.obj members) = .ok a) :
    Told Decode.text (default : ClusterSettings).node (Entries.get? "node_id" members) a.node := by
  replace h := Fields.ofMembers_eq_ok_iff.1 h
  simp only [Fields.named_map_eq_ok_iff, Fields.named_withDefault_eq_ok_iff] at h
  obtain ⟨_, hnode, rfl⟩ := h
  exact hnode

theorem told_of_arr {a : ClusterSettings} (h : ofJson (.arr items) = .ok a) :
    Told Decode.text (default : ClusterSettings).node items[0]? a.node := by
  obtain ⟨_, _, h₁⟩ := Decode.exists_of_record_arr h
  obtain ⟨_, hnode, rfl⟩ := Fields.exists_of_listed_map h₁
  rw [← List.head?_eq_getElem?]
  exact (Fields.told_of_listed_withDefault hnode).1

theorem takesTexts : Config.Section.cluster.TakesTexts ofJson := by
  refine ⟨_, ((Fields.tests_withDefault _ _ _).map _).record _, ?_⟩
  simp only [List.forall_mem_cons]
  exact ⟨fun _ s => ⟨s, rfl⟩, nofun⟩

end ClusterSettings

namespace LoggingSettings

theorem told_of_obj {a : LoggingSettings} (h : ofJson (.obj members) = .ok a) :
    Told Decode.text (default : LoggingSettings).level (Entries.get? "level" members) a.level := by
  replace h := Fields.ofMembers_eq_ok_iff.1 h
  simp only [Fields.named_seq_eq_ok_iff, Fields.named_map_eq_ok_iff,
    Fields.named_withDefault_eq_ok_iff] at h
  obtain ⟨_, _, ⟨_, hlevel, rfl⟩, -, rfl⟩ := h
  exact hlevel

theorem told_of_arr {a : LoggingSettings} (h : ofJson (.arr items) = .ok a) :
    Told Decode.text (default : LoggingSettings).level items[0]? a.level := by
  obtain ⟨_, _, h₂⟩ := Decode.exists_of_record_arr h
  obtain ⟨_, _, _, _, h₁, -, rfl⟩ := Fields.exists_of_listed_seq h₂
  obtain ⟨_, hlevel, rfl⟩ := Fields.exists_of_listed_map h₁
  rw [← List.head?_eq_getElem?]
  exact (Fields.told_of_listed_withDefault hlevel).1

theorem takesTexts : Config.Section.logging.TakesTexts ofJson := by
  refine ⟨_, (((Fields.tests_withDefault _ _ _).map _).seq
    (Fields.tests_withDefault _ _ _)).record _, ?_⟩
  simp only [List.cons_append, List.nil_append, List.forall_mem_cons]
  exact ⟨fun _ s => ⟨s, rfl⟩, nofun, nofun⟩

end LoggingSettings

/-! ### Settings that are texts -/

namespace Config

/-- A setting that is a text. -/
inductive TextSetting
  | modelCollection
  | configCollection
  | masterKeyId
  | node
  | level
  deriving DecidableEq

namespace TextSetting

/-- The part of the settings that it belongs to. -/
def part : TextSetting → Section
  | modelCollection | configCollection | masterKeyId => .sync
  | node => .cluster
  | level => .logging

/-- Its name in a part that is a table. -/
def key : TextSetting → String
  | modelCollection => "model_collection"
  | configCollection => "config_collection"
  | masterKeyId => "master_key_id"
  | node => "node_id"
  | level => "level"

/-- Its place in a part that is a list. -/
def place : TextSetting → Nat
  | modelCollection => 4
  | configCollection => 5
  | masterKeyId => 6
  | node | level => 0

/-- The setting itself. -/
def value (c : Settings) : TextSetting → String
  | modelCollection => c.sync.modelCollection
  | configCollection => c.sync.configCollection
  | masterKeyId => c.sync.masterKeyId
  | node => c.cluster.node
  | level => c.logging.level

/-- A text is read from what stands in its place. -/
theorem words_of_toSettings (t : TextSetting) {tree : Tree} {c : Settings}
    (hs : ∀ found ∈ tree.get? t.part.key, Entries.Sorted found.members)
    (h : tree.toSettings = .ok c) :
    Section.Words (t.value default) (t.value c)
      (Section.item? t.key t.place (tree.get? t.part.key)) := by
  obtain ⟨-, hsync, hcluster, hlogging⟩ := Tree.toSettings_eq_ok_iff.1 h
  cases t with
  | modelCollection =>
    exact Section.words_of_reads SyncSettings.modelCollection rfl rfl
      (fun _ _ h => (SyncSettings.told_of_obj h).1) (fun _ _ h => (SyncSettings.told_of_arr h).1)
      hs hsync
  | configCollection =>
    exact Section.words_of_reads SyncSettings.configCollection rfl rfl
      (fun _ _ h => (SyncSettings.told_of_obj h).2.1)
      (fun _ _ h => (SyncSettings.told_of_arr h).2.1) hs hsync
  | masterKeyId =>
    exact Section.words_of_reads SyncSettings.masterKeyId rfl rfl
      (fun _ _ h => (SyncSettings.told_of_obj h).2.2)
      (fun _ _ h => (SyncSettings.told_of_arr h).2.2) hs hsync
  | node =>
    exact Section.words_of_reads ClusterSettings.node rfl rfl
      (fun _ _ h => ClusterSettings.told_of_obj h) (fun _ _ h => ClusterSettings.told_of_arr h)
      hs hcluster
  | level =>
    exact Section.words_of_reads LoggingSettings.level rfl rfl
      (fun _ _ h => LoggingSettings.told_of_obj h) (fun _ _ h => LoggingSettings.told_of_arr h)
      hs hlogging

end TextSetting

end Config

end ModelFleet
