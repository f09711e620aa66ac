import Dialogue.Proofs.CutText
import Dialogue.Proofs.ModelRoundTrip
import Dialogue.Proofs.PartialWrite

/-!
What is loaded after an ensemble could not be written over a model: the policies that the old
metadata names, some of them with states of the new ensemble. Where a text was cut off nothing is
loaded.
-/
namespace Dialogue

open FileTree

/-! ### Loading -/

theorem Policy.loadState_congr {α : Type} {decode : Json → Option α} {tree later : FileTree}
    {directory other : Path} {found : Option α}
    (h : later.kindOf (other.join stateFile) = tree.kindOf (directory.join stateFile))
    (hload : loadState decode tree directory = .ok found) :
    loadState decode later other = .ok found := by
  unfold loadState at hload ⊢
  dsimp only at hload ⊢
  rw [contains_eq] at hload ⊢
  rw [h]
  cases hkind : tree.kindOf (directory.join stateFile) with
  | none =>
    simpa [hkind] using hload
  | some kind =>
    rw [hkind] at h hload
    rw [Option.isSome_some, if_pos rfl] at hload ⊢
    cases kind with
    | none =>
      rw [read_of_directory hkind] at hload
      cases hload
    | some text =>
      rw [read_eq_ok_iff.2 hkind] at hload
      rw [read_eq_ok_iff.2 h]
      dsimp only at hload ⊢
      cases hdecode : (Json.read? text).bind decode with
      | none =>
        rw [hdecode] at hload
        cases hload
      | some state =>
        rw [hdecode] at hload
        exact hload

theorem Policy.isSome_of_loadState {α : Type} {decode : Json → Option α} {tree : FileTree}
    {directory : Path} {text : String} {found : Option α}
    (hread : tree.read (directory.join stateFile) = .ok text)
    (hload : loadState decode tree directory = .ok found) : (Json.read? text).isSome = true := by
  have hkind := read_eq_ok_iff.1 hread
  unfold loadState at hload
  dsimp only at hload
  rw [contains_eq, hkind, Option.isSome_some, if_pos rfl, hread] at hload
  dsimp only at hload
  cases hwritten : Json.read? text with
  | some value => rfl
  | none =>
    rw [hwritten] at hload
    cases hload

/-- The type loads its policies from their state files, and those have to be JSON. -/
structure Registration.ReadsState {π : Type} (registration : Registration π) : Prop where
  congr : ∀ ⦃tree later : FileTree⦄ ⦃directory other : Path⦄ ⦃found : Option π⦄,
    later.kindOf (other.join Policy.stateFile) = tree.kindOf (directory.join Policy.stateFile) →
    registration.load tree directory = .ok found → registration.load later other = .ok found
  isSome : ∀ ⦃tree : FileTree⦄ ⦃directory : Path⦄ ⦃text : String⦄ ⦃found : Option π⦄,
    tree.read (directory.join Policy.stateFile) = .ok text →
    registration.load tree directory = .ok found → (Json.read? text).isSome = true

theorem Registration.readsState_ofCodec {α π : Type} (typeName modulePath : String)
    (create : Spec → Except ConfigError α) (decode : Json → Option α) (f : α → π) :
    ((ofCodec typeName modulePath create decode).map f).ReadsState := by
  constructor
  · intro tree later directory other found h hload
    unfold map at hload ⊢
    dsimp only at hload ⊢
    obtain ⟨state, hstate, rfl⟩ := map_eq_ok_iff.1 hload
    have hbefore : Policy.loadState decode tree directory = .ok state := hstate
    have hlater := Policy.loadState_congr h hbefore
    exact map_eq_ok_iff.2 ⟨state, hlater, rfl⟩
  · intro tree directory text found hread hload
    unfold map at hload
    dsimp only at hload
    obtain ⟨state, hstate, -⟩ := map_eq_ok_iff.1 hload
    have hloaded : Policy.loadState decode tree directory = .ok state := hstate
    exact Policy.isSome_of_loadState hread hloaded

theorem BuiltinPolicy.exists_codec {registration : Registration BuiltinPolicy}
    (h : registration ∈ registrations) :
    ∃ (α : Type) (typeName modulePath : String) (create : Spec → Except ConfigError α)
      (decode : Json → Option α) (f : α → BuiltinPolicy),
      registration = (Registration.ofCodec typeName modulePath create decode).map f := by
  unfold registrations at h
  simp only [List.mem_cons, List.not_mem_nil, or_false] at h
  rcases h with rfl | rfl | rfl | rfl | rfl <;> exact ⟨_, _, _, _, _, _, rfl⟩

namespace Registry

variable {π : Type}

theorem mem_foldl_register {entries : List (Registration π)} {registry : Registry π}
    {registration : Registration π} (h : registration ∈ (entries.foldl register registry).entries) :
    registration ∈ registry.entries ∨ registration ∈ entries := by
  induction entries generalizing registry with
  | nil => exact Or.inl h
  | cons entry rest ih =>
    rcases ih h with h | h
    · rcases List.mem_append.1 h with h | h
      · exact Or.inl (List.mem_filter.1 h).1
      · exact Or.inr (List.mem_singleton.1 h ▸ List.mem_cons_self)
    · exact Or.inr (List.mem_cons_of_mem _ h)

theorem mem_of_resolve {registry : Registry π} {name : String} {registration : Registration π}
    (h : registry.resolve name = some registration) : registration ∈ registry.entries := by
  unfold resolve at h
  split at h
  · rename_i hfound
    cases h
    exact List.mem_of_find?_eq_some hfound
  · split at h
    · cases h
    · exact List.mem_reverse.1 (List.mem_of_find?_eq_some h)

theorem readsState_builtin {name : String} {registration : Registration BuiltinPolicy}
    (h : Registry.builtin.resolve name = some registration) : registration.ReadsState := by
  have hmem := (mem_foldl_register (mem_of_resolve h)).resolve_left List.not_mem_nil
  obtain ⟨α, typeName, modulePath, create, decode, f, rfl⟩ := BuiltinPolicy.exists_codec hmem
  exact Registration.readsState_ofCodec typeName modulePath create decode f

end Registry

theorem Metadata.read_eq_ok_iff {tree : FileTree} {directory : Path} {metadata : Metadata} :
    Metadata.read tree directory = .ok metadata ↔
      ∃ text, tree.read (directory.join fileName) = .ok text ∧
        (Json.read? text).bind ofJson? = some metadata := by
  unfold Metadata.read
  dsimp only
  cases tree.read (directory.join fileName) with
  | error failure => simp
  | ok text => cases hdecode : (Json.read? text).bind ofJson? <;> simp [hdecode]

def ModelEntry.folder (entry : ModelEntry) : String := (Path.mk entry.directory).folder

namespace Ensemble

section

variable {π : Type} [Policy π] {registry : Registry π} {tree later : FileTree} {model : Path}
  {entry : ModelEntry} {found : Option π}

omit [Policy π] in
theorem resolveEntry_eq_ok_iff {registration : Registration π} :
    resolveEntry registry entry = .ok registration ↔
      registry.resolve entry.qualifiedName = some registration ∧
        (Path.mk entry.directory).isSingleName = true := by
  unfold resolveEntry
  cases registry.resolve entry.qualifiedName with
  | none => simp
  | some other => cases (Path.mk entry.directory).isSingleName <;> simp

theorem checkLoaded_eq_ok_iff {registration : Registration π} {policy checked : π} :
    checkLoaded registration policy = .ok checked ↔
      policy = checked ∧ Policy.qualifiedName policy = registration.qualifiedName := by
  unfold checkLoaded
  split <;> simp [*]

theorem loadEntry_eq_ok_iff : loadEntry registry tree model entry = .ok found ↔
    ∃ registration, registry.resolve entry.qualifiedName = some registration ∧
      (Path.mk entry.directory).isSingleName = true ∧
      registration.load tree (model.join entry.directory) = .ok found ∧
      ∀ policy ∈ found, Policy.qualifiedName policy = registration.qualifiedName := by
  unfold loadEntry
  simp only [bind_eq_ok_iff, mapError_eq_ok_iff, resolveEntry_eq_ok_iff]
  constructor
  · rintro ⟨registration, ⟨hresolve, hsingle⟩, slot, hload, hslot⟩
    refine ⟨registration, hresolve, hsingle, ?_⟩
    cases slot with
    | none =>
      cases hslot
      exact ⟨hload, by simp⟩
    | some policy =>
      simp only [bind_eq_ok_iff, mapError_eq_ok_iff, checkLoaded_eq_ok_iff] at hslot
      obtain ⟨_, ⟨rfl, hname⟩, hsome⟩ := hslot
      cases hsome
      exact ⟨hload, by simpa using hname⟩
  · rintro ⟨registration, hresolve, hsingle, hload, hname⟩
    refine ⟨registration, ⟨hresolve, hsingle⟩, found, hload, ?_⟩
    cases found with
    | none => rfl
    | some policy =>
      simp only [bind_eq_ok_iff, mapError_eq_ok_iff, checkLoaded_eq_ok_iff]
      exact ⟨policy, ⟨rfl, hname policy rfl⟩, rfl⟩

theorem load_eq_ok_iff {ensemble : Ensemble π} {noticed : List Warning} :
    load registry tree model = .ok (ensemble, noticed) ↔
      ∃ metadata slots, Metadata.read tree model = .ok metadata ∧ metadata.verify = .ok () ∧
        metadata.policies.mapM (loadEntry registry tree model) = .ok slots ∧
        ensemble = ofLoaded metadata slots ∧
        noticed = loadWarnings metadata slots ++ ensemble.warnings := by
  unfold load
  simp only [bind_eq_ok_iff, mapError_eq_ok_iff]
  constructor
  · rintro ⟨metadata, hread, ⟨⟩, hverify, slots, hslots, h⟩
    cases h
    exact ⟨metadata, slots, hread, hverify, hslots, rfl, rfl⟩
  · rintro ⟨metadata, slots, hread, hverify, hslots, rfl, rfl⟩
    exact ⟨metadata, hread, (), hverify, slots, hslots, rfl⟩

end

section

variable {before loaded ensemble : Ensemble BuiltinPolicy} {tree later : FileTree} {model : Path}
  {base : List String} {written : List (String × Json)} {entry : ModelEntry}
  {found : Option BuiltinPolicy} {metadata : Metadata}

theorem leads_of_metadata (h : Metadata.read tree model = .ok metadata) :
    ∃ base, tree.Leads model base := by
  have hopen := Path.endsOpen_join model isName_fileName
  obtain ⟨text, hread, _⟩ := Metadata.read_eq_ok_iff.1 h
  obtain ⟨names, hpath, hkind⟩ := (kindOf_eq_some_iff hopen).1 (read_eq_ok_iff.1 hread)
  obtain ⟨base, hbase, rfl⟩ := locate_join isName_fileName hpath
  exact ⟨base, hbase, kindAt_of_append (List.cons_ne_nil _ _) hkind⟩

theorem metadata_eq_ok_iff (h : tree.Leads model base) :
    Metadata.read tree model = .ok metadata ↔
      ∃ text, tree.kindAt (base ++ [Metadata.fileName]) = some (some text) ∧
        (Json.read? text).bind Metadata.ofJson? = some metadata := by
  simp only [Metadata.read_eq_ok_iff, read_eq_ok_iff,
    kindOf_join h isName_fileName nameable_fileName]

theorem read_metadata_congr (h : tree.Leads model base) (hlater : later.Leads model base)
    (hsame : later.kindAt (base ++ [Metadata.fileName]) = tree.kindAt (base ++ [Metadata.fileName]))
    (hmetadata : Metadata.read tree model = .ok metadata) :
    Metadata.read later model = .ok metadata := by
  rw [metadata_eq_ok_iff h, ← hsame] at hmetadata
  exact (metadata_eq_ok_iff hlater).2 hmetadata

theorem Overwritten.read_metadata (hover : Overwritten tree later base written)
    (h : tree.Leads model base) (hmetadata : Metadata.read tree model = .ok metadata) :
    Metadata.read later model = .ok metadata :=
  read_metadata_congr h (h.of_grows hover.grows) hover.metadata hmetadata

theorem loadEntry_congr (h : tree.Leads model base) (hlater : later.Leads model base)
    (hsame : later.kindAt (base ++ [entry.folder, Policy.stateFile]) =
      tree.kindAt (base ++ [entry.folder, Policy.stateFile]))
    (hload : loadEntry .builtin tree model entry = .ok found) :
    loadEntry .builtin later model entry = .ok found := by
  obtain ⟨registration, hresolve, hsingle, hfound, hname⟩ := loadEntry_eq_ok_iff.1 hload
  have hkind : later.kindOf ((model.join entry.directory).join Policy.stateFile) =
      tree.kindOf ((model.join entry.directory).join Policy.stateFile) := by
    ext kind
    rw [kindOf_inside hlater hsingle isName_stateFile nameable_stateFile,
      kindOf_inside h hsingle isName_stateFile nameable_stateFile]
    exact and_congr_right fun _ => by rw [← ModelEntry.folder, hsame]
  have hagain := (Registry.readsState_builtin hresolve).congr hkind hfound
  exact loadEntry_eq_ok_iff.2 ⟨registration, hresolve, hsingle, hagain, hname⟩

theorem Overwritten.read_state (hover : Overwritten tree later base written)
    (h : tree.Leads model base) {directory : String} {state : Json}
    (hsingle : (Path.mk directory).isSingleName = true)
    (hmem : ((Path.mk directory).folder, state) ∈ written) :
    later.read ((model.join directory).join Policy.stateFile) = .ok state.pretty := by
  rw [read_eq_ok_iff,
    kindOf_inside (h.of_grows hover.grows) hsingle isName_stateFile nameable_stateFile]
  exact ⟨hover.nameable _ _ hmem, hover.states _ _ hmem⟩

/-- A recorded policy, as it was loaded before a failed write and as it is loaded after it. -/
structure Remnant where
  entry : ModelEntry
  before : Option BuiltinPolicy
  after : Option BuiltinPolicy

/-- Nothing was written to the policy's directory, and it is the same; or it is what is loaded from
the state that the ensemble wrote there, which is the ensemble's policy itself if it is of the
recorded type and its thresholds read back. -/
inductive Remnant.Explained (ensemble : Ensemble BuiltinPolicy) (written : List (String × Json))
    (remnant : Remnant) : Prop where
  | kept (hkept : ∀ state, (remnant.entry.folder, state) ∉ written)
      (hsame : remnant.after = remnant.before)
  | replaced (policy : BuiltinPolicy) (state : Json) (registration : Registration BuiltinPolicy)
      (hpolicy : (remnant.entry.folder, policy) ∈ ensemble.labelled)
      (hstate : Policy.state policy = some state)
      (hwritten : (remnant.entry.folder, state) ∈ written)
      (hresolve : Registry.builtin.resolve remnant.entry.qualifiedName = some registration)
      (hload : ∀ tree directory, tree.read (directory.join Policy.stateFile) = .ok state.pretty →
        registration.load tree directory = .ok remnant.after)
      (hsame : policy.Exact → Policy.qualifiedName policy = remnant.entry.qualifiedName →
        remnant.after = some policy)

theorem Overwritten.explained (hover : Overwritten tree later base written)
    (hbegins : written <+: statesOf ensemble.labelled) (h : tree.Leads model base)
    {slot : Option BuiltinPolicy} (hload : loadEntry .builtin tree model entry = .ok slot)
    (hlater : loadEntry .builtin later model entry = .ok found) :
    Remnant.Explained ensemble written ⟨entry, slot, found⟩ := by
  by_cases hkept : ∀ state, (entry.folder, state) ∉ written
  · have hsame := loadEntry_congr h (h.of_grows hover.grows) (hover.kept _ hkept) hload
    exact .kept hkept (Except.ok.inj (hlater.symm.trans hsame))
  · simp only [not_forall, not_not] at hkept
    obtain ⟨state, hwritten⟩ := hkept
    obtain ⟨policy, hpolicy, hstate⟩ := mem_statesOf.1 (hbegins.subset hwritten)
    obtain ⟨registration, hresolve, hsingle, hfound, _⟩ := loadEntry_eq_ok_iff.1 hlater
    have hread := hover.read_state h hsingle hwritten
    refine .replaced policy state registration hpolicy hstate hwritten hresolve ?_ ?_
    · intro other directory hother
      refine (Registry.readsState_builtin hresolve).congr ?_ hfound
      rw [read_eq_ok_iff.1 hother, read_eq_ok_iff.1 hread]
    · intro hexact hname
      obtain ⟨registration', state', hrestores⟩ := BuiltinPolicy.restores hexact
      cases hrestores.state_eq.symm.trans hstate
      have hresolve' := hrestores.resolve_eq
      rw [hname, hresolve] at hresolve'
      cases hresolve'
      exact Except.ok.inj (hfound.symm.trans (hrestores.load_eq hread))

theorem exists_remnants {entries : List ModelEntry} {old new : List (Option BuiltinPolicy)}
    (hold : entries.map (loadEntry .builtin tree model) = old.map .ok)
    (hnew : entries.map (loadEntry .builtin later model) = new.map .ok) :
    ∃ remnants : List Remnant, remnants.map (·.entry) = entries ∧ remnants.map (·.before) = old ∧
      remnants.map (·.after) = new ∧ ∀ remnant ∈ remnants,
        loadEntry .builtin tree model remnant.entry = .ok remnant.before ∧
        loadEntry .builtin later model remnant.entry = .ok remnant.after := by
  induction entries generalizing old new with
  | nil =>
    rw [List.map_nil, eq_comm, List.map_eq_nil_iff] at hold hnew
    exact ⟨[], rfl, hold.symm, hnew.symm, by simp⟩
  | cons entry rest ih =>
    cases old with
    | nil => cases hold
    | cons before old =>
      cases new with
      | nil => cases hnew
      | cons after new =>
        rw [List.map_cons, List.map_cons, List.cons.injEq] at hold hnew
        obtain ⟨remnants, rfl, rfl, rfl, hall⟩ := ih hold.2 hnew.2
        refine ⟨⟨entry, before, after⟩ :: remnants, rfl, rfl, rfl, ?_⟩
        exact List.forall_mem_cons.2 ⟨⟨hold.1, hnew.1⟩, hall⟩

theorem BuiltinPolicy.exists_members {policy : BuiltinPolicy} {state : Json}
    (h : Policy.state policy = some state) : ∃ members, state = .obj members := by
  cases policy <;> cases h <;> exact ⟨_, rfl⟩

theorem LeftBehind.exists_overwritten {now : Timestamp} {remarks : List Warning}
    (hleft : LeftBehind ensemble.labelled (ensemble.metadata now).toJson.pretty tree later base written)
    (h : tree.Leads model base) (hload : load .builtin later model = .ok (loaded, remarks)) :
    ∃ middle, Overwritten tree middle base written ∧
      load .builtin middle model = .ok (loaded, remarks) := by
  have hlater := h.of_grows hleft.grows
  obtain ⟨metadata, slots, hmetadata, hverify, hslots, hloaded, hremarks⟩ := load_eq_ok_iff.1 hload
  cases hleft with
  | between hover => exact ⟨later, hover, hload⟩
  | @state middle label state hover hnext hnameable hcut =>
    have hmiddle := h.of_grows hover.grows
    refine ⟨middle, hover, load_eq_ok_iff.2 ⟨metadata, slots, ?_, hverify, ?_, hloaded, hremarks⟩⟩
    · refine read_metadata_congr hlater hmiddle ?_ hmetadata
      exact (hcut.sameBut _ (by simp)).symm
    · refine mapM_eq_ok_of_imp (fun entry _ slot hslot => ?_) hslots
      refine loadEntry_congr hlater hmiddle (hcut.sameBut _ ?_).symm hslot
      intro hplace
      have hlabel : entry.folder = label := by simpa using hplace
      obtain ⟨registration, hresolve, hsingle, hfound, -⟩ := loadEntry_eq_ok_iff.1 hslot
      obtain ⟨left, hbegins, hpart, hkind⟩ := hcut.beginning
      -- The entry would have been loaded from the text that was cut off.
      have hread : later.read ((model.join entry.directory).join Policy.stateFile) = .ok left := by
        rw [read_eq_ok_iff, kindOf_inside hlater hsingle isName_stateFile nameable_stateFile]
        rw [← ModelEntry.folder, hlabel]
        exact ⟨hnameable, hkind⟩
      have hsome := (Registry.readsState_builtin hresolve).isSome hread hfound
      obtain ⟨policy, -, hstate⟩ := mem_statesOf.1 (hnext.subset (List.mem_append_right _
        (List.mem_singleton_self _)))
      obtain ⟨members, rfl⟩ := BuiltinPolicy.exists_members hstate
      rw [Json.read?_of_cut hbegins hpart] at hsome
      cases hsome
  | metadata hover hcut =>
    obtain ⟨left, hbegins, hpart, hkind⟩ := hcut.beginning
    obtain ⟨text, htext, hread⟩ := (metadata_eq_ok_iff hlater).1 hmetadata
    cases hkind.symm.trans htext
    rw [Json.read?_of_cut hbegins hpart] at hread
    cases hread

/-- Where a model could be loaded and another ensemble could not be written over it, for whatever
reason and however far the writing got, the states of the first few policies of that ensemble were
written. If anything is loaded then, it has the time and the domain of the old model and the policies
that it names, and each of them is the old one or has a state that was written. -/
theorem load_after_failed_persist {now : Timestamp} {noticed : List Warning}
    (hload : load .builtin tree model = .ok (before, noticed))
    (hfailed : ensemble.PersistFails now tree model later) :
    ∃ metadata written, Metadata.read tree model = .ok metadata ∧
      written <+: statesOf ensemble.labelled ∧
      (∀ label state, (label, state) ∈ written →
        later.read ((model.join label).join Policy.stateFile) = .ok state.pretty) ∧
      ∀ loaded remarks, load .builtin later model = .ok (loaded, remarks) →
        loaded.trainedAt = before.trainedAt ∧ loaded.domainFingerprint = before.domainFingerprint ∧
        ∃ remnants : List Remnant, remnants.map (·.entry) = metadata.policies ∧
          remnants.filterMap (·.before) = before.policies ∧
          remnants.filterMap (·.after) = loaded.policies ∧
          ∀ remnant ∈ remnants, remnant.Explained ensemble written := by
  obtain ⟨metadata, old, hmetadata, -, hold, rfl, -⟩ := load_eq_ok_iff.1 hload
  obtain ⟨base, hleads⟩ := leads_of_metadata hmetadata
  obtain ⟨written, hbegins, hleft⟩ :=
    leftBehind_of_persistFails (fun policy _ => policy.no_separator) hleads hfailed
  refine ⟨metadata, written, hmetadata, hbegins, ?_, ?_⟩
  · intro label state hmem
    obtain ⟨policy, hpolicy, _⟩ := mem_statesOf.1 (hbegins.subset hmem)
    have hname := isName_of_mem_labelled (fun policy _ => policy.no_separator) hpolicy
    rw [read_eq_ok_iff, kindOf_inside (hleads.of_grows hleft.grows)
      (Path.isSingleName_of_isName hname) isName_stateFile nameable_stateFile,
      Path.folder_of_isName hname]
    exact hleft.states ensemble.nodup_labels hmem
  · intro loaded remarks hloaded
    obtain ⟨middle, hover, hmiddle⟩ := hleft.exists_overwritten hleads hloaded
    obtain ⟨metadata', new, hmetadata', -, hnew, rfl, -⟩ := load_eq_ok_iff.1 hmiddle
    cases (hover.read_metadata hleads hmetadata).symm.trans hmetadata'
    obtain ⟨remnants, hentries, rfl, rfl, hall⟩ :=
      exists_remnants (mapM_eq_ok_iff.1 hold) (mapM_eq_ok_iff.1 hnew)
    refine ⟨rfl, rfl, remnants, hentries, ?_, ?_, ?_⟩
    · simp [ofLoaded, List.filterMap_map]
    · simp [ofLoaded, List.filterMap_map]
    · intro remnant hmem
      obtain ⟨hbefore, hafter⟩ := hall remnant hmem
      exact hover.explained hbegins hleads hbefore hafter

end

/-- A model directory in which the second policy has no room. -/
def blocked : FileTree := .directory [("model", .directory [("policy_1_RulePolicy", .file "")])]

def plain : Ensemble BuiltinPolicy where
  policies := [.memoization .default]
  trainedAt := some ⟨2024, 1, 1, 0, 0, 0, 0⟩

def grown : Ensemble BuiltinPolicy where
  policies := [.memoization ⟨3, ⟨7, ∅⟩⟩, .rule .default]
  trainedAt := some ⟨2025, 1, 1, 0, 0, 0, 0⟩

def stored : FileTree := (plain.persist ⟨2024, 1, 1, 0, 0, 0, 0⟩ blocked ⟨"model"⟩).1

theorem persist_plain :
    plain.persist ⟨2024, 1, 1, 0, 0, 0, 0⟩ blocked ⟨"model"⟩ = (stored, .ok ()) := by
  have hsucceeds : (plain.persist ⟨2024, 1, 1, 0, 0, 0, 0⟩ blocked ⟨"model"⟩).2.isOk = true := by
    decide +kernel
  obtain ⟨_, hok⟩ := exists_of_isOk hsucceeds
  exact Prod.ext rfl hok

theorem restores_plain : ∀ policy ∈ plain.policies, ∃ registration state,
    Registry.builtin.Restores policy registration state := by
  intro policy hmem
  rw [List.mem_singleton.1 hmem]
  exact BuiltinPolicy.restores trivial

theorem load_stored : load .builtin stored ⟨"model"⟩ = .ok (plain, plain.warnings) :=
  load_of_restores restores_plain rfl ⟨by decide, by decide, by decide⟩ persist_plain

def overrun : FileTree := (grown.persist ⟨2025, 1, 1, 0, 0, 0, 0⟩ stored ⟨"model"⟩).1

theorem persist_grown : ∃ error,
    grown.persist ⟨2025, 1, 1, 0, 0, 0, 0⟩ stored ⟨"model"⟩ = (overrun, .error error) := by
  have hfails : (grown.persist ⟨2025, 1, 1, 0, 0, 0, 0⟩ stored ⟨"model"⟩).2.isOk = false := by
    decide +kernel
  cases houtcome : (grown.persist ⟨2025, 1, 1, 0, 0, 0, 0⟩ stored ⟨"model"⟩).2 with
  | ok =>
    rw [houtcome] at hfails
    cases hfails
  | error error => exact ⟨error, Prod.ext rfl houtcome⟩

theorem read_overrun : overrun.read ((Path.join ⟨"model"⟩ "policy_0_MemoizationPolicy").join
    Policy.stateFile) = .ok (MemoizationPolicy.mk 3 ⟨7, ∅⟩).toJson.pretty := by
  have htext : (overrun.read ((Path.join ⟨"model"⟩ "policy_0_MemoizationPolicy").join
      Policy.stateFile)).toOption = some (MemoizationPolicy.mk 3 ⟨7, ∅⟩).toJson.pretty := by
    decide +kernel
  cases hread : overrun.read ((Path.join ⟨"model"⟩ "policy_0_MemoizationPolicy").join
      Policy.stateFile) with
  | error failure =>
    rw [hread] at htext
    cases htext
  | ok found =>
    rw [hread] at htext
    exact congrArg Except.ok (Option.some.inj htext)

theorem metadata_stored : Metadata.read stored ⟨"model"⟩ =
    .ok (plain.metadata ⟨2024, 1, 1, 0, 0, 0, 0⟩) :=
  Metadata.read_of_written ⟨by decide, by decide, by decide⟩
    (read_metadata (fun policy _ => policy.no_separator) persist_plain)

theorem loadEntry_overrun : loadEntry .builtin overrun ⟨"model"⟩
    ⟨"colloquy::policy::memoization::MemoizationPolicy", "policy_0_MemoizationPolicy"⟩ =
      .ok (some (.memoization ⟨3, ⟨7, ∅⟩⟩)) := by
  have hname : Path.IsName "policy_0_MemoizationPolicy" :=
    ⟨by decide, by decide, by decide, by decide⟩
  have hexact : BuiltinPolicy.Exact (.memoization ⟨3, ⟨7, ∅⟩⟩) := trivial
  obtain ⟨registration, state, hrestores⟩ := BuiltinPolicy.restores hexact
  refine loadEntry_of_written hname hrestores ?_
  cases hrestores.state_eq
  exact read_overrun

theorem load_overrun : ∃ loaded remarks, load .builtin overrun ⟨"model"⟩ = .ok (loaded, remarks) ∧
    loaded.policies = [.memoization ⟨3, ⟨7, ∅⟩⟩] := by
  obtain ⟨error, hfailed⟩ := persist_grown
  obtain ⟨base, hleads⟩ := leads_of_metadata metadata_stored
  obtain ⟨written, -, hover⟩ :=
    overwritten_of_persist (fun policy _ => policy.no_separator) hleads hfailed
  have hslots : (plain.metadata ⟨2024, 1, 1, 0, 0, 0, 0⟩).policies.mapM
      (loadEntry .builtin overrun ⟨"model"⟩) = .ok [some (.memoization ⟨3, ⟨7, ∅⟩⟩)] :=
    mapM_eq_ok_iff.2 (congrArg (· :: []) loadEntry_overrun)
  exact ⟨_, _, load_eq_ok_iff.2 ⟨_, _, hover.read_metadata hleads metadata_stored,
    Metadata.verify_current _ _ _ _, hslots, rfl, rfl⟩, rfl⟩

theorem trainedAt_overrun : load .builtin stored ⟨"model"⟩ = .ok (plain, plain.warnings) ∧
    (∃ error, grown.persist ⟨2025, 1, 1, 0, 0, 0, 0⟩ stored ⟨"model"⟩ = (overrun, .error error)) ∧
    ∃ loaded remarks, load .builtin overrun ⟨"model"⟩ = .ok (loaded, remarks) ∧
      loaded.trainedAt = plain.trainedAt := by
  obtain ⟨error, hfailed⟩ := persist_grown
  obtain ⟨_, _, _, _, _, hloads⟩ :=
    load_after_failed_persist load_stored (persistFails_of_persist hfailed)
  obtain ⟨loaded, remarks, hloaded, _⟩ := load_overrun
  exact ⟨load_stored, ⟨error, hfailed⟩, loaded, remarks, hloaded, (hloads _ _ hloaded).1⟩

/-- The plain ensemble was stored, and the other one could not be. What is loaded then is neither of
them: its policy looks as far back as the other one. -/
theorem not_whole_after_failed_persist :
    ¬ ∀ (before ensemble loaded : Ensemble BuiltinPolicy) (tree later : FileTree) (model : Path)
      (now : Timestamp) (error : ModelError) (noticed remarks : List Warning),
      load .builtin tree model = .ok (before, noticed) →
      ensemble.persist now tree model = (later, .error error) →
      load .builtin later model = .ok (loaded, remarks) →
      loaded.policies = before.policies ∧ loaded.trainedAt = before.trainedAt ∧
        loaded.domainFingerprint = before.domainFingerprint := by
  intro hwhole
  obtain ⟨error, hfailed⟩ := persist_grown
  obtain ⟨loaded, remarks, hloaded, hpolicies⟩ := load_overrun
  obtain ⟨hsame, -⟩ := hwhole _ _ _ _ _ _ _ _ _ _ load_stored hfailed hloaded
  rw [hpolicies] at hsame
  cases hsame

end Ensemble

end Dialogue
