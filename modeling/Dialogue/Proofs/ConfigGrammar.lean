import Dialogue.Proofs.ConfigEntries
import Mathlib.Data.List.Forall2

namespace Dialogue.Spec

/-! ### The grammar -/

/-- Only one of the two keys is there, and this is its value. A null value counts. -/
def Sole (members : List (String × Json)) (value : Json) : Prop :=
  members.lookup "policy" = some value ∧ members.lookup "policies" = none ∨
    members.lookup "policy" = none ∧ members.lookup "policies" = some value

/-- The configuration is a mapping that has these items, at least one, under its one key. -/
inductive Lists : Json → List Json → Prop
  | mk {members : List (String × Json)} {items : List Json} (hne : items ≠ [])
      (hsole : Sole members (.arr items)) : Lists (.obj members) items

/-- What is wrong with a configuration. Of malformed entries the first counts. -/
inductive Misconfigured : Json → ConfigFault → Prop
  | notMapping {config : Json} (h : ∀ members, config ≠ .obj members) :
      Misconfigured config .notMapping
  | bothKeys {members : List (String × Json)} (h : members.lookup "policy" ≠ none)
      (h' : members.lookup "policies" ≠ none) : Misconfigured (.obj members) .bothKeys
  | missingKey {members : List (String × Json)} (h : members.lookup "policy" = none)
      (h' : members.lookup "policies" = none) : Misconfigured (.obj members) .missingKey
  | notList {members : List (String × Json)} {value : Json} (hsole : Sole members value)
      (h : ∀ items, value ≠ .arr items) : Misconfigured (.obj members) .notList
  | emptyList {members : List (String × Json)} (hsole : Sole members (.arr [])) :
      Misconfigured (.obj members) .emptyList
  | entry {config entry : Json} {before after : List Json} {fault : ConfigFault}
      (hlists : Lists config (before ++ entry :: after))
      (hbefore : ∀ earlier ∈ before, IsEntry earlier)
      (hentry : Malformed before.length entry fault) : Misconfigured config fault

section

variable {members : List (String × Json)} {fault : ConfigFault}

/-! ### The entries of a configuration -/

theorem sole_cases (members : List (String × Json)) :
    (∃ value, Sole members value) ∨
      members.lookup "policy" ≠ none ∧ members.lookup "policies" ≠ none ∨
      members.lookup "policy" = none ∧ members.lookup "policies" = none := by
  unfold Sole
  cases members.lookup "policy" <;> cases members.lookup "policies" <;> simp

def listed : Json → Except ConfigFault (List Json)
  | .arr [] => .error .emptyList
  | .arr items => .ok items
  | _ => .error .notList

theorem entries_of_sole {value : Json} (h : Sole members value) :
    entries members = listed value := by
  unfold entries
  rcases h with ⟨h, h'⟩ | ⟨h, h'⟩ <;> rw [h, h'] <;> rfl

theorem entries_of_both (h : members.lookup "policy" ≠ none)
    (h' : members.lookup "policies" ≠ none) : entries members = .error .bothKeys := by
  obtain ⟨value, hvalue⟩ := Option.ne_none_iff_exists'.1 h
  obtain ⟨other, hother⟩ := Option.ne_none_iff_exists'.1 h'
  rw [entries, hvalue, hother]

theorem entries_of_neither (h : members.lookup "policy" = none)
    (h' : members.lookup "policies" = none) : entries members = .error .missingKey := by
  rw [entries, h, h']

theorem listed_eq_ok_iff {value : Json} {items : List Json} :
    listed value = .ok items ↔ items ≠ [] ∧ value = .arr items := by
  cases value with
  | arr written =>
    cases written with
    | nil => simp +contextual [listed, eq_comm]
    | cons item rest => simp +contextual [listed, eq_comm]
  | _ => simp [listed]

theorem listed_eq_error_iff {value : Json} : listed value = .error fault ↔
    value = .arr [] ∧ fault = .emptyList ∨ (∀ items, value ≠ .arr items) ∧ fault = .notList := by
  cases value with
  | arr written =>
    cases written with
    | nil => simp [listed, eq_comm]
    | cons item rest => simp [listed]
  | _ => simp [listed, eq_comm]

theorem entries_eq_ok_iff {items : List Json} :
    entries members = .ok items ↔ items ≠ [] ∧ Sole members (.arr items) := by
  constructor
  · intro h
    rcases sole_cases members with ⟨value, hsole⟩ | ⟨hpolicy, hpolicies⟩ | ⟨hpolicy, hpolicies⟩
    · rw [entries_of_sole hsole, listed_eq_ok_iff] at h
      obtain ⟨hne, rfl⟩ := h
      exact ⟨hne, hsole⟩
    · rw [entries_of_both hpolicy hpolicies] at h
      cases h
    · rw [entries_of_neither hpolicy hpolicies] at h
      cases h
  · rintro ⟨hne, hsole⟩
    rw [entries_of_sole hsole]
    exact listed_eq_ok_iff.2 ⟨hne, rfl⟩

theorem misconfigured_of_entries (h : entries members = .error fault) :
    Misconfigured (.obj members) fault := by
  rcases sole_cases members with ⟨value, hsole⟩ | ⟨hpolicy, hpolicies⟩ | ⟨hpolicy, hpolicies⟩
  · rw [entries_of_sole hsole, listed_eq_error_iff] at h
    rcases h with ⟨rfl, rfl⟩ | ⟨hitems, rfl⟩
    · exact .emptyList hsole
    · exact .notList hsole hitems
  · rw [entries_of_both hpolicy hpolicies] at h
    cases h
    exact .bothKeys hpolicy hpolicies
  · rw [entries_of_neither hpolicy hpolicies] at h
    cases h
    exact .missingKey hpolicy hpolicies

/-! ### Reading a configuration -/

theorem mapM_ofEntry_eq_ok_iff {items : List Json} {specs : List Spec} :
    (items.zipIdx.mapM fun (entry, index) => ofEntry index entry) = .ok specs ↔
      List.Forall₂ (fun entry spec => ofEntry 0 entry = .ok spec) items specs := by
  rw [mapM_eq_ok_iff, ← List.forall₂_eq_eq_eq, List.forall₂_map_left_iff,
    List.forall₂_map_right_iff]
  conv_rhs => rw [← List.zipIdx_map_fst 0 items, List.forall₂_map_left_iff]
  simp only [ofEntry_eq_ok_iff_zero]

theorem mapM_ofEntry_eq_error_iff {items : List Json} :
    (items.zipIdx.mapM fun (entry, index) => ofEntry index entry) = .error fault ↔
      ∃ before entry after, items = before ++ entry :: after ∧
        (∀ earlier ∈ before, IsEntry earlier) ∧ Malformed before.length entry fault := by
  simp only [mapM_eq_error_iff, exists_ofEntry_iff, ofEntry_eq_error_iff]
  constructor
  · rintro ⟨before, ⟨entry, index⟩, after, hsplit, hbefore, hentry⟩
    obtain ⟨before, rest, rfl, rfl, hrest⟩ := List.zipIdx_eq_append_iff.1 hsplit
    obtain ⟨first, after, rfl, hfirst, -⟩ := List.zipIdx_eq_cons_iff.1 hrest.symm
    obtain ⟨rfl, rfl⟩ := Prod.mk.inj hfirst
    rw [Nat.zero_add] at hentry
    refine ⟨before, entry, after, rfl, fun earlier hearlier => ?_, hentry⟩
    rw [← List.zipIdx_map_fst 0 before] at hearlier
    obtain ⟨pair, hpair, rfl⟩ := List.mem_map.1 hearlier
    exact hbefore pair hpair
  · rintro ⟨before, entry, after, rfl, hbefore, hentry⟩
    refine ⟨before.zipIdx, (entry, before.length), after.zipIdx (before.length + 1), ?_, ?_, hentry⟩
    · simp [List.zipIdx_append]
    · rintro ⟨earlier, index⟩ hearlier
      exact hbefore earlier (List.fst_mem_of_mem_zipIdx hearlier)

theorem ofConfig_eq_ok_iff {config : Json} {specs : List Spec} : ofConfig config = .ok specs ↔
    ∃ items, Lists config items ∧
      List.Forall₂ (fun entry spec => ofEntry 0 entry = .ok spec) items specs := by
  constructor
  · intro h
    cases config with
    | obj members =>
      obtain ⟨items, hitems, hspecs⟩ := bind_eq_ok_iff.1 h
      obtain ⟨hne, hsole⟩ := entries_eq_ok_iff.1 hitems
      exact ⟨items, .mk hne hsole, mapM_ofEntry_eq_ok_iff.1 hspecs⟩
    | _ => cases h
  · rintro ⟨items, ⟨hne, hsole⟩, hspecs⟩
    exact bind_eq_ok_iff.2
      ⟨items, entries_eq_ok_iff.2 ⟨hne, hsole⟩, mapM_ofEntry_eq_ok_iff.2 hspecs⟩

theorem ofConfig_eq_error_iff {config : Json} :
    ofConfig config = .error fault ↔ Misconfigured config fault := by
  constructor
  · intro h
    cases config with
    | obj members =>
      rcases bind_eq_error_iff.1 h with hentries | ⟨items, hitems, hentry⟩
      · exact misconfigured_of_entries hentries
      · obtain ⟨hne, hsole⟩ := entries_eq_ok_iff.1 hitems
        obtain ⟨before, entry, after, rfl, hbefore, hentry⟩ := mapM_ofEntry_eq_error_iff.1 hentry
        exact .entry (.mk hne hsole) hbefore hentry
    | _ =>
      cases h
      exact .notMapping nofun
  · intro h
    cases h with
    | notMapping h =>
      cases config with
      | obj members => exact absurd rfl (h members)
      | _ => rfl
    | bothKeys h h' => exact bind_eq_error_iff.2 (Or.inl (entries_of_both h h'))
    | missingKey h h' => exact bind_eq_error_iff.2 (Or.inl (entries_of_neither h h'))
    | notList hsole h =>
      refine bind_eq_error_iff.2 (Or.inl ?_)
      rw [entries_of_sole hsole]
      exact listed_eq_error_iff.2 (Or.inr ⟨h, rfl⟩)
    | emptyList hsole =>
      refine bind_eq_error_iff.2 (Or.inl ?_)
      rw [entries_of_sole hsole]
      rfl
    | entry hlists hbefore hentry =>
      obtain ⟨hne, hsole⟩ := hlists
      exact bind_eq_error_iff.2 (Or.inr ⟨_, entries_eq_ok_iff.2 ⟨hne, hsole⟩,
        mapM_ofEntry_eq_error_iff.2 ⟨_, _, _, rfl, hbefore, hentry⟩⟩)

theorem exists_forall₂_iff {α β : Type} {relation : α → β → Prop} {items : List α} :
    (∃ results, List.Forall₂ relation items results) ↔
      ∀ item ∈ items, ∃ result, relation item result := by
  induction items with
  | nil => exact iff_of_true ⟨[], .nil⟩ (List.forall_mem_nil _)
  | cons item rest ih =>
    rw [List.forall_mem_cons, ← ih]
    constructor
    · rintro ⟨results, h⟩
      cases h with
      | cons hitem hrest => exact ⟨⟨_, hitem⟩, _, hrest⟩
    · rintro ⟨⟨result, hitem⟩, results, hrest⟩
      exact ⟨result :: results, .cons hitem hrest⟩

theorem exists_ofConfig_iff {config : Json} : (∃ specs, ofConfig config = .ok specs) ↔
    ∃ items, Lists config items ∧ ∀ entry ∈ items, IsEntry entry := by
  simp only [ofConfig_eq_ok_iff, ← exists_ofEntry_iff 0]
  rw [exists_comm]
  simp only [exists_and_left, exists_forall₂_iff]

theorem proper_of_lookup {items : List Json} {key : String}
    (hproper : ∀ member ∈ members, member.2.Proper)
    (hlookup : members.lookup key = some (.arr items)) : ∀ entry ∈ items, entry.Proper := by
  obtain ⟨before, after, rfl, -⟩ := List.lookup_eq_some_iff.1 hlookup
  have hvalue := hproper (key, .arr items) (by simp)
  cases hvalue with
  | arr h => exact h

theorem Lists.proper {config : Json} {items : List Json} (h : Lists config items)
    (hproper : config.Proper) : ∀ entry ∈ items, entry.Proper := by
  obtain ⟨-, ⟨hlookup, -⟩ | ⟨-, hlookup⟩⟩ := h
  · cases hproper with
    | obj hnames hmembers => exact proper_of_lookup hmembers hlookup
  · cases hproper with
    | obj hnames hmembers => exact proper_of_lookup hmembers hlookup

theorem ofConfig_eq_ok_iff_states {config : Json} (hproper : config.Proper) {specs : List Spec} :
    ofConfig config = .ok specs ↔
      ∃ items, Lists config items ∧ List.Forall₂ States items specs := by
  rw [ofConfig_eq_ok_iff]
  refine exists_congr fun items => and_congr_right fun hlists => ?_
  have hitems := hlists.proper hproper
  constructor
  · intro h
    exact ((List.forall₂_and_left _ _).2 ⟨hitems, h⟩).imp fun _ _ ⟨hentry, h⟩ =>
      (ofEntry_eq_ok_iff_states hentry).1 h
  · intro h
    exact ((List.forall₂_and_left _ _).2 ⟨hitems, h⟩).imp fun _ _ ⟨hentry, h⟩ =>
      (ofEntry_eq_ok_iff_states hentry).2 h

/-! ### Writing a configuration -/

theorem sole_singleton {key : String} (hkey : key ∈ ["policy", "policies"]) (value : Json) :
    Sole [(key, value)] value := by
  simp only [List.mem_cons, List.not_mem_nil, or_false] at hkey
  rcases hkey with rfl | rfl
  · exact Or.inl ⟨rfl, rfl⟩
  · exact Or.inr ⟨rfl, rfl⟩

theorem ofConfig_toEntry {specs : List Spec} {key : String} (hkey : key ∈ ["policy", "policies"])
    (hne : specs ≠ []) (h : ∀ spec ∈ specs, spec.Writable) :
    ofConfig (.obj [(key, .arr (specs.map toEntry))]) = .ok specs := by
  refine ofConfig_eq_ok_iff.2
    ⟨specs.map toEntry, .mk (by simpa using hne) (sole_singleton hkey _), ?_⟩
  rw [List.forall₂_map_left_iff, List.forall₂_same]
  exact fun spec hspec => (h spec hspec).ofEntry_toEntry

end

theorem ofConfig_of_parse? {text : String} {config : Json} (h : Json.parse? text = some config)
    (specs : List Spec) : ofConfig config = .ok specs ↔
      ∃ items, Lists config items ∧ List.Forall₂ States items specs :=
  ofConfig_eq_ok_iff_states (Json.proper_of_parse? h)

/-- The configurations that are read are exactly those of the grammar, and each is read as what its
entries say, in order. Every other one is refused for its first fault, and the fault of an entry
tells which entry it is. What is written under either key reads back. -/
theorem ofConfig_grammar (config : Json) :
    ((∃ specs, ofConfig config = .ok specs) ↔
      ∃ items, Lists config items ∧ ∀ entry ∈ items, IsEntry entry) ∧
    (config.Proper → ∀ specs, ofConfig config = .ok specs ↔
      ∃ items, Lists config items ∧ List.Forall₂ States items specs) ∧
    (∀ fault, ofConfig config = .error fault ↔ Misconfigured config fault) ∧
    (∀ index entry fault, Malformed index entry fault → fault.PointsTo index entry) ∧
    ∀ specs key, key ∈ ["policy", "policies"] → specs ≠ [] → (∀ spec ∈ specs, spec.Writable) →
      ofConfig (.obj [(key, .arr (specs.map toEntry))]) = .ok specs :=
  ⟨exists_ofConfig_iff, fun hproper _ => ofConfig_eq_ok_iff_states hproper,
    fun _ => ofConfig_eq_error_iff, fun _ _ _ => Malformed.pointsTo,
    fun _ _ => ofConfig_toEntry⟩

example : ofConfig (.obj [("policy", .arr [.obj [("name", .str "A")], .null, .int 3])]) =
    .error (.entryNotMapping 1 .null) := by
  rfl

end Dialogue.Spec
