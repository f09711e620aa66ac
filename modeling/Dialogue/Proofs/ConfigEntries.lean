import Dialogue.Policy.Spec
import Dialogue.Proofs.Outcome
import Dialogue.Proofs.ProperJson

namespace Dialogue

/-- The message tells which entry is meant: by its index, or by the name of its policy. -/
def ConfigFault.PointsTo (fault : ConfigFault) (index : Nat) (entry : Json) : Prop :=
  (∃ rest, fault.message = "policy #" ++ toString index ++ (" " ++ rest)) ∨
    ∃ members name rest, entry = .obj members ∧ members.lookup "name" = some (.str name) ∧
      fault.message = "priority of policy '" ++ name ++ ("' " ++ rest)

namespace Spec

/-! ### The grammar of an entry -/

inductive IsName : Json → String → Prop
  | mk {name : String} (hblank : Text.isBlankText name = false) : IsName (.str name) name

/-- Absent, null or an integer of 32 bits, and the priority that this is. -/
inductive IsPriority : Option Json → Option Int32 → Prop
  | absent : IsPriority none none
  | null : IsPriority (some .null) none
  | int (n : Int32) : IsPriority (some (.int n.toInt)) (some n)

/-- The entry is a mapping with a name, and its priority can be read. -/
inductive IsEntry : Json → Prop
  | mk {members : List (String × Json)} {value : Json} {name : String} {priority : Option Int32}
      (hvalue : members.lookup "name" = some value) (hname : IsName value name)
      (hpriority : IsPriority (members.lookup "priority") priority) : IsEntry (.obj members)

/-- What the members say of a policy: the name, the priority and all other members as options. -/
structure Describes (members : List (String × Json)) (spec : Spec) : Prop where
  name : ∃ value, members.lookup "name" = some value ∧ IsName value spec.name
  priority : IsPriority (members.lookup "priority") spec.priority
  options : ∀ key, spec.options.get? key =
    if key = "name" ∨ key = "priority" then none else members.lookup key

inductive States : Json → Spec → Prop
  | mk {members : List (String × Json)} {spec : Spec} (h : Describes members spec) :
      States (.obj members) spec

inductive Malformed (index : Nat) : Json → ConfigFault → Prop
  | notMapping {entry : Json} (h : ∀ members, entry ≠ .obj members) :
      Malformed index entry (.entryNotMapping index entry)
  | missingName {members : List (String × Json)} (h : members.lookup "name" = none) :
      Malformed index (.obj members) (.missingName index)
  | invalidName {members : List (String × Json)} {value : Json}
      (hvalue : members.lookup "name" = some value) (h : ∀ name, ¬ IsName value name) :
      Malformed index (.obj members) (.invalidName index value)
  | invalidPriority {members : List (String × Json)} {value written : Json} {name : String}
      (hvalue : members.lookup "name" = some value) (hname : IsName value name)
      (hwritten : members.lookup "priority" = some written)
      (h : ∀ priority, ¬ IsPriority (some written) priority) :
      Malformed index (.obj members) (.invalidPriority name written)

section

variable {members : List (String × Json)} {index : Nat} {name : String} {fault : ConfigFault}
  {priority : Option Int32} {spec : Spec}

/-! ### Reading an entry -/

theorem isName_iff {value : Json} :
    IsName value name ↔ value = .str name ∧ Text.isBlankText name = false := by
  constructor
  · rintro ⟨hblank⟩
    exact ⟨rfl, hblank⟩
  · rintro ⟨rfl, hblank⟩
    exact .mk hblank

theorem readName_eq_ok_iff : readName index members = .ok name ↔
    ∃ value, members.lookup "name" = some value ∧ IsName value name := by
  unfold readName
  constructor
  · intro h
    split at h
    · rename_i written hwritten
      split at h
      · cases h
      · rename_i hblank
        cases h
        exact ⟨_, hwritten, .mk (by simpa using hblank)⟩
    · cases h
    · cases h
  · rintro ⟨value, hvalue, ⟨hblank⟩⟩
    rw [hvalue]
    simp [hblank]

theorem readName_eq_error_iff : readName index members = .error fault ↔
    members.lookup "name" = none ∧ fault = .missingName index ∨
      ∃ value, members.lookup "name" = some value ∧ (∀ name, ¬ IsName value name) ∧
        fault = .invalidName index value := by
  unfold readName
  cases members.lookup "name" with
  | none => simp [@eq_comm _ fault]
  | some value =>
    cases value with
    | str text =>
      by_cases hblank : Text.isBlankText text = true <;>
        simp [isName_iff, hblank, @eq_comm _ fault]
    | _ => simp [isName_iff, @eq_comm _ fault]

theorem isPriority_iff_of_absent {written : Option Json}
    (h : written = none ∨ written = some .null) :
    IsPriority written priority ↔ priority = none := by
  constructor
  · rintro (_ | _ | n)
    · rfl
    · rfl
    · simp at h
  · rintro rfl
    rcases h with rfl | rfl
    · exact .absent
    · exact .null

theorem isPriority_some_iff {value : Json} (hnull : value ≠ .null) :
    IsPriority (some value) priority ↔ ∃ n, value.asInt32? = some n ∧ priority = some n := by
  simp only [Json.asInt32?_eq_some_iff]
  constructor
  · intro h
    cases h with
    | null => exact absurd rfl hnull
    | int n => exact ⟨n, rfl, rfl⟩
  · rintro ⟨n, rfl, rfl⟩
    exact .int n

theorem readPriority_eq_ok_iff : readPriority name members = .ok priority ↔
    IsPriority (members.lookup "priority") priority := by
  unfold readPriority
  split
  · rename_i hnone
    rw [isPriority_iff_of_absent (Or.inl hnone), Except.ok.injEq, eq_comm]
  · rename_i hnull
    rw [isPriority_iff_of_absent (Or.inr hnull), Except.ok.injEq, eq_comm]
  · rename_i value hnull hvalue
    rw [hvalue, isPriority_some_iff hnull]
    cases value.asInt32? <;> simp [eq_comm]

theorem readPriority_eq_error_iff : readPriority name members = .error fault ↔
    ∃ value, members.lookup "priority" = some value ∧
      (∀ priority, ¬ IsPriority (some value) priority) ∧ fault = .invalidPriority name value := by
  unfold readPriority
  split
  · rename_i hnone
    simp [hnone]
  · rename_i hnull
    simp [hnull, isPriority_iff_of_absent]
  · rename_i value hnull hvalue
    simp only [hvalue, Option.some.injEq, exists_eq_left', isPriority_some_iff hnull]
    cases value.asInt32? <;> simp [eq_comm]

theorem ofEntry_obj_eq_ok_iff : ofEntry index (.obj members) = .ok spec ↔
    (∃ value, members.lookup "name" = some value ∧ IsName value spec.name) ∧
      IsPriority (members.lookup "priority") spec.priority ∧
      spec.options = SortedMap.ofList (members.filter isOption) := by
  simp only [ofEntry, bind_eq_ok_iff, readName_eq_ok_iff, readPriority_eq_ok_iff, pure,
    Except.pure, Except.ok.injEq]
  constructor
  · rintro ⟨name, hname, priority, hpriority, rfl⟩
    exact ⟨hname, hpriority, rfl⟩
  · rintro ⟨hname, hpriority, hoptions⟩
    exact ⟨spec.name, hname, spec.priority, hpriority, by rw [← hoptions]⟩

theorem get?_options (hnames : (members.map Prod.fst).Nodup) (key : String) :
    (SortedMap.ofList (members.filter isOption)).get? key =
      if key = "name" ∨ key = "priority" then none else members.lookup key := by
  have hfilter : ((members.filter isOption).map Prod.fst).Nodup :=
    hnames.sublist (List.filter_sublist.map _)
  have hlookup :=
    SortedMap.lookup_filter (fun key => key != "name" && key != "priority") members key
  rw [SortedMap.get?_ofList hfilter]
  refine hlookup.trans ?_
  by_cases hname : key = "name" <;> by_cases hpriority : key = "priority" <;>
    simp [hname, hpriority]

theorem ofEntry_eq_ok_iff_describes (hnames : (members.map Prod.fst).Nodup) :
    ofEntry index (.obj members) = .ok spec ↔ Describes members spec := by
  rw [ofEntry_obj_eq_ok_iff]
  constructor
  · rintro ⟨hname, hpriority, hoptions⟩
    exact ⟨hname, hpriority, fun key => hoptions ▸ get?_options hnames key⟩
  · rintro ⟨hname, hpriority, hoptions⟩
    refine ⟨hname, hpriority, SortedMap.ext_get? fun key => ?_⟩
    rw [hoptions, get?_options hnames]

theorem exists_ofEntry_iff (index : Nat) {entry : Json} :
    (∃ spec, ofEntry index entry = .ok spec) ↔ IsEntry entry := by
  constructor
  · rintro ⟨spec, h⟩
    cases entry with
    | obj members =>
      obtain ⟨⟨value, hvalue, hname⟩, hpriority, -⟩ := ofEntry_obj_eq_ok_iff.1 h
      exact .mk hvalue hname hpriority
    | _ => cases h
  · rintro ⟨hvalue, hname, hpriority⟩
    exact ⟨⟨_, _, _⟩, ofEntry_obj_eq_ok_iff.2 ⟨⟨_, hvalue, hname⟩, hpriority, rfl⟩⟩

theorem ofEntry_eq_error_iff {entry : Json} :
    ofEntry index entry = .error fault ↔ Malformed index entry fault := by
  constructor
  · intro h
    cases entry with
    | obj members =>
      simp only [ofEntry, bind_eq_error_iff, readName_eq_error_iff, readName_eq_ok_iff,
        readPriority_eq_error_iff, pure, Except.pure, reduceCtorEq, and_false, exists_false,
        or_false] at h
      obtain (⟨hnone, rfl⟩ | ⟨value, hvalue, hname, rfl⟩) |
        ⟨name, ⟨value, hvalue, hname⟩, written, hwritten, hpriority, rfl⟩ := h
      · exact .missingName hnone
      · exact .invalidName hvalue hname
      · exact .invalidPriority hvalue hname hwritten hpriority
    | _ =>
      cases h
      exact .notMapping nofun
  · intro h
    cases h with
    | notMapping h =>
      cases entry with
      | obj members => exact absurd rfl (h members)
      | _ => rfl
    | missingName h =>
      exact bind_eq_error_iff.2 (Or.inl (readName_eq_error_iff.2 (Or.inl ⟨h, rfl⟩)))
    | invalidName hvalue h =>
      exact bind_eq_error_iff.2 (Or.inl (readName_eq_error_iff.2 (Or.inr ⟨_, hvalue, h, rfl⟩)))
    | invalidPriority hvalue hname hwritten h =>
      refine bind_eq_error_iff.2 (Or.inr ⟨_, readName_eq_ok_iff.2 ⟨_, hvalue, hname⟩, ?_⟩)
      exact bind_eq_error_iff.2 (Or.inl (readPriority_eq_error_iff.2 ⟨_, hwritten, h, rfl⟩))

theorem ofEntry_eq_ok_iff_zero {entry : Json} :
    ofEntry index entry = .ok spec ↔ ofEntry 0 entry = .ok spec := by
  cases entry with
  | obj members => rw [ofEntry_obj_eq_ok_iff, ofEntry_obj_eq_ok_iff]
  | _ => exact iff_of_false nofun nofun

theorem ofEntry_eq_ok_iff_states {entry : Json} (hproper : entry.Proper) :
    ofEntry index entry = .ok spec ↔ States entry spec := by
  cases hproper with
  | obj hnames h =>
    rw [ofEntry_eq_ok_iff_describes hnames]
    exact ⟨.mk, fun ⟨h⟩ => h⟩
  | _ => exact iff_of_false nofun nofun

/-! ### The message of a fault -/

theorem pointsTo_of_index {entry : Json} {start word : String} (hstart : start = " " ++ word)
    (rest : String) (h : fault.message = "policy #" ++ toString index ++ start ++ rest) :
    fault.PointsTo index entry := by
  refine Or.inl ⟨word ++ rest, ?_⟩
  rw [h, hstart]
  simp only [String.append_assoc]

theorem Malformed.pointsTo {entry : Json} (h : Malformed index entry fault) :
    fault.PointsTo index entry := by
  have hmapping : " must be a mapping, got " = " " ++ "must be a mapping, got " := by decide +kernel
  have hmissing : " is missing the required 'name' field" =
      " " ++ "is missing the required 'name' field" := by decide +kernel
  have hinvalid : " has an invalid name " = " " ++ "has an invalid name " := by decide +kernel
  have hpriority : "' must be an integer, got " = "' " ++ "must be an integer, got " := by
    decide +kernel
  cases h with
  | notMapping h => exact pointsTo_of_index hmapping entry.compact rfl
  | missingName h =>
    refine pointsTo_of_index hmissing "" ?_
    rw [String.append_empty]
    rfl
  | @invalidName _ value hvalue h => exact pointsTo_of_index hinvalid value.compact rfl
  | @invalidPriority _ _ written name hvalue hname hwritten h =>
    obtain ⟨hblank⟩ := hname
    refine Or.inr ⟨_, _, "must be an integer, got " ++ written.compact, rfl, hvalue, ?_⟩
    show "priority of policy '" ++ name ++ "' must be an integer, got " ++ written.compact = _
    rw [hpriority]
    simp only [String.append_assoc]

/-! ### Writing an entry -/

/-- A policy that has an entry of its own: no option takes the place of the name or the priority. -/
structure Writable (spec : Spec) : Prop where
  not_blank : Text.isBlankText spec.name = false
  no_name : spec.options.get? "name" = none
  no_priority : spec.options.get? "priority" = none

def fields (spec : Spec) : List (String × Json) :=
  ("name", .str spec.name) ::
    ((spec.priority.map fun p => ("priority", Json.ofInt32 p)).toList ++ spec.options.entries)

theorem Writable.nodup_fields (h : spec.Writable) : (spec.fields.map Prod.fst).Nodup := by
  have hname := SortedMap.lookup_eq_none_iff.1 h.no_name
  have hpriority := SortedMap.lookup_eq_none_iff.1 h.no_priority
  have hoptions := spec.options.nodup_keys
  unfold fields
  cases spec.priority with
  | none => exact List.nodup_cons.2 ⟨hname, hoptions⟩
  | some n =>
    refine List.nodup_cons.2 ⟨?_, List.nodup_cons.2 ⟨hpriority, hoptions⟩⟩
    exact List.not_mem_cons_of_ne_of_not_mem (by simp) hname

theorem lookup_fields (key : String) : spec.fields.lookup key =
    if key = "name" then some (.str spec.name)
    else if key = "priority" then (spec.priority.map Json.ofInt32).or (spec.options.get? key)
    else spec.options.get? key := by
  unfold fields
  rw [SortedMap.lookup_cons]
  cases spec.priority with
  | none => simp [SortedMap.get?]
  | some n =>
    show (if key = "name" then _ else List.lookup key (("priority", _) :: spec.options.entries)) = _
    rw [SortedMap.lookup_cons]
    rfl

theorem Writable.describes_fields (h : spec.Writable) :
    Describes (SortedMap.ofList spec.fields).entries spec := by
  have hlookup (key : String) : (SortedMap.ofList spec.fields).entries.lookup key =
      spec.fields.lookup key := SortedMap.get?_ofList h.nodup_fields key
  refine ⟨⟨_, (hlookup _).trans (lookup_fields _), .mk h.not_blank⟩, ?_, fun key => ?_⟩
  · rw [hlookup, lookup_fields, if_neg (by decide), if_pos rfl, h.no_priority, Option.or_none]
    cases spec.priority with
    | none => exact .absent
    | some n => exact .int n
  · rw [hlookup, lookup_fields]
    by_cases hname : key = "name"
    · rw [if_pos (Or.inl hname), hname, h.no_name]
    · by_cases hpriority : key = "priority"
      · rw [if_pos (Or.inr hpriority), hpriority, h.no_priority]
      · rw [if_neg (not_or_intro hname hpriority), if_neg hname, if_neg hpriority]

theorem toEntry_eq (spec : Spec) : spec.toEntry = .obj (SortedMap.ofList spec.fields).entries := rfl

theorem Writable.ofEntry_toEntry (h : spec.Writable) : ofEntry index spec.toEntry = .ok spec := by
  rw [toEntry_eq, ofEntry_eq_ok_iff_describes (SortedMap.nodup_keys _)]
  exact h.describes_fields

end

end Spec

end Dialogue
