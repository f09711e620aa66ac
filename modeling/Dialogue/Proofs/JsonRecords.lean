import Dialogue.Json.Record
import Dialogue.Proofs.JsonText
import Dialogue.Proofs.Slices

namespace Dialogue

namespace SortedMap

variable {α β : Type}

theorem lookup_eq_none_iff {entries : List (String × α)} {key : String} :
    entries.lookup key = none ↔ key ∉ entries.map Prod.fst := by
  rw [List.lookup_eq_none_iff, List.mem_map]
  constructor
  · rintro h ⟨entry, hentry, rfl⟩
    exact absurd (h entry hentry) (by simp)
  · intro h entry hentry
    rw [bne_iff_ne]
    rintro rfl
    exact h ⟨entry, hentry, rfl⟩

theorem get?_foldl_insert (entries : List (String × α)) (map : SortedMap α) (key : String)
    (h : (entries.map Prod.fst).Nodup) :
    (entries.foldl (fun map entry => map.insert entry.1 entry.2) map).get? key =
      (entries.lookup key).or (map.get? key) := by
  induction entries generalizing map with
  | nil => rfl
  | cons entry entries ih =>
    obtain ⟨name, value⟩ := entry
    rw [List.map_cons, List.nodup_cons] at h
    rw [List.foldl_cons, ih _ h.2, get?_insert, lookup_cons]
    by_cases hkey : key = name
    · rw [if_pos hkey, if_pos hkey, lookup_eq_none_iff.2 (hkey ▸ h.1)]
      rfl
    · rw [if_neg hkey, if_neg hkey]

theorem get?_ofList {entries : List (String × α)} (h : (entries.map Prod.fst).Nodup)
    (key : String) : (ofList entries).get? key = entries.lookup key := by
  unfold ofList
  rw [get?_foldl_insert _ _ _ h]
  exact Option.or_none

theorem nodup_keys (map : SortedMap α) : (map.entries.map Prod.fst).Nodup := by
  rw [List.Nodup, List.pairwise_map]
  refine map.sorted.imp fun hlt heq => ?_
  rw [heq] at hlt
  exact String.lt_irrefl _ hlt

theorem ofList_entries (map : SortedMap α) : ofList map.entries = map :=
  ext_get? fun key => get?_ofList map.nodup_keys key

end SortedMap

namespace Json

/-! ### Fields -/

/-- The members of a record, less the fields that are left out. -/
def members (fields : List (String × Option Json)) : List (String × Json) :=
  fields.flatMap fun field => (field.2.map (field.1, ·)).toList

theorem filter_member (name other : String) (value : Option Json) :
    (value.map (other, ·)).toList.filter (·.1 == name) =
      if other = name then (value.map (other, ·)).toList else [] := by
  cases value with
  | none => rw [Option.map_none, Option.toList_none, List.filter_nil, ite_self]
  | some value =>
    rw [Option.map_some, Option.toList_some, List.filter_cons, List.filter_nil]
    simp only [beq_iff_eq]

theorem filter_members_of_not_mem {fields : List (String × Option Json)} {name : String}
    (h : name ∉ fields.map Prod.fst) : (members fields).filter (·.1 == name) = [] := by
  induction fields with
  | nil => rfl
  | cons field fields ih =>
    rw [List.map_cons, List.mem_cons, not_or] at h
    unfold members
    rw [List.flatMap_cons, List.filter_append, filter_member, if_neg (Ne.symm h.1)]
    exact ih h.2

theorem filter_members {fields : List (String × Option Json)} {field : String × Option Json}
    (h : (fields.map Prod.fst).Nodup) (hfield : field ∈ fields) :
    (members fields).filter (·.1 == field.1) = (field.2.map (field.1, ·)).toList := by
  induction fields with
  | nil => cases hfield
  | cons head fields ih =>
    rw [List.map_cons, List.nodup_cons] at h
    unfold members
    rw [List.flatMap_cons, List.filter_append, filter_member]
    rcases List.mem_cons.1 hfield with rfl | hfield
    · rw [if_pos rfl]
      exact (congrArg _ (filter_members_of_not_mem h.1)).trans (List.append_nil _)
    · have hne : head.1 ≠ field.1 := fun heq => h.1 (List.mem_map.2 ⟨field, hfield, heq.symm⟩)
      rw [if_neg hne]
      exact ih h.2 hfield

theorem members_some (written : List (String × Json)) :
    members (written.map fun member => (member.1, some member.2)) = written := by
  unfold members
  rw [List.flatMap_map]
  exact List.flatMap_singleton' written

theorem record?_of_filter {written : List (String × Json)} {fields : List (String × Option Json)}
    (required : Nat) (h : ∀ field ∈ fields,
      written.filter (·.1 == field.1) = (field.2.map (field.1, ·)).toList) :
    (obj written).record? (fields.map Prod.fst) required = some (fields.map Prod.snd) := by
  unfold record?
  dsimp only
  rw [List.mapM_map]
  refine mapM_eq_some fun field hfield => ?_
  rw [Function.comp_apply, h field hfield]
  cases field.2 with
  | none => rfl
  | some value => rfl

theorem record?_members (fields : List (String × Option Json)) (required : Nat)
    (h : (fields.map Prod.fst).Nodup) :
    (obj (members fields)).record? (fields.map Prod.fst) required =
      some (fields.map Prod.snd) :=
  record?_of_filter required fun _ hfield => filter_members h hfield

theorem record?_cons_members (name : String) (value : Json) (fields : List (String × Option Json))
    (required : Nat) (h : (name :: fields.map Prod.fst).Nodup) :
    (obj ((name, value) :: members fields)).record? (fields.map Prod.fst) required =
      some (fields.map Prod.snd) := by
  rw [List.nodup_cons] at h
  refine record?_of_filter required fun field hfield => ?_
  have hne : name ≠ field.1 := fun heq => h.1 (List.mem_map.2 ⟨field, hfield, heq.symm⟩)
  rw [List.filter_cons_of_neg (by simpa using hne)]
  exact filter_members h.2 hfield

theorem optionalField_map {α : Type} {decode : Json → Option α} {encode : α → Json}
    (h : ∀ a, decode (encode a) = some a) (hnull : ∀ a, encode a ≠ .null) (value : Option α) :
    optionalField decode (value.map encode) = some value := by
  cases value with
  | none => rfl
  | some a =>
    unfold optionalField
    rw [Option.map_some]
    split
    · rename_i heq
      cases heq
    · rename_i heq
      exact absurd (Option.some.inj heq) (hnull a)
    · rename_i heq
      cases heq
      rw [h]
      rfl

theorem asList?_map {α : Type} {decode : Json → Option α} {encode : α → Json} {items : List α}
    (h : ∀ a ∈ items, decode (encode a) = some a) :
    asList? decode (.arr (items.map encode)) = some items := by
  show (items.map encode).mapM decode = some items
  rw [List.mapM_map]
  exact (mapM_eq_some (g := id) h).trans (congrArg some (List.map_id items))

theorem defaultField_list {α : Type} {decode : Json → Option α} {encode : α → Json}
    {items : List α} (h : ∀ a ∈ items, decode (encode a) = some a) :
    defaultField [] (asList? decode)
      (if items.isEmpty then none else some (.arr (items.map encode))) = some items := by
  cases items with
  | nil => rfl
  | cons item items => exact asList?_map h

theorem asMap?_entries_of_mem {α : Type} {decode : Json → Option α} {encode : α → Json}
    {map : SortedMap α} (h : ∀ entry ∈ map.entries, decode (encode entry.2) = some entry.2) :
    asMap? decode (.obj (map.entries.map fun entry => (entry.1, encode entry.2))) =
      some map := by
  have hentries : (map.entries.map fun entry => (entry.1, encode entry.2)).mapM
      (fun (member : String × Json) => (decode member.2).map (member.1, ·)) =
        some map.entries := by
    rw [List.mapM_map, mapM_eq_some (fun entry hentry => ?_), List.map_id]
    show (decode (encode entry.2)).map (entry.1, ·) = some (id entry)
    rw [h entry hentry]
    rfl
  unfold asMap?
  dsimp only
  rw [hentries, Option.map_some, SortedMap.ofList_entries]

theorem asMap?_entries {α : Type} {decode : Json → Option α} {encode : α → Json}
    (h : ∀ a, decode (encode a) = some a) (map : SortedMap α) :
    asMap? decode (.obj (map.entries.map fun entry => (entry.1, encode entry.2))) =
      some map :=
  asMap?_entries_of_mem fun entry _ => h entry.2

theorem asInt32?_ofInt32 (n : Int32) : asInt32? (ofInt32 n) = some n := by
  unfold asInt32? ofInt32
  dsimp only
  rw [Int32.ofInt_toInt, if_pos rfl]

theorem asInt32?_eq_some_iff {value : Json} {n : Int32} :
    value.asInt32? = some n ↔ value = .int n.toInt := by
  constructor
  · intro h
    cases value with
    | int m =>
      obtain ⟨hm, hn⟩ := Option.ite_none_right_eq_some.1 h
      rw [← Option.some.inj hn, hm]
    | _ => cases h
  · rintro rfl
    exact asInt32?_ofInt32 n

theorem asUInt64?_ofUInt64 (n : UInt64) : asUInt64? (ofUInt64 n) = some n := by
  unfold asUInt64? ofUInt64
  dsimp only
  rw [Int.toNat_natCast, UInt64.ofNat_toNat, if_pos rfl]

/-! ### Legible records -/

theorem legible_ofInt32 {depth : Nat} (n : Int32) : Legible depth (ofInt32 n) := by
  have hlow := n.le_toInt
  have hhigh := n.toInt_lt
  have hmin : Int64.minValue.toInt = -2 ^ 63 := rfl
  refine .int ⟨?_, ?_⟩
  · omega
  · show n.toInt < (18446744073709551616 : Nat)
    omega

theorem legible_ofUInt64 {depth : Nat} (n : UInt64) : Legible depth (ofUInt64 n) := by
  have hhigh := n.toNat_lt_size
  refine .int ⟨Int.le_trans ?_ (Int.natCast_nonneg _), Int.ofNat_lt.2 hhigh⟩
  decide

end Json

end Dialogue
