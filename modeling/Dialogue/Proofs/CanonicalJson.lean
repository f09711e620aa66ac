import Dialogue.Json.Reader
import Dialogue.Proofs.JsonRecords

/-!
Canonical values, which are what texts denote: members in order, no repeated names, no number beyond
the range of floats. What a text denotes is canonical, and a canonical value denotes itself.
-/
namespace Dialogue

theorem SortedMap.mem_ofList {α : Type} {entries : List (String × α)} {entry : String × α}
    (h : entry ∈ (ofList entries).entries) : entry ∈ entries := by
  have hfold (map : SortedMap α) :
      entry ∈ (entries.foldl (fun map e => map.insert e.1 e.2) map).entries →
        entry ∈ map.entries ∨ entry ∈ entries := by
    clear h
    induction entries generalizing map with
    | nil => exact Or.inl
    | cons first rest ih =>
      intro hmem
      rcases ih _ hmem with hmap | hrest
      · rcases mem_insertEntry hmap with rfl | hmap
        · exact Or.inr List.mem_cons_self
        · exact Or.inl hmap
      · exact Or.inr (List.mem_cons_of_mem _ hrest)
  exact (hfold ∅ h).resolve_left List.not_mem_nil

namespace Json

variable {value result : Json} {items : List Json} {members : List (String × Json)}

/-! ### What a text denotes -/

/-- What holds of the leaves of canonical values, and of collections if it holds of the parts. -/
structure Closed (motive : Json → Prop) : Prop where
  null : motive .null
  bool : ∀ b, motive (.bool b)
  int : ∀ n, motive (.int n)
  float : ∀ x, x.isFinite = true → motive (.float x)
  str : ∀ s, motive (.str s)
  arr : ∀ items, (∀ item ∈ items, motive item) → motive (.arr items)
  obj : ∀ members, (∀ member ∈ members, motive member.2) → motive (ofMembers members)

variable {motive : Json → Prop}

mutual

theorem Closed.of_canonical? (h : Closed motive) : ∀ {value result : Json},
    canonical? value = some result → motive result
  | .null, _, hvalue => by
    cases hvalue
    exact h.null
  | .bool b, _, hvalue => by
    cases hvalue
    exact h.bool b
  | .int n, _, hvalue => by
    cases hvalue
    exact h.int n
  | .str s, _, hvalue => by
    cases hvalue
    exact h.str s
  | .float x, _, hvalue => by
    obtain ⟨hfinite, ⟨⟩⟩ := Option.ite_none_right_eq_some.1 hvalue
    exact h.float x hfinite
  | .arr items, _, hvalue => by
    obtain ⟨results, hresults, rfl⟩ := Option.map_eq_some_iff.1 hvalue
    exact h.arr _ (h.of_canonicalItems? hresults)
  | .obj members, _, hvalue => by
    obtain ⟨results, hresults, rfl⟩ := Option.map_eq_some_iff.1 hvalue
    exact h.obj _ (h.of_canonicalMembers? hresults)

theorem Closed.of_canonicalItems? (h : Closed motive) : ∀ {items results : List Json},
    canonicalItems? items = some results → ∀ result ∈ results, motive result
  | [], _, hitems => by
    cases hitems
    exact List.forall_mem_nil _
  | item :: rest, _, hitems => by
    simp only [canonicalItems?, Option.bind_eq_bind, Option.bind_eq_some_iff] at hitems
    obtain ⟨result, hresult, results, hresults, ⟨⟩⟩ := hitems
    exact List.forall_mem_cons.2 ⟨h.of_canonical? hresult, h.of_canonicalItems? hresults⟩

theorem Closed.of_canonicalMember? (h : Closed motive) : ∀ {member result : String × Json},
    canonicalMember? member = some result → motive result.2
  | (name, value), _, hmember => by
    obtain ⟨result, hresult, rfl⟩ := Option.map_eq_some_iff.1 hmember
    exact h.of_canonical? hresult

theorem Closed.of_canonicalMembers? (h : Closed motive) :
    ∀ {members results : List (String × Json)},
      canonicalMembers? members = some results → ∀ result ∈ results, motive result.2
  | [], _, hmembers => by
    cases hmembers
    exact List.forall_mem_nil _
  | member :: rest, _, hmembers => by
    simp only [canonicalMembers?, Option.bind_eq_bind, Option.bind_eq_some_iff] at hmembers
    obtain ⟨result, hresult, results, hresults, ⟨⟩⟩ := hmembers
    exact List.forall_mem_cons.2 ⟨h.of_canonicalMember? hresult, h.of_canonicalMembers? hresults⟩

end

/-! ### Collections -/

theorem canonicalItems?_eq (items : List Json) : canonicalItems? items = items.mapM canonical? := by
  induction items with
  | nil => rfl
  | cons item rest ih =>
    rw [canonicalItems?, List.mapM_cons, ih]

theorem canonicalMembers?_eq (members : List (String × Json)) :
    canonicalMembers? members = members.mapM canonicalMember? := by
  induction members with
  | nil => rfl
  | cons member rest ih =>
    rw [canonicalMembers?, List.mapM_cons, ih]

/-- A value that denotes itself. -/
def Canonical (value : Json) : Prop := value.canonical? = some value

theorem canonical_arr (h : ∀ item ∈ items, Canonical item) : Canonical (.arr items) := by
  have hitems : canonicalItems? items = some (items.map id) :=
    (canonicalItems?_eq items).trans (mapM_eq_some h)
  show (canonicalItems? items).map arr = some (.arr items)
  rw [hitems, List.map_id, Option.map_some]

theorem canonical_ofMap {map : SortedMap Json} (h : ∀ entry ∈ map.entries, Canonical entry.2) :
    Canonical (ofMap map) := by
  have hentries : canonicalMembers? map.entries = some (map.entries.map id) := by
    rw [canonicalMembers?_eq]
    refine mapM_eq_some fun entry hentry => ?_
    obtain ⟨name, value⟩ := entry
    exact congrArg (Option.map (name, ·)) (h _ hentry)
  show (canonicalMembers? map.entries).map ofMembers = some (.obj map.entries)
  rw [hentries, List.map_id, Option.map_some, ofMembers, SortedMap.ofList_entries]

theorem canonical_of_canonical? (h : canonical? value = some result) : Canonical result := by
  have hclosed : Closed Canonical := {
    null := rfl
    bool _ := rfl
    int _ := rfl
    float _ hfinite := if_pos hfinite
    str _ := rfl
    arr _ := canonical_arr
    obj _ hmembers := canonical_ofMap fun entry hentry =>
      hmembers entry (SortedMap.mem_ofList hentry) }
  exact hclosed.of_canonical? h

/-! ### Readable values -/

def Readable (value : Json) : Prop := value.canonical?.isSome = true

theorem Canonical.readable (h : Canonical value) : Readable value := by
  unfold Readable
  rw [h]
  rfl

theorem readable_arr (h : ∀ item ∈ items, Readable item) : Readable (.arr items) := by
  have hitems : canonicalItems? items =
      some (items.map fun item => item.canonical?.getD .null) := by
    rw [canonicalItems?_eq]
    refine mapM_eq_some fun item hitem => ?_
    obtain ⟨result, hresult⟩ := Option.isSome_iff_exists.1 (h item hitem)
    rw [hresult]
    rfl
  show ((canonicalItems? items).map arr).isSome = true
  rw [hitems]
  rfl

theorem readable_obj (h : ∀ member ∈ members, Readable member.2) : Readable (.obj members) := by
  have hmembers : canonicalMembers? members =
      some (members.map fun member => (member.1, member.2.canonical?.getD .null)) := by
    rw [canonicalMembers?_eq]
    refine mapM_eq_some fun member hmember => ?_
    obtain ⟨name, value⟩ := member
    obtain ⟨result, hresult⟩ := Option.isSome_iff_exists.1 (h _ hmember)
    show value.canonical?.map (name, ·) = _
    rw [hresult]
    rfl
  show ((canonicalMembers? members).map ofMembers).isSome = true
  rw [hmembers]
  rfl

end Json

end Dialogue
