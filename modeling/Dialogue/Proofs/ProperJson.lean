import Dialogue.Proofs.CanonicalJson

namespace Dialogue

namespace SortedMap

variable {α : Type} {entries : List (String × α)}

theorem lookup_filter (keep : String → Bool) (entries : List (String × α)) (key : String) :
    (entries.filter fun entry => keep entry.1).lookup key =
      if keep key then entries.lookup key else none := by
  induction entries with
  | nil => exact (ite_self _).symm
  | cons entry rest ih =>
    obtain ⟨name, value⟩ := entry
    rw [List.filter_cons]
    by_cases hname : keep name = true
    · rw [if_pos hname, lookup_cons, lookup_cons, ih]
      by_cases hkey : key = name
      · rw [if_pos hkey, if_pos hkey, hkey, if_pos hname]
      · rw [if_neg hkey, if_neg hkey]
    · rw [if_neg hname, lookup_cons, ih]
      by_cases hkey : key = name
      · rw [hkey, if_neg hname, if_neg hname]
      · rw [if_neg hkey]

end SortedMap

namespace Json

/-- No object within the value has two members of one name. -/
inductive Proper : Json → Prop where
  | null : Proper .null
  | bool (b : Bool) : Proper (.bool b)
  | int (n : Int) : Proper (.int n)
  | float (x : Float) : Proper (.float x)
  | str (s : String) : Proper (.str s)
  | arr {items : List Json} (h : ∀ item ∈ items, Proper item) : Proper (.arr items)
  | obj {members : List (String × Json)} (hnames : (members.map Prod.fst).Nodup)
    (h : ∀ member ∈ members, Proper member.2) : Proper (.obj members)

theorem proper_ofMembers {members : List (String × Json)}
    (h : ∀ member ∈ members, Proper member.2) : Proper (ofMembers members) :=
  .obj (SortedMap.nodup_keys _) fun member hmem => h member (SortedMap.mem_ofList hmem)

theorem proper_of_canonical? {value result : Json} (h : canonical? value = some result) :
    Proper result := by
  have hclosed : Closed Proper := {
    null := .null
    bool := .bool
    int := .int
    float x _ := .float x
    str := .str
    arr _ := .arr
    obj _ := proper_ofMembers }
  exact hclosed.of_canonical? h

theorem proper_of_parse? {text : String} {value : Json} (h : parse? text = some value) :
    Proper value := by
  obtain ⟨written, -, hvalue⟩ := Option.bind_eq_some_iff.1 h
  exact proper_of_canonical? hvalue

end Json

end Dialogue
