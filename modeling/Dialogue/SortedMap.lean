/-!
Finite maps with text keys, kept as a list of entries with strictly increasing keys. A map has one
representation only: two maps that answer every look-up alike are equal (`ext_get?`).
-/
namespace Dialogue

structure SortedMap (α : Type) where
  entries : List (String × α)
  sorted : entries.Pairwise (fun a b => a.1 < b.1)

namespace SortedMap

variable {α : Type}

/-- Insertion into an increasing list of entries; an entry with the same key is replaced. -/
def insertEntry (key : String) (value : α) : List (String × α) → List (String × α)
  | [] => [(key, value)]
  | (k, v) :: rest =>
    if key < k then (key, value) :: (k, v) :: rest
    else if k < key then (k, v) :: insertEntry key value rest
    else (key, value) :: rest

theorem mem_insertEntry {key : String} {value : α} {entries : List (String × α)} {e : String × α} :
    e ∈ insertEntry key value entries → e = (key, value) ∨ e ∈ entries := by
  induction entries with
  | nil => simp [insertEntry]
  | cons head rest ih => grind [insertEntry]

theorem eq_of_not_lt {a b : String} (h : ¬ a < b) (h' : ¬ b < a) : a = b :=
  String.le_antisymm (String.not_lt.1 h') (String.not_lt.1 h)

theorem sorted_insertEntry (key : String) (value : α) {entries : List (String × α)}
    (h : entries.Pairwise (fun a b => a.1 < b.1)) :
    (insertEntry key value entries).Pairwise (fun a b => a.1 < b.1) := by
  induction entries with
  | nil => simp [insertEntry]
  | cons head rest ih =>
    obtain ⟨k, v⟩ := head
    rw [List.pairwise_cons] at h
    obtain ⟨hk, hrest⟩ := h
    rw [insertEntry]
    split
    · rename_i hlt
      refine List.pairwise_cons.2 ⟨fun e he => ?_, List.pairwise_cons.2 ⟨hk, hrest⟩⟩
      rcases List.mem_cons.1 he with rfl | he
      · exact hlt
      · exact String.lt_trans hlt (hk e he)
    · split
      · rename_i hlt
        refine List.pairwise_cons.2 ⟨fun e he => ?_, ih hrest⟩
        rcases mem_insertEntry he with rfl | he
        · exact hlt
        · exact hk e he
      · rename_i h₁ h₂
        cases eq_of_not_lt h₁ h₂
        exact List.pairwise_cons.2 ⟨hk, hrest⟩

def empty : SortedMap α := ⟨[], .nil⟩

instance : EmptyCollection (SortedMap α) := ⟨empty⟩
instance : Inhabited (SortedMap α) := ⟨empty⟩

def get? (map : SortedMap α) (key : String) : Option α :=
  map.entries.lookup key

def contains (map : SortedMap α) (key : String) : Bool :=
  (map.get? key).isSome

def size (map : SortedMap α) : Nat :=
  map.entries.length

def keys (map : SortedMap α) : List String :=
  map.entries.map Prod.fst

def values (map : SortedMap α) : List α :=
  map.entries.map Prod.snd

def insert (map : SortedMap α) (key : String) (value : α) : SortedMap α :=
  ⟨insertEntry key value map.entries, sorted_insertEntry key value map.sorted⟩

def ofList (entries : List (String × α)) : SortedMap α :=
  entries.foldl (fun map e => map.insert e.1 e.2) empty

theorem ext_entries {a b : SortedMap α} (h : a.entries = b.entries) : a = b := by
  cases a; cases b; cases h; rfl

theorem lookup_cons (k : String) (value : α) (rest : List (String × α)) (key : String) :
    ((k, value) :: rest).lookup key = if key = k then some value else rest.lookup key := by
  by_cases h : key = k
  · simp [h]
  · rw [if_neg h, List.lookup_cons, beq_false_of_ne h]

theorem lookup_insertEntry (key : String) (value : α) (entries : List (String × α)) (k : String) :
    (insertEntry key value entries).lookup k =
      if k = key then some value else entries.lookup k := by
  induction entries with
  | nil => simp [insertEntry, lookup_cons]
  | cons head rest ih =>
    obtain ⟨k', v'⟩ := head
    rw [insertEntry]
    split
    · rw [lookup_cons]
    · split
      · rename_i _ hlt
        rw [lookup_cons, lookup_cons, ih]
        by_cases h : k = k'
        · subst h
          have : k ≠ key := fun he => String.lt_irrefl _ (he ▸ hlt)
          simp [this]
        · simp [h]
      · rename_i h₁ h₂
        cases eq_of_not_lt h₁ h₂
        by_cases h : k = key <;> simp [lookup_cons, h]

@[simp] theorem get?_empty (key : String) : (∅ : SortedMap α).get? key = none := rfl

@[simp] theorem get?_insert (map : SortedMap α) (key : String) (value : α) (k : String) :
    (map.insert key value).get? k = if k = key then some value else map.get? k :=
  lookup_insertEntry key value map.entries k

theorem lookup_eq_none_of_lt {key : String} {entries : List (String × α)}
    (h : ∀ e ∈ entries, key < e.1) : entries.lookup key = none := by
  induction entries with
  | nil => rfl
  | cons head rest ih =>
    obtain ⟨k, v⟩ := head
    have hne : key ≠ k := fun he => String.lt_irrefl _ (he ▸ h (k, v) (by simp))
    rw [lookup_cons, if_neg hne]
    exact ih fun e he => h e (by simp [he])

theorem entries_eq_of_lookup {a b : List (String × α)}
    (ha : a.Pairwise (fun x y => x.1 < y.1)) (hb : b.Pairwise (fun x y => x.1 < y.1))
    (h : ∀ k, a.lookup k = b.lookup k) : a = b := by
  induction a generalizing b with
  | nil =>
    cases b with
    | nil => rfl
    | cons y _ =>
      have := h y.1
      rw [lookup_cons, if_pos rfl] at this
      simp at this
  | cons x xs ih =>
    obtain ⟨k, v⟩ := x
    cases b with
    | nil =>
      have := h k
      rw [lookup_cons, if_pos rfl] at this
      simp at this
    | cons y ys =>
      obtain ⟨k', v'⟩ := y
      rw [List.pairwise_cons] at ha hb
      have key_eq : k = k' := by
        refine eq_of_not_lt (fun hlt => ?_) (fun hlt => ?_)
        · have := h k
          rw [lookup_cons, if_pos rfl, @lookup_eq_none_of_lt _ _ ((k', v') :: ys)] at this
          · simp at this
          · intro e he
            rcases List.mem_cons.1 he with rfl | he
            · exact hlt
            · exact String.lt_trans hlt (hb.1 e he)
        · have := h k'
          rw [lookup_cons k', if_pos rfl, @lookup_eq_none_of_lt _ _ ((k, v) :: xs)] at this
          · simp at this
          · intro e he
            rcases List.mem_cons.1 he with rfl | he
            · exact hlt
            · exact String.lt_trans hlt (ha.1 e he)
      subst key_eq
      have value_eq := h k
      rw [lookup_cons, lookup_cons, if_pos rfl, if_pos rfl] at value_eq
      cases value_eq
      rw [ih ha.2 hb.2 fun key => ?_]
      by_cases hkey : key = k
      · subst hkey
        rw [lookup_eq_none_of_lt ha.1, lookup_eq_none_of_lt hb.1]
      · have := h key
        rwa [lookup_cons, lookup_cons, if_neg hkey, if_neg hkey] at this

theorem ext_get? {a b : SortedMap α} (h : ∀ k, a.get? k = b.get? k) : a = b :=
  ext_entries (entries_eq_of_lookup a.sorted b.sorted h)

theorem insert_comm {first second : String} (h : first ≠ second) (map : SortedMap α)
    (value other : α) :
    (map.insert first value).insert second other =
      (map.insert second other).insert first value := by
  apply ext_get?
  intro key
  simp only [get?_insert]
  by_cases hsecond : key = second
  · have hfirst : key ≠ first := fun hkey => h (hkey.symm.trans hsecond)
    rw [if_pos hsecond, if_neg hfirst, if_pos hsecond]
  · rw [if_neg hsecond, if_neg hsecond]

theorem lookup_eq_some_iff {entries : List (String × α)} {key : String} {value : α}
    (h : entries.Pairwise fun a b => a.1 < b.1) :
    entries.lookup key = some value ↔ (key, value) ∈ entries := by
  induction entries with
  | nil => simp
  | cons head rest ih =>
    obtain ⟨first, item⟩ := head
    obtain ⟨hfirst, hrest⟩ := List.pairwise_cons.1 h
    rw [lookup_cons, List.mem_cons]
    by_cases hkey : key = first
    · subst hkey
      have hnone : (key, value) ∉ rest := fun hmem =>
        String.lt_irrefl _ (hfirst (key, value) hmem)
      simp [hnone, eq_comm]
    · simp [hkey, ih hrest]

theorem mem_entries_iff {map : SortedMap α} {key : String} {value : α} :
    (key, value) ∈ map.entries ↔ map.get? key = some value :=
  (lookup_eq_some_iff map.sorted).symm

theorem pairwise_keys (map : SortedMap α) : map.keys.Pairwise (· < ·) :=
  List.pairwise_map.2 map.sorted

theorem ext_contains {a b : SortedMap Unit}
    (h : ∀ key, a.contains key = true ↔ b.contains key = true) : a = b := by
  apply ext_get?
  intro key
  have hkey := h key
  unfold contains at hkey
  cases ha : a.get? key <;> cases hb : b.get? key <;> simp_all

end SortedMap

end Dialogue
