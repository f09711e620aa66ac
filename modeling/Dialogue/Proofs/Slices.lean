import Dialogue.Policy

/-!
The last items of a list, and lists accessed with care: what lies outside of a list is nothing. A
traversal in which no access fails does what the traversal without care does.
-/
namespace Dialogue

variable {α β : Type}

/-! ### Last items -/

section

variable {items : List α} {n m : Nat}

theorem length_lastOf (h : n ≤ items.length) : (lastOf n items).length = n := by
  unfold lastOf
  rw [List.length_drop]
  omega

theorem lastOf_length (items : List α) : lastOf items.length items = items := by
  unfold lastOf
  rw [Nat.sub_self, List.drop_zero]

theorem lastOf_append (front : List α) {back : List α} (h : n ≤ back.length) :
    lastOf n (front ++ back) = lastOf n back := by
  have hlength : (front ++ back).length - n = front.length + (back.length - n) := by
    simp only [List.length_append]
    omega
  unfold lastOf
  rw [hlength, List.drop_length_add_append]

theorem lastOf_lastOf (hn : n ≤ m) (hm : m ≤ items.length) :
    lastOf n (lastOf m items) = lastOf n items := by
  unfold lastOf
  rw [List.drop_drop, List.length_drop]
  congr 1
  omega

theorem lastOf_suffix (h : n ≤ m) (items : List α) : lastOf n items <:+ lastOf m items := by
  unfold lastOf
  exact List.drop_suffix_drop_left items (by omega)

theorem suffix_iff_lastOf {latest : List α} :
    latest <:+ items ↔ latest.length ≤ items.length ∧ lastOf latest.length items = latest := by
  unfold lastOf
  rw [List.suffix_iff_eq_drop, eq_comm]
  constructor
  · intro h
    refine ⟨?_, h⟩
    rw [← h, List.length_drop]
    omega
  · exact And.right

end

/-! ### Access -/

theorem getElem?_concat_iff {items : List α} {last item : α} {place : Nat} :
    (items ++ [last])[place]? = some item ↔
      items[place]? = some item ∨ place = items.length ∧ last = item := by
  rcases Nat.lt_trichotomy place items.length with h | h | h
  · rw [List.getElem?_append_left h]
    exact (or_iff_left fun heq => Nat.ne_of_lt h heq.1).symm
  · subst h
    simp
  · rw [List.getElem?_eq_none (by simp; omega), List.getElem?_eq_none (by omega)]
    simp [Nat.ne_of_gt h]

/-- A difference, unless it is negative. -/
def minus? (a b : Nat) : Option Nat :=
  if b ≤ a then some (a - b) else none

def slice? (items : List α) (start stop : Nat) : Option (List α) :=
  if start ≤ stop ∧ stop ≤ items.length then some ((items.take stop).drop start) else none

def before? (items : List α) (stop n : Nat) : Option (List α) := do
  slice? items (← minus? stop n) stop

def put? (items : List α) (index : Nat) (item : α) : Option (List α) :=
  if index < items.length then some (items.set index item) else none

theorem minus?_eq {a b : Nat} (h : b ≤ a) : minus? a b = some (a - b) :=
  if_pos h

theorem slice?_eq {items : List α} {start stop : Nat} (hstart : start ≤ stop)
    (hstop : stop ≤ items.length) : slice? items start stop = some ((items.take stop).drop start) :=
  if_pos ⟨hstart, hstop⟩

theorem put?_eq {items : List α} {index : Nat} (h : index < items.length) (item : α) :
    put? items index item = some (items.set index item) :=
  if_pos h

theorem before?_eq {items : List α} {stop n : Nat} (hn : n ≤ stop) (hstop : stop ≤ items.length) :
    before? items stop n = some (lastOf n (items.take stop)) := by
  unfold before? lastOf
  rw [minus?_eq hn, List.length_take_of_le hstop]
  exact slice?_eq (Nat.sub_le stop n) hstop

theorem before?_length {items : List α} {n : Nat} (hn : n ≤ items.length) :
    before? items items.length n = some (lastOf n items) := by
  rw [before?_eq hn (Nat.le_refl _), List.take_length]

theorem mapM_eq_some {f : α → Option β} {g : α → β} {items : List α}
    (h : ∀ item ∈ items, f item = some (g item)) : items.mapM f = some (items.map g) := by
  induction items with
  | nil => rfl
  | cons item items ih =>
    rw [List.forall_mem_cons] at h
    rw [List.mapM_cons, h.1, ih h.2]
    rfl

theorem exists_of_mem_mapM {f : α → Option β} {items : List α} {results : List β}
    (h : items.mapM f = some results) :
    ∀ result ∈ results, ∃ item ∈ items, f item = some result := by
  induction items generalizing results with
  | nil =>
    cases h
    exact List.forall_mem_nil _
  | cons item items ih =>
    simp only [List.mapM_cons, Option.bind_eq_bind, Option.bind_eq_some_iff] at h
    obtain ⟨result, hresult, rest, hrest, ⟨⟩⟩ := h
    refine List.forall_mem_cons.2 ⟨⟨item, List.mem_cons_self, hresult⟩, fun other hother => ?_⟩
    obtain ⟨item', hitem', hother'⟩ := ih hrest other hother
    exact ⟨item', List.mem_cons_of_mem _ hitem', hother'⟩

theorem anyM_eq_some {f : α → Option Bool} {g : α → Bool} {items : List α}
    (h : ∀ item ∈ items, f item = some (g item)) : items.anyM f = some (items.any g) := by
  induction items with
  | nil => rfl
  | cons item items ih =>
    rw [List.forall_mem_cons] at h
    rw [List.anyM, h.1, List.any_cons]
    cases g item with
    | false => exact ih h.2
    | true => rfl

theorem findSomeM?_eq_some {f : α → Option (Option β)} {g : α → Option β} {items : List α}
    (h : ∀ item ∈ items, f item = some (g item)) :
    items.findSomeM? f = some (items.findSome? g) := by
  induction items with
  | nil => rfl
  | cons item items ih =>
    rw [List.forall_mem_cons] at h
    rw [List.findSomeM?_cons, h.1, List.findSome?_cons]
    cases g item with
    | none => exact ih h.2
    | some found => rfl

theorem foldlM_eq_some {f : β → α → Option β} {g : β → α → β} {items : List α}
    (h : ∀ start, ∀ item ∈ items, f start item = some (g start item)) (start : β) :
    items.foldlM f start = some (items.foldl g start) := by
  induction items generalizing start with
  | nil => rfl
  | cons item items ih =>
    have hitem := h start item List.mem_cons_self
    have hitems : ∀ start, ∀ item ∈ items, f start item = some (g start item) :=
      fun start item hmem => h start item (List.mem_cons_of_mem _ hmem)
    rw [List.foldlM_cons, hitem, List.foldl_cons]
    exact ih hitems (g start item)

end Dialogue
