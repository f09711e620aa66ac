namespace Dialogue

theorem bind_eq_ok_iff {α β ε : Type} {x : Except ε α} {f : α → Except ε β} {b : β} :
    x >>= f = .ok b ↔ ∃ a, x = .ok a ∧ f a = .ok b := by
  cases x with
  | error e =>
    constructor
    · intro h
      cases h
    · rintro ⟨a, h, _⟩
      cases h
  | ok a =>
    constructor
    · exact fun h => ⟨a, rfl, h⟩
    · rintro ⟨a', h, hf⟩
      cases h
      exact hf

theorem map_eq_ok_iff {α β ε : Type} {x : Except ε α} {f : α → β} {b : β} :
    x.map f = .ok b ↔ ∃ a, x = .ok a ∧ f a = b := by
  cases x with
  | error e =>
    constructor
    · intro h
      cases h
    · rintro ⟨a, h, _⟩
      cases h
  | ok a =>
    constructor
    · intro h
      cases h
      exact ⟨a, rfl, rfl⟩
    · rintro ⟨a', h, rfl⟩
      cases h
      rfl

theorem mapError_eq_ok_iff {α ε ε' : Type} {x : Except ε α} {f : ε → ε'} {a : α} :
    x.mapError f = .ok a ↔ x = .ok a := by
  cases x with
  | error e =>
    constructor
    · intro h
      cases h
    · intro h
      cases h
  | ok a' =>
    constructor
    · intro h
      cases h
      rfl
    · intro h
      cases h
      rfl

theorem bind_eq_error_iff {α β ε : Type} {x : Except ε α} {f : α → Except ε β} {error : ε} :
    x >>= f = .error error ↔ x = .error error ∨ ∃ a, x = .ok a ∧ f a = .error error := by
  cases x with
  | error cause =>
    constructor
    · intro h
      cases h
      exact Or.inl rfl
    · rintro (h | ⟨a, h, _⟩)
      · cases h
        rfl
      · cases h
  | ok a =>
    constructor
    · exact fun h => Or.inr ⟨a, rfl, h⟩
    · rintro (h | ⟨a', h, hf⟩)
      · cases h
      · cases h
        exact hf

theorem mapError_eq_error_iff {α ε ε' : Type} {x : Except ε α} {f : ε → ε'} {error : ε'} :
    x.mapError f = .error error ↔ ∃ cause, x = .error cause ∧ f cause = error := by
  cases x with
  | error cause =>
    constructor
    · intro h
      cases h
      exact ⟨cause, rfl, rfl⟩
    · rintro ⟨cause', h, rfl⟩
      cases h
      rfl
  | ok a =>
    constructor
    · intro h
      cases h
    · rintro ⟨cause, h, _⟩
      cases h

theorem exists_of_isOk {α ε : Type} {x : Except ε α} (h : x.isOk = true) : ∃ a, x = .ok a := by
  cases x with
  | error e => cases h
  | ok a => exact ⟨a, rfl⟩

theorem mapM_eq_ok_iff {α β ε : Type} {f : α → Except ε β} {items : List α} {results : List β} :
    items.mapM f = .ok results ↔ items.map f = results.map .ok := by
  induction items generalizing results with
  | nil =>
    rw [List.mapM_nil, List.map_nil, eq_comm (a := []), List.map_eq_nil_iff]
    constructor
    · intro h
      cases h
      rfl
    · intro h
      rw [h]
      rfl
  | cons item items ih =>
    rw [List.mapM_cons, bind_eq_ok_iff, List.map_cons]
    simp only [bind_eq_ok_iff]
    constructor
    · rintro ⟨result, hresult, others, hothers, h⟩
      cases h
      rw [hresult, ih.1 hothers, List.map_cons]
    · intro h
      cases results with
      | nil => cases h
      | cons result others =>
        rw [List.map_cons, List.cons.injEq] at h
        exact ⟨result, h.1, others, ih.2 h.2, rfl⟩

theorem mapM_eq_ok_of_imp {α β ε : Type} {f g : α → Except ε β} {items : List α}
    {results : List β} (h : ∀ item ∈ items, ∀ result, f item = .ok result → g item = .ok result)
    (hresults : items.mapM f = .ok results) : items.mapM g = .ok results := by
  rw [mapM_eq_ok_iff] at hresults ⊢
  rw [← hresults]
  apply List.map_congr_left
  intro item hmem
  have hitem : f item ∈ results.map Except.ok := by
    rw [← hresults]
    exact List.mem_map_of_mem hmem
  obtain ⟨result, -, hresult⟩ := List.mem_map.1 hitem
  rw [← hresult]
  exact h item hmem result hresult.symm

/-- A traversal fails with the error of the first item that has one. -/
theorem mapM_eq_error_iff {α β ε : Type} {f : α → Except ε β} {items : List α} {error : ε} :
    items.mapM f = .error error ↔ ∃ before item after, items = before ++ item :: after ∧
      (∀ earlier ∈ before, ∃ result, f earlier = .ok result) ∧ f item = .error error := by
  induction items with
  | nil => simp [pure, Except.pure]
  | cons first rest ih =>
    rw [List.mapM_cons, bind_eq_error_iff]
    simp only [bind_eq_error_iff, pure, Except.pure, reduceCtorEq, and_false, exists_false, or_false,
      ih]
    constructor
    · rintro (hfirst | ⟨result, hfirst, before, item, after, rfl, hbefore, hitem⟩)
      · exact ⟨[], first, rest, rfl, by simp, hfirst⟩
      · exact ⟨first :: before, item, after, rfl,
          List.forall_mem_cons.2 ⟨⟨result, hfirst⟩, hbefore⟩, hitem⟩
    · rintro ⟨before, item, after, hsplit, hbefore, hitem⟩
      cases before with
      | nil =>
        cases hsplit
        exact Or.inl hitem
      | cons earlier before =>
        cases hsplit
        obtain ⟨⟨result, hfirst⟩, hbefore⟩ := List.forall_mem_cons.1 hbefore
        exact Or.inr ⟨result, hfirst, before, item, after, rfl, hbefore, hitem⟩

theorem mapM_eq_ok_iff_forall {α β ε : Type} {f : α → Except ε β} {p : α → Prop} {g : α → β}
    (hf : ∀ item result, f item = .ok result ↔ p item ∧ result = g item) {items : List α}
    {results : List β} :
    items.mapM f = .ok results ↔ (∀ item ∈ items, p item) ∧ results = items.map g := by
  induction items generalizing results with
  | nil =>
    rw [mapM_eq_ok_iff, List.map_nil, List.map_nil, eq_comm, List.map_eq_nil_iff]
    exact ⟨fun h => ⟨fun _ hmem => absurd hmem List.not_mem_nil, h⟩, fun h => h.2⟩
  | cons item items ih =>
    rw [List.mapM_cons, bind_eq_ok_iff, List.forall_mem_cons, List.map_cons]
    simp only [bind_eq_ok_iff, hf, ih]
    constructor
    · rintro ⟨result, ⟨hitem, rfl⟩, others, ⟨hitems, rfl⟩, h⟩
      cases h
      exact ⟨⟨hitem, hitems⟩, rfl⟩
    · rintro ⟨⟨hitem, hitems⟩, rfl⟩
      exact ⟨_, ⟨hitem, rfl⟩, _, ⟨hitems, rfl⟩, rfl⟩

theorem exists_map_eq_ok {α β ε : Type} {f : α → Except ε β} {p : β → Prop} {items : List α}
    (h : ∀ item ∈ items, ∃ result, f item = .ok result ∧ p result) :
    ∃ results : List β, items.map f = results.map .ok ∧ ∀ result ∈ results, p result := by
  induction items with
  | nil => exact ⟨[], rfl, fun _ hmem => absurd hmem List.not_mem_nil⟩
  | cons item items ih =>
    rw [List.forall_mem_cons] at h
    obtain ⟨result, hresult, hp⟩ := h.1
    obtain ⟨results, hresults, hall⟩ := ih h.2
    refine ⟨result :: results, ?_, List.forall_mem_cons.2 ⟨hp, hall⟩⟩
    rw [List.map_cons, List.map_cons, hresult, hresults]

theorem forIn_eq_ok_iff {α ε : Type} {p : α → Prop} {f : α → PUnit → Except ε (ForInStep PUnit)}
    (hpass : ∀ item, p item → f item ⟨⟩ = .ok (.yield ⟨⟩))
    (hfail : ∀ item, ¬ p item → ∃ error, f item ⟨⟩ = .error error) {items : List α} {u : PUnit} :
    forIn items PUnit.unit f = .ok u ↔ ∀ item ∈ items, p item := by
  induction items with
  | nil => exact ⟨fun _ _ hmem => absurd hmem List.not_mem_nil, fun _ => rfl⟩
  | cons item items ih =>
    rw [List.forIn_cons, List.forall_mem_cons]
    by_cases hitem : p item
    · rw [hpass item hitem, ← ih]
      exact ⟨fun h => ⟨hitem, h⟩, fun h => h.2⟩
    · obtain ⟨error, herror⟩ := hfail item hitem
      rw [herror]
      constructor
      · intro h
        cases h
      · exact fun h => absurd h.1 hitem

end Dialogue
