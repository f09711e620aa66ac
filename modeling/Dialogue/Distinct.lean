namespace Dialogue

variable {α : Type} [DecidableEq α]

def distinct : List α → List α
  | [] => []
  | item :: rest => item :: (distinct rest).filter (· != item)

theorem mem_distinct {x : α} {items : List α} :
    x ∈ distinct items ↔ x ∈ items := by
  induction items with
  | nil => simp [distinct]
  | cons item rest ih => by_cases h : x = item <;> simp [distinct, ih, h]

theorem nodup_distinct (items : List α) : (distinct items).Nodup := by
  induction items with
  | nil => simp [distinct]
  | cons item rest ih =>
    rw [distinct, List.nodup_cons]
    exact ⟨by simp, ih.filter _⟩

theorem pairwise_distinct {ι : Type} {before : ι → ι → Prop} {places : List (ι × α)}
    (h : places.Pairwise fun a b => before a.1 b.1) :
    (distinct (places.map Prod.snd)).Pairwise fun x y =>
      ∃ i, (i, x) ∈ places ∧ ∀ j, (j, y) ∈ places → before i j := by
  induction places with
  | nil => exact .nil
  | cons place rest ih =>
    obtain ⟨i, x⟩ := place
    obtain ⟨hfirst, hrest⟩ := List.pairwise_cons.1 h
    rw [List.map_cons, distinct]
    refine List.pairwise_cons.2 ⟨fun y hy => ⟨i, List.mem_cons_self, fun j hj => ?_⟩, ?_⟩
    · have hne : y ≠ x := by simpa using (List.mem_filter.1 hy).2
      rcases List.mem_cons.1 hj with heq | hj
      · exact absurd (Prod.mk.inj heq).2 hne
      · exact hfirst _ hj
    · refine ((ih hrest).filter _).imp_of_mem fun {a b} ha hb hab => ?_
      obtain ⟨k, hk, hlater⟩ := hab
      have hne : b ≠ x := by simpa using (List.mem_filter.1 hb).2
      refine ⟨k, List.mem_cons_of_mem _ hk, fun j hj => ?_⟩
      rcases List.mem_cons.1 hj with heq | hj
      · exact absurd (Prod.mk.inj heq).2 hne
      · exact hlater j hj

theorem distinct_eq_self {items : List α} (h : items.Nodup) :
    distinct items = items := by
  induction items with
  | nil => rfl
  | cons item rest ih =>
    rw [List.nodup_cons] at h
    rw [distinct, ih h.2, List.filter_eq_self.2]
    intro x hx
    simpa using fun he : x = item => h.1 (he ▸ hx)

theorem distinct_append (a b : List α) :
    distinct (a ++ b) =
      distinct a ++ (distinct b).filter (fun x => !a.contains x) := by
  induction a with
  | nil => exact (List.filter_eq_self.2 fun _ _ => by simp).symm
  | cons item rest ih =>
    rw [List.cons_append, distinct, ih, distinct, List.filter_append,
      List.filter_filter, List.cons_append]
    congr 2
    refine List.filter_congr fun x _ => ?_
    by_cases h : x = item <;> simp [h]

end Dialogue
