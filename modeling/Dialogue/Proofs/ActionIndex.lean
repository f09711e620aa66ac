import Dialogue.Domain
import Mathlib.Data.List.Nodup

namespace Dialogue

namespace Domain

variable {domain : Domain} {name : String} {index : Nat}

theorem index?_eq_some_iff : domain.index? name = some index ↔
    domain.actions[index]? = some name := by
  unfold index?
  rw [List.idxOf?_eq_some_iff, List.getElem?_eq_some_iff]
  constructor
  · rintro ⟨hlt, hname, _⟩
    exact ⟨hlt, hname⟩
  · rintro ⟨hlt, hname⟩
    refine ⟨hlt, hname, fun i hi hat => ?_⟩
    have : i = index := (domain.nodup.getElem_inj_iff).1 (hat.trans hname.symm)
    omega

theorem index?_lt (h : domain.index? name = some index) : index < domain.size :=
  (List.getElem?_eq_some_iff.1 (index?_eq_some_iff.1 h)).1

theorem eq_iff_index_eq {other : String} {i : Nat} (h : domain.index? name = some index)
    (h' : domain.index? other = some i) : name = other ↔ index = i := by
  constructor
  · rintro rfl
    exact Option.some.inj (h.symm.trans h')
  · rintro rfl
    rw [index?_eq_some_iff] at h h'
    exact Option.some.inj (h.symm.trans h')

theorem index?_eq_none_iff : domain.index? name = none ↔ name ∉ domain.actions :=
  List.idxOf?_eq_none_iff

theorem hasAction_iff : domain.hasAction name = true ↔ ∃ index, domain.index? name = some index := by
  unfold hasAction
  rw [List.contains_iff_mem, ← Option.isSome_iff_exists, ← Option.ne_none_iff_isSome, ne_eq,
    index?_eq_none_iff, not_not]

theorem hasAction_of_default (domain : Domain) (h : name ∈ defaultActions) :
    domain.hasAction name = true := by
  unfold hasAction
  rw [List.contains_iff_mem]
  exact domain.defaults.subset h

theorem index_eq_ok_iff : domain.index name = .ok index ↔ domain.index? name = some index := by
  unfold Domain.index
  cases domain.index? name with
  | none =>
    constructor
    · intro h
      cases h
    · intro h
      cases h
  | some i =>
    rw [Except.ok.injEq, Option.some.injEq]

end Domain

end Dialogue
