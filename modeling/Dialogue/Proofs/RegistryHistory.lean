import Dialogue.Model
import Dialogue.Proofs.Digits
import Mathlib.Data.List.Induction

/-!
What stands of a sequence of registrations is every one that no later one took the place of. A name
means the latest of all under it as a qualified name, else the latest standing one under it as a
short name, unless it has a path in it.
-/
namespace Dialogue

/-! ### The latest item -/

section

variable {α : Type} {p : α → Prop} {first item : α} {items : List α}

def Latest (p : α → Prop) (items : List α) (item : α) : Prop :=
  p item ∧ ∃ before after, items = before ++ item :: after ∧ ∀ later ∈ after, ¬ p later

theorem Latest.mem (h : Latest p items item) : item ∈ items := by
  obtain ⟨_, before, after, rfl, _⟩ := h
  simp

theorem latest_cons : Latest p (first :: items) item ↔
    Latest p items item ∨ item = first ∧ p first ∧ ∀ later ∈ items, ¬ p later := by
  constructor
  · rintro ⟨hitem, before, after, hsplit, hafter⟩
    cases before with
    | nil =>
      cases hsplit
      exact Or.inr ⟨rfl, hitem, hafter⟩
    | cons head before =>
      cases hsplit
      exact Or.inl ⟨hitem, before, after, rfl, hafter⟩
  · rintro (⟨hitem, before, after, rfl, hafter⟩ | ⟨rfl, hitem, hnone⟩)
    · exact ⟨hitem, first :: before, after, rfl, hafter⟩
    · exact ⟨hitem, [], items, rfl, hnone⟩

theorem latest_append_iff {others : List α} (h : ∀ later ∈ others, ¬ p later) :
    Latest p (items ++ others) item ↔ Latest p items item := by
  induction items with
  | nil => exact iff_of_false (fun hlatest => h item hlatest.mem hlatest.1) fun hlatest =>
      nomatch hlatest.mem
  | cons first items ih =>
    rw [List.cons_append, latest_cons, latest_cons, ih, List.forall_mem_append, and_iff_left h]

theorem find?_reverse_eq_some_iff {q : α → Bool} :
    items.reverse.find? q = some item ↔ Latest (q · = true) items item := by
  rw [List.find?_eq_some_iff_append]
  refine and_congr_right fun _ => ⟨?_, ?_⟩
  · rintro ⟨after, before, hsplit, hafter⟩
    refine ⟨before.reverse, after.reverse, ?_, by simpa using hafter⟩
    rw [← List.reverse_reverse items, hsplit]
    simp
  · rintro ⟨before, after, rfl, hafter⟩
    exact ⟨after.reverse, before.reverse, by simp, by simpa using hafter⟩

end

variable {π : Type} {entry other : Registration π} {history : List (Registration π)} {name : String}

/-! ### Names -/

namespace Registry

def IsPath (name : String) : Prop := "::".toList <:+: name.toList ∨ '.' ∈ name.toList

theorem hasColonPair_iff {cs : List Char} : hasColonPair cs = true ↔ "::".toList <:+: cs := by
  induction cs with
  | nil => decide
  | cons c rest ih =>
    rw [List.infix_cons_iff, ← ih]
    by_cases hc : c = ':'
    · subst hc
      cases rest with
      | nil => decide
      | cons d rest =>
        by_cases hd : d = ':'
        · subst hd
          simp [hasColonPair]
        · simp [hasColonPair, hd, Ne.symm hd]
    · simp [hasColonPair, hc, Ne.symm hc]

theorem isQualified_iff : isQualified name = true ↔ IsPath name := by
  rw [isQualified, Bool.or_eq_true, hasColonPair_iff, List.contains_iff_mem, IsPath]

end Registry

namespace Registration

theorem isPath_qualifiedName (entry : Registration π) : Registry.IsPath entry.qualifiedName := by
  refine Or.inl ⟨entry.modulePath.toList, entry.typeName.toList, ?_⟩
  simp [qualifiedName, Policy.qualify]

theorem typeName_eq_of_qualifiedName_eq (h : entry.qualifiedName = other.qualifiedName)
    (hentry : ':' ∉ entry.typeName.toList) (hother : ':' ∉ other.typeName.toList) :
    entry.typeName = other.typeName := by
  have hreverse (entry : Registration π) : entry.qualifiedName.toList.reverse =
      entry.typeName.toList.reverse ++ ':' :: ':' :: entry.modulePath.toList.reverse := by
    simp [qualifiedName, Policy.qualify]
  have hplain {entry : Registration π} (h : ':' ∉ entry.typeName.toList) :
      ∀ c ∈ entry.typeName.toList.reverse, (c != ':') = true := by
    intro c hc
    rw [bne_iff_ne]
    rintro rfl
    exact h (List.mem_reverse.1 hc)
  have hends (rest : List Char) : Ends (· != ':') (':' :: rest) := ends_cons rfl rest
  have heq := (hreverse entry).symm.trans ((congrArg (·.toList.reverse) h).trans (hreverse other))
  have hnames := (run_append_inj (hplain hentry) (hplain hother) (hends _) (hends _) heq).1
  exact String.toList_injective (List.reverse_inj.1 hnames)

end Registration

/-! ### What stands -/

namespace Registry

/-- The registrations that no later one took the place of. -/
def standing : List (Registration π) → List (Registration π)
  | [] => []
  | entry :: later =>
    if ∀ other ∈ later, other.qualifiedName ≠ entry.qualifiedName then entry :: standing later
    else standing later

theorem mem_of_mem_standing (h : entry ∈ standing history) : entry ∈ history := by
  induction history with
  | nil => exact h
  | cons first later ih =>
    rw [standing] at h
    split at h
    · rcases List.mem_cons.1 h with rfl | h
      · exact List.mem_cons_self
      · exact List.mem_cons_of_mem _ (ih h)
    · exact List.mem_cons_of_mem _ (ih h)

theorem exists_mem_standing (h : entry ∈ history) :
    ∃ other ∈ standing history, other.qualifiedName = entry.qualifiedName := by
  induction history generalizing entry with
  | nil => cases h
  | cons first later ih =>
    rw [standing]
    split
    · rcases List.mem_cons.1 h with rfl | h
      · exact ⟨entry, List.mem_cons_self, rfl⟩
      · obtain ⟨other, hother, hname⟩ := ih h
        exact ⟨other, List.mem_cons_of_mem _ hother, hname⟩
    · rename_i hreplaced
      rcases List.mem_cons.1 h with rfl | h
      · simp only [ne_eq, not_forall, not_not] at hreplaced
        obtain ⟨next, hnext, hname⟩ := hreplaced
        obtain ⟨other, hother, hsame⟩ := ih hnext
        exact ⟨other, hother, hsame.trans hname⟩
      · exact ih h

theorem nodup_standing (history : List (Registration π)) :
    ((standing history).map (·.qualifiedName)).Nodup := by
  induction history with
  | nil => exact .nil
  | cons first later ih =>
    rw [standing]
    split
    · rename_i hlatest
      rw [List.map_cons, List.nodup_cons]
      refine ⟨fun hmem => ?_, ih⟩
      obtain ⟨other, hother, hname⟩ := List.mem_map.1 hmem
      exact hlatest other (mem_of_mem_standing hother) hname
    · exact ih

theorem standing_append (history : List (Registration π)) (entry : Registration π) :
    standing (history ++ [entry]) =
      (standing history).filter (·.qualifiedName != entry.qualifiedName) ++ [entry] := by
  induction history with
  | nil => simp [standing]
  | cons first later ih =>
    rw [List.cons_append, standing, standing, ih]
    by_cases hlatest : ∀ other ∈ later, other.qualifiedName ≠ first.qualifiedName
    · rw [if_pos hlatest]
      by_cases hname : entry.qualifiedName = first.qualifiedName
      · have hreplaced : ¬ ∀ other ∈ later ++ [entry], other.qualifiedName ≠ first.qualifiedName :=
          fun hall => hall entry (by simp) hname
        rw [if_neg hreplaced, List.filter_cons_of_neg (by simp [hname])]
      · have hkept : ∀ other ∈ later ++ [entry], other.qualifiedName ≠ first.qualifiedName := by
          intro other hother
          rcases List.mem_append.1 hother with hother | hother
          · exact hlatest other hother
          · rwa [List.mem_singleton.1 hother]
        rw [if_pos hkept, List.filter_cons_of_pos (by simpa using Ne.symm hname), List.cons_append]
    · have hreplaced : ¬ ∀ other ∈ later ++ [entry], other.qualifiedName ≠ first.qualifiedName :=
        fun hall => hlatest fun other hother => hall other (List.mem_append_left _ hother)
      rw [if_neg hlatest, if_neg hreplaced]

theorem entries_ofList (history : List (Registration π)) :
    (ofList history).entries = standing history := by
  induction history using List.reverseRecOn with
  | nil => rfl
  | append_singleton history entry ih =>
    unfold ofList at ih ⊢
    rw [List.foldl_append, List.foldl_cons, List.foldl_nil, register, ih, standing_append]

/-- A property that goes with the qualified name has the same latest bearer among those that
stand. -/
theorem latest_standing_iff {p : Registration π → Prop}
    (hp : ∀ entry ∈ history, ∀ other ∈ history, entry.qualifiedName = other.qualifiedName →
      p entry → p other) :
    Latest p (standing history) entry ↔ Latest p history entry := by
  induction history with
  | nil => rfl
  | cons first later ih =>
    have ih := ih fun entry hentry other hother =>
      hp entry (List.mem_cons_of_mem _ hentry) other (List.mem_cons_of_mem _ hother)
    rw [standing, latest_cons]
    split
    · rw [latest_cons, ih]
      have hnone : (∀ other ∈ standing later, ¬ p other) ↔ ∀ other ∈ later, ¬ p other := by
        constructor
        · intro hstanding other hother hholds
          obtain ⟨same, hsame, hname⟩ := exists_mem_standing hother
          exact hstanding same hsame (hp other (List.mem_cons_of_mem _ hother) same
            (List.mem_cons_of_mem _ (mem_of_mem_standing hsame)) hname.symm hholds)
        · exact fun hlater other hother => hlater other (mem_of_mem_standing hother)
      rw [hnone]
    · rename_i hreplaced
      simp only [ne_eq, not_forall, not_not] at hreplaced
      obtain ⟨next, hnext, hname⟩ := hreplaced
      rw [ih]
      refine ⟨Or.inl, fun h => h.resolve_right ?_⟩
      rintro ⟨-, hfirst, hnone⟩
      exact hnone next hnext (hp first List.mem_cons_self next (List.mem_cons_of_mem _ hnext)
        hname.symm hfirst)

/-! ### What a name means -/

theorem find?_standing_eq_some_iff :
    (standing history).find? (·.qualifiedName == name) = some entry ↔
      Latest (·.qualifiedName = name) history entry := by
  rw [← latest_standing_iff fun _ _ _ _ hsame hname => hsame.symm.trans hname]
  have hnodup := nodup_standing history
  constructor
  · intro hfind
    have hname : entry.qualifiedName = name := by simpa using List.find?_some hfind
    obtain ⟨before, after, hsplit⟩ := List.append_of_mem (List.mem_of_find?_eq_some hfind)
    refine ⟨hname, before, after, hsplit, fun other hother hsame => ?_⟩
    rw [hsplit, List.map_append, List.map_cons, List.nodup_append, List.nodup_cons] at hnodup
    exact hnodup.2.1.1 (List.mem_map.2 ⟨other, hother, hsame.trans hname.symm⟩)
  · rintro ⟨hname, before, after, hsplit, -⟩
    rw [hsplit, List.map_append, List.map_cons, List.nodup_append] at hnodup
    rw [hsplit, List.find?_eq_some_iff_append]
    refine ⟨by simpa using hname, before, after, rfl, fun other hother => ?_⟩
    have hne := hnodup.2.2 _ (List.mem_map.2 ⟨other, hother, rfl⟩) _ List.mem_cons_self
    simpa [← hname] using hne

theorem find?_standing_eq_none_iff :
    (standing history).find? (·.qualifiedName == name) = none ↔
      ∀ entry ∈ history, entry.qualifiedName ≠ name := by
  rw [List.find?_eq_none]
  constructor
  · intro hstanding entry hentry hname
    obtain ⟨other, hother, hsame⟩ := exists_mem_standing hentry
    exact hstanding other hother (by simpa using hsame.trans hname)
  · intro hhistory entry hentry
    simpa using hhistory entry (mem_of_mem_standing hentry)

/-- What a name means after some registrations. -/
inductive StandsFor (history : List (Registration π)) (name : String) : Registration π → Prop
  | qualified {entry : Registration π}
    (hlatest : Latest (·.qualifiedName = name) history entry) : StandsFor history name entry
  | short {entry : Registration π} (hnone : ∀ other ∈ history, other.qualifiedName ≠ name)
    (hpath : ¬ IsPath name) (hlatest : Latest (·.typeName = name) (standing history) entry) :
    StandsFor history name entry

theorem resolve_ofList_eq_some_iff :
    (ofList history).resolve name = some entry ↔ StandsFor history name entry := by
  unfold resolve
  rw [entries_ofList]
  split
  · rename_i found hfound
    rw [Option.some.injEq]
    constructor
    · rintro rfl
      exact .qualified (find?_standing_eq_some_iff.1 hfound)
    · rintro (hlatest | ⟨hnone, -, -⟩)
      · exact Option.some.inj (hfound.symm.trans (find?_standing_eq_some_iff.2 hlatest))
      · rw [find?_standing_eq_none_iff.2 hnone] at hfound
        cases hfound
  · rename_i hnone
    rw [find?_standing_eq_none_iff] at hnone
    have hunqualified : ¬ Latest (·.qualifiedName = name) history entry :=
      fun hlatest => hnone entry hlatest.mem hlatest.1
    by_cases hpath : IsPath name
    · rw [if_pos (isQualified_iff.2 hpath)]
      constructor
      · intro h
        cases h
      · rintro (hlatest | ⟨-, hshort, -⟩)
        · exact absurd hlatest hunqualified
        · exact absurd hpath hshort
    · rw [if_neg (fun h => hpath (isQualified_iff.1 h)), find?_reverse_eq_some_iff]
      simp only [beq_iff_eq]
      constructor
      · exact .short hnone hpath
      · rintro (hlatest | ⟨-, -, hlatest⟩)
        · exact absurd hlatest hunqualified
        · exact hlatest

theorem standsFor_iff_of_isPath (hpath : IsPath name) :
    StandsFor history name entry ↔ Latest (·.qualifiedName = name) history entry := by
  constructor
  · rintro (hlatest | ⟨-, hshort, -⟩)
    · exact hlatest
    · exact absurd hpath hshort
  · exact .qualified

theorem latest_typeName_standing_iff (h : ∀ entry ∈ history, ':' ∉ entry.typeName.toList) :
    Latest (·.typeName = name) (standing history) entry ↔
      Latest (·.typeName = name) history entry := by
  refine latest_standing_iff fun entry hentry other hother hsame htype => ?_
  rw [← htype]
  exact (Registration.typeName_eq_of_qualifiedName_eq hsame (h entry hentry) (h other hother)).symm

/-- What a registry knows of the registrations it was made by. -/
structure Knows (history : List (Registration π)) (registry : Registry π) : Prop where
  /-- No two entries have the same qualified name. -/
  nodup : (registry.entries.map (·.qualifiedName)).Nodup
  /-- The types are listed once each, in the order of their latest registrations. -/
  typeNames : registry.typeNames = (standing history).map (·.typeName)
  resolve : ∀ name entry, registry.resolve name = some entry ↔ StandsFor history name entry
  /-- Short names without colons mean the latest registration of all. -/
  short : (∀ entry ∈ history, ':' ∉ entry.typeName.toList) → ∀ name entry,
    Latest (·.typeName = name) (standing history) entry ↔ Latest (·.typeName = name) history entry
  /-- Later registrations under other qualified names, whatever their short names are, do not change
  what a name with a path in it means. -/
  keeps : ∀ name, IsPath name → ∀ later : List (Registration π),
    (∀ entry ∈ later, entry.qualifiedName ≠ name) →
      (later.foldl register registry).resolve name = registry.resolve name
  /-- So they change no other qualified name. -/
  keepsQualified : ∀ (other : Registration π) (later : List (Registration π)),
    (∀ entry ∈ later, entry.qualifiedName ≠ other.qualifiedName) →
      (later.foldl register registry).resolve other.qualifiedName =
        registry.resolve other.qualifiedName

theorem resolve_foldl_register (hpath : IsPath name) {later : List (Registration π)}
    (hlater : ∀ entry ∈ later, entry.qualifiedName ≠ name) :
    (later.foldl register (ofList history)).resolve name = (ofList history).resolve name := by
  have happend : later.foldl register (ofList history) = ofList (history ++ later) :=
    List.foldl_append.symm
  rw [happend]
  ext entry
  rw [resolve_ofList_eq_some_iff, resolve_ofList_eq_some_iff, standsFor_iff_of_isPath hpath,
    standsFor_iff_of_isPath hpath, latest_append_iff hlater]

/-- A registry knows each registration that no later one took the place of, in order. A qualified
name means the latest registration under it, for good unless it is registered again. A name without
a path means the latest that stands under it as a short name. -/
theorem knows_ofList (history : List (Registration π)) : Knows history (ofList history) where
  nodup := by
    rw [entries_ofList]
    exact nodup_standing history
  typeNames := by
    rw [Registry.typeNames, entries_ofList]
  resolve _ _ := resolve_ofList_eq_some_iff
  short h _ _ := latest_typeName_standing_iff h
  keeps _ hpath _ hlater := resolve_foldl_register hpath hlater
  keepsQualified other _ hlater := resolve_foldl_register other.isPath_qualifiedName hlater

def vacant (typeName modulePath : String) : Registration Empty where
  typeName := typeName
  modulePath := modulePath
  create spec := .error (.unknownPolicy spec.name)
  load _ _ := .ok none

/-- The latest registration of all with a short name need not stand: a type whose name begins with a
colon took the place of the second one here, so the short name means the first one. And a recorded
name without a path means another type once one with that short name is registered. -/
theorem not_latest_of_all :
    (¬ ∀ (history : List (Registration Empty)) (name : String) (entry : Registration Empty),
      (∀ other ∈ history, other.qualifiedName ≠ name) → ¬ IsPath name →
        Latest (·.typeName = name) history entry → (ofList history).resolve name = some entry) ∧
    ¬ ∀ (registry : Registry Empty) (recorded : ModelEntry) (later : Registration Empty),
      later.qualifiedName ≠ recorded.qualifiedName →
        (registry.register later).resolve recorded.qualifiedName =
          registry.resolve recorded.qualifiedName := by
  constructor
  · intro hlatest
    have hsecond : Latest (·.typeName = "A") [vacant "A" "k", vacant "A" "m:", vacant ":A" "m"]
        (vacant "A" "m:") :=
      ⟨rfl, [vacant "A" "k"], [vacant ":A" "m"], rfl, by simp [vacant]⟩
    have hresolve := hlatest _ _ _ (by decide) (by rw [← isQualified_iff]; decide) hsecond
    have hmodule := congrArg (Option.map (·.modulePath)) hresolve
    revert hmodule
    decide
  · intro hkept
    have hresolve := hkept (ofList [vacant "A" "k"]) ⟨"A", "policy_0_A"⟩ (vacant "A" "m") (by decide)
    have hmodule := congrArg (Option.map (·.modulePath)) hresolve
    revert hmodule
    decide

end Registry

end Dialogue
