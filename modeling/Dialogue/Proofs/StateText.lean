import Dialogue.Policy.Memoization
import Dialogue.Proofs.JsonRecords

namespace Dialogue

namespace TurnState

open Json

def listField {α : Type} (encode : α → Json) (items : List α) : Option Json :=
  if items.isEmpty then none else some (.arr (items.map encode))

def pairToJson (pair : String × String) : Json := .arr [.str pair.1, .str pair.2]

def fields (state : TurnState) : List (String × Option Json) := [
  ("prev_action", state.prevAction.map .str),
  ("user_intent", state.userIntent.map .str),
  ("user_text", state.userText.map .str),
  ("entities", listField .str state.entities),
  ("slots", listField pairToJson state.slots),
  ("active_loop", state.activeLoop.map .str)]

theorem textMember_eq (name : String) (value : Option String) :
    textMember name value = ((value.map Json.str).map (name, ·)).toList := by
  cases value <;> rfl

theorem listMember_eq {α : Type} (name : String) (encode : α → Json) (items : List α) :
    listMember name (items.map encode) = ((listField encode items).map (name, ·)).toList := by
  cases items <;> rfl

theorem toJson_eq (state : TurnState) : state.toJson = .obj (members state.fields) := by
  unfold toJson
  simp only [textMember_eq, listMember_eq]
  simp only [members, fields, List.flatMap_cons, List.flatMap_nil, List.append_nil,
    List.append_assoc]
  rfl

theorem record?_toJson (state : TurnState) :
    state.toJson.record? ["prev_action", "user_intent", "user_text", "entities", "slots",
      "active_loop"] 0 = some (state.fields.map Prod.snd) := by
  rw [toJson_eq]
  refine record?_members state.fields 0 ?_
  show ["prev_action", "user_intent", "user_text", "entities", "slots", "active_loop"].Nodup
  decide

theorem optionalField_text (value : Option String) :
    optionalField asString? (value.map Json.str) = some value := by
  apply optionalField_map
  · intro s
    rfl
  · intro s h
    cases h

theorem ofJson?_toJson (state : TurnState) : ofJson? state.toJson = some state := by
  have hentities : defaultField [] (asList? asString?) (listField .str state.entities) =
      some state.entities := defaultField_list fun _ _ => rfl
  have hslots : defaultField [] (asList? asPair?) (listField pairToJson state.slots) =
      some state.slots := defaultField_list fun _ _ => rfl
  unfold ofJson?
  rw [record?_toJson]
  simp only [fields, List.map_cons, List.map_nil, Option.bind_eq_bind, Option.bind_some,
    optionalField_text, hentities, hslots]
  rfl

theorem toJson_inj {a b : TurnState} (h : a.toJson = b.toJson) : a = b := by
  have hread := ofJson?_toJson a
  rw [h, ofJson?_toJson] at hread
  exact (Option.some.inj hread).symm

theorem legible_textMember {depth : Nat} {name : String} {value : Option String} :
    ∀ member ∈ textMember name value, Legible depth member.2 := by
  intro member hmember
  cases value with
  | none => cases hmember
  | some s =>
    rw [List.mem_singleton.1 hmember]
    exact .str s

theorem legible_listMember {depth : Nat} {name : String} {items : List Json}
    (h : ∀ item ∈ items, Legible depth item) :
    ∀ member ∈ listMember name items, Legible (depth + 1) member.2 := by
  intro member hmember
  unfold listMember at hmember
  split at hmember
  · cases hmember
  · rw [List.mem_singleton.1 hmember]
    exact .arr h

theorem legible_toJson (state : TurnState) (depth : Nat) : Legible (depth + 3) state.toJson := by
  have hentities : ∀ item ∈ state.entities.map Json.str, Legible (depth + 1) item := by
    intro item hitem
    obtain ⟨name, _, rfl⟩ := List.mem_map.1 hitem
    exact .str name
  have hslots : ∀ item ∈ state.slots.map pairToJson, Legible (depth + 1) item := by
    intro item hitem
    obtain ⟨pair, _, rfl⟩ := List.mem_map.1 hitem
    refine .arr fun part hpart => ?_
    rw [List.mem_cons, List.mem_singleton] at hpart
    rcases hpart with rfl | rfl
    · exact .str pair.1
    · exact .str pair.2
  unfold toJson
  refine .obj fun member hmember => ?_
  simp only [List.mem_append] at hmember
  rcases hmember with ((((h | h) | h) | h) | h) | h
  · exact legible_textMember member h
  · exact legible_textMember member h
  · exact legible_textMember member h
  · exact legible_listMember hentities member h
  · exact legible_listMember hslots member h
  · exact legible_textMember member h

theorem legible_window (window : List TurnState) (depth : Nat) :
    Legible (depth + 4) (.arr (window.map toJson)) := by
  refine .arr fun item hitem => ?_
  obtain ⟨state, _, rfl⟩ := List.mem_map.1 hitem
  exact legible_toJson state depth

end TurnState

/-- Different windows have different keys. -/
theorem Memory.windowKey_inj {a b : List TurnState} (h : windowKey a = windowKey b) : a = b := by
  have harr := Json.compact_inj (TurnState.legible_window a 123) (TurnState.legible_window b 123) h
  exact (List.map_inj_right fun _ _ => TurnState.toJson_inj).1 (Json.arr.inj harr)

end Dialogue
