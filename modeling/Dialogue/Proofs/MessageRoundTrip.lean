import Dialogue.Proofs.CompactText
import Dialogue.Proofs.JsonText
import Dialogue.Proofs.MessageForm

namespace Dialogue

namespace Text

theorem trimChars_of_ends {first last : Char} (hfirst : isBlank first = false)
    (hlast : isBlank last = false) (cs : List Char) :
    trimChars (first :: (cs ++ [last])) = first :: (cs ++ [last]) := by
  have hreverse : (first :: (cs ++ [last])).reverse = last :: (first :: cs).reverse := by simp
  rw [trimChars, List.dropWhile_cons_of_neg (by simp [hfirst]), hreverse,
    List.dropWhile_cons_of_neg (by simp [hlast]), ← hreverse, List.reverse_reverse]

end Text

theorem Json.parse?_compact {value : Json} (h : Legible maxDepth value)
    (hcanonical : canonical? value = some value) : parse? value.compact = some value := by
  rw [parse?, read?_compact h]
  exact hcanonical

namespace Interpreter

/-- The confidence that goes with a text: its number up to 1, or 1 if there is no text. -/
inductive Given : Option String → Float → Prop
  | absent : Given none 1.0
  | number {text : String} {x : Float}
      (hchars : ∀ c ∈ text.toList, Decimal.isDigit c = true ∨ c = '.')
      (hread : Decimal.readFloat? text.toList = some x) : Given (some text) (min x 1.0)

/-- An entity for each member that is no list, and for a list one for each of its items, even if
that is a list again. -/
inductive Annotates : List (String × Json) → List Entity → Prop
  | nil : Annotates [] []
  | list {name : String} {items : List Json} {members : List (String × Json)}
      {entities : List Entity} : Annotates members entities →
      Annotates ((name, .arr items) :: members)
        (items.map (fun item => ⟨name, item, none, none⟩) ++ entities)
  | value {name : String} {value : Json} {members : List (String × Json)}
      {entities : List Entity} : (∀ items, value ≠ .arr items) → Annotates members entities →
      Annotates ((name, value) :: members) (⟨name, value, none, none⟩ :: entities)

/-- The message that names the intent and gives its confidence, if any, and its entities. -/
def message (name : String) (number : Option String) (entities : SortedMap Json) : String :=
  "/" ++ name ++ (number.map ("@" ++ ·)).getD "" ++ (Json.ofMap entities).compact

def partsOf (name : String) (number : Option String) (entities : SortedMap Json) : Written :=
  ⟨name.toList, number.map String.toList, some (Json.ofMap entities).render⟩

variable {name : String} {number : Option String} {confidence : Float} {payload : SortedMap Json}

theorem annotates_flatMap (members : List (String × Json)) :
    Annotates members (members.flatMap fun (name, value) => entitiesOf name value) := by
  induction members with
  | nil => exact .nil
  | cons member rest ih =>
    obtain ⟨name, value⟩ := member
    rw [List.flatMap_cons]
    cases value with
    | arr items => exact .list ih
    | _ => exact .value nofun ih

theorem Given.confidenceOf (h : Given number confidence) :
    confidenceOf (number.map String.toList) = confidence := by
  cases h with
  | absent => rfl
  | number hchars hread =>
    rw [Interpreter.confidenceOf, Option.map_some, Option.bind_some, hread]
    exact clamp_eq_min (Decimal.nonneg_of_readFloat? hchars hread)

theorem wellFormed_partsOf (hname : '\x7b' ∉ name.toList ∧ '@' ∉ name.toList)
    (hnumber : Given number confidence) : (partsOf name number payload).WellFormed := by
  refine ⟨hname, ?_, ?_⟩
  · intro cs hcs
    cases hnumber with
    | absent => cases hcs
    | number hchars hread =>
      obtain rfl := Option.some.inj hcs
      refine ⟨?_, hchars⟩
      intro hnil
      rw [hnil] at hread
      cases hread
  · rintro cs ⟨⟩
    exact Json.render_obj payload.entries

theorem oneLine_partsOf : (partsOf name number payload).OneLine := by
  rintro cs ⟨⟩
  exact (Json.printable_render _).not_newline_mem

theorem toList_message :
    (message name number payload).toList = (partsOf name number payload).text := by
  cases number <;> simp [message, partsOf, Written.text, Written.tail, Json.compact]

theorem trimChars_message : Text.trimChars (message name number payload).toList =
    (partsOf name number payload).text := by
  obtain ⟨inner, hinner⟩ := Json.render_obj payload.entries
  have htext : (partsOf name number payload).text = '/' ::
      ((name.toList ++ (((number.map String.toList).map ('@' :: ·)).getD [] ++ '\x7b' :: inner)) ++
        ['\x7d']) := by
    simp [partsOf, Written.text, Written.tail, Json.ofMap, hinner]
  rw [toList_message, htext]
  exact Text.trimChars_of_ends (by decide) (by decide) _

theorem readWritten?_message (hname : name ≠ "")
    (hchars : '\x7b' ∉ name.toList ∧ '@' ∉ name.toList) (hnumber : Given number confidence) :
    readWritten? (Text.trimChars (message name number payload).toList) =
      some (partsOf name number payload) :=
  readWritten?_eq_some_iff.2 ⟨trimChars_message, wellFormed_partsOf hchars hnumber,
    oneLine_partsOf, by simpa [partsOf] using hname⟩

theorem readEntities?_render
    (hread : Json.parse? (Json.ofMap payload).compact = some (.ofMap payload)) :
    readEntities? (Json.ofMap payload).render =
      some (payload.entries.flatMap fun (name, value) => entitiesOf name value) := by
  unfold Json.compact at hread
  rw [readEntities?, hread]
  rfl

theorem messageWarnings_message (hname : name ≠ "")
    (hchars : '\x7b' ∉ name.toList ∧ '@' ∉ name.toList) (hnumber : Given number confidence)
    (hread : Json.parse? (Json.ofMap payload).compact = some (.ofMap payload)) :
    messageWarnings (message name number payload) = [] := by
  have hentities := readEntities?_render hread
  rw [messageWarnings]
  simp only [readWritten?_message hname hchars hnumber, partsOf, hentities]
  cases hnumber with
  | absent => rfl
  | number hchars hread => simp [hread]

/-- A message that is put together is understood as the intent of that name with that confidence and
the entities that were given, and nothing is warned of. -/
theorem parseMessage_message (hname : name ≠ "") (htrim : Text.trim name = name)
    (hchars : '\x7b' ∉ name.toList ∧ '@' ∉ name.toList) (hnumber : Given number confidence)
    (hread : Json.parse? (Json.ofMap payload).compact = some (.ofMap payload)) :
    (∃ entities, Annotates payload.entries entities ∧
      parseMessage (message name number payload) =
        ⟨message name number payload, some ⟨name, confidence⟩, entities, [⟨name, confidence⟩]⟩) ∧
      messageWarnings (message name number payload) = [] := by
  refine ⟨⟨_, annotates_flatMap payload.entries, ?_⟩,
    messageWarnings_message hname hchars hnumber hread⟩
  have htrimmed : String.ofList (Text.trimChars (partsOf name number payload).name) = name := htrim
  have hconfidence : confidenceOf (partsOf name number payload).confidence = confidence :=
    hnumber.confidenceOf
  have hentities : (partsOf name number payload).payload.bind readEntities? = some _ :=
    readEntities?_render hread
  rw [parseMessage, readWritten?_message hname hchars hnumber]
  simp only [htrimmed, hconfidence, hentities, Option.getD_some]

def journey : SortedMap Json :=
  .ofList [("via", .arr [.str "Bonn", .arr [.int 2]]), ("note", .str "by 9@\x7bnoon\x7d")]

theorem legible_journey : Json.Legible Json.maxDepth (.ofMap journey) := by
  have hentries : journey.entries =
      [("note", .str "by 9@\x7bnoon\x7d"), ("via", .arr [.str "Bonn", .arr [.int 2]])] := by
    rfl
  rw [Json.ofMap, hentries]
  refine .obj (List.forall_mem_cons.2 ⟨.str _, List.forall_mem_singleton.2 ?_⟩)
  refine .arr (List.forall_mem_cons.2 ⟨.str _, List.forall_mem_singleton.2 ?_⟩)
  exact .arr (List.forall_mem_singleton.2 (.int ⟨by decide, by decide⟩))

theorem parseMessage_message_journey :
    (∃ entities, Annotates journey.entries entities ∧
      parseMessage (message "book/a trip \x7d" (some "0.4") journey) =
        ⟨message "book/a trip \x7d" (some "0.4") journey,
          some ⟨"book/a trip \x7d", min (Decimal.toFloat ⟨4, -1⟩) 1.0⟩, entities,
          [⟨"book/a trip \x7d", min (Decimal.toFloat ⟨4, -1⟩) 1.0⟩]⟩) ∧
      messageWarnings (message "book/a trip \x7d" (some "0.4") journey) = [] :=
  parseMessage_message (by decide) (by decide) (by decide) (.number (by simp [Decimal.isDigit]) rfl)
    (Json.parse?_compact legible_journey rfl)

end Interpreter

end Dialogue
