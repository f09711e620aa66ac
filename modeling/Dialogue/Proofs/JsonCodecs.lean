import Dialogue.Proofs.FiniteFloats
import Dialogue.Proofs.JsonWords

/-!
Codecs: how values of a type are written as JSON and read from it. A codec says which values are
sound; these read back as they were, and nothing else is ever read. The codec of a record is put
together from those of its fields.
-/
namespace Dialogue.Json

variable {α : Type}

structure Codec (encode : α → Json) (decode : Json → Option α) (sound : α → Prop) : Prop where
  decode_encode : ∀ a, sound a → decode (encode a) = some a
  readable : ∀ a, sound a → Readable (encode a)
  sound_of_decode : ∀ value a, Words value → decode value = some a → sound a

/-- The codec of a field, which may be left out. -/
structure FieldCodec (encode : α → Option Json) (decode : Option Json → Option α)
    (sound : α → Prop) : Prop where
  decode_encode : ∀ a, sound a → decode (encode a) = some a
  readable : ∀ a value, sound a → encode a = some value → Readable value
  sound_of_decode : ∀ field a, (∀ value, field = some value → Words value) →
    decode field = some a → sound a

theorem codec_string : Codec .str asString? fun _ => True where
  decode_encode _ _ := rfl
  readable _ _ := rfl
  sound_of_decode _ _ _ _ := trivial

theorem codec_bool : Codec .bool asBool? fun _ => True where
  decode_encode _ _ := rfl
  readable _ _ := rfl
  sound_of_decode _ _ _ _ := trivial

theorem codec_uint64 : Codec ofUInt64 asUInt64? fun _ => True where
  decode_encode n _ := asUInt64?_ofUInt64 n
  readable _ _ := rfl
  sound_of_decode _ _ _ _ := trivial

theorem codec_float : Codec .float asFloat? fun x => x.isFinite = true where
  decode_encode _ h := if_pos h
  readable x h := by
    have hcanonical : Canonical (.float x) := if_pos h
    exact hcanonical.readable
  sound_of_decode value x hwords h := by
    cases value with
    | int n =>
      cases hwords with
      | int hword =>
        cases h
        exact FloatOrder.isFinite_ofInt hword
    | float y =>
      obtain ⟨hfinite, ⟨⟩⟩ := Option.ite_none_right_eq_some.1 h
      exact hfinite
    | null | bool | str | arr | obj => cases h

theorem codec_value : Codec id canonical? Canonical where
  decode_encode _ h := h
  readable _ h := h.readable
  sound_of_decode _ _ _ h := canonical_of_canonical? h

section

variable {encode : α → Json} {decode : Json → Option α} {sound : α → Prop}

theorem Codec.list (h : Codec encode decode sound) :
    Codec (fun items => .arr (items.map encode)) (asList? decode) fun items =>
      ∀ a ∈ items, sound a where
  decode_encode items hitems := asList?_map fun a ha => h.decode_encode a (hitems a ha)
  readable items hitems := by
    refine readable_arr fun item hitem => ?_
    obtain ⟨a, ha, rfl⟩ := List.mem_map.1 hitem
    exact h.readable a (hitems a ha)
  sound_of_decode value items hwords hread a ha := by
    cases value with
    | arr written =>
      obtain ⟨item, hitem, hdecode⟩ := exists_of_mem_mapM hread a ha
      exact h.sound_of_decode item a (hwords.item hitem) hdecode
    | null | bool | int | float | str | obj => cases hread

theorem Codec.map (h : Codec encode decode sound) :
    Codec (fun map : SortedMap α => .obj (map.entries.map fun entry => (entry.1, encode entry.2)))
      (asMap? decode) fun map => ∀ entry ∈ map.entries, sound entry.2 where
  decode_encode map hmap :=
    asMap?_entries_of_mem fun entry hentry => h.decode_encode _ (hmap entry hentry)
  readable map hmap := by
    refine readable_obj fun member hmember => ?_
    obtain ⟨entry, hentry, rfl⟩ := List.mem_map.1 hmember
    exact h.readable entry.2 (hmap entry hentry)
  sound_of_decode value map hwords hread entry hentry := by
    cases value with
    | obj members =>
      obtain ⟨entries, hentries, rfl⟩ := Option.map_eq_some_iff.1 hread
      obtain ⟨member, hmember, hdecode⟩ :=
        exists_of_mem_mapM hentries entry (SortedMap.mem_ofList hentry)
      obtain ⟨a, ha, rfl⟩ := Option.map_eq_some_iff.1 hdecode
      exact h.sound_of_decode member.2 a (hwords.member hmember) ha
    | null | bool | int | float | str | arr => cases hread

/-! ### Fields -/

theorem Codec.field (h : Codec encode decode sound) :
    FieldCodec (fun a => some (encode a)) (field decode) sound where
  decode_encode := h.decode_encode
  readable a _ ha hvalue := Option.some.inj hvalue ▸ h.readable a ha
  sound_of_decode field a hwords hread := by
    cases field with
    | none => cases hread
    | some value => exact h.sound_of_decode value a (hwords value rfl) hread

theorem Codec.default (h : Codec encode decode sound) {usual : α} (husual : sound usual) :
    FieldCodec (fun a => some (encode a)) (defaultField usual decode) sound where
  decode_encode := h.decode_encode
  readable a _ ha hvalue := Option.some.inj hvalue ▸ h.readable a ha
  sound_of_decode field a hwords hread := by
    cases field with
    | none =>
      cases hread
      exact husual
    | some value => exact h.sound_of_decode value a (hwords value rfl) hread

theorem optionalField_some {value : Json} (hnull : value ≠ .null) :
    optionalField decode (some value) = (decode value).map some := by
  cases value with
  | null => exact absurd rfl hnull
  | bool | int | float | str | arr | obj => rfl

theorem Codec.sound_of_optionalField (h : Codec encode decode sound) (field : Option Json)
    (value : Option α) (hwords : ∀ part, field = some part → Words part)
    (hread : optionalField decode field = some value) : ∀ a ∈ value, sound a := by
  rintro a rfl
  cases field with
  | none => cases hread
  | some part =>
    by_cases hnull : part = .null
    · subst hnull
      cases hread
    · rw [optionalField_some hnull, Option.map_eq_some_iff] at hread
      obtain ⟨b, hb, ⟨⟩⟩ := hread
      exact h.sound_of_decode part a (hwords part rfl) hb

theorem Codec.nullable (h : Codec encode decode sound) (hnull : ∀ a, encode a ≠ .null) :
    FieldCodec (fun value => some (ofOption encode value)) (optionalField decode) fun value =>
      ∀ a ∈ value, sound a where
  decode_encode value hvalue := by
    cases value with
    | none => rfl
    | some a =>
      show optionalField decode (some (encode a)) = some (some a)
      rw [optionalField_some (hnull a), h.decode_encode a (hvalue a rfl)]
      rfl
  readable value _ hvalue hencode := by
    cases hencode
    cases value with
    | none => rfl
    | some a => exact h.readable a (hvalue a rfl)
  sound_of_decode := h.sound_of_optionalField

theorem Codec.omitted (h : Codec encode decode sound) (hnull : ∀ a, encode a ≠ .null) :
    FieldCodec (fun value => value.map encode) (optionalField decode) fun value =>
      ∀ a ∈ value, sound a where
  decode_encode value hvalue := by
    cases value with
    | none => rfl
    | some a =>
      show optionalField decode (some (encode a)) = some (some a)
      rw [optionalField_some (hnull a), h.decode_encode a (hvalue a rfl)]
      rfl
  readable value _ hvalue hencode := by
    obtain ⟨a, ha, rfl⟩ := Option.map_eq_some_iff.1 hencode
    exact h.readable a (hvalue a ha)
  sound_of_decode := h.sound_of_optionalField

end

/-! ### Records -/

theorem readable_members {fields : List (String × Option Json)}
    (h : ∀ field ∈ fields, ∀ value, field.2 = some value → Readable value) :
    Readable (.obj (members fields)) := by
  refine readable_obj fun member hmember => ?_
  obtain ⟨field, hfield, hpart⟩ := List.mem_flatMap.1 hmember
  obtain ⟨value, hvalue, rfl⟩ := Option.map_eq_some_iff.1 (Option.mem_toList.1 hpart)
  exact h field hfield value hvalue

/-! ### Writing and reading -/

/-- Writing and reading invert each other. A sound value reads back as it was, through a text as
well if the text keeps its floats; and whatever is read, from a value with integers of 64 bits or
from a text, reads back as it was read. -/
structure Inverse (encode : α → Json) (decode : Json → Option α) (sound : α → Prop) : Prop where
  back : ∀ a, sound a → decode (encode a) = some a
  throughText : ∀ a, sound a → Legible maxDepth (encode a) →
    (read? (encode a).compact).bind decode = some a
  again : ∀ value a, Words value → decode value = some a → decode (encode a) = some a
  fromText : ∀ text value a, read? text = some value → decode value = some a →
    decode (encode a) = some a

theorem Codec.inverse {encode : α → Json} {decode : Json → Option α} {sound : α → Prop}
    (h : Codec encode decode sound) : Inverse encode decode sound where
  back := h.decode_encode
  throughText a ha hlegible := by
    rw [read?_compact hlegible]
    exact h.decode_encode a ha
  again value a hwords hread := h.decode_encode a (h.sound_of_decode value a hwords hread)
  fromText text value a htext hread :=
    h.decode_encode a (h.sound_of_decode value a (words_of_read? htext) hread)

end Dialogue.Json
