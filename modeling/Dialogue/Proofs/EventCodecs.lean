import Dialogue.Prediction
import Dialogue.Proofs.JsonCodecs

/-!
What is written of a sound event reads back as that event, and what is read from any value, in any
of the ways in which it may be written, is sound.
-/
namespace Dialogue

open Json

/-! ### Messages -/

namespace Intent

def Sound (intent : Intent) : Prop := intent.confidence.isFinite = true

theorem sound_certain (name : String) : Sound (certain name) := by
  show (1.0 : Float).isFinite = true
  decide

theorem codec_confidence : FieldCodec (fun x => some (.float x)) (defaultField 1.0 asFloat?)
    fun x => x.isFinite = true :=
  codec_float.default (sound_certain "")

theorem codec : Codec toJson ofJson? Sound where
  decode_encode intent h := by
    have hrecord : intent.toJson.record? ["name", "confidence"] 1 =
        some [some (.str intent.name), some (.float intent.confidence)] :=
      record?_members [("name", some _), ("confidence", some _)] 1 (by simp)
    unfold ofJson?
    rw [hrecord]
    simp only [Option.bind_eq_bind, Option.bind_some, field, asString?,
      codec_confidence.decode_encode _ h]
    rfl
  readable intent h := by
    refine readable_obj ?_
    simp only [List.forall_mem_cons]
    exact ⟨rfl, codec_float.readable _ h, List.forall_mem_nil _⟩
  sound_of_decode value intent hwords h := by
    simp only [ofJson?, Option.bind_eq_bind, Option.bind_eq_some_iff] at h
    obtain ⟨fields, hfields, h⟩ := h
    have hparts := hwords.record? hfields
    split at h
    · simp only [Option.bind_eq_some_iff] at h
      obtain ⟨_, _, x, hx, ⟨⟩⟩ := h
      exact codec_confidence.sound_of_decode _ x (hparts _ (by simp)) hx
    · cases h

end Intent

namespace Entity

def Sound (entity : Entity) : Prop := entity.value.Canonical

def fields (entity : Entity) : List (String × Option Json) := [
  ("entity", some (.str entity.name)),
  ("value", some entity.value),
  ("start", entity.start.map ofUInt64),
  ("end", entity.stop.map ofUInt64)]

theorem toJson_eq (entity : Entity) : entity.toJson = .obj (members entity.fields) := by
  simp only [toJson, members, fields, List.flatMap_cons, List.flatMap_nil, List.append_nil,
    Option.map_map]
  rfl

theorem codec_place : FieldCodec (fun value : Option UInt64 => value.map ofUInt64)
    (optionalField asUInt64?) fun value => ∀ n ∈ value, True :=
  codec_uint64.omitted fun _ h => nomatch h

theorem codec : Codec toJson ofJson? Sound where
  decode_encode entity h := by
    have hrecord : entity.toJson.record? ["entity", "value", "start", "end"] 2 =
        some (entity.fields.map Prod.snd) := by
      rw [toJson_eq]
      refine record?_members entity.fields 2 ?_
      show ["entity", "value", "start", "end"].Nodup
      decide
    have hvalue : entity.value.canonical? = some entity.value := h
    have hplace (value : Option UInt64) :=
      codec_place.decode_encode value fun _ _ => trivial
    unfold ofJson?
    rw [hrecord]
    simp only [fields, List.map_cons, List.map_nil, Option.bind_eq_bind, Option.bind_some, field,
      asString?, hvalue, hplace]
    rfl
  readable entity h := by
    rw [toJson_eq]
    refine readable_members ?_
    simp only [fields, List.forall_mem_cons]
    refine ⟨?_, ?_, ?_, ?_, List.forall_mem_nil _⟩
    · rintro _ ⟨⟩
      rfl
    · rintro _ ⟨⟩
      exact h.readable
    · exact fun value => codec_place.readable entity.start value fun _ _ => trivial
    · exact fun value => codec_place.readable entity.stop value fun _ _ => trivial
  sound_of_decode value entity hwords h := by
    simp only [ofJson?, Option.bind_eq_bind, Option.bind_eq_some_iff] at h
    obtain ⟨fields, hfields, h⟩ := h
    have hparts := hwords.record? hfields
    split at h
    · simp only [Option.bind_eq_some_iff] at h
      obtain ⟨_, _, value, hvalue, _, _, _, _, ⟨⟩⟩ := h
      exact codec_value.field.sound_of_decode _ value (hparts _ (by simp)) hvalue
    · cases h

end Entity

/-! ### Events -/

namespace Event

/-- An event whose floats are finite and whose values are JSON values. -/
def Sound : Event → Prop
  | userUttered _ intent entities =>
    (∀ found ∈ intent, found.Sound) ∧ ∀ entity ∈ entities, entity.Sound
  | actionExecuted _ _ _ confidence | actionRejected _ _ confidence =>
    ∀ x ∈ confidence, x.isFinite = true
  | slotSet _ value => value.Canonical
  | botUttered _ | activeLoop _ | featurization _ | restarted => True

theorem codec_text : FieldCodec (fun value => some (text value)) optionalText fun value =>
    ∀ s ∈ value, True :=
  codec_string.nullable fun _ h => nomatch h

theorem codec_number : FieldCodec (fun value => some (number value)) optionalNumber fun value =>
    ∀ x ∈ value, x.isFinite = true :=
  codec_float.nullable fun _ h => nomatch h

theorem codec_intent : FieldCodec (fun value => some (Json.ofOption Intent.toJson value))
    (optionalField Intent.ofJson?) fun value => ∀ intent ∈ value, intent.Sound :=
  Intent.codec.nullable fun _ h => nomatch h

theorem codec_entities : FieldCodec (fun value => some (.arr (value.map Entity.toJson)))
    (defaultField [] (asList? Entity.ofJson?)) fun value => ∀ entity ∈ value, entity.Sound :=
  Entity.codec.list.default (List.forall_mem_nil _)

theorem optionalText_text (value : Option String) : optionalText (some (text value)) = some value :=
  codec_text.decode_encode value fun _ _ => trivial

theorem readable_text (value : Option String) : Readable (text value) :=
  codec_text.readable value _ (fun _ _ => trivial) rfl

/-! ### Written events -/

theorem layout?_fields (event : Event) :
    ∃ required, layout? event.fields.1 = some (event.fields.2.map Prod.fst, required) := by
  cases event <;> exact ⟨_, rfl⟩

theorem nodup_fields (event : Event) :
    ("event" :: event.fields.2.map Prod.fst).Nodup := by
  cases event <;> simp [fields]

theorem ofParts?_toJson (event : Event) :
    ofParts? event.toJson = ofFields? event.fields.1 (event.fields.2.map (some ·.2)) := by
  obtain ⟨required, hlayout⟩ := event.layout?_fields
  have hnodup := event.nodup_fields
  have hfields : (event.fields.2.map fun member => (member.1, some member.2)).map Prod.fst =
      event.fields.2.map Prod.fst := List.map_map ..
  have hfilter : (("event", Json.str event.fields.1) :: event.fields.2).filter (·.1 == "event") =
      [("event", .str event.fields.1)] := by
    rw [List.filter_cons_of_pos (by simp), ← members_some event.fields.2,
      filter_members_of_not_mem]
    rw [hfields]
    exact (List.nodup_cons.1 hnodup).1
  have hrecord := record?_cons_members "event" (.str event.fields.1)
    (event.fields.2.map fun member => (member.1, some member.2)) required (by rwa [hfields])
  rw [hfields, members_some, List.map_map] at hrecord
  unfold ofParts? toJson
  dsimp only
  rw [hfilter]
  dsimp only
  rw [hlayout, Option.bind_eq_bind, Option.bind_some]
  dsimp only
  rw [hrecord]
  rfl

theorem ofFields?_fields {event : Event} (h : event.Sound) :
    ofFields? event.fields.1 (event.fields.2.map (some ·.2)) = some event := by
  cases event with
  | userUttered content intent entities =>
    simp only [fields, List.map_cons, List.map_nil, ofFields?, Option.bind_eq_bind,
      optionalText_text, codec_intent.decode_encode _ h.1, codec_entities.decode_encode _ h.2]
    rfl
  | botUttered content =>
    simp only [fields, List.map_cons, List.map_nil, ofFields?, optionalText_text]
    rfl
  | actionExecuted name content policy confidence =>
    simp only [fields, List.map_cons, List.map_nil, ofFields?, optionalText_text,
      codec_number.decode_encode _ h]
    rfl
  | actionRejected name policy confidence =>
    simp only [fields, List.map_cons, List.map_nil, ofFields?, optionalText_text,
      codec_number.decode_encode _ h]
    rfl
  | slotSet key value =>
    have hvalue : value.canonical? = some value := h
    simp only [fields, List.map_cons, List.map_nil, ofFields?, field, hvalue]
    rfl
  | activeLoop name =>
    simp only [fields, List.map_cons, List.map_nil, ofFields?, optionalText_text]
    rfl
  | featurization useText => rfl
  | restarted => rfl

theorem readable_toJson {event : Event} (h : event.Sound) : Readable event.toJson := by
  refine readable_obj (List.forall_mem_cons.2 ⟨rfl, ?_⟩)
  cases event with
  | userUttered content intent entities =>
    simp only [fields, List.forall_mem_cons]
    exact ⟨readable_text _, codec_intent.readable _ _ h.1 rfl, codec_entities.readable _ _ h.2 rfl,
      List.forall_mem_nil _⟩
  | actionExecuted name content policy confidence =>
    simp only [fields, List.forall_mem_cons]
    exact ⟨readable_text _, readable_text _, readable_text _, codec_number.readable _ _ h rfl,
      List.forall_mem_nil _⟩
  | actionRejected name policy confidence =>
    simp only [fields, List.forall_mem_cons]
    exact ⟨rfl, readable_text _, codec_number.readable _ _ h rfl, List.forall_mem_nil _⟩
  | slotSet key value =>
    have hvalue : value.Canonical := h
    simp only [fields, List.forall_mem_cons]
    exact ⟨rfl, hvalue.readable, List.forall_mem_nil _⟩
  | botUttered content | activeLoop name =>
    simp only [fields, List.forall_mem_cons]
    exact ⟨readable_text _, List.forall_mem_nil _⟩
  | featurization useText =>
    simp only [fields, List.forall_mem_cons]
    exact ⟨rfl, List.forall_mem_nil _⟩
  | restarted => exact List.forall_mem_nil _

/-! ### Events that are read -/

theorem exists_fields_of_ofParts? {value : Json} {event : Event} (hwords : Words value)
    (h : ofParts? value = some event) : ∃ form fields, ofFields? form fields = some event ∧
      ∀ field ∈ fields, ∀ part, field = some part → Words part := by
  unfold ofParts? at h
  split at h
  · split at h
    · simp only [Option.bind_eq_bind, Option.bind_eq_some_iff] at h
      obtain ⟨_, _, fields, hfields, h⟩ := h
      exact ⟨_, fields, h, hwords.record? hfields⟩
    · cases h
  · simp only [Option.bind_eq_bind, Option.bind_eq_some_iff] at h
    obtain ⟨_, _, fields, hfields, h⟩ := h
    have hitems : Words (.arr _) := .arr fun item hitem =>
      hwords.item (List.mem_cons_of_mem _ hitem)
    exact ⟨_, fields, h, hitems.record? hfields⟩
  · cases h

theorem sound_of_ofFields? {form : String} {fields : List (Option Json)} {event : Event}
    (hparts : ∀ field ∈ fields, ∀ part, field = some part → Words part)
    (h : ofFields? form fields = some event) : event.Sound := by
  unfold ofFields? at h
  split at h
  · simp only [Option.bind_eq_bind, Option.bind_eq_some_iff] at h
    obtain ⟨_, _, intent, hintent, entities, hentities, ⟨⟩⟩ := h
    exact ⟨codec_intent.sound_of_decode _ intent (hparts _ (by simp)) hintent,
      codec_entities.sound_of_decode _ entities (hparts _ (by simp)) hentities⟩
  · simp only [Option.bind_eq_bind, Option.bind_eq_some_iff] at h
    obtain ⟨_, _, ⟨⟩⟩ := h
    trivial
  · simp only [Option.bind_eq_bind, Option.bind_eq_some_iff] at h
    obtain ⟨_, _, _, _, _, _, confidence, hconfidence, ⟨⟩⟩ := h
    exact codec_number.sound_of_decode _ confidence (hparts _ (by simp)) hconfidence
  · simp only [Option.bind_eq_bind, Option.bind_eq_some_iff] at h
    obtain ⟨_, _, _, _, confidence, hconfidence, ⟨⟩⟩ := h
    exact codec_number.sound_of_decode _ confidence (hparts _ (by simp)) hconfidence
  · simp only [Option.bind_eq_bind, Option.bind_eq_some_iff] at h
    obtain ⟨_, _, value, hvalue, ⟨⟩⟩ := h
    exact codec_value.field.sound_of_decode _ value (hparts _ (by simp)) hvalue
  · simp only [Option.bind_eq_bind, Option.bind_eq_some_iff] at h
    obtain ⟨_, _, ⟨⟩⟩ := h
    trivial
  · simp only [Option.bind_eq_bind, Option.bind_eq_some_iff] at h
    obtain ⟨_, _, ⟨⟩⟩ := h
    trivial
  · cases h
    trivial
  · cases h

theorem codec : Codec toJson ofJson? Sound where
  decode_encode event h := by
    have hreadable : event.toJson.canonical?.isSome = true := readable_toJson h
    unfold ofJson?
    rw [if_pos hreadable, ofParts?_toJson, ofFields?_fields h]
  readable event h := readable_toJson h
  sound_of_decode value event hwords h := by
    obtain ⟨_, hparts⟩ := Option.ite_none_right_eq_some.1 h
    obtain ⟨form, fields, hfields, hwords⟩ := exists_fields_of_ofParts? hwords hparts
    exact sound_of_ofFields? hwords hfields

end Event

/-! ### Predictions -/

namespace Prediction

/-- A prediction whose floats are finite and whose values are JSON values. -/
structure Sound (prediction : Prediction) : Prop where
  scores : ∀ score ∈ prediction.scores, score.isFinite = true
  events : ∀ event ∈ prediction.events, event.Sound
  optionalEvents : ∀ event ∈ prediction.optionalEvents, event.Sound
  diagnostics : ∀ entry ∈ prediction.diagnostics.entries, entry.2.Canonical

theorem codec_scores : FieldCodec (fun scores => some (.arr (scores.map .float)))
    (field (asList? asFloat?)) fun scores => ∀ score ∈ scores, score.isFinite = true :=
  codec_float.list.field

theorem codec_events : FieldCodec (fun events => some (.arr (events.map Event.toJson))) eventsField
    fun events => ∀ event ∈ events, event.Sound :=
  Event.codec.list.default (List.forall_mem_nil _)

theorem codec_flag : FieldCodec (fun flag => some (.bool flag)) flagField fun _ => True :=
  codec_bool.default trivial

theorem codec_diagnostics : FieldCodec (fun map => some (ofMap map))
    (defaultField ∅ (asMap? canonical?)) fun map => ∀ entry ∈ map.entries, entry.2.Canonical := by
  have hmap : (fun map : SortedMap Json => some (ofMap map)) = fun map =>
      some (.obj (map.entries.map fun entry => (entry.1, id entry.2))) := by
    funext map
    exact congrArg (some ∘ Json.obj) (List.map_id _).symm
  rw [hmap]
  exact codec_value.map.default (List.forall_mem_nil _)

theorem record?_toJson (prediction : Prediction) :
    prediction.toJson.record? fieldNames 3 = some [
      some (.arr (prediction.scores.map .float)), some (Event.text prediction.policyName),
      some (ofInt32 prediction.priority), some (.arr (prediction.events.map Event.toJson)),
      some (.arr (prediction.optionalEvents.map Event.toJson)), some (.bool prediction.isEndToEnd),
      some (.bool prediction.isNoUser), some (ofMap prediction.diagnostics),
      some (.bool prediction.hideRuleTurn)] :=
  record?_members [("probabilities", some _), ("policy_name", some _), ("policy_priority", some _),
    ("events", some _), ("optional_events", some _), ("is_end_to_end_prediction", some _),
    ("is_no_user_prediction", some _), ("diagnostic_data", some _), ("hide_rule_turn", some _)] 3
    (by simp)

theorem codec : Codec toJson ofJson? Sound where
  decode_encode prediction h := by
    have hname : optionalField asString? (some (Event.text prediction.policyName)) =
        some prediction.policyName := Event.optionalText_text _
    have hpriority : field asInt32? (some (ofInt32 prediction.priority)) =
        some prediction.priority := asInt32?_ofInt32 _
    unfold ofJson?
    rw [record?_toJson]
    simp only [Option.bind_eq_bind, Option.bind_some, codec_scores.decode_encode _ h.scores, hname,
      hpriority, codec_events.decode_encode _ h.events,
      codec_events.decode_encode _ h.optionalEvents, codec_flag.decode_encode _ trivial,
      codec_diagnostics.decode_encode _ h.diagnostics]
    rfl
  readable prediction h := by
    refine readable_obj ?_
    simp only [List.forall_mem_cons]
    exact ⟨codec_scores.readable _ _ h.scores rfl, Event.readable_text _, rfl,
      codec_events.readable _ _ h.events rfl, codec_events.readable _ _ h.optionalEvents rfl, rfl,
      rfl, codec_diagnostics.readable _ _ h.diagnostics rfl, rfl, List.forall_mem_nil _⟩
  sound_of_decode value prediction hwords h := by
    simp only [ofJson?, Option.bind_eq_bind, Option.bind_eq_some_iff] at h
    obtain ⟨fields, hfields, h⟩ := h
    have hparts := hwords.record? hfields
    split at h
    · simp only [Option.bind_eq_some_iff] at h
      obtain ⟨scores, hscores, _, _, _, _, events, hevents, optionalEvents, hoptional, _, _, _, _,
        diagnostics, hdiagnostics, _, _, ⟨⟩⟩ := h
      exact {
        scores := codec_scores.sound_of_decode _ scores (hparts _ (by simp)) hscores
        events := codec_events.sound_of_decode _ events (hparts _ (by simp)) hevents
        optionalEvents :=
          codec_events.sound_of_decode _ optionalEvents (hparts _ (by simp)) hoptional
        diagnostics :=
          codec_diagnostics.sound_of_decode _ diagnostics (hparts _ (by simp)) hdiagnostics }
    · cases h

/-- Events and predictions read back as they were, and what is read as one reads back as it was
read. -/
theorem inverse_codecs : Inverse Event.toJson Event.ofJson? Event.Sound ∧
    Inverse toJson ofJson? Sound :=
  ⟨Event.codec.inverse, codec.inverse⟩

def mixed : Prediction where
  scores := [0.25, 1.0]
  policyName := none
  priority := -1
  events := [.userUttered none (some ⟨"greet", 0.5⟩)
    [⟨"city", .obj [("name", .str "Bern"), ("zip", .int 3000)], none, some 2⟩], .slotSet "n" .null]
  optionalEvents := [.actionRejected "utter_greet" none (some 1.0), .restarted]
  diagnostics := .ofList [("why", .arr [.float 0.5])]

def loose : Json :=
  .obj [("confidence", .int 1), ("policy", .null), ("event", .str "action_executed"),
    ("action_name", .str "utter_greet"), ("step", .arr [])]

theorem inverse_codecs_mixed_loose : (mixed.Sound ∧ ofJson? mixed.toJson = some mixed) ∧
    ∃ event, Words loose ∧ Event.ofJson? loose = some event ∧
      Event.ofJson? event.toJson = some event := by
  have hsound : mixed.Sound := {
    scores := by decide
    events := by
      refine List.forall_mem_cons.2 ⟨⟨?_, ?_⟩, List.forall_mem_singleton.2 rfl⟩
      · rintro _ ⟨⟩
        show (0.5 : Float).isFinite = true
        decide
      · exact List.forall_mem_singleton.2 rfl
    optionalEvents := by
      refine List.forall_mem_cons.2 ⟨?_, List.forall_mem_singleton.2 trivial⟩
      rintro _ ⟨⟩
      decide
    diagnostics := List.forall_mem_singleton.2 rfl }
  have hwords : Words loose := by
    refine .obj ?_
    simp only [List.forall_mem_cons]
    exact ⟨.int ⟨by decide, by decide⟩, .null, .str _, .str _, .arr (List.forall_mem_nil _),
      List.forall_mem_nil _⟩
  have hread : Event.ofJson? loose =
      some (.actionExecuted (some "utter_greet") none none (some (Float.ofInt 1))) := rfl
  exact ⟨⟨hsound, inverse_codecs.2.back _ hsound⟩, _, hwords, hread,
    inverse_codecs.1.again _ _ hwords hread⟩

end Prediction

end Dialogue
