import Dialogue.Proofs.Digits
import Dialogue.Proofs.FingerprintBytes
import Dialogue.Proofs.RunTime

/-!
What the fingerprint of a domain tells. The bytes it is taken of give back the intents, the entities
and, with one exception, the actions; the slots stand there without a length or a title of their own,
so domains whose slots read the same run together have the same fingerprint.
-/
namespace Dialogue

namespace Slot

def text (slot : Slot) : String := slot.name ++ (slot.type.title ++ ":" ++ toString slot.influences)

/-- The name has neither the colon, which stands behind the type, nor the zero byte of a length. -/
def Plain (slot : Slot) : Prop := ':' ∉ slot.name.toList ∧ '\x00' ∉ slot.name.toList

instance (slot : Slot) : Decidable slot.Plain := inferInstanceAs (Decidable (_ ∧ _))

theorem slotBytes_eq (slot : Slot) : Domain.slotBytes slot = Domain.bytes slot.text :=
  (Domain.bytes_append _ _).symm

theorem title_inj {type type' : SlotType} {front front' : List Char}
    (h : front ++ type.title.toList = front' ++ type'.title.toList) : type = type' := by
  have hlast (front : List Char) (type : SlotType) :
      (front ++ type.title.toList).reverse.take 2 = type.title.toList.reverse.take 2 := by
    rw [List.reverse_append, List.take_append_of_le_length (by cases type <;> decide)]
  have hends : type.title.toList.reverse.take 2 = type'.title.toList.reverse.take 2 := by
    rw [← hlast front, h, hlast]
  cases type <;> cases type' <;> first | rfl | cases hends

theorem toString_append_inj {influences influences' : Bool} {rest rest' : List Char}
    (h : (toString influences).toList ++ rest = (toString influences').toList ++ rest') :
    influences = influences' ∧ rest = rest' := by
  cases influences <;> cases influences'
  · exact ⟨rfl, List.append_cancel_left h⟩
  · cases h
  · cases h
  · exact ⟨rfl, List.append_cancel_left h⟩

theorem toList_text (slot : Slot) (rest : List Char) : slot.text.toList ++ rest =
    (slot.name.toList ++ slot.type.title.toList) ++
      ':' :: ((toString slot.influences).toList ++ rest) := by
  simp [text]

theorem Plain.ne_colon {slot : Slot} (h : slot.Plain) :
    ∀ c ∈ slot.name.toList ++ slot.type.title.toList, (c != ':') = true := by
  intro c hc
  rw [bne_iff_ne]
  rintro rfl
  rcases List.mem_append.1 hc with hname | htitle
  · exact h.1 hname
  · cases htype : slot.type <;> rw [htype] at htitle <;> revert htitle <;> decide

theorem Plain.nul_notMem_text {slot : Slot} (h : slot.Plain) : '\x00' ∉ slot.text.toList := by
  have hback : '\x00' ∉ (slot.type.title ++ ":" ++ toString slot.influences).toList := by
    cases slot.type <;> cases slot.influences <;> decide
  rw [text, String.toList_append, List.mem_append]
  exact fun hmem => hmem.elim h.2 hback

theorem text_append_inj {slot slot' : Slot} (hslot : slot.Plain) (hslot' : slot'.Plain)
    {rest rest' : List Char} (h : slot.text.toList ++ rest = slot'.text.toList ++ rest') :
    slot = slot' ∧ rest = rest' := by
  rw [toList_text, toList_text] at h
  obtain ⟨hfront, hback⟩ := run_append_inj hslot.ne_colon hslot'.ne_colon
    (ends_cons (by decide) _) (ends_cons (by decide) _) h
  obtain ⟨hinfluences, hrest⟩ := toString_append_inj (List.cons.inj hback).2
  have htype := title_inj hfront
  rw [htype] at hfront
  have hname := String.toList_inj.1 (List.append_cancel_right hfront)
  refine ⟨?_, hrest⟩
  cases slot
  cases slot'
  cases hname
  cases htype
  cases hinfluences
  rfl

theorem flatMap_text_inj {slots slots' : List Slot} (hslots : ∀ slot ∈ slots, slot.Plain)
    (hslots' : ∀ slot ∈ slots', slot.Plain)
    (h : slots.flatMap (·.text.toList) = slots'.flatMap (·.text.toList)) : slots = slots' := by
  have hne (slot : Slot) (rest : List Char) : slot.text.toList ++ rest ≠ [] := by
    rw [toList_text]
    exact List.append_ne_nil_of_right_ne_nil _ (List.cons_ne_nil _ _)
  induction slots generalizing slots' with
  | nil =>
    cases slots' with
    | nil => rfl
    | cons slot' slots' => exact absurd h.symm (hne slot' _)
  | cons slot slots ih =>
    cases slots' with
    | nil => exact absurd h (hne slot _)
    | cons slot' slots' =>
      rw [List.forall_mem_cons] at hslots hslots'
      obtain ⟨rfl, hrest⟩ := text_append_inj hslots.1 hslots'.1 h
      rw [ih hslots.2 hslots'.2 hrest]

end Slot

namespace Domain

/-! ### The bytes of a domain -/

variable {d e : Domain}

structure ShortTexts (domain : Domain) : Prop where
  intents : ∀ intent ∈ domain.intents, Short intent
  entities : ∀ entity ∈ domain.entities, Short entity
  actions : ∀ action ∈ domain.actions, Short action

def slotRun (domain : Domain) : List UInt8 :=
  bytes "slots" ++ domain.slots.flatMap slotBytes

/-- The second domain has further actions behind those of the first one. With its slots they read
like the slots of the first one. -/
def RunsOn (d e : Domain) : Prop :=
  ∃ extra, e.actions = d.actions ++ extra ∧ d.slotRun = extra.flatMap measuredBytes ++ e.slotRun

/-- Different domains with the same bytes. -/
structure Blurs (d e : Domain) : Prop where
  ne : d ≠ e
  intents : d.intents = e.intents
  entities : d.entities = e.entities
  runsOn : RunsOn d e ∨ RunsOn e d

theorem runsOn_refl (d : Domain) : RunsOn d d := ⟨[], (List.append_nil _).symm, rfl⟩

theorem fingerprintBytes_eq (domain : Domain) : domain.fingerprintBytes =
    bytes "intents" ++ (domain.intents.flatMap measuredBytes ++
      (bytes "entities" ++ (domain.entities.flatMap measuredBytes ++
        (bytes "actions" ++ (domain.actions.flatMap measuredBytes ++ domain.slotRun))))) := by
  simp [fingerprintBytes, sectionBytes, slotRun]

theorem bytes_run_of_runsOn (h : RunsOn d e) :
    d.actions.flatMap measuredBytes ++ d.slotRun = e.actions.flatMap measuredBytes ++ e.slotRun := by
  obtain ⟨extra, hactions, hrun⟩ := h
  rw [hactions, hrun, List.flatMap_append, List.append_assoc]

theorem titled_entities (rest : List UInt8) : Titled (bytes "entities" ++ rest) :=
  titled_append (b := 105) (by decide +kernel) (by decide)

theorem titled_actions (rest : List UInt8) : Titled (bytes "actions" ++ rest) :=
  titled_append (b := 110) (by decide +kernel) (by decide)

theorem fingerprintBytes_eq_iff (hd : d.ShortTexts) (he : e.ShortTexts) :
    d.fingerprintBytes = e.fingerprintBytes ↔
      d.intents = e.intents ∧ d.entities = e.entities ∧ (RunsOn d e ∨ RunsOn e d) := by
  rw [fingerprintBytes_eq, fingerprintBytes_eq]
  constructor
  · intro h
    obtain ⟨hintents, hbehind⟩ := flatMap_measuredBytes_inj hd.intents he.intents
      (titled_entities _) (titled_entities _) (List.append_cancel_left h)
    obtain ⟨hentities, hbehind⟩ := flatMap_measuredBytes_inj hd.entities he.entities
      (titled_actions _) (titled_actions _) (List.append_cancel_left hbehind)
    exact ⟨hintents, hentities,
      exists_extra hd.actions he.actions (List.append_cancel_left hbehind)⟩
  · rintro ⟨hintents, hentities, hruns | hruns⟩
    · rw [hintents, hentities, bytes_run_of_runsOn hruns]
    · rw [hintents, hentities, bytes_run_of_runsOn hruns]

/-! ### Plain slots -/

theorem slots_bytes (slots : List Slot) :
    slots.flatMap slotBytes = bytes (String.ofList (slots.flatMap (·.text.toList))) := by
  rw [bytes_ofList, List.flatMap_assoc]
  congr 1
  funext slot
  rw [Slot.slotBytes_eq, ← bytes_ofList, String.ofList_toList]

theorem titled_slotRun (h : ∀ slot ∈ d.slots, slot.Plain) : Titled d.slotRun := by
  refine ⟨5, by decide, ?_⟩
  rw [slotRun, List.getElem?_append_right (by decide +kernel)]
  intro hzero
  have hnul := nul_mem_of_zero_mem ((slots_bytes d.slots) ▸ List.mem_of_getElem? hzero)
  rw [String.toList_ofList, List.mem_flatMap] at hnul
  obtain ⟨slot, hslot, hnul⟩ := hnul
  exact (h slot hslot).nul_notMem_text hnul

theorem eq_of_runsOn (hd : ∀ slot ∈ d.slots, slot.Plain) (he : ∀ slot ∈ e.slots, slot.Plain)
    (hshort : e.ShortTexts) (h : RunsOn d e) : d.actions = e.actions ∧ d.slots = e.slots := by
  obtain ⟨extra, hactions, hrun⟩ := h
  have hextra : extra = [] := by
    apply extra_eq_nil (titled_slotRun hd) _ hrun
    intro action haction
    exact hshort.actions action (hactions ▸ List.mem_append_right _ haction)
  subst hextra
  rw [List.append_nil] at hactions
  have hslots := List.append_cancel_left hrun
  rw [slots_bytes, slots_bytes] at hslots
  exact ⟨hactions.symm, Slot.flatMap_text_inj hd he (String.ofList_inj.1 (bytes_inj hslots))⟩

/-- The slots of domains that blur have names with a colon or a zero byte in them. -/
theorem not_blurs_of_plain (hd : d.ShortTexts) (he : e.ShortTexts)
    (hdslots : ∀ slot ∈ d.slots, slot.Plain) (heslots : ∀ slot ∈ e.slots, slot.Plain) :
    ¬ Blurs d e := by
  rintro ⟨hne, hintents, hentities, hruns | hruns⟩
  · obtain ⟨hactions, hslots⟩ := eq_of_runsOn hdslots heslots he hruns
    exact hne (ext hintents hentities hslots hactions)
  · obtain ⟨hactions, hslots⟩ := eq_of_runsOn heslots hdslots hd hruns
    exact hne (ext hintents hentities hslots.symm hactions.symm)

theorem fingerprint_eq_iff (hd : d.ShortTexts) (he : e.ShortTexts)
    (hseparates : Blake3.Separates d.fingerprintBytes e.fingerprintBytes) :
    d.fingerprint = e.fingerprint ↔ d = e ∨ Blurs d e := by
  unfold fingerprint
  rw [Blake3.hexHash_eq_iff hseparates, fingerprintBytes_eq_iff hd he]
  constructor
  · rintro ⟨hintents, hentities, hruns⟩
    by_cases heq : d = e
    · exact .inl heq
    · exact .inr ⟨heq, hintents, hentities, hruns⟩
  · rintro (rfl | hblurs)
    · exact ⟨rfl, rfl, .inl (runsOn_refl d)⟩
    · exact ⟨hblurs.intents, hblurs.entities, hblurs.runsOn⟩

end Domain

namespace Ensemble

/-! ### The warning -/

section

variable {π : Type} [Policy π] {ensemble trained : Ensemble π} {trackers : List Tracker}
  {d e : Domain} {interpreter : Interpreter} {now : Timestamp} {noticed : List Warning}

theorem domainFingerprint_train
    (h : ensemble.train now trackers d interpreter = (trained, .ok noticed)) :
    trained.domainFingerprint = some d.fingerprint := by
  unfold train at h
  cases hall : trainAll trackers d interpreter ensemble.policies with
  | mk policies outcome =>
    rw [hall] at h
    cases outcome with
    | error error => cases h
    | ok found =>
      cases h
      rfl

theorem checkDomain_train (h : ensemble.train now trackers d interpreter = (trained, .ok noticed))
    (hserves : Serves e trained) :
    trained.checkDomain e = .ok (if d.fingerprint != e.fingerprint then [.domainChanged] else []) :=
  by
  apply checkDomain_eq_ok_iff.2
  rw [domainFingerprint_train h]
  exact ⟨hserves, rfl⟩

variable (π) in
/-- Domains have the same fingerprint if they are the same or blur, which takes slots with odd
names, and a change of the domain is noticed after the training unless the two domains blur. -/
theorem domainChanged_iff_not_blurs (hd : d.ShortTexts) (he : e.ShortTexts)
    (hseparates : Blake3.Separates d.fingerprintBytes e.fingerprintBytes) :
    (d.fingerprint = e.fingerprint ↔ d = e ∨ Domain.Blurs d e) ∧
    ((∀ slot ∈ d.slots, slot.Plain) → (∀ slot ∈ e.slots, slot.Plain) → ¬ Domain.Blurs d e) ∧
    ∀ (ensemble trained : Ensemble π) (now : Timestamp) (trackers : List Tracker)
      (interpreter : Interpreter) (noticed : List Warning),
      ensemble.train now trackers d interpreter = (trained, .ok noticed) → Serves e trained →
      ∃ warnings, trained.checkDomain e = .ok warnings ∧
        (.domainChanged ∈ warnings ↔ d ≠ e ∧ ¬ Domain.Blurs d e) := by
  have hiff := Domain.fingerprint_eq_iff hd he hseparates
  refine ⟨hiff, Domain.not_blurs_of_plain hd he, ?_⟩
  intro ensemble trained now trackers interpreter noticed htrain hserves
  refine ⟨_, checkDomain_train htrain hserves, ?_⟩
  rw [← not_or, ← hiff]
  by_cases hsame : d.fingerprint = e.fingerprint
  · simp [hsame]
  · simp [hsame]

end

def splitSlots : Domain := .ofParts [] [] [⟨"a", .text, true⟩, ⟨"b", .text, true⟩] []

def joinedSlots : Domain := .ofParts [] [] [⟨"aText:trueb", .text, true⟩] []

def trainedOn (domain : Domain) : Ensemble BuiltinPolicy where
  policies := [.fallback .default]
  trainedAt := some ⟨2024, 1, 1, 0, 0, 0, 0⟩
  domainFingerprint := some domain.fingerprint

theorem train_trainedOn (domain : Domain) : train { policies := [.fallback .default] }
    ⟨2024, 1, 1, 0, 0, 0, 0⟩ [] domain .ofMessages = (trainedOn domain, .ok []) := rfl

theorem fingerprintBytes_joinedSlots :
    splitSlots.fingerprintBytes = joinedSlots.fingerprintBytes := by decide +kernel

theorem serves_trainedOn (d e : Domain) : Serves e (trainedOn d) := by
  intro policy hpolicy fallback hfallback
  cases List.mem_singleton.1 hpolicy
  cases hfallback
  exact e.hasAction_of_default (by decide)

theorem shortTexts_ofParts (slots : List Slot) : (Domain.ofParts [] [] slots []).ShortTexts where
  intents _ h := nomatch h
  entities _ h := nomatch h
  actions := by
    rw [show (Domain.ofParts [] [] slots []).actions = defaultActions from
      distinct_eq_self (by decide)]
    decide +kernel

theorem domainChanged_splitSlots :
    (∃ warnings, (trainedOn .empty).checkDomain splitSlots = .ok warnings ∧
      .domainChanged ∈ warnings) ∧
    ∃ warnings, (trainedOn splitSlots).checkDomain joinedSlots = .ok warnings ∧
      .domainChanged ∉ warnings := by
  constructor
  · have hseparates : Blake3.Separates Domain.empty.fingerprintBytes splitSlots.fingerprintBytes := by
      have hhashes : Blake3.hash Domain.empty.fingerprintBytes ≠
          Blake3.hash splitSlots.fingerprintBytes := by decide +kernel
      exact fun h => absurd h hhashes
    obtain ⟨_, hplain, hnotice⟩ := domainChanged_iff_not_blurs BuiltinPolicy
      (shortTexts_ofParts []) (shortTexts_ofParts _) hseparates
    obtain ⟨warnings, hcheck, hiff⟩ :=
      hnotice _ _ _ _ _ _ (train_trainedOn .empty) (serves_trainedOn _ splitSlots)
    have hne : Domain.empty ≠ splitSlots := by
      intro h
      cases congrArg Domain.slots h
    have hslots : ∀ slot ∈ splitSlots.slots, slot.Plain := by
      decide
    exact ⟨warnings, hcheck, hiff.2 ⟨hne, hplain (by decide) hslots⟩⟩
  · obtain ⟨hfingerprint, _, hnotice⟩ := domainChanged_iff_not_blurs BuiltinPolicy
      (shortTexts_ofParts _) (shortTexts_ofParts _) fun _ => fingerprintBytes_joinedSlots
    obtain ⟨warnings, hcheck, hiff⟩ :=
      hnotice _ _ _ _ _ _ (train_trainedOn splitSlots) (serves_trainedOn _ joinedSlots)
    refine ⟨warnings, hcheck, fun hmem => ?_⟩
    obtain ⟨hne, hblurs⟩ := hiff.1 hmem
    rcases hfingerprint.1 (congrArg Blake3.hexHash fingerprintBytes_joinedSlots) with heq | hblur
    · exact hne heq
    · exact hblurs hblur

theorem checkDomain_joinedSlots : splitSlots.ShortTexts ∧ joinedSlots.ShortTexts ∧
    splitSlots.slots ≠ joinedSlots.slots ∧ splitSlots.fingerprint = joinedSlots.fingerprint ∧
    (trainedOn splitSlots).checkDomain joinedSlots = .ok [] := by
  have hsame : splitSlots.fingerprint = joinedSlots.fingerprint :=
    congrArg Blake3.hexHash fingerprintBytes_joinedSlots
  refine ⟨shortTexts_ofParts _, shortTexts_ofParts _, by decide, hsame, ?_⟩
  rw [checkDomain_train (train_trainedOn _) (serves_trainedOn _ _), hsame]
  simp

end Ensemble

end Dialogue
