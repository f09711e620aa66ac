import Dialogue.Domain.File
import Dialogue.Proofs.ActionListing
import Dialogue.Proofs.FingerprintBytes
import Mathlib.Data.List.Induction

/-!
A domain has every section of its file but some of the intents: of a mapping that configures several
only the least one is read.
-/
namespace Dialogue

/-! ### The order of texts -/

namespace Domain

theorem digits_lt {v w : Nat} (h : v < w) :
    v / 64 < w / 64 ∨ v / 64 = w / 64 ∧ v % 64 < w % 64 := by
  omega

theorem utf8EncodeChar_append_lt {c d : Char} (h : c < d) (rest rest' : List UInt8) :
    String.utf8EncodeChar c ++ rest < String.utf8EncodeChar d ++ rest' := by
  have hlt : c.val.toNat < d.val.toNat := h
  have hmax : d.val.toNat < 0x110000 := by
    have hvalid := d.valid
    unfold UInt32.isValidChar Nat.isValidChar at hvalid
    omega
  simp only [String.utf8EncodeChar]
  generalize c.val.toNat = v at *
  generalize d.val.toNat = w at *
  have hdiv (n : Nat) : n / 64 / 64 = n / 4096 ∧ n / 4096 / 64 = n / 262144 :=
    ⟨Nat.div_div_eq_div_mul .., Nat.div_div_eq_div_mul ..⟩
  -- the digits of the longest form in order, which decides between forms of one length
  have hdigits : v / 262144 < w / 262144 ∨ v / 262144 = w / 262144 ∧
      (v / 4096 % 64 < w / 4096 % 64 ∨ v / 4096 % 64 = w / 4096 % 64 ∧
        (v / 64 % 64 < w / 64 % 64 ∨ v / 64 % 64 = w / 64 % 64 ∧ v % 64 < w % 64)) := by
    rcases digits_lt hlt with hlt | ⟨heq, hlt⟩
    · rcases digits_lt hlt with hlt | ⟨heq, hlt⟩
      · rw [(hdiv v).1, (hdiv w).1] at hlt
        have hfirst := digits_lt hlt
        omega
      · omega
    · omega
  split_ifs
  all_goals
    simp only [List.cons_append, List.nil_append, List.cons_lt_cons_iff, UInt8.lt_iff_toNat_lt,
      ← UInt8.toNat_inj, UInt8.toNat_ofNat']
    simp (disch := omega) only [Nat.mod_eq_of_lt]
    omega

theorem flatMap_utf8EncodeChar_lt {cs ds : List Char} (h : cs < ds) :
    cs.flatMap String.utf8EncodeChar < ds.flatMap String.utf8EncodeChar := by
  induction h with
  | @nil d ds =>
    rw [List.flatMap_nil, List.flatMap_cons]
    cases hd : String.utf8EncodeChar d with
    | nil => exact absurd hd (String.utf8EncodeChar_ne_nil)
    | cons byte rest => exact List.nil_lt_cons ..
  | cons _ ih =>
    rw [List.flatMap_cons, List.flatMap_cons]
    exact List.append_left_lt ih
  | rel hlt =>
    rw [List.flatMap_cons, List.flatMap_cons]
    exact utf8EncodeChar_append_lt hlt _ _

theorem bytes_lt_bytes {s t : String} (h : s < t) : bytes s < bytes t := by
  rw [← String.ofList_toList (s := s), ← String.ofList_toList (s := t), bytes_ofList, bytes_ofList]
  exact flatMap_utf8EncodeChar_lt (String.lt_iff.1 h)

end Domain

def ByteSorted (texts : List String) : Prop :=
  texts.Pairwise fun a b => Domain.bytes a < Domain.bytes b

theorem SortedMap.byteSorted_keys {α : Type} (map : SortedMap α) : ByteSorted map.keys :=
  map.pairwise_keys.imp Domain.bytes_lt_bytes

theorem SortedMap.get?_ofList_eq {α : Type} (entries : List (String × α)) (key : String) :
    (ofList entries).get? key = entries.reverse.lookup key := by
  induction entries using List.reverseRecOn with
  | nil => rfl
  | append_singleton entries last ih =>
    rw [List.reverse_append, List.reverse_singleton, List.singleton_append, lookup_cons, ← ih]
    unfold ofList
    rw [List.foldl_append]
    exact get?_insert ..

theorem mem_sortedTexts {text : String} {texts : List String} :
    text ∈ sortedTexts texts ↔ text ∈ texts := by
  have hget : text ∈ sortedTexts texts ↔
      ∃ value, (SortedMap.ofList (texts.map (·, ()))).get? text = some value := by
    unfold sortedTexts SortedMap.keys
    simp only [List.mem_map, Prod.exists, exists_and_right, exists_eq_right,
      SortedMap.mem_entries_iff]
  rw [hget, ← Option.isSome_iff_exists, SortedMap.get?_ofList_eq, List.lookup_isSome_iff]
  simp

theorem byteSorted_sortedTexts (texts : List String) : ByteSorted (sortedTexts texts) :=
  SortedMap.byteSorted_keys _

/-! ### Intents -/

namespace IntentEntry

def names : IntentEntry → List String
  | .name text => [text]
  | .configured names => distinct names

/-- The least intent that an entry names, if it names one. -/
def Least (entry : IntentEntry) (intent : Option String) : Prop :=
  ∀ name, intent = some name ↔ name ∈ entry.names ∧
    ∀ other ∈ entry.names, other = name ∨ Domain.bytes name < Domain.bytes other

theorem least_intent? (entry : IntentEntry) : entry.Least entry.intent? := by
  intro name
  cases entry with
  | name text =>
    rw [names, List.forall_mem_singleton, List.mem_singleton, intent?, Option.some.injEq]
    exact ⟨fun h => ⟨h.symm, Or.inl h⟩, fun h => h.1.symm⟩
  | configured texts =>
    have hsorted := byteSorted_sortedTexts texts
    have hmem (text : String) : text ∈ distinct texts ↔ text ∈ sortedTexts texts :=
      mem_distinct.trans mem_sortedTexts.symm
    simp only [intent?, names, hmem]
    cases hfirst : sortedTexts texts with
    | nil => simp
    | cons first rest =>
      rw [hfirst, ByteSorted, List.pairwise_cons] at hsorted
      rw [List.head?_cons, Option.some.injEq]
      constructor
      · rintro rfl
        refine ⟨List.mem_cons_self, fun other hother => ?_⟩
        exact (List.mem_cons.1 hother).imp_right (hsorted.1 other)
      · rintro ⟨hname, hleast⟩
        rcases List.mem_cons.1 hname with heq | hrest
        · exact heq.symm
        · exact (hleast first List.mem_cons_self).resolve_right
            (List.lt_asymm (hsorted.1 name hrest))

/-- Whether an entry has more intents than are read. -/
def Hides (entry : IntentEntry) : Prop := 1 < entry.names.length

theorem intent?_eq_of_not_hides {entry : IntentEntry} (h : ¬ entry.Hides) :
    entry.intent?.toList = entry.names := by
  unfold Hides at h
  have hleast := entry.least_intent?
  cases hnames : entry.names with
  | nil =>
    cases hintent : entry.intent? with
    | none => rfl
    | some name =>
      have hmem := ((hleast name).1 hintent).1
      rw [hnames] at hmem
      cases hmem
  | cons name rest =>
    rw [hnames, List.length_cons] at h
    cases List.eq_nil_of_length_eq_zero (by omega : rest.length = 0)
    rw [(hleast name).2 (by simp [hnames])]
    rfl

theorem length_intent?_le (entry : IntentEntry) :
    entry.intent?.toList.length ≤ entry.names.length := by
  cases hintent : entry.intent? with
  | none => exact Nat.zero_le _
  | some name => exact List.length_pos_of_mem ((entry.least_intent? name).1 hintent).1

theorem length_flatMap_intent?_le (entries : List IntentEntry) :
    (entries.flatMap (·.intent?.toList)).length ≤ (entries.flatMap names).length := by
  induction entries with
  | nil => exact Nat.le_refl _
  | cons entry rest ih =>
    simp only [List.flatMap_cons, List.length_append]
    exact Nat.add_le_add entry.length_intent?_le ih

theorem not_hides_of_length_le {entries : List IntentEntry}
    (h : (entries.flatMap names).length ≤ (entries.flatMap (·.intent?.toList)).length) :
    ∀ entry ∈ entries, ¬ entry.Hides := by
  induction entries with
  | nil => exact fun _ hentry => nomatch hentry
  | cons entry rest ih =>
    simp only [List.flatMap_cons, List.length_append] at h
    have hfirst := entry.length_intent?_le
    have hrest := length_flatMap_intent?_le rest
    have hone : entry.intent?.toList.length ≤ 1 := by cases entry.intent? <;> simp
    refine List.forall_mem_cons.2 ⟨?_, ih (by omega)⟩
    unfold Hides
    omega

theorem sublist_iff {entries : List IntentEntry} :
    (entries.flatMap names).Sublist (entries.filterMap intent?) ↔
      ∀ entry ∈ entries, ¬ entry.Hides := by
  rw [List.filterMap_eq_flatMap_toList]
  constructor
  · intro h
    exact not_hides_of_length_le h.length_le
  · intro h
    rw [List.flatMap_congr fun entry hentry => intent?_eq_of_not_hides (h entry hentry)]

end IntentEntry

/-! ### Files -/

namespace Domain

/-- A domain has its entities, slots and actions from a file: the slots by name, with the type and
the influence that the last entry of the name says or else the usual ones, and the responses among
the actions in the order of their bytes. -/
structure Keeps (domain : Domain) (file : DomainFile) : Prop where
  entities : domain.entities = file.entities
  slots_sorted : ByteSorted (domain.slots.map Slot.name)
  mem_slots : ∀ slot, slot ∈ domain.slots ↔ ∃ entry,
    file.slots.reverse.lookup slot.name = some entry ∧
      slot.type = entry.type.getD .text ∧ slot.influences = entry.influences.getD true
  actions : ∃ responses, ByteSorted responses ∧
    (∀ name, name ∈ responses ↔ name ∈ file.responses) ∧
    domain.Lists (file.actions ++ responses ++ file.actionTexts)

/-- Every intent of the file is an intent of the domain, in the order of the file. -/
def KeepsIntents (domain : Domain) (file : DomainFile) : Prop :=
  (file.intents.flatMap IntentEntry.names).Sublist domain.intents

/-- Of every entry the least intent is an intent of the domain, and there is no other. -/
def ReadsIntents (domain : Domain) (file : DomainFile) : Prop :=
  ∃ intents, List.Forall₂ IntentEntry.Least file.intents intents ∧
    domain.intents = intents.filterMap id

theorem keeps_domain (file : DomainFile) : file.domain.Keeps file where
  entities := rfl
  slots_sorted := by
    have hnames : file.sortedSlots.map Slot.name = (SortedMap.ofList file.slots).keys :=
      List.map_map ..
    exact hnames ▸ SortedMap.byteSorted_keys _
  mem_slots slot := by
    show slot ∈ file.sortedSlots ↔ _
    rw [DomainFile.sortedSlots, List.mem_map]
    simp only [← SortedMap.get?_ofList_eq, ← SortedMap.mem_entries_iff]
    constructor
    · rintro ⟨⟨name, entry⟩, hentry, rfl⟩
      exact ⟨entry, hentry, rfl, rfl⟩
    · rintro ⟨entry, hentry, htype, hinfluences⟩
      refine ⟨(slot.name, entry), hentry, ?_⟩
      rw [SlotEntry.slot, ← htype, ← hinfluences]
  actions := ⟨sortedTexts file.responses, byteSorted_sortedTexts _, fun _ => mem_sortedTexts,
    lists_ofParts _ _ _ _⟩

theorem readsIntents_domain (file : DomainFile) : file.domain.ReadsIntents file := by
  refine ⟨file.intents.map IntentEntry.intent?, ?_, ?_⟩
  · rw [List.forall₂_map_right_iff, List.forall₂_same]
    exact fun entry _ => entry.least_intent?
  · rw [List.filterMap_map]
    rfl

theorem keepsIntents_domain_iff {file : DomainFile} :
    file.domain.KeepsIntents file ↔ ∀ entry ∈ file.intents, ¬ entry.Hides :=
  IntentEntry.sublist_iff

theorem ofYaml_eq_ok_iff {text : String} {domain : Domain} : ofYaml text = .ok domain ↔
    ∃ file, DomainFile.ofYaml? text = some file ∧ domain = file.domain := by
  unfold ofYaml
  cases DomainFile.ofYaml? text with
  | none => simp
  | some file => simp [eq_comm]

def LosesNothing (text : String) : Prop :=
  ∀ domain, ofYaml text = .ok domain → ∃ file, DomainFile.ofYaml? text = some file ∧
    domain.KeepsIntents file ∧ domain.Keeps file

/-- The domain of a text has everything but some of its intents, of which it has the least of every
entry; it has them all if and only if no entry has several. -/
theorem ofYaml_sections (text : String) :
    (∀ domain, ofYaml text = .ok domain → ∃ file, DomainFile.ofYaml? text = some file ∧
      domain.ReadsIntents file ∧ domain.Keeps file) ∧
    (LosesNothing text ↔ ∀ file, DomainFile.ofYaml? text = some file →
      ∀ entry ∈ file.intents, ¬ entry.Hides) := by
  refine ⟨fun domain h => ?_, fun h file hfile => ?_, fun h domain hdomain => ?_⟩
  · obtain ⟨file, hfile, rfl⟩ := ofYaml_eq_ok_iff.1 h
    exact ⟨file, hfile, readsIntents_domain file, keeps_domain file⟩
  · obtain ⟨file', hfile', hintents, _⟩ := h file.domain (ofYaml_eq_ok_iff.2 ⟨file, hfile, rfl⟩)
    rw [hfile] at hfile'
    cases hfile'
    exact keepsIntents_domain_iff.1 hintents
  · obtain ⟨file, hfile, rfl⟩ := ofYaml_eq_ok_iff.1 hdomain
    exact ⟨file, hfile, keepsIntents_domain_iff.2 (h file hfile), keeps_domain file⟩

def pairedIntents : String := "intents:\n- goodbye:\n  greet:\n"

theorem not_losesNothing_pairedIntents : ¬ LosesNothing pairedIntents := by
  intro h
  have hfile : DomainFile.ofYaml? pairedIntents =
      some { intents := [.configured ["goodbye", "greet"]] } := by
    decide +kernel
  obtain ⟨file, hfile', hintents, _⟩ := h _ (by rw [ofYaml, hfile])
  rw [hfile] at hfile'
  cases hfile'
  have hlength := hintents.length_le
  revert hlength
  decide +kernel

end Domain

end Dialogue
