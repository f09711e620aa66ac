import Dialogue.Distinct
import Dialogue.Error
import Dialogue.Hash.Blake3
import Dialogue.Slot

/-!
The domain: intents, entities, slots, and the actions in the order that gives each its index. Every
domain starts with the default actions and lists no action twice.
-/
namespace Dialogue

def listenAction : String := "action_listen"

def unlikelyIntentAction : String := "action_unlikely_intent"

def fallbackAction : String := "action_default_fallback"

def defaultActions : List String := [
  listenAction,
  "action_restart",
  "action_session_start",
  fallbackAction,
  "action_deactivate_loop",
  "action_revert_fallback_events",
  "action_default_ask_affirmation",
  "action_default_ask_rephrase",
  "action_two_stage_fallback",
  unlikelyIntentAction,
  "action_back"]

structure Domain where
  intents : List String
  entities : List String
  slots : List Slot
  actions : List String
  nodup : actions.Nodup
  defaults : defaultActions <+: actions

namespace Domain

theorem ext {d e : Domain} (hintents : d.intents = e.intents) (hentities : d.entities = e.entities)
    (hslots : d.slots = e.slots) (hactions : d.actions = e.actions) : d = e := by
  cases d
  cases e
  cases hintents
  cases hentities
  cases hslots
  cases hactions
  rfl

/-- A domain with some actions beside the default ones. A repeated action keeps its first place. -/
def ofParts (intents entities : List String) (slots : List Slot) (actions : List String) :
    Domain where
  intents := intents
  entities := entities
  slots := slots
  actions := distinct (defaultActions ++ actions)
  nodup := nodup_distinct _
  defaults := by
    rw [distinct_append, distinct_eq_self (by decide)]
    exact List.prefix_append _ _

def empty : Domain := ofParts [] [] [] []

instance : Inhabited Domain := ⟨empty⟩

def size (domain : Domain) : Nat := domain.actions.length

def hasAction (domain : Domain) (name : String) : Bool := domain.actions.contains name

def index? (domain : Domain) (name : String) : Option Nat := domain.actions.idxOf? name

def index (domain : Domain) (name : String) : Except DomainError Nat :=
  match domain.index? name with
  | some i => .ok i
  | none => .error (.actionNotFound name)

def action (domain : Domain) (index : Nat) : Except DomainError String :=
  match domain.actions[index]? with
  | some name => .ok name
  | none => .error (.indexOutOfRange index domain.size)

def slot? (domain : Domain) (name : String) : Option Slot :=
  domain.slots.find? (·.name == name)

/-! ### Fingerprint -/

def bytes (s : String) : List UInt8 := s.toUTF8.toList

def numberBytes : Nat → Nat → List UInt8
  | 0, _ => []
  | count + 1, n => UInt8.ofNat n :: numberBytes count (n / 256)

/-- A text behind its length, which takes eight bytes. -/
def measuredBytes (s : String) : List UInt8 :=
  numberBytes 8 s.utf8ByteSize ++ bytes s

def sectionBytes (title : String) (items : List String) : List UInt8 :=
  bytes title ++ items.flatMap measuredBytes

def slotBytes (slot : Slot) : List UInt8 :=
  bytes slot.name ++ bytes (slot.type.title ++ ":" ++ toString slot.influences)

def fingerprintBytes (domain : Domain) : List UInt8 :=
  sectionBytes "intents" domain.intents ++ sectionBytes "entities" domain.entities ++
    sectionBytes "actions" domain.actions ++ bytes "slots" ++ domain.slots.flatMap slotBytes

def fingerprint (domain : Domain) : String :=
  Blake3.hexHash domain.fingerprintBytes

end Domain

end Dialogue
