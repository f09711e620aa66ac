import Dialogue.Json

/-!
Reading records from JSON. A record is an object, or the list of its fields in order; unknown
members are passed over, and a repeated field is refused.
-/
namespace Dialogue.Json

/-- The fields with the given names, as far as they are there. Written as a list, the record has
at least the first `required` of its fields and nothing more than its fields. -/
def record? (names : List String) (required : Nat) : Json → Option (List (Option Json))
  | obj members => names.mapM fun name =>
      match members.filter (·.1 == name) with
      | [] => some none
      | [(_, value)] => some (some value)
      | _ => none
  | arr items =>
    if required ≤ items.length && items.length ≤ names.length then
      some ((List.range names.length).map (items[·]?))
    else none
  | _ => none

def field (decode : Json → Option α) : Option Json → Option α
  | some value => decode value
  | none => none

def optionalField (decode : Json → Option α) : Option Json → Option (Option α)
  | none => some none
  | some .null => some none
  | some value => (decode value).map some

/-- A field with a value of its own when it is left out. -/
def defaultField (default : α) (decode : Json → Option α) : Option Json → Option α
  | none => some default
  | some value => decode value

def asString? : Json → Option String
  | str s => some s
  | _ => none

def asBool? : Json → Option Bool
  | bool b => some b
  | _ => none

def asFloat? : Json → Option Float
  | int n => some (Float.ofInt n)
  | float x => if x.isFinite then some x else none
  | _ => none

def asUInt64? : Json → Option UInt64
  | int n =>
    let m := UInt64.ofNat n.toNat
    if (m.toNat : Int) = n then some m else none
  | _ => none

def asInt32? : Json → Option Int32
  | int n =>
    let m := Int32.ofInt n
    if m.toInt = n then some m else none
  | _ => none

def asList? (decode : Json → Option α) : Json → Option (List α)
  | arr items => items.mapM decode
  | _ => none

def asMap? (decode : Json → Option α) : Json → Option (SortedMap α)
  | obj members =>
    (members.mapM fun (member : String × Json) => (decode member.2).map (member.1, ·)).map
      SortedMap.ofList
  | _ => none

def ofInt32 (n : Int32) : Json := .int n.toInt

def ofUInt64 (n : UInt64) : Json := .int n.toNat

end Dialogue.Json
