import ProcessEngine.Data.OrderedMap

/-!
# JSON values

A value keeps the members of an object in the order in which they were written,
so one type serves both free-form payloads and records with a fixed layout.
Payloads are kept in *canonical* form, with members sorted by name and the last
of several members of one name kept (`Json.canonical`). Binary fractions are
kept as their 64 bits, so equality of values is equality of what is written.
-/

namespace ProcessEngine

/-- A JSON value. -/
inductive Json where
  | null
  | bool (value : Bool)
  | int (value : Int)
  | float (bits : UInt64)
  | text (value : String)
  | list (items : List Json)
  | object (members : List (String × Json))
deriving Repr, Inhabited

namespace Json

mutual

/-- Whether two values are the same. -/
def same : Json -> Json -> Bool
  | .null, .null => true
  | .bool left, .bool right => left == right
  | .int left, .int right => left == right
  | .float left, .float right => left == right
  | .text left, .text right => left == right
  | .list left, .list right => sameItems left right
  | .object left, .object right => sameMembers left right
  | _, _ => false

/-- Whether two lists hold the same values. -/
def sameItems : List Json -> List Json -> Bool
  | [], [] => true
  | left :: lefts, right :: rights => same left right && sameItems lefts rights
  | _, _ => false

/-- Whether two lists hold the same members. -/
def sameMembers : List (String × Json) -> List (String × Json) -> Bool
  | [], [] => true
  | (name, left) :: lefts, (name', right) :: rights =>
    name == name' && same left right && sameMembers lefts rights
  | _, _ => false

end

mutual

/-- Values found to be the same are equal, and the other way round. -/
theorem same_iff : (left right : Json) -> (same left right = true ↔ left = right)
  | .null, right => by cases right <;> simp [same]
  | .bool _, right => by cases right <;> simp [same]
  | .int _, right => by cases right <;> simp [same]
  | .float _, right => by cases right <;> simp [same]
  | .text _, right => by cases right <;> simp [same]
  | .list items, right => by
    cases right <;> simp [same]
    exact sameItems_iff items _
  | .object members, right => by
    cases right <;> simp [same]
    exact sameMembers_iff members _

theorem sameItems_iff : (left right : List Json) -> (sameItems left right = true ↔ left = right)
  | [], right => by cases right <;> simp [sameItems]
  | left :: lefts, right => by
    cases right with
    | nil => simp [sameItems]
    | cons head tail => simp [sameItems, same_iff left head, sameItems_iff lefts tail]

theorem sameMembers_iff :
    (left right : List (String × Json)) -> (sameMembers left right = true ↔ left = right)
  | [], right => by cases right <;> simp [sameMembers]
  | (name, left) :: lefts, right => by
    cases right with
    | nil => simp [sameMembers]
    | cons head tail =>
      obtain ⟨name', value⟩ := head
      simp [sameMembers, same_iff left value, sameMembers_iff lefts tail, and_assoc]

end

instance : DecidableEq Json := fun left right =>
  decidable_of_iff (same left right = true) (same_iff left right)

/-- Members sorted by name, in which a later member of a name replaces an earlier one. -/
def sortMembers (members : List (String × Json)) : List (String × Json) :=
  (OrderedMap.ofList members).toList

mutual

/-- The same value with every object's members sorted by name and without repeated names. -/
def canonical : Json -> Json
  | .list items => .list (canonicalItems items)
  | .object members => .object (sortMembers (canonicalMembers members))
  | other => other

/-- The items in canonical form. -/
def canonicalItems : List Json -> List Json
  | [] => []
  | item :: rest => canonical item :: canonicalItems rest

/-- The members with their values in canonical form. -/
def canonicalMembers : List (String × Json) -> List (String × Json)
  | [] => []
  | (name, value) :: rest => (name, canonical value) :: canonicalMembers rest

end

mutual

/-- How many levels of lists and objects a value has, itself included. -/
def height : Json -> Nat
  | .list items => heightItems items + 1
  | .object members => heightMembers members + 1
  | _ => 1

/-- The greatest height of the items. -/
def heightItems : List Json -> Nat
  | [] => 0
  | item :: rest => max (height item) (heightItems rest)

/-- The greatest height of the members. -/
def heightMembers : List (String × Json) -> Nat
  | [] => 0
  | (_, value) :: rest => max (height value) (heightMembers rest)

end

/-- The first member of a name. -/
def member? (name : String) : Json -> Option Json
  | .object members => members.lookup name
  | _ => none

end Json

end ProcessEngine
