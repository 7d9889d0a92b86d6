import ProcessEngine.Value

/-!
# Conditions

The guards of flows: truth-valued expressions over the flags and counters of an
instance. A missing flag reads as false and a missing counter as zero. Conditions
are totally ordered, by their kind first and then by their parts, which gives the
flows of a gateway one order of their own.
-/

namespace ProcessEngine

/-- A guard over flags and counters. -/
inductive Condition where
  /-- The flag counts as true. -/
  | flag (name : String)
  /-- The flag has a value. -/
  | equals (name : String) (value : Value)
  /-- The counter is below a limit. -/
  | counterBelow (counter : String) (limit : Int64)
  /-- The condition does not hold. -/
  | negation (condition : Condition)
  /-- Every condition holds. -/
  | all (conditions : List Condition)
  /-- Some condition holds. -/
  | any (conditions : List Condition)
deriving Repr, Inhabited

namespace Condition

mutual

/-- Whether two conditions are the same. -/
def same : Condition -> Condition -> Bool
  | .flag left, .flag right => left == right
  | .equals left value, .equals right value' => left == right && value == value'
  | .counterBelow left limit, .counterBelow right limit' => left == right && limit == limit'
  | .negation left, .negation right => same left right
  | .all left, .all right => sameLists left right
  | .any left, .any right => sameLists left right
  | _, _ => false

/-- Whether two lists hold the same conditions. -/
def sameLists : List Condition -> List Condition -> Bool
  | [], [] => true
  | left :: lefts, right :: rights => same left right && sameLists lefts rights
  | _, _ => false

end

mutual

/-- Conditions found to be the same are equal, and the other way round. -/
theorem same_iff : (left right : Condition) -> (same left right = true ↔ left = right)
  | .flag _, right => by cases right <;> simp [same]
  | .equals _ _, right => by cases right <;> simp [same]
  | .counterBelow _ _, right => by cases right <;> simp [same]
  | .negation inner, right => by
    cases right <;> simp [same]
    exact same_iff inner _
  | .all conditions, right => by
    cases right <;> simp [same]
    exact sameLists_iff conditions _
  | .any conditions, right => by
    cases right <;> simp [same]
    exact sameLists_iff conditions _

theorem sameLists_iff :
    (left right : List Condition) -> (sameLists left right = true ↔ left = right)
  | [], right => by cases right <;> simp [sameLists]
  | left :: lefts, right => by
    cases right with
    | nil => simp [sameLists]
    | cons head tail => simp [sameLists, same_iff left head, sameLists_iff lefts tail]

end

instance : DecidableEq Condition := fun left right =>
  decidable_of_iff (same left right = true) (same_iff left right)

mutual

/-- The order of conditions: by kind, then by their parts. -/
def compare : Condition -> Condition -> Ordering
  | .flag left, .flag right => Ord.compare left right
  | .flag _, _ => .lt
  | .equals _ _, .flag _ => .gt
  | .equals left value, .equals right value' =>
    (Ord.compare left right).then (Ord.compare value value')
  | .equals _ _, _ => .lt
  | .counterBelow _ _, .flag _ => .gt
  | .counterBelow _ _, .equals _ _ => .gt
  | .counterBelow left limit, .counterBelow right limit' =>
    (Ord.compare left right).then (Ord.compare limit limit')
  | .counterBelow _ _, _ => .lt
  | .negation left, .negation right => compare left right
  | .negation _, .all _ => .lt
  | .negation _, .any _ => .lt
  | .negation _, _ => .gt
  | .all left, .all right => compareLists left right
  | .all _, .any _ => .lt
  | .all _, _ => .gt
  | .any left, .any right => compareLists left right
  | .any _, _ => .gt

/-- The order of lists of conditions: the first difference decides, and a list comes before its
continuations. -/
def compareLists : List Condition -> List Condition -> Ordering
  | [], [] => .eq
  | [], _ :: _ => .lt
  | _ :: _, [] => .gt
  | left :: lefts, right :: rights => (compare left right).then (compareLists lefts rights)

end

instance : Ord Condition := ⟨compare⟩

mutual

/-- Whether a condition holds. -/
def evaluate (flags : Flags) (counters : Counters) : Condition -> Bool
  | .flag name => (flags.getD name default).isTruthy
  | .equals name value => flags.getD name default == value
  | .counterBelow counter limit => counters.getD counter 0 < limit
  | .negation condition => !evaluate flags counters condition
  | .all conditions => evaluateAll flags counters conditions
  | .any conditions => evaluateAny flags counters conditions

/-- Whether every condition of a list holds. -/
def evaluateAll (flags : Flags) (counters : Counters) : List Condition -> Bool
  | [] => true
  | condition :: rest => evaluate flags counters condition && evaluateAll flags counters rest

/-- Whether some condition of a list holds. -/
def evaluateAny (flags : Flags) (counters : Counters) : List Condition -> Bool
  | [] => false
  | condition :: rest => evaluate flags counters condition || evaluateAny flags counters rest

end

mutual

/-- The text of a condition. -/
def display : Condition -> String
  | .flag name => name
  | .equals name value => name ++ " == " ++ value.quoted
  | .counterBelow counter limit => "#" ++ counter ++ " < " ++ toString limit.toInt
  | .negation condition => "!" ++ display condition
  | .all [] => "true"
  | .any [] => "false"
  | .all (condition :: rest) => "(" ++ display condition ++ displayRest " && " rest
  | .any (condition :: rest) => "(" ++ display condition ++ displayRest " || " rest

/-- The text of the conditions after the first, each after a connective, and the closing
bracket. -/
def displayRest (connective : String) : List Condition -> String
  | [] => ")"
  | condition :: rest => connective ++ display condition ++ displayRest connective rest

end

mutual

/-- A condition as JSON. -/
def toJson : Condition -> Json
  | .flag name => Encode.tagged "op" "flag" [("flag", .text name)]
  | .equals name value =>
    Encode.tagged "op" "equals" [("flag", .text name), ("value", encode value)]
  | .counterBelow counter limit =>
    Encode.tagged "op" "counter_below" [("counter", .text counter), ("limit", encode limit)]
  | .negation condition => Encode.tagged "op" "not" [("condition", toJson condition)]
  | .all conditions => Encode.tagged "op" "all" [("conditions", .list (toJsonList conditions))]
  | .any conditions => Encode.tagged "op" "any" [("conditions", .list (toJsonList conditions))]

/-- Conditions as a list of JSON values. -/
def toJsonList : List Condition -> List Json
  | [] => []
  | condition :: rest => toJson condition :: toJsonList rest

end

/-- Reads a condition that is nested at most as deep as given. -/
def ofJson? : Nat -> Decode.Reader Condition
  | 0 => fun _ _ => none
  | depth + 1 => Decode.tagged "op" [
    ("flag", do return .flag (<- Decode.field "flag" reader)),
    ("equals", do
      return .equals (<- Decode.field "flag" reader) (<- Decode.field "value" reader)),
    ("counter_below", do
      return .counterBelow (<- Decode.field "counter" reader) (<- Decode.field "limit" reader)),
    ("not", do return .negation (<- Decode.field "condition" (ofJson? depth))),
    ("all", do return .all (<- Decode.field "conditions" (Decode.list (ofJson? depth)))),
    ("any", do return .any (<- Decode.field "conditions" (Decode.list (ofJson? depth))))]

instance : JsonCodec Condition where
  encode := toJson
  reader place json := ofJson? json.height place json

end Condition

end ProcessEngine
