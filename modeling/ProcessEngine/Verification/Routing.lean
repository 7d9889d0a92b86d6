import ProcessEngine.Graph.Basic
import ProcessEngine.Verification.Problem

/-!
# Unambiguous routing

An exclusive gateway without a default flow has to take one flow at most, whatever
the flags and counters are. Conditions can tell few values apart: a flag's
constants, the truth values, some other text that counts as true, and for a counter
the numbers just below and at its limits. Trying every combination of these values
decides the question, unless there are too many of them.
-/

namespace ProcessEngine

namespace Condition

mutual

/-- The flags that a condition reads, each with the constant it is compared with. -/
def flagUses : Condition -> List (String × Option Value)
  | .flag name => [(name, none)]
  | .equals name value => [(name, some value)]
  | .counterBelow _ _ => []
  | .negation condition => flagUses condition
  | .all conditions => flagUsesList conditions
  | .any conditions => flagUsesList conditions

/-- The flags that some conditions read. -/
def flagUsesList : List Condition -> List (String × Option Value)
  | [] => []
  | condition :: rest => flagUses condition ++ flagUsesList rest

end

mutual

/-- The counters that a condition reads, each with the limit it is compared with. -/
def counterUses : Condition -> List (String × Int64)
  | .flag _ => []
  | .equals _ _ => []
  | .counterBelow counter limit => [(counter, limit)]
  | .negation condition => counterUses condition
  | .all conditions => counterUsesList conditions
  | .any conditions => counterUsesList conditions

/-- The counters that some conditions read. -/
def counterUsesList : List Condition -> List (String × Int64)
  | [] => []
  | condition :: rest => counterUses condition ++ counterUsesList rest

end

end Condition

namespace Routing

/-- Names with the values to try for each. -/
abbrev Choices (α : Type) := List (String × List α)

/-- A text that counts as true and is the constant of no condition in practice. -/
def otherText : Value := .text "\x01"

/-- The values to try for each flag that some conditions read. -/
def flagChoices (conditions : List Condition) : Choices Value :=
  let uses := Condition.flagUsesList conditions
  (sortedDistinct (uses.map Prod.fst)).map (fun name =>
    let constants := uses.filterMap (fun use => if use.1 == name then use.2 else none)
    (name, sortedDistinct ([.bool false, .bool true, otherText] ++ constants)))

/-- The number before a number, or the least number itself. -/
def numberBefore (number : Int64) : Int64 :=
  if number = Int64.minValue then number else number - 1

/-- The values to try for each counter that some conditions read. -/
def counterChoices (conditions : List Condition) : Choices Int64 :=
  let uses := Condition.counterUsesList conditions
  (sortedDistinct (uses.map Prod.fst)).map (fun name =>
    let limits := uses.filterMap (fun use => if use.1 == name then some use.2 else none)
    (name, sortedDistinct (0 :: limits.flatMap (fun limit => [numberBefore limit, limit]))))

/-- The number of ways to choose a value for each name. -/
def choiceCount {α : Type} (choices : Choices α) : Nat :=
  choices.foldr (fun choice count => choice.2.length * count) 1

/-- The ways to choose a value for each name; the choice for the first name changes fastest. -/
def assignments {α : Type} : Choices α -> List (List (String × α))
  | [] => [[]]
  | (name, values) :: rest =>
    (assignments rest).flatMap (fun chosen => values.map (fun value => (name, value) :: chosen))

/-- The greatest number of combinations that are tried. -/
def combinationLimit : Nat := 4096

/-- The targets of the flows whose conditions hold. -/
def taken (flows : List Flow) (flags : Flags) (counters : Counters) : List NodeKey :=
  (flows.filter (fun flow =>
    match flow.condition with
    | some condition => condition.evaluate flags counters
    | none => false)).map Flow.target

/-- The first combination under which several flows are taken. -/
def conflict? (flows : List Flow) (flagOptions : Choices Value) (counterOptions : Choices Int64) :
    Option RoutingWitness :=
  (assignments counterOptions).findSome? (fun chosenCounters =>
    let counters := OrderedMap.ofList chosenCounters
    (assignments flagOptions).findSome? (fun chosenFlags =>
      let flags := OrderedMap.ofList chosenFlags
      match taken flows flags counters with
      | first :: second :: rest => some (.assignment flags counters (first :: second :: rest))
      | _ => none))

/-- Why an exclusive gateway with the given flows and no default could have to take several. -/
def witness? (flows : List Flow) : Option RoutingWitness :=
  match flows.find? (fun flow => flow.condition.isNone) with
  | some flow => some (.unconditional flow.target)
  | none =>
    let conditions := flows.filterMap Flow.condition
    let flagOptions := flagChoices conditions
    let counterOptions := counterChoices conditions
    if choiceCount flagOptions * choiceCount counterOptions ≤ combinationLimit then
      conflict? flows flagOptions counterOptions
    else none

end Routing

end ProcessEngine
