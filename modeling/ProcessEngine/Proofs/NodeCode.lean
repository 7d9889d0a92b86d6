import Mathlib.Data.List.Forall2
import ProcessEngine.Lowering.Basic

/-!
# Code of nodes

What the code of a node looks like (`References.NodeCode`), whatever its targets are: labels while
a graph is lowered, addresses in a finished program. `References` tells what the targets and the
numbers in the code stand for. Code keeps its shape when its targets are replaced by others that
stand for the same (`References.NodeCode.map`).
-/

namespace ProcessEngine

/-- What the numbers and the targets in code stand for. -/
structure References (Target : Type) where
  symbols : SymbolTable
  /-- The code of a node begins at a target. -/
  Begins : NodeKey -> Target -> Prop
  /-- A flow of a node, given with its place among them, leads to a target. -/
  Leads : NodeKey -> Flow × Nat -> Target -> Prop

namespace References

variable {Target : Type} (references : References Target)

/-- A number stands for a name of some kind. -/
def Names (kind : SymbolKind) (index : Nat) (name : String) : Prop :=
  references.symbols.name? ⟨kind, index⟩ = some name

/-- A number stands for a node. -/
def NamesNode (index : Nat) (key : NodeKey) : Prop := references.symbols.node? index = some key

mutual

/-- Code that leaves on the stack a value which counts as true if a condition holds. -/
def Tests : Condition -> List (Instruction Target) -> Prop
  | .flag name, code => ∃ flag, references.Names .flag flag name ∧ code = [.loadFlag flag]
  | .equals name value, code =>
    ∃ flag, references.Names .flag flag name ∧ code = [.loadFlag flag, .push value, .equal]
  | .counterBelow name limit, code =>
    ∃ counter, references.Names .counter counter name ∧
      code = [.loadCounter counter, .push (.int limit), .less]
  | .negation condition, code => ∃ test, Tests condition test ∧ code = test ++ [.negate]
  | .all [], code => code = [.push (.bool true)]
  | .any [], code => code = [.push (.bool false)]
  | .all (first :: rest), code =>
    ∃ test tests, Tests first test ∧ Combines .conjoin rest tests ∧ code = test ++ tests
  | .any (first :: rest), code =>
    ∃ test tests, Tests first test ∧ Combines .disjoin rest tests ∧ code = test ++ tests

/-- Code that combines the value on the stack with those of further conditions. -/
def Combines (combine : Instruction Target) : List Condition -> List (Instruction Target) -> Prop
  | [], code => code = []
  | condition :: rest, code =>
    ∃ test tests, Tests condition test ∧ Combines combine rest tests ∧
      code = test ++ combine :: tests

end

/-- The correlation of a wait, and the code that puts it into a register if it is a flag's value. -/
inductive Correlates (register : Nat) :
    Option String -> CorrelationSource -> List (Instruction Target) -> Prop where
  | ofInstance : Correlates register none .processInstance []
  | ofFlag {name flag} (named : references.Names .flag flag name)
    (free : register < registerCount) :
    Correlates register (some name) (.register register) [.loadFlag flag, .storeRegister register]

section Graph

variable (verified : VerifiedGraph) (key : NodeKey)

/-- The flows that a gateway takes if their conditions hold. -/
def ordinaryFlows : List (Flow × Nat) :=
  (Lowering.flowsOf verified key).filter (fun place => !place.1.isDefault)

/-- The flow that a gateway takes if it takes no other. -/
def defaultFlows : List (Flow × Nat) :=
  (Lowering.flowsOf verified key).filter (fun place => place.1.isDefault)

/-- The flows of a node that are no error routes. -/
def plainFlows : List (Flow × Nat) :=
  (Lowering.flowsOf verified key).filter (fun place => !place.1.isErrorRoute)

/-- The error routes of a task. -/
def errorFlows : List (Flow × Nat) :=
  (Lowering.flowsOf verified key).filter (fun place => place.1.isErrorRoute)

/-- A jump along the one flow of a node that is no error route. -/
inductive Onward : List (Instruction Target) -> Prop where
  | jump {place target} (only : plainFlows verified key = [place])
    (leads : references.Leads key place target) : Onward [.jump target]

/-- The target of the default flow, if there is one. -/
inductive Fallback : Option Target -> Prop where
  | missing (only : defaultFlows verified key = []) : Fallback none
  | present {place target} (only : defaultFlows verified key = [place])
    (leads : references.Leads key place target) : Fallback (some target)

/-- Code that takes a flow of an exclusive gateway if its condition holds. -/
inductive Branch (place : Flow × Nat) : List (Instruction Target) -> Prop where
  | always {target} (plain : place.1.condition = none)
    (leads : references.Leads key place target) : Branch place [.jump target]
  | tested {condition test target} (conditional : place.1.condition = some condition)
    (tests : references.Tests condition test) (leads : references.Leads key place target) :
    Branch place (test ++ [.branchIf target])

/-- Code that tells whether a flow of an inclusive gateway is taken. -/
inductive Choice (place : Flow × Nat) : List (Instruction Target) -> Prop where
  | always (plain : place.1.condition = none) : Choice place [.push (.bool true)]
  | tested {condition test} (conditional : place.1.condition = some condition)
    (tests : references.Tests condition test) : Choice place test

/-- The code of a wait between the instructions that set and remove the timer of its node, if
there is one. -/
inductive Guarded (wait : List (Instruction Target)) : List (Instruction Target) -> Prop where
  | alone (unwatched : verified.graph.boundariesOf key = []) : Guarded wait wait
  | watched {boundary duration interrupting symbol target}
    (only : verified.graph.boundariesOf key =
      [⟨boundary, .boundaryTimer key duration interrupting⟩])
    (named : references.NamesNode symbol boundary) (begins : references.Begins boundary target) :
    Guarded wait (.watch symbol duration interrupting target :: wait ++ [.unwatch symbol])

/-- The arms of a race with the code that loads their correlations into registers from a number
on. Each arm leads along a flow to its target. -/
inductive Arms : Nat -> List RaceArm -> List (Instruction Target) -> List (ArmCode Target) ->
    Prop where
  | none {register} : Arms register [] [] []
  | timer {register duration node place target rest load arms}
    (placed : place ∈ Lowering.flowsOf verified key) (along : place.1.target = node)
    (leads : references.Leads key place target) (others : Arms register rest load arms) :
    Arms register (⟨.timer duration, node⟩ :: rest) load (⟨.timer duration, target⟩ :: arms)
  | message {register name flag message source node place target rest own load arms}
    (placed : place ∈ Lowering.flowsOf verified key) (along : place.1.target = node)
    (leads : references.Leads key place target)
    (named : references.Names .message message name)
    (correlates : references.Correlates register flag source own)
    (others : Arms (if flag.isSome then register + 1 else register) rest load arms) :
    Arms register (⟨.message name flag, node⟩ :: rest) (own ++ load)
      (⟨.message message source, target⟩ :: arms)

/-- The code of a node. -/
inductive NodeCode : NodeKind -> List (Instruction Target) -> Prop where
  | start {code} (onward : references.Onward verified key code) : NodeCode .start code
  | boundaryTimer {host duration interrupting code} (onward : references.Onward verified key code) :
    NodeCode (.boundaryTimer host duration interrupting) code
  | finish : NodeCode (.finish false) [.finish]
  | terminate : NodeCode (.finish true) [.terminate]
  | serviceTask {taskType retries task symbol routes wait after}
    (typed : references.Names .taskType task taskType) (named : references.NamesNode symbol key)
    (routed : List.Forall₂ (fun place (route : ErrorRoute Target) =>
      place.1.errorCode = some route.code ∧ references.Leads key place route.target)
      (errorFlows verified key) routes)
    (guarded : references.Guarded verified key [.dispatch task symbol retries routes] wait)
    (onward : references.Onward verified key after) :
    NodeCode (.serviceTask taskType retries) (wait ++ after)
  | exclusive {branches target}
    (each : List.Forall₂ (references.Branch key) (ordinaryFlows verified key) branches)
    (fallback : references.Fallback verified key (some target)) :
    NodeCode .exclusiveGateway (branches.flatten ++ [.jump target])
  | exclusiveOrFault {branches symbol}
    (each : List.Forall₂ (references.Branch key) (ordinaryFlows verified key) branches)
    (fallback : references.Fallback verified key none) (named : references.NamesNode symbol key) :
    NodeCode .exclusiveGateway (branches.flatten ++ [.fault (.noRoute symbol)])
  | parallel {declared pair symbol targets} (paired : verified.pair? key = some pair)
    (named : references.NamesNode symbol pair.join)
    (each : List.Forall₂ (references.Leads key) (Lowering.flowsOf verified key) targets) :
    NodeCode (.gateway .parallel .diverging declared) [.fork symbol targets]
  | inclusive {declared pair symbol gateway choices targets fallback}
    (paired : verified.pair? key = some pair) (named : references.NamesNode symbol pair.join)
    (self : references.NamesNode gateway key)
    (chosen : List.Forall₂ references.Choice (ordinaryFlows verified key) choices)
    (each : List.Forall₂ (references.Leads key) (ordinaryFlows verified key) targets)
    (otherwise : references.Fallback verified key fallback) :
    NodeCode (.gateway .inclusive .diverging declared)
      (choices.flatten ++ [.forkInclusive symbol targets fallback gateway])
  | join {kind declared symbol after} (named : references.NamesNode symbol key)
    (onward : references.Onward verified key after) :
    NodeCode (.gateway kind .converging declared) (.join symbol :: after)
  | timerWait {duration after} (onward : references.Onward verified key after) :
    NodeCode (.timerWait duration) (.waitTimer duration :: after)
  | messageWait {name flag message source load wait after}
    (named : references.Names .message message name)
    (correlates : references.Correlates 0 flag source load)
    (guarded : references.Guarded verified key (load ++ [.waitMessage message source]) wait)
    (onward : references.Onward verified key after) :
    NodeCode (.messageWait name flag) (wait ++ after)
  | humanWait {task symbol wait after} (named : references.Names .humanTask symbol task)
    (guarded : references.Guarded verified key [.waitHuman symbol] wait)
    (onward : references.Onward verified key after) :
    NodeCode (.humanWait task) (wait ++ after)
  | race {arms symbol load codes} (named : references.NamesNode symbol key)
    (each : references.Arms verified key 0 (sortOn RaceArm.target arms) load codes) :
    NodeCode (.raceWait arms) (load ++ [.race symbol codes])

end Graph

end References

end ProcessEngine
