import ProcessEngine.Lowering.Assembly
import ProcessEngine.Lowering.Layout
import ProcessEngine.Verification.Basic

/-!
# Lowering

The code of a verified graph. Every node has one block, and the targets of its
instructions follow the flows of the node. A flow that closes a loop leads through a
stub that counts the turn under the name of the node it goes back to.
-/

namespace ProcessEngine

namespace Lowering

/-- What lowering gathers besides code. -/
structure Gathered where
  symbols : SymbolTable := {}
  /-- For each stub the node that it goes back to. -/
  stubs : List NodeKey := []

/-- A step of lowering. -/
abbrev Lowered := StateT Gathered (Except LoweringError)

/-- The number of a name. -/
def intern (number : SymbolTable -> Nat × SymbolTable) : Lowered Nat :=
  modifyGet (fun gathered =>
    let (index, symbols) := number gathered.symbols
    (index, { gathered with symbols := symbols }))

/-- The number of a node. -/
def nodeSymbol (key : NodeKey) : Lowered Nat := intern (·.internNode key)

/-- The number of a flag. -/
def flagSymbol (name : String) : Lowered Nat := intern (·.internFlag name)

/-- The number of a counter. -/
def counterSymbol (name : String) : Lowered Nat := intern (·.internCounter name)

mutual

/-- Code that leaves a value on the stack which counts as true if a condition holds. -/
def conditionCode : Condition -> Lowered LabelledCode
  | .flag name => do return [.loadFlag (<- flagSymbol name)]
  | .equals name value => do return [.loadFlag (<- flagSymbol name), .push value, .equal]
  | .counterBelow counter limit => do
    return [.loadCounter (<- counterSymbol counter), .push (.int limit), .less]
  | .negation condition => do return (<- conditionCode condition) ++ [.negate]
  | .all [] => return [.push (.bool true)]
  | .any [] => return [.push (.bool false)]
  | .all (first :: rest) => do return (<- conditionCode first) ++ (<- foldCode .conjoin rest)
  | .any (first :: rest) => do return (<- conditionCode first) ++ (<- foldCode .disjoin rest)

/-- Code that combines the value on the stack with those of further conditions in turn. -/
def foldCode (combine : Instruction Label) : List Condition -> Lowered LabelledCode
  | [] => return []
  | condition :: rest => do
    return (<- conditionCode condition) ++ combine :: (<- foldCode combine rest)

end

section Graph

variable (verified : VerifiedGraph) (layout : Layout)

/-- The label to which a flow leads: the code of its target, or a new stub if it closes a loop. -/
def flowLabel (source : NodeKey) (index : Nat) (flow : Flow) : Lowered Label := do
  if layout.loops.contains ⟨source, index⟩ then
    modifyGet (fun gathered => (.stub gathered.stubs.length,
      { gathered with stubs := gathered.stubs ++ [flow.target] }))
  else return .node flow.target

/-- The flows that leave a node, each with its place. -/
def flowsOf (key : NodeKey) : List (Flow × Nat) := (verified.graph.outgoing key).zipIdx

/-- The labels to which all flows of a node lead. -/
def allLabels (key : NodeKey) : Lowered (List Label) :=
  (flowsOf verified key).mapM (fun (flow, index) => flowLabel layout key index flow)

/-- A jump along the flow of a node that is no error route. -/
def onward (key : NodeKey) : Lowered LabelledCode := do
  match (flowsOf verified key).find? (fun (flow, _) => !flow.isErrorRoute) with
  | some (flow, index) => return [.jump (<- flowLabel layout key index flow)]
  | none => throw (.missingFlow key)

/-- The error routes of a task. -/
def errorRoutes (key : NodeKey) : Lowered (List (ErrorRoute Label)) :=
  (flowsOf verified key).filterMapM (fun (flow, index) => do
    match flow.errorCode with
    | some code => return some ⟨code, <- flowLabel layout key index flow⟩
    | none => return none)

/-- The code of a wait between the instructions that set and remove its timer, if it has one. -/
def guarded (host : NodeKey) (wait : Lowered LabelledCode) : Lowered LabelledCode := do
  match (verified.graph.boundariesOf host).head? with
  | some ⟨boundary, .boundaryTimer _ duration interrupting⟩ => do
    let symbol <- nodeSymbol boundary
    return .watch symbol duration interrupting (.node boundary) :: (<- wait) ++ [.unwatch symbol]
  | _ => wait

/-- Code that puts the value of a flag into a register, if a correlation is taken from a flag. -/
def correlationCode (flag : Option String) (register : Nat) :
    Lowered (CorrelationSource × LabelledCode) := do
  match flag with
  | none => return (.processInstance, [])
  | some name =>
    return (.register register, [.loadFlag (<- flagSymbol name), .storeRegister register])

/-- Code that takes the first flow whose condition holds, and the label of the default flow. -/
def routeCode (key : NodeKey) :
    List (Flow × Nat) -> Option Label -> Lowered (LabelledCode × Option Label)
  | [], fallback => return ([], fallback)
  | (flow, index) :: rest, fallback => do
    let label <- flowLabel layout key index flow
    if flow.isDefault then routeCode key rest (some label)
    else
      let code : LabelledCode <- match flow.condition with
        | some condition => do pure ((<- conditionCode condition) ++ [.branchIf label])
        | none => pure [.jump label]
      let (others, fallback) <- routeCode key rest fallback
      return (code ++ others, fallback)

/-- The code of a gateway that takes one flow. -/
def exclusiveBlock (key : NodeKey) : Lowered LabelledCode := do
  let (code, fallback) <- routeCode layout key (flowsOf verified key) none
  match fallback with
  | some label => return code ++ [.jump label]
  | none => return code ++ [.fault (.noRoute (<- nodeSymbol key))]

/-- Code that leaves on the stack whether each flow but the default is taken, with the labels of
these flows and of the default flow. -/
def branchCode (key : NodeKey) :
    List (Flow × Nat) -> Option Label -> Lowered (LabelledCode × List Label × Option Label)
  | [], fallback => return ([], [], fallback)
  | (flow, index) :: rest, fallback => do
    let label <- flowLabel layout key index flow
    if flow.isDefault then branchCode key rest (some label)
    else
      let code : LabelledCode <- match flow.condition with
        | some condition => conditionCode condition
        | none => pure [.push (.bool true)]
      let (others, labels, fallback) <- branchCode key rest fallback
      return (code ++ others, label :: labels, fallback)

/-- The number of the join where the branches of a split meet. -/
def joinSymbol (split : NodeKey) : Lowered Nat := do
  match verified.pair? split with
  | some pair => nodeSymbol pair.join
  | none => throw (.unpairedGateway split)

/-- The code of a gateway that takes all flows whose conditions hold. -/
def inclusiveBlock (key : NodeKey) : Lowered LabelledCode := do
  let join <- joinSymbol verified key
  let gateway <- nodeSymbol key
  let (code, labels, fallback) <- branchCode layout key (flowsOf verified key) none
  return code ++ [.forkInclusive join labels fallback gateway]

/-- The code of a gateway that takes all flows. -/
def parallelBlock (key : NodeKey) : Lowered LabelledCode := do
  let join <- joinSymbol verified key
  return [.fork join (<- allLabels verified layout key)]

/-- The arms of a race with the code that loads their correlations, which uses registers from a
number on. -/
def armCode (key : NodeKey) : List RaceArm -> Nat -> Lowered (LabelledCode × List (ArmCode Label))
  | [], _ => return ([], [])
  | arm :: rest, register => do
    match (flowsOf verified key).find? (fun (flow, _) => flow.target == arm.target) with
    | none => throw (.missingFlow key)
    | some (flow, index) =>
      let label <- flowLabel layout key index flow
      match arm.trigger with
      | .timer duration =>
        let (code, arms) <- armCode key rest register
        return (code, ⟨.timer duration, label⟩ :: arms)
      | .message name flag =>
        let message <- intern (·.internMessage name)
        if flag.isSome ∧ registerCount ≤ register then
          throw (.tooManyArms key (register + 1) registerCount)
        let (source, load) <- correlationCode flag register
        let (code, arms) <- armCode key rest (if flag.isSome then register + 1 else register)
        return (load ++ code, ⟨.message message source, label⟩ :: arms)

/-- The code of a race, whose arms are listed in the order of their targets. -/
def raceBlock (key : NodeKey) (arms : List RaceArm) : Lowered LabelledCode := do
  let (code, arms) <- armCode verified layout key (sortOn RaceArm.target arms) 0
  return code ++ [.race (<- nodeSymbol key) arms]

/-- The code of a node. -/
def nodeCode (node : Node) : Lowered LabelledCode := do
  let key := node.key
  match node.kind with
  | .start => onward verified layout key
  | .boundaryTimer _ _ _ => onward verified layout key
  | .finish false => return [.finish]
  | .finish true => return [.terminate]
  | .serviceTask taskType retries =>
    let task <- intern (·.internTaskType taskType)
    let symbol <- nodeSymbol key
    let routes <- errorRoutes verified layout key
    let wait <- guarded verified key (pure [.dispatch task symbol retries routes])
    return wait ++ (<- onward verified layout key)
  | .exclusiveGateway => exclusiveBlock verified layout key
  | .gateway .parallel .diverging _ => parallelBlock verified layout key
  | .gateway .inclusive .diverging _ => inclusiveBlock verified layout key
  | .gateway _ .converging _ =>
    let join <- nodeSymbol key
    return .join join :: (<- onward verified layout key)
  | .timerWait duration => return .waitTimer duration :: (<- onward verified layout key)
  | .messageWait name flag =>
    let message <- intern (·.internMessage name)
    let wait <- guarded verified key (do
      let (source, load) <- correlationCode flag 0
      return load ++ [.waitMessage message source])
    return wait ++ (<- onward verified layout key)
  | .humanWait task =>
    let symbol <- intern (·.internHumanTask task)
    let wait <- guarded verified key (pure [.waitHuman symbol])
    return wait ++ (<- onward verified layout key)
  | .raceWait arms => raceBlock verified layout key arms

/-- The block of a node. -/
def block (key : NodeKey) : Lowered Block := do
  match verified.graph.node? key with
  | some node => return ⟨key, <- nodeCode verified layout node⟩
  | none => throw (.unplacedLabel key)

end Graph

/-- The stub that counts a turn and goes back to a node. -/
def stubCode (target : NodeKey) : Lowered LabelledCode := do
  return [.incrementCounter (<- counterSymbol target.text), .jump (.node target)]

/-- All code of a graph: the blocks of its nodes in the order of their layout, and the stubs. -/
def code (verified : VerifiedGraph) : Lowered (List Block × List LabelledCode) := do
  let layout := Layout.ofGraph verified.graph verified.start
  let blocks <- layout.order.mapM (block verified layout)
  let gathered <- get
  let stubs <- gathered.stubs.mapM stubCode
  return (blocks, stubs)

end Lowering

namespace VerifiedGraph

/-- The program of a verified graph. -/
def lower (verified : VerifiedGraph) : Except LoweringError Program := do
  let ((blocks, stubs), gathered) <- (Lowering.code verified).run {}
  Assembly.assemble gathered.symbols blocks stubs

end VerifiedGraph

namespace ProcessGraph

/-- Verifies a graph and turns it into a program. -/
def compile (graph : ProcessGraph) : Except CompileError Program := do
  let verified <- (VerifiedGraph.ofGraph graph).mapError .unsound
  verified.lower.mapError .lowering

end ProcessGraph

end ProcessEngine
