import ProcessEngine.Verification.Routing

/-!
# The shape of nodes

What each kind of node asks of the flows around it: how many may leave it, which of
them may carry conditions or error codes, and what timers and races may refer to.
-/

namespace ProcessEngine

namespace ProcessGraph

variable (graph : ProcessGraph)

/-- A problem, if something is amiss. -/
def reportIf (amiss : Bool) (problem : StructuralProblem) : List StructuralProblem :=
  if amiss then [problem] else []

/-- Problems with one flow of a node. -/
def flowProblems (node : Node) (flow : Flow) : List StructuralProblem :=
  let isTask := match node.kind with
    | .serviceTask _ _ => true
    | _ => false
  reportIf (flow.condition.isSome && !node.routesConditionally)
      (.conditionNotAllowed flow.source flow.target) ++
    reportIf (flow.isDefault && !node.routesConditionally)
      (.defaultNotAllowed flow.source flow.target) ++
    reportIf (flow.isDefault && flow.condition.isSome)
      (.conditionalDefault flow.source flow.target) ++
    reportIf (flow.isErrorRoute && !isTask) (.errorRouteNotAllowed flow.source flow.target)

/-- Problems unless exactly one flow leaves a node. -/
def exactlyOne (node : NodeKey) (found : Nat) : List StructuralProblem :=
  reportIf (found != 1) (.wrongOutgoingCount node .exactlyOne found)

/-- Problems unless some flow leaves a node. -/
def atLeastOne (node : NodeKey) (found : Nat) : List StructuralProblem :=
  reportIf (found == 0) (.wrongOutgoingCount node .atLeastOne found)

/-- A problem if a flow enters a node. -/
def noneIncoming (node : NodeKey) : List StructuralProblem :=
  reportIf (!(graph.incoming node).isEmpty) (.unexpectedIncoming node)

/-- A problem if several timers watch over a node. -/
def oneBoundary (node : NodeKey) : List StructuralProblem :=
  reportIf ((graph.boundariesOf node).length > 1) (.multipleBoundaries node)

/-- The elements that occurred before in a list, each time they occur again. -/
def repeated {α : Type} [BEq α] : List α -> List α -> List α
  | _, [] => []
  | known, element :: rest =>
    if known.contains element then element :: repeated known rest
    else repeated (element :: known) rest

/-- How many of some flows are taken by default. -/
def defaultCount (flows : List Flow) : Nat := (flows.filter Flow.isDefault).length

/-- Whether a flow can enter the node of a key. -/
def isEnterable (key : NodeKey) : Bool :=
  match (graph.node? key).map Node.kind with
  | none => false
  | some .start => false
  | some (.boundaryTimer _ _ _) => false
  | some _ => true

/-- Problems with the arms of a race, arm by arm. -/
def armProblems (race : NodeKey) : List NodeKey -> List NodeKey -> List StructuralProblem
  | _, [] => []
  | known, target :: rest =>
    reportIf (known.contains target) (.duplicateRaceTarget race target) ++
      reportIf (!graph.isEnterable target) (.invalidRaceTarget race target) ++
      armProblems race (target :: known) rest

/-- Problems with what a timer watches over. -/
def hostProblems (boundary host : NodeKey) : List StructuralProblem :=
  match graph.node? host with
  | none => [.boundaryHostMissing boundary host]
  | some node => reportIf (!node.canHostBoundary) (.boundaryHostInvalid boundary host)

/-- Problems with the surroundings of a node, by what the node does. -/
def kindProblems (node : Node) : List StructuralProblem :=
  let flows := graph.outgoing node.key
  let count := flows.length
  match node.kind with
  | .start => graph.noneIncoming node.key ++ exactlyOne node.key count
  | .finish _ => reportIf (count != 0) (.wrongOutgoingCount node.key .none count)
  | .serviceTask _ _ =>
    exactlyOne node.key (flows.filter (fun flow => !flow.isErrorRoute)).length ++
      (repeated [] (flows.filterMap Flow.errorCode)).map (.duplicateErrorCode node.key) ++
      graph.oneBoundary node.key
  | .exclusiveGateway =>
    atLeastOne node.key count ++
      reportIf (defaultCount flows > 1) (.multipleDefaults node.key) ++
      if defaultCount flows = 0 ∧ count > 1 then
        (Routing.witness? flows).toList.map (.ambiguousRouting node.key)
      else []
  | .gateway _ .diverging _ =>
    atLeastOne node.key count ++ reportIf (defaultCount flows > 1) (.multipleDefaults node.key)
  | .gateway _ .converging _ => exactlyOne node.key count
  | .timerWait _ => exactlyOne node.key count
  | .messageWait _ _ => exactlyOne node.key count ++ graph.oneBoundary node.key
  | .humanWait _ => exactlyOne node.key count ++ graph.oneBoundary node.key
  | .raceWait arms =>
    reportIf arms.isEmpty (.emptyRace node.key) ++
      graph.armProblems node.key [] (arms.map RaceArm.target) ++
      reportIf (count != arms.length) (.wrongOutgoingCount node.key .onePerArm count)
  | .boundaryTimer host _ _ =>
    graph.hostProblems node.key host ++ graph.noneIncoming node.key ++ exactlyOne node.key count

/-- Problems with a node: those of its flows and then those of its surroundings. -/
def nodeProblems (node : Node) : List StructuralProblem :=
  (graph.outgoing node.key).flatMap (flowProblems node) ++ graph.kindProblems node

/-- Problems with where the process starts. -/
def startProblems : List StructuralProblem :=
  match graph.startNodes with
  | [] => [.missingStart]
  | [_] => []
  | starts => [.multipleStarts starts]

end ProcessGraph

end ProcessEngine
