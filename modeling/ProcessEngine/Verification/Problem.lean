import ProcessEngine.Graph.Node
import ProcessEngine.Value

/-!
# Structural problems

The reasons for which a process graph cannot be executed. Each names the nodes
that are to blame, and a gateway that routes ambiguously comes with a witness.
-/

namespace ProcessEngine

/-- How many flows have to leave a node. -/
inductive FlowDemand where
  | none
  | exactlyOne
  | atLeastOne
  | onePerArm
deriving DecidableEq, Repr

/-- The text of a demand. -/
def FlowDemand.text : FlowDemand -> String
  | .none => "0"
  | .exactlyOne => "exactly 1"
  | .atLeastOne => "at least 1"
  | .onePerArm => "one per arm"

/-- Why a gateway that takes one of its flows could have to take several. -/
inductive RoutingWitness where
  /-- A flow is always taken. -/
  | unconditional (target : NodeKey)
  /-- Under some flags and counters the flows to several nodes are taken. -/
  | assignment (flags : Flags) (counters : Counters) (targets : List NodeKey)
deriving DecidableEq

/-- The text of a witness. -/
def RoutingWitness.text : RoutingWitness -> String
  | .unconditional target => "flow to " ++ target.text ++ " is unconditional"
  | .assignment flags counters targets =>
    let settings := flags.toList.map (fun (name, value) => name ++ "=" ++ value.quoted) ++
      counters.toList.map (fun (name, count) => "#" ++ name ++ "=" ++ toString count.toInt)
    ", ".intercalate settings ++ " satisfies flows to " ++
      ", ".intercalate (targets.map NodeKey.text)

/-- A reason for which a graph cannot be executed. -/
inductive StructuralProblem where
  | missingStart
  | multipleStarts (starts : List NodeKey)
  | unexpectedIncoming (node : NodeKey)
  | wrongOutgoingCount (node : NodeKey) (demand : FlowDemand) (found : Nat)
  | unreachable (node : NodeKey)
  | noPathToEnd (node : NodeKey)
  | conditionNotAllowed (source target : NodeKey)
  | defaultNotAllowed (source target : NodeKey)
  | conditionalDefault (source target : NodeKey)
  | errorRouteNotAllowed (source target : NodeKey)
  | duplicateErrorCode (node : NodeKey) (code : String)
  | multipleDefaults (gateway : NodeKey)
  | ambiguousRouting (gateway : NodeKey) (witness : RoutingWitness)
  | unpairedGateway (gateway : NodeKey)
  | mismatchedPairing (gateway : NodeKey) (found : List NodeKey)
  | branchEscapesJoin (gateway branch : NodeKey)
  | joinMismatch (gateway declared found : NodeKey)
  | sharedJoin (join : NodeKey) (gateways : List NodeKey)
  | orphanJoin (join : NodeKey)
  | emptyRace (race : NodeKey)
  | duplicateRaceTarget (race target : NodeKey)
  | invalidRaceTarget (race target : NodeKey)
  | boundaryHostMissing (boundary host : NodeKey)
  | boundaryHostInvalid (boundary host : NodeKey)
  | multipleBoundaries (host : NodeKey)
deriving DecidableEq

namespace StructuralProblem

/-- The name of a kind of problem. -/
def name : StructuralProblem -> String
  | .missingStart => "MissingStart"
  | .multipleStarts _ => "MultipleStarts"
  | .unexpectedIncoming _ => "UnexpectedIncoming"
  | .wrongOutgoingCount _ _ _ => "WrongOutgoingCount"
  | .unreachable _ => "Unreachable"
  | .noPathToEnd _ => "NoPathToEnd"
  | .conditionNotAllowed _ _ => "ConditionNotAllowed"
  | .defaultNotAllowed _ _ => "DefaultNotAllowed"
  | .conditionalDefault _ _ => "ConditionalDefault"
  | .errorRouteNotAllowed _ _ => "ErrorRouteNotAllowed"
  | .duplicateErrorCode _ _ => "DuplicateErrorCode"
  | .multipleDefaults _ => "MultipleDefaults"
  | .ambiguousRouting _ _ => "AmbiguousRouting"
  | .unpairedGateway _ => "UnpairedGateway"
  | .mismatchedPairing _ _ => "MismatchedPairing"
  | .branchEscapesJoin _ _ => "BranchEscapesJoin"
  | .joinMismatch _ _ _ => "JoinRefMismatch"
  | .sharedJoin _ _ => "SharedJoin"
  | .orphanJoin _ => "OrphanJoin"
  | .emptyRace _ => "EmptyRace"
  | .duplicateRaceTarget _ _ => "DuplicateRaceTarget"
  | .invalidRaceTarget _ _ => "InvalidRaceTarget"
  | .boundaryHostMissing _ _ => "BoundaryHostMissing"
  | .boundaryHostInvalid _ _ => "BoundaryHostInvalid"
  | .multipleBoundaries _ => "MultipleBoundaries"

/-- Keys as a list in a message. -/
def keyList (keys : List NodeKey) : String :=
  "[" ++ ", ".intercalate (keys.map NodeKey.quoted) ++ "]"

/-- The text of a flow in a message. -/
def flowText (source target : NodeKey) : String := source.text ++ " -> " ++ target.text

/-- The message for a problem. -/
def message : StructuralProblem -> String
  | .missingStart => "process has no start node"
  | .multipleStarts starts => "process has multiple start nodes: " ++ keyList starts
  | .unexpectedIncoming node => node.text ++ " must not have incoming flows"
  | .wrongOutgoingCount node demand found =>
    node.text ++ " must have " ++ demand.text ++ " outgoing flow(s), found " ++ toString found
  | .unreachable node => node.text ++ " is unreachable from start"
  | .noPathToEnd node => "no path from " ++ node.text ++ " reaches an end node"
  | .conditionNotAllowed source target =>
    "flow " ++ flowText source target ++ " has a condition but " ++ source.text ++
      " is not an exclusive or inclusive gateway"
  | .defaultNotAllowed source target =>
    "flow " ++ flowText source target ++ " is marked default but " ++ source.text ++
      " is not an exclusive or inclusive gateway"
  | .conditionalDefault source target =>
    "default flow " ++ flowText source target ++ " must not carry a condition"
  | .errorRouteNotAllowed source target =>
    "flow " ++ flowText source target ++ " routes an error but " ++ source.text ++
      " is not a service task"
  | .duplicateErrorCode node code =>
    node.text ++ " routes error code " ++ Text.quoted code ++ " more than once"
  | .multipleDefaults gateway => gateway.text ++ " has more than one default flow"
  | .ambiguousRouting gateway witness => gateway.text ++ " routes ambiguously: " ++ witness.text
  | .unpairedGateway gateway => gateway.text ++ " has no matching converging gateway"
  | .mismatchedPairing gateway found =>
    "branches of " ++ gateway.text ++ " converge on different gateways: " ++ keyList found
  | .branchEscapesJoin gateway branch =>
    "branch " ++ branch.text ++ " of " ++ gateway.text ++ " ends before reaching its join"
  | .joinMismatch gateway declared found =>
    gateway.text ++ " declares join " ++ declared.text ++ " but its branches converge on " ++
      found.text
  | .sharedJoin join gateways =>
    "join " ++ join.text ++ " is shared by several splits: " ++ keyList gateways
  | .orphanJoin join => "converging gateway " ++ join.text ++ " has no matching split"
  | .emptyRace race => "race " ++ race.text ++ " has no arms"
  | .duplicateRaceTarget race target =>
    "race " ++ race.text ++ " has several arms targeting " ++ target.text
  | .invalidRaceTarget race target =>
    "race " ++ race.text ++ " arm targets " ++ target.text ++
      ", which cannot be entered by a flow"
  | .boundaryHostMissing boundary host =>
    "boundary " ++ boundary.text ++ " is attached to unknown node " ++ host.text
  | .boundaryHostInvalid boundary host =>
    "boundary " ++ boundary.text ++ " cannot attach to " ++ host.text ++
      "; only tasks and message/human waits can host one"
  | .multipleBoundaries host => host.text ++ " has more than one boundary timer"

end StructuralProblem

end ProcessEngine
