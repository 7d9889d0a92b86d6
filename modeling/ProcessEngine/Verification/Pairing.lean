import ProcessEngine.Verification.Reachability

/-!
# Pairing of gateways

A gateway that splits control needs a gateway of its kind where its branches meet.
Each branch is followed from its first node, counting how many further splits are
open; where none is open the first joining gateway ends the branch. Each join
belongs to one split, and each split to one join.
-/

namespace ProcessEngine

/-- The partner of a splitting gateway. -/
structure GatewayPair where
  kind : GatewayKind
  /-- Where the branches meet. -/
  join : NodeKey
  /-- The number of flows that leave the split. -/
  branches : Nat
deriving DecidableEq

namespace ProcessGraph

variable (graph : ProcessGraph)

/-- A node on a branch together with the number of splits that are open there. -/
abbrev BranchPlace := NodeKey × Nat

/-- Where a branch goes on from a node: its flows and the timers that interrupt it. A timer
that does not interrupt runs outside the branch. -/
def branchSuccessors (key : NodeKey) : List NodeKey :=
  (graph.outgoing key).map Flow.target ++
    ((graph.boundariesOf key).filter Node.interrupts).map Node.key

/-- Whether a branch ends at a place: at an end node or at a join while no split is open. -/
def endsBranch (node : Node) (depth : Nat) : Bool :=
  match node.gateway? with
  | some (_, .converging) => depth == 0
  | some (_, .diverging) => false
  | none => node.isEnd

/-- How many splits are open after a node. -/
def depthAfter (node : Node) (depth : Nat) : Nat :=
  match node.gateway? with
  | some (_, .converging) => depth - 1
  | some (_, .diverging) => depth + 1
  | none => depth

/-- The places that follow a place on a branch. -/
def branchNext (place : BranchPlace) : List BranchPlace :=
  match graph.node? place.1 with
  | none => []
  | some node =>
    if endsBranch node place.2 then []
    else (graph.branchSuccessors place.1).map (fun next => (next, depthAfter node place.2))

/-- The places where the branches of a split are followed: not back at the split, and with no
more open splits than there are nodes. -/
def branchDomain (split : NodeKey) : Domain BranchPlace where
  inside place := graph.contains place.1 && place.1 != split && decide (place.2 ≤ graph.nodeCount)
  finite := by
    obtain ⟨keys, listed⟩ := graph.keyDomain.finite
    refine ⟨keys.flatMap (fun key => (List.range (graph.nodeCount + 1)).map (key, ·)), ?_⟩
    rintro ⟨key, depth⟩ inside
    simp only [Bool.and_eq_true, decide_eq_true_eq] at inside
    simp only [List.mem_flatMap, List.mem_map, List.mem_range]
    exact ⟨key, listed key inside.1.1, depth, Nat.lt_succ_of_le inside.2, rfl⟩

/-- The places on a branch of a split. -/
def branchPlaces (split first : NodeKey) : List BranchPlace :=
  (graph.branchDomain split).reachable graph.branchNext [(first, 0)]

/-- The joins of a kind that end a branch. -/
def joinsOf (kind : GatewayKind) (places : List BranchPlace) : List NodeKey :=
  places.filterMap (fun (key, depth) =>
    match graph.node? key with
    | some node => if node.isJoin kind && depth == 0 then some key else none
    | none => none)

/-- Whether a branch reaches an end node. -/
def escapes (places : List BranchPlace) : Bool :=
  places.any (fun (key, _) =>
    match graph.node? key with
    | some node => node.isEnd
    | none => false)

/-- What following the branches of a split shows. -/
structure BranchSurvey where
  /-- The joins that end some branch, in order. -/
  joins : List NodeKey
  /-- The first nodes of the branches that reach an end node. -/
  escaping : List NodeKey

/-- Follows the branches of a split. -/
def survey (kind : GatewayKind) (split : NodeKey) : BranchSurvey :=
  let branches := (graph.outgoing split).map (fun flow =>
    (flow.target, graph.branchPlaces split flow.target))
  { joins := sortedDistinct (branches.flatMap (fun branch => graph.joinsOf kind branch.2))
    escaping := (branches.filter (fun branch => graph.escapes branch.2)).map Prod.fst }

/-- The partner that a gateway declares. -/
def declaredJoin? (node : Node) : Option NodeKey :=
  match node.kind with
  | .gateway _ _ declared => declared
  | _ => none

/-- Problems with one split. -/
def splitProblems (kind : GatewayKind) (split : Node) : List StructuralProblem :=
  let found := graph.survey kind split.key
  found.escaping.map (.branchEscapesJoin split.key) ++
    match found.joins with
    | [] => if found.escaping.isEmpty then [.unpairedGateway split.key] else []
    | [join] =>
      match declaredJoin? split with
      | some declared =>
        if declared = join then [] else [.joinMismatch split.key declared join]
      | none => []
    | joins => [.mismatchedPairing split.key joins]

/-- The splitting gateways of a kind in the order of their keys. -/
def splits (kind : GatewayKind) : List Node := graph.nodes.filter (fun node => node.isSplit kind)

/-- The joining gateways of a kind in the order of their keys. -/
def joins (kind : GatewayKind) : List Node := graph.nodes.filter (fun node => node.isJoin kind)

/-- The splits of a kind whose branches meet at one join, with that join. -/
def pairsOf (kind : GatewayKind) : List (NodeKey × GatewayPair) :=
  (graph.splits kind).filterMap (fun split =>
    match (graph.survey kind split.key).joins with
    | [join] => some (split.key, ⟨kind, join, (graph.outgoing split.key).length⟩)
    | _ => none)

/-- Every split and its partner, by the key of the split. -/
def pairs : OrderedMap NodeKey GatewayPair :=
  .ofList (graph.pairsOf .parallel ++ graph.pairsOf .inclusive)

/-- Problems with joins that belong to several splits or to none. -/
def joinProblems (kind : GatewayKind) : List StructuralProblem :=
  let pairs := graph.pairsOf kind
  let claims (join : NodeKey) : List NodeKey :=
    (pairs.filter (fun pair => pair.2.join == join)).map Prod.fst
  let claimed := sortedDistinct (pairs.map (fun pair => pair.2.join))
  (claimed.filter (fun join => (claims join).length > 1)).map
      (fun join => .sharedJoin join (claims join)) ++
    ((graph.joins kind).filter (fun join => !claimed.contains join.key)).map
      (fun join => .orphanJoin join.key)

/-- Problems with the pairing of the gateways of a kind. -/
def pairingProblems (kind : GatewayKind) : List StructuralProblem :=
  (graph.splits kind).flatMap (graph.splitProblems kind) ++ graph.joinProblems kind

end ProcessGraph

end ProcessEngine
