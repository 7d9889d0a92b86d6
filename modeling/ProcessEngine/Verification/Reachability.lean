import ProcessEngine.Data.Search
import ProcessEngine.Graph.Basic
import ProcessEngine.Verification.Problem

/-!
# Reachability

Every node has to be reached from the start, and from every node an end has to be
reached, along flows and from a host to the timers that watch over it.
-/

namespace ProcessEngine

namespace ProcessGraph

variable (graph : ProcessGraph)

/-- The keys of the nodes of a graph. -/
def keyDomain : Domain NodeKey where
  inside := graph.contains
  finite := ⟨graph.keys, by
    intro key inside
    simp only [contains, OrderedMap.contains, Option.isSome_iff_exists] at inside
    obtain ⟨node, lookup⟩ := inside
    exact List.mem_map.2 ⟨(key, node), (OrderedMap.mem_toList_iff _ _ _).2 lookup, rfl⟩⟩

/-- The nodes that lead to a node. -/
def predecessors (key : NodeKey) : List NodeKey :=
  graph.keys.filter (fun other => (graph.successors other).contains key)

/-- The nodes that can be reached from a node. -/
def reachableFrom (key : NodeKey) : List NodeKey :=
  graph.keyDomain.reachable graph.successors [key]

/-- The keys of the nodes where a process ends. -/
def endNodes : List NodeKey := (graph.nodes.filter Node.isEnd).map Node.key

/-- The nodes from which an end can be reached. -/
def reachingEnd : List NodeKey := graph.keyDomain.reachable graph.predecessors graph.endNodes

/-- The nodes that the start does not reach, if there is one start. -/
def unreachableNodes : List NodeKey :=
  match graph.startNodes with
  | [start] =>
    let reached := graph.reachableFrom start
    graph.keys.filter (fun key => !reached.contains key)
  | _ => []

/-- The nodes from which no end can be reached. -/
def deadEnds : List NodeKey :=
  let reaching := graph.reachingEnd
  graph.keys.filter (fun key => !reaching.contains key)

/-- Problems with what can be reached. -/
def reachabilityProblems : List StructuralProblem :=
  graph.unreachableNodes.map .unreachable ++ graph.deadEnds.map .noPathToEnd

end ProcessGraph

end ProcessEngine
