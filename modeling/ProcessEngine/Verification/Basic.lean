import ProcessEngine.Verification.Pairing
import ProcessEngine.Verification.Shape

/-!
# Verification

A graph without structural problems can be executed. A `VerifiedGraph` is such a
graph with its start and the partners of its gateways, and the type carries the
evidence. Verification looks for all problems and lists them in one order.
-/

namespace ProcessEngine

namespace ProcessGraph

/-- Every structural problem of a graph: those with its start, with each node in the order of
keys, with what can be reached and with the pairing of gateways. -/
def problems (graph : ProcessGraph) : List StructuralProblem :=
  graph.startProblems ++ graph.nodes.flatMap graph.nodeProblems ++ graph.reachabilityProblems ++
    graph.pairingProblems .parallel ++ graph.pairingProblems .inclusive

end ProcessGraph

/-- A graph that can be executed. -/
structure VerifiedGraph where
  graph : ProcessGraph
  /-- The node where the process starts. -/
  start : NodeKey
  /-- The partners of the splitting gateways. -/
  pairs : OrderedMap NodeKey GatewayPair
  /-- There is nothing wrong with the graph. -/
  sound : graph.problems = []
  /-- The process starts at one node only. -/
  startNodes_eq : graph.startNodes = [start]
  /-- The partners are those found in the graph. -/
  pairs_eq : pairs = graph.pairs

namespace VerifiedGraph

/-- Verifies a graph, or lists its problems. -/
def ofGraph (graph : ProcessGraph) : Except (List StructuralProblem) VerifiedGraph :=
  match sound : graph.problems with
  | problem :: rest => .error (problem :: rest)
  | [] =>
    match starts : graph.startNodes with
    | [start] => .ok ⟨graph, start, graph.pairs, sound, starts, rfl⟩
    | _ => .error [.missingStart]

/-- The partner of a splitting gateway. -/
def pair? (verified : VerifiedGraph) (split : NodeKey) : Option GatewayPair :=
  verified.pairs.get? split

end VerifiedGraph

end ProcessEngine
