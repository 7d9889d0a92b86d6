import ProcessEngine.Graph.Basic

/-!
# Layout

The order in which the code of the nodes is laid out: depth first from the start, a
host's timers before its flows, and flows in canonical order. A flow that leads back
to a node on the way to its own source closes a loop.
-/

namespace ProcessEngine

/-- A flow given by its source and its place among the flows that leave it. -/
structure FlowPlace where
  source : NodeKey
  index : Nat
deriving DecidableEq

/-- The order of the nodes, and the flows that close loops. -/
structure Layout where
  order : List NodeKey := []
  loops : List FlowPlace := []

namespace Layout

variable (graph : ProcessGraph)

/-- Visits a node and what it leads to, unless that was visited before. The path holds the nodes
on the way to the node. A path repeats no node, so the number of nodes bounds its length. -/
def visit : Nat -> List NodeKey -> NodeKey -> Layout -> Layout
  | 0, _, _, layout => layout
  | room + 1, path, key, layout =>
    let entered : Layout := { layout with order := layout.order ++ [key] }
    let guarded := (graph.boundariesOf key).foldl (fun (layout : Layout) boundary =>
      if layout.order.contains boundary.key then layout
      else visit room (key :: path) boundary.key layout) entered
    (graph.outgoing key).zipIdx.foldl (fun (layout : Layout) (flow, index) =>
      if (key :: path).contains flow.target then
        { layout with loops := layout.loops ++ [⟨key, index⟩] }
      else if layout.order.contains flow.target then layout
      else visit room (key :: path) flow.target layout) guarded

/-- The layout of a graph from its start. -/
def ofGraph (start : NodeKey) : Layout := visit graph graph.nodeCount [] start {}

end Layout

end ProcessEngine
