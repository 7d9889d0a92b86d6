import ProcessEngine.Data.Sorting
import ProcessEngine.Graph.Error
import ProcessEngine.Graph.Flow
import ProcessEngine.Graph.Node

/-!
# Process graphs

A process graph holds nodes by key and flows in canonical order, so a graph does
not remember the order in which its parts were given. Every flow connects two
different nodes of the graph. Each arm of a race contributes a flow from the race
to the target of the arm. Whether a graph can be executed is a matter of
verification, not of its construction.
-/

namespace ProcessEngine

/-- The nodes and flows of a process. -/
structure ProcessGraph where
  /-- The nodes by key. -/
  table : OrderedMap NodeKey Node
  /-- The flows in canonical order, those of race arms included. -/
  flows : List Flow
  /-- Every node is listed under its own key. -/
  keyed : ∀ key node, table.get? key = some node -> node.key = key
  /-- Every flow connects two different nodes of the graph. -/
  connected : ∀ flow ∈ flows,
    table.contains flow.source = true ∧ table.contains flow.target = true ∧
      flow.source ≠ flow.target

namespace ProcessGraph

/-- Nodes that are listed under their own keys. -/
abbrev NodeTable :=
  { table : OrderedMap NodeKey Node // ∀ key node, table.get? key = some node -> node.key = key }

/-- Lists a node under its key. -/
def NodeTable.insert (table : NodeTable) (node : Node) : NodeTable :=
  ⟨table.val.insert node.key node, by
    intro key found lookup
    rw [OrderedMap.get?_insert] at lookup
    split at lookup
    · rename_i same
      cases lookup
      exact same.symm
    · exact table.property key found lookup⟩

/-- Lists nodes under their keys, which must differ. -/
def collectNodes (nodes : List Node) : Except GraphError NodeTable :=
  nodes.foldlM (fun table node =>
    if table.val.contains node.key then .error (.duplicateNode node.key)
    else .ok (table.insert node)) ⟨.empty, by simp⟩

/-- The flows that the arms of a race stand for. -/
def armFlows (node : Node) : List Flow :=
  node.armTargets.map (fun target => { source := node.key, target := target })

/-- What is wrong with a flow between listed nodes. -/
def flowProblem? (table : OrderedMap NodeKey Node) (flow : Flow) : Option GraphError :=
  if table.contains flow.source = false then some (.unknownNode flow.target flow.source)
  else if table.contains flow.target = false then some (.unknownNode flow.source flow.target)
  else if flow.isSelfLoop then some (.selfLoop flow.source)
  else none

/-- A flow without problem connects two different listed nodes. -/
theorem connected_of_flowProblem?_eq_none {table : OrderedMap NodeKey Node} {flow : Flow}
    (sound : flowProblem? table flow = none) :
    table.contains flow.source = true ∧ table.contains flow.target = true ∧
      flow.source ≠ flow.target := by
  unfold flowProblem? at sound
  split at sound
  · cases sound
  · split at sound
    · cases sound
    · split at sound
      · cases sound
      · simp_all [Flow.isSelfLoop, Option.isSome_iff_ne_none]

/-- Whether a flow may precede another in canonical order. -/
def precedes (left right : Flow) : Bool := (compare left right).isLE

/-- Assembles a graph; the first problem with the parts is reported. -/
def ofParts (nodes : List Node) (flows : List Flow) : Except GraphError ProcessGraph := do
  let table <- collectNodes nodes
  let all := flows ++ nodes.flatMap armFlows
  match sound : all.findSome? (flowProblem? table.val) with
  | some problem => .error problem
  | none =>
    .ok {
      table := table.val
      flows := sortBy precedes all
      keyed := table.property
      connected := fun flow listed =>
        connected_of_flowProblem?_eq_none
          (List.findSome?_eq_none_iff.1 sound flow ((sortBy_perm _ _).mem_iff.1 listed)) }

variable (graph : ProcessGraph)

/-- The node of a key. -/
def node? (key : NodeKey) : Option Node := graph.table.get? key

/-- Whether the graph has a node of a key. -/
def contains (key : NodeKey) : Bool := graph.table.contains key

/-- The nodes in the order of their keys. -/
def nodes : List Node := graph.table.values

/-- The keys of the nodes in order. -/
def keys : List NodeKey := graph.table.keys

/-- The keys of the nodes where a process starts. -/
def startNodes : List NodeKey := (graph.nodes.filter Node.isStart).map Node.key

/-- The flows that leave a node, in canonical order. -/
def outgoing (key : NodeKey) : List Flow := graph.flows.filter (fun flow => flow.source == key)

/-- The flows that enter a node, in canonical order. -/
def incoming (key : NodeKey) : List Flow := graph.flows.filter (fun flow => flow.target == key)

/-- The timers on a host, in the order of their keys. -/
def boundariesOf (host : NodeKey) : List Node :=
  graph.nodes.filter (fun node => node.isBoundaryOf host)

/-- Where control can go from a node: the targets of its flows and then its timers. -/
def successors (key : NodeKey) : List NodeKey :=
  ((graph.outgoing key).map Flow.target).eraseDups ++ (graph.boundariesOf key).map Node.key

/-- The number of nodes. -/
def nodeCount : Nat := graph.table.size

/-- The number of flows. -/
def flowCount : Nat := graph.flows.length

end ProcessGraph

end ProcessEngine
