import ProcessEngine.Proofs.BranchPaths
import ProcessEngine.Proofs.RoutingChoices

/-!
# What verification says about reachability

Control goes along flows, and from a host to the timers on it. Verification searches forwards from
the start and backwards from the ends, and it reports just the nodes that no such path from the start
leads to, and just those from which no such path leads to an end, each of them once
(`ProcessGraph.reportCount_reachability`).
-/

namespace ProcessEngine

namespace Domain

variable {Place : Type} {domain : Domain Place} {next : Place -> List Place}

/-- If steps never leave the domain, what is reached from a place inside is what any steps lead to. -/
theorem reaches_iff (stays : ∀ place other, domain.inside place = true -> other ∈ next place ->
      domain.inside other = true) {first last : Place} :
    domain.Reaches next first last ↔ domain.inside first = true ∧
      Relation.ReflTransGen (fun place other => other ∈ next place) first last := by
  constructor
  · intro reaches
    induction reaches with
    | refl inside => exact ⟨inside, .refl⟩
    | step inside onward _ ih => exact ⟨inside, .head onward ih.2⟩
  · rintro ⟨inside, steps⟩
    induction steps with
    | refl => exact .refl inside
    | tail _ onward ih => exact ih.tail onward (stays _ _ ih.inside_last onward)

end Domain

namespace ProcessGraph

variable {graph : ProcessGraph} {key next start : NodeKey} {node : Node}
variable {problem : StructuralProblem}

/-! ## Paths of control -/

section

variable (graph)

/-- Control goes from a node to the target of a flow, and to a timer that is on the node. -/
inductive LeadsOn : NodeKey -> NodeKey -> Prop where
  | flow {flow : Flow} (listed : flow ∈ graph.flows) : LeadsOn flow.source flow.target
  | timer {timer : Node} {host : NodeKey} (listed : timer ∈ graph.nodes)
    (watches : timer.isBoundaryOf host = true) : LeadsOn host timer.key

/-- Control can come from a node to another, in any number of steps. -/
def CanReach : NodeKey -> NodeKey -> Prop := Relation.ReflTransGen graph.LeadsOn

/-- Control can come from a node to an end. -/
def CanFinish (key : NodeKey) : Prop :=
  ∃ node ∈ graph.nodes, node.isEnd = true ∧ graph.CanReach key node.key

end

theorem mem_successors_iff : next ∈ graph.successors key ↔ graph.LeadsOn key next := by
  simp only [successors, outgoing, boundariesOf, List.mem_append, List.mem_eraseDups, List.mem_map,
    List.mem_filter, beq_iff_eq]
  constructor
  · rintro (⟨flow, ⟨listed, rfl⟩, rfl⟩ | ⟨timer, ⟨listed, watches⟩, rfl⟩)
    · exact .flow listed
    · exact .timer listed watches
  · rintro (⟨listed⟩ | ⟨listed, watches⟩)
    · exact .inl ⟨_, ⟨listed, rfl⟩, rfl⟩
    · exact .inr ⟨_, ⟨listed, watches⟩, rfl⟩

theorem mem_keys_iff : key ∈ graph.keys ↔ graph.contains key = true := by
  refine ⟨fun listed => ?_, fun inside => Layout.subset_keys (by simpa using inside)
    (List.mem_singleton.2 rfl)⟩
  obtain ⟨⟨key, node⟩, entry, rfl⟩ := List.mem_map.1 listed
  rw [contains, OrderedMap.contains_eq_isSome,
    (OrderedMap.mem_toList_iff graph.table key node).1 entry]
  rfl

theorem contains_key (listed : node ∈ graph.nodes) : graph.contains node.key = true := by
  obtain ⟨key, found⟩ := (OrderedMap.mem_values_iff _ _).1 listed
  rw [graph.keyed key node found, contains, OrderedMap.contains_eq_isSome, found]
  rfl

/-- Control comes to nodes of the graph only. -/
theorem LeadsOn.contains (leads : graph.LeadsOn key next) : graph.contains next = true := by
  cases leads with
  | flow listed => exact (graph.connected _ listed).2.1
  | timer listed watches => exact contains_key listed

/-! ## The searches -/

/-- The search from a node finds what control can reach. -/
theorem mem_reachableFrom_iff (inside : graph.contains start = true) :
    key ∈ graph.reachableFrom start ↔ graph.CanReach start key := by
  have stays : ∀ place other, graph.keyDomain.inside place = true ->
      other ∈ graph.successors place -> graph.keyDomain.inside other = true :=
    fun _ _ _ onward => (mem_successors_iff.1 onward).contains
  rw [reachableFrom, Domain.mem_reachable_iff]
  simp only [List.mem_singleton, exists_eq_left, Domain.reaches_iff stays, mem_successors_iff]
  exact and_iff_right inside

theorem mem_predecessors_iff :
    next ∈ graph.predecessors key ↔ graph.contains next = true ∧ graph.LeadsOn next key := by
  rw [predecessors, List.mem_filter, mem_keys_iff, List.contains_iff_mem, mem_successors_iff]

/-- The search back from a node finds the nodes of the graph from which control can reach it. -/
theorem reaches_predecessors_iff :
    graph.keyDomain.Reaches graph.predecessors next key ↔
      graph.contains key = true ∧ graph.CanReach key next := by
  have stays : ∀ place other, graph.keyDomain.inside place = true ->
      other ∈ graph.predecessors place -> graph.keyDomain.inside other = true :=
    fun _ _ _ onward => (mem_predecessors_iff.1 onward).1
  constructor
  · intro reaches
    refine ⟨reaches.inside_last, ?_⟩
    obtain ⟨-, steps⟩ := (Domain.reaches_iff stays).1 reaches
    exact Relation.reflTransGen_swap.1 (Relation.ReflTransGen.mono
      (fun _ _ onward => (mem_predecessors_iff.1 onward).2) _ _ steps)
  · rintro ⟨inside', leads⟩
    induction leads using Relation.ReflTransGen.head_induction_on with
    | refl => exact .refl inside'
    | head onward _ ih =>
      exact (ih onward.contains).tail (mem_predecessors_iff.2 ⟨inside', onward⟩) inside'

/-- The search back from the ends finds the nodes from which control can come to an end. -/
theorem mem_reachingEnd_iff :
    key ∈ graph.reachingEnd ↔ graph.contains key = true ∧ graph.CanFinish key := by
  rw [reachingEnd, Domain.mem_reachable_iff]
  simp only [endNodes, List.mem_map, List.mem_filter]
  constructor
  · rintro ⟨_, ⟨node, ⟨listed, ends⟩, rfl⟩, reaches⟩
    obtain ⟨inside, leads⟩ := reaches_predecessors_iff.1 reaches
    exact ⟨inside, node, listed, ends, leads⟩
  · rintro ⟨inside, node, listed, ends, leads⟩
    exact ⟨_, ⟨node, ⟨listed, ends⟩, rfl⟩,
      reaches_predecessors_iff.2 ⟨inside, leads⟩⟩

theorem nodup_keys : graph.keys.Nodup := by
  refine List.pairwise_map.2 (graph.table.ascending.imp (fun {first second} before same => ?_))
  have equal : compare first.1 second.1 = .eq := by rw [same]; exact Std.ReflCmp.compare_self
  cases equal.symm.trans before

theorem mem_deadEnds_iff :
    key ∈ graph.deadEnds ↔ graph.contains key = true ∧ ¬ graph.CanFinish key := by
  simp only [deadEnds, List.mem_filter, mem_keys_iff, Bool.not_eq_true', List.contains_eq_mem,
    decide_eq_false_iff_not, mem_reachingEnd_iff]
  exact and_congr_right (fun inside => not_congr (and_iff_right inside))

theorem nodup_deadEnds : graph.deadEnds.Nodup := nodup_keys.filter _

theorem mem_unreachableNodes_iff (one : graph.startNodes = [start]) :
    key ∈ graph.unreachableNodes ↔ graph.contains key = true ∧ ¬ graph.CanReach start key := by
  have inside : graph.contains start = true := by
    have listed : start ∈ graph.startNodes := by rw [one]; exact List.mem_singleton.2 rfl
    obtain ⟨node, starting, rfl⟩ := List.mem_map.1 listed
    exact contains_key (List.mem_filter.1 starting).1
  simp only [unreachableNodes, one, List.mem_filter, mem_keys_iff, Bool.not_eq_true',
    List.contains_eq_mem, decide_eq_false_iff_not, mem_reachableFrom_iff inside]

theorem nodup_unreachableNodes : graph.unreachableNodes.Nodup := by
  rw [unreachableNodes]
  split
  · exact nodup_keys.filter _
  · exact List.nodup_nil

/-! ## Reports -/

end ProcessGraph

/-- The problem is that a node is not reached or reaches no end. -/
def StructuralProblem.concernsReach : StructuralProblem -> Bool
  | .unreachable _ => true
  | .noPathToEnd _ => true
  | _ => false

namespace ProcessGraph

open StructuralProblem (concernsReach)

variable {graph : ProcessGraph} {key start : NodeKey} {node : Node} {kind : GatewayKind}
variable {problem : StructuralProblem} {problems problems' : List StructuralProblem}

/-- None of the problems is that a node is not reached or reaches no end. -/
def IgnoreReach (problems : List StructuralProblem) : Prop :=
  ∀ problem ∈ problems, problem.concernsReach = false

@[simp] theorem ignoreReach_nil : IgnoreReach [] := List.forall_mem_nil _

@[simp] theorem ignoreReach_singleton : IgnoreReach [problem] ↔ problem.concernsReach = false :=
  List.forall_mem_singleton

@[simp] theorem ignoreReach_append :
    IgnoreReach (problems ++ problems') ↔ IgnoreReach problems ∧ IgnoreReach problems' :=
  List.forall_mem_append

@[simp] theorem ignoreReach_map {α : Type} {elements : List α} {report : α -> StructuralProblem} :
    IgnoreReach (elements.map report) ↔
      ∀ element ∈ elements, (report element).concernsReach = false :=
  List.forall_mem_map

@[simp] theorem ignoreReach_flatMap {α : Type} {elements : List α}
    {report : α -> List StructuralProblem} :
    IgnoreReach (elements.flatMap report) ↔ ∀ element ∈ elements, IgnoreReach (report element) :=
  List.forall_mem_flatMap

@[simp] theorem ignoreReach_reportIf {amiss : Bool} :
    IgnoreReach (reportIf amiss problem) ↔ (amiss = true -> problem.concernsReach = false) := by
  cases amiss <;> simp [reportIf]

theorem ignoreReach_armProblems {race : NodeKey} {known targets : List NodeKey} :
    IgnoreReach (graph.armProblems race known targets) := by
  induction targets generalizing known with
  | nil => exact ignoreReach_nil
  | cons target rest ih => simp [armProblems, concernsReach, ih]

theorem ignoreReach_kindProblems : IgnoreReach (graph.kindProblems node) := by
  obtain ⟨key, kind⟩ := node
  cases kind with
  | gateway kind direction declared =>
    cases direction <;> simp [kindProblems, exactlyOne, atLeastOne, concernsReach]
  | exclusiveGateway =>
    simp only [kindProblems, ignoreReach_append]
    split <;> simp [atLeastOne, concernsReach]
  | raceWait arms => simp [kindProblems, concernsReach, ignoreReach_armProblems]
  | boundaryTimer host duration interrupting =>
    have hosted : IgnoreReach (graph.hostProblems key host) := by
      rw [hostProblems]
      split <;> simp [concernsReach]
    simp [kindProblems, hosted, noneIncoming, exactlyOne, concernsReach]
  | _ => simp [kindProblems, exactlyOne, noneIncoming, oneBoundary, concernsReach]

theorem ignoreReach_splitProblems : IgnoreReach (graph.splitProblems kind node) := by
  simp only [splitProblems, ignoreReach_append, ignoreReach_map, concernsReach, implies_true,
    true_and]
  split
  · split <;> simp [concernsReach]
  · split
    · split <;> simp [concernsReach]
    · exact ignoreReach_nil
  · exact ignoreReach_singleton.2 rfl

/-- Only where verification looks at what can be reached it finds that a node is not reached or
reaches no end. -/
theorem count_problems (reach : problem.concernsReach = true) :
    graph.problems.count problem = graph.reachabilityProblems.count problem := by
  have none {problems : List StructuralProblem} (ignored : IgnoreReach problems) :
      problems.count problem = 0 :=
    List.count_eq_zero.2 (fun listed => by simp [ignored problem listed] at reach)
  have started : IgnoreReach graph.startProblems := by
    rw [startProblems]
    split <;> simp [concernsReach]
  have surrounded : IgnoreReach (graph.nodes.flatMap graph.nodeProblems) := by
    simp [nodeProblems, flowProblems, ignoreReach_kindProblems, concernsReach]
  have paired (kind : GatewayKind) : IgnoreReach (graph.pairingProblems kind) := by
    simp [pairingProblems, joinProblems, ignoreReach_splitProblems, concernsReach]
  rw [ProcessGraph.problems, List.count_append, List.count_append, List.count_append,
    List.count_append, none started, none surrounded, none (paired _), none (paired _)]
  omega

section

variable (graph)

/-- How often verification gives a problem as a reason to refuse the graph. -/
def reportCount (problem : StructuralProblem) : Nat :=
  match VerifiedGraph.ofGraph graph with
  | .ok _ => 0
  | .error problems => problems.count problem

end

theorem reportCount_eq : graph.reportCount problem = graph.problems.count problem := by
  rw [reportCount]
  split
  · rename_i verified accepted
    cases VerifiedGraph.ofGraph_eq_ok_iff.1 accepted
    rw [verified.sound, List.count_nil]
  · rename_i problems refused
    rw [(VerifiedGraph.ofGraph_eq_error_iff.1 refused).1]

open Classical in
theorem reportCount_noPathToEnd (key : NodeKey) : graph.reportCount (.noPathToEnd key) =
    if graph.contains key = true ∧ ¬ graph.CanFinish key then 1 else 0 := by
  have elsewhere : StructuralProblem.noPathToEnd key ∉ graph.unreachableNodes.map .unreachable := by
    simp
  have once := List.count_map_of_injective graph.deadEnds StructuralProblem.noPathToEnd
    (fun _ _ => StructuralProblem.noPathToEnd.inj) key
  rw [reportCount_eq, count_problems rfl, reachabilityProblems, List.count_append,
    List.count_eq_zero.2 elsewhere, once, nodup_deadEnds.count, Nat.zero_add]
  simp only [mem_deadEnds_iff]

open Classical in
theorem reportCount_unreachable (one : graph.startNodes = [start]) (key : NodeKey) :
    graph.reportCount (.unreachable key) =
      if graph.contains key = true ∧ ¬ graph.CanReach start key then 1 else 0 := by
  have elsewhere : StructuralProblem.unreachable key ∉ graph.deadEnds.map .noPathToEnd := by simp
  have once := List.count_map_of_injective graph.unreachableNodes StructuralProblem.unreachable
    (fun _ _ => StructuralProblem.unreachable.inj) key
  rw [reportCount_eq, count_problems rfl, reachabilityProblems, List.count_append,
    List.count_eq_zero.2 elsewhere, once, nodup_unreachableNodes.count, Nat.add_zero]
  simp only [mem_unreachableNodes_iff one]

end ProcessGraph

namespace Island

def start : NodeKey := ⟨"s", Eq.refl true⟩
def finish : NodeKey := ⟨"e", Eq.refl true⟩
def first : NodeKey := ⟨"a", Eq.refl true⟩
def second : NodeKey := ⟨"b", Eq.refl true⟩

/-- A process with two gateways that it never enters. -/
def nodes : List Node := [⟨start, .start⟩, ⟨finish, .finish false⟩, ⟨first, .exclusiveGateway⟩,
  ⟨second, .exclusiveGateway⟩]

/-- The gateways lead to each other only. -/
def flows : List Flow := [
  { source := start, target := finish },
  { source := first, target := second },
  { source := second, target := first }]

theorem made : (ProcessGraph.ofParts nodes flows).toOption.isSome := by decide +kernel

def graph : ProcessGraph := (ProcessGraph.ofParts nodes flows).toOption.get made

theorem startNodes_eq : graph.startNodes = [start] := by decide_cbv

theorem unreachableNodes_eq : graph.unreachableNodes = [first, second] := by decide_cbv

theorem deadEnds_eq : graph.deadEnds = [first, second] := by decide_cbv

end Island

end ProcessEngine
