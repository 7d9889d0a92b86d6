import ProcessEngine.Proofs.GraphParts
import ProcessEngine.Proofs.Tables
import ProcessEngine.Proofs.VerifiedGraphs

/-!
# Arms of races

The arms of a race may be listed in any order. A graph whose races list their arms in the order
of their targets has the problems, the layout and the code of the graph it was made from
(`ProcessGraph.compile_arranged`), and two graphs that differ in the order of arms only become
the same graph in this way (`ProcessGraph.arranged_eq_of_rearranges`).
-/

namespace ProcessEngine

namespace Node

/-- The node with its arms, if it is a race, in the order of their targets. -/
def arranged (node : Node) : Node :=
  match node.kind with
  | .raceWait arms => { node with kind := .raceWait (sortOn RaceArm.target arms) }
  | _ => node

/-- Two nodes are the same up to the order of the arms of a race. -/
inductive Rearranges : Node -> Node -> Prop where
  | same (node : Node) : Rearranges node node
  | race (key : NodeKey) {arms arms' : List RaceArm} (same : arms.Perm arms') :
    Rearranges ⟨key, .raceWait arms⟩ ⟨key, .raceWait arms'⟩

/-- A node is arranged unless it is a race. -/
theorem arranged_cases (node : Node) :
    node.arranged = node ∨ ∃ arms, node.kind = .raceWait arms ∧
      node.arranged = ⟨node.key, .raceWait (sortOn RaceArm.target arms)⟩ := by
  rw [arranged]
  split
  · rename_i arms race
    exact .inr ⟨arms, race, rfl⟩
  · exact .inl rfl

/-- What does not look at the arms of races finds no difference. -/
theorem arranged_congr {α : Type} (view : Node -> α)
    (blind : ∀ key arms arms', view ⟨key, .raceWait arms⟩ = view ⟨key, .raceWait arms'⟩)
    (node : Node) : view node.arranged = view node := by
  rcases node.arranged_cases with same | ⟨arms, race, same⟩
  · rw [same]
  · rw [same]
    obtain ⟨key, kind⟩ := node
    cases race
    exact blind _ _ _

@[simp] theorem key_arranged (node : Node) : node.arranged.key = node.key :=
  arranged_congr key (fun _ _ _ => rfl) node

@[simp] theorem gateway?_arranged (node : Node) : node.arranged.gateway? = node.gateway? :=
  arranged_congr gateway? (fun _ _ _ => rfl) node

@[simp] theorem isStart_arranged (node : Node) : node.arranged.isStart = node.isStart :=
  arranged_congr isStart (fun _ _ _ => rfl) node

@[simp] theorem isEnd_arranged (node : Node) : node.arranged.isEnd = node.isEnd :=
  arranged_congr isEnd (fun _ _ _ => rfl) node

@[simp] theorem interrupts_arranged (node : Node) : node.arranged.interrupts = node.interrupts :=
  arranged_congr interrupts (fun _ _ _ => rfl) node

@[simp] theorem isBoundaryOf_arranged (node : Node) :
    node.arranged.isBoundaryOf = node.isBoundaryOf :=
  arranged_congr isBoundaryOf (fun _ _ _ => rfl) node

@[simp] theorem isSplit_arranged (node : Node) (kind : GatewayKind) :
    node.arranged.isSplit kind = node.isSplit kind := by simp [isSplit]

@[simp] theorem isJoin_arranged (node : Node) (kind : GatewayKind) :
    node.arranged.isJoin kind = node.isJoin kind := by simp [isJoin]

@[simp] theorem endsBranch_arranged (node : Node) :
    ProcessGraph.endsBranch node.arranged = ProcessGraph.endsBranch node :=
  arranged_congr ProcessGraph.endsBranch (fun _ _ _ => rfl) node

@[simp] theorem depthAfter_arranged (node : Node) :
    ProcessGraph.depthAfter node.arranged = ProcessGraph.depthAfter node :=
  arranged_congr ProcessGraph.depthAfter (fun _ _ _ => rfl) node

end Node

namespace ProcessGraph

variable (graph : ProcessGraph)

/-- The graph with the arms of its races in the order of their targets. -/
def arranged : ProcessGraph where
  table := graph.table.map (fun _ node => node.arranged)
  flows := graph.flows
  keyed := by
    intro key node found
    rw [OrderedMap.get?_map] at found
    obtain ⟨former, present, rfl⟩ := Option.map_eq_some_iff.1 found
    exact former.key_arranged.trans (graph.keyed key former present)
  connected := by
    intro flow listed
    simp only [OrderedMap.contains_eq_isSome, OrderedMap.get?_map, Option.isSome_map]
    exact graph.connected flow listed

/-! ## The same shape -/

@[simp] theorem node?_arranged (key : NodeKey) :
    graph.arranged.node? key = (graph.node? key).map Node.arranged :=
  OrderedMap.get?_map _ _ _

@[simp] theorem contains_arranged : graph.arranged.contains = graph.contains := by
  funext key
  simp only [contains, arranged, OrderedMap.contains_eq_isSome, OrderedMap.get?_map,
    Option.isSome_map]

@[simp] theorem nodes_arranged : graph.arranged.nodes = graph.nodes.map Node.arranged := by
  simp [nodes, arranged, OrderedMap.values, OrderedMap.map]

@[simp] theorem keys_arranged : graph.arranged.keys = graph.keys := by
  simp [keys, arranged, OrderedMap.keys, OrderedMap.map, Function.comp_def]

@[simp] theorem nodeCount_arranged : graph.arranged.nodeCount = graph.nodeCount := by
  simp [nodeCount, arranged, OrderedMap.size, OrderedMap.map]

@[simp] theorem outgoing_arranged : graph.arranged.outgoing = graph.outgoing := rfl

@[simp] theorem incoming_arranged : graph.arranged.incoming = graph.incoming := rfl

/-- The keys of the nodes that pass a test which does not look at arms. -/
theorem map_key_filter_arranged (test : Node -> Bool)
    (blind : ∀ node, test node.arranged = test node) (nodes : List Node) :
    ((nodes.map Node.arranged).filter test).map Node.key =
      (nodes.filter test).map Node.key := by
  rw [List.filter_map, List.map_map]
  congr 1
  · funext node
    exact node.key_arranged
  · congr 1
    funext node
    exact blind node

@[simp] theorem startNodes_arranged : graph.arranged.startNodes = graph.startNodes := by
  rw [startNodes, nodes_arranged, map_key_filter_arranged _ Node.isStart_arranged]
  rfl

@[simp] theorem endNodes_arranged : graph.arranged.endNodes = graph.endNodes := by
  rw [endNodes, nodes_arranged, map_key_filter_arranged _ Node.isEnd_arranged]
  rfl

/-- A test that no race passes finds the same nodes. -/
theorem filter_arranged (test : Node -> Bool)
    (others : ∀ key arms, test ⟨key, .raceWait arms⟩ = false) (nodes : List Node) :
    (nodes.map Node.arranged).filter test = nodes.filter test := by
  have blind : test ∘ Node.arranged = test := funext (Node.arranged_congr test
    (fun key arms arms' => (others key arms).trans (others key arms').symm))
  rw [List.filter_map, blind]
  refine (List.map_congr_left (fun node listed => ?_)).trans (List.map_id _)
  rcases node.arranged_cases with same | ⟨arms, race, -⟩
  · exact same
  · obtain ⟨key, kind⟩ := node
    cases race
    cases (others key arms).symm.trans (List.mem_filter.1 listed).2

@[simp] theorem boundariesOf_arranged (host : NodeKey) :
    graph.arranged.boundariesOf host = graph.boundariesOf host := by
  rw [boundariesOf, nodes_arranged, filter_arranged _ (fun _ _ => rfl)]
  rfl

@[simp] theorem successors_arranged : graph.arranged.successors = graph.successors := by
  funext key
  simp [successors]

@[simp] theorem branchSuccessors_arranged :
    graph.arranged.branchSuccessors = graph.branchSuccessors := by
  funext key
  simp [branchSuccessors]

theorem domain_eq {Place : Type} {left right : Domain Place} (same : left.inside = right.inside) :
    left = right := by
  cases left
  cases right
  cases same
  rfl

/-- What can be reached does not depend on how arms are listed. -/
@[simp] theorem reachabilityProblems_arranged :
    graph.arranged.reachabilityProblems = graph.reachabilityProblems := by
  have domain : graph.arranged.keyDomain = graph.keyDomain :=
    domain_eq graph.contains_arranged
  have predecessors : graph.arranged.predecessors = graph.predecessors := by
    funext key
    simp [ProcessGraph.predecessors]
  simp [reachabilityProblems, unreachableNodes, deadEnds, reachableFrom, reachingEnd, domain,
    predecessors]

/-! ## The same pairs -/

@[simp] theorem branchPlaces_arranged (split first : NodeKey) :
    graph.arranged.branchPlaces split first = graph.branchPlaces split first := by
  have domain : graph.arranged.branchDomain split = graph.branchDomain split := by
    apply domain_eq
    funext place
    simp [branchDomain]
  have next : graph.arranged.branchNext = graph.branchNext := by
    funext place
    rw [branchNext, branchNext, node?_arranged]
    cases graph.node? place.1 with
    | none => rfl
    | some node => simp
  rw [branchPlaces, domain, next]
  rfl

@[simp] theorem survey_arranged : graph.arranged.survey = graph.survey := by
  have joins : graph.arranged.joinsOf = graph.joinsOf := by
    funext kind places
    rw [joinsOf, joinsOf]
    congr 1
    funext ⟨key, depth⟩
    simp only [node?_arranged]
    cases graph.node? key with
    | none => rfl
    | some node => simp
  have escapes : graph.arranged.escapes = graph.escapes := by
    funext places
    rw [ProcessGraph.escapes, ProcessGraph.escapes]
    congr 1
    funext ⟨key, depth⟩
    simp only [node?_arranged]
    cases graph.node? key with
    | none => rfl
    | some node => simp
  funext kind split
  simp [survey, joins, escapes]

/-- Splitting gateways are no races, and neither are joining ones. -/
@[simp] theorem splits_arranged (kind : GatewayKind) :
    graph.arranged.splits kind = graph.splits kind := by
  rw [splits, nodes_arranged, filter_arranged _ (fun _ _ => rfl)]
  rfl

@[simp] theorem joins_arranged (kind : GatewayKind) :
    graph.arranged.joins kind = graph.joins kind := by
  rw [joins, nodes_arranged, filter_arranged _ (fun _ _ => rfl)]
  rfl

@[simp] theorem pairsOf_arranged (kind : GatewayKind) :
    graph.arranged.pairsOf kind = graph.pairsOf kind := by simp [pairsOf]

@[simp] theorem pairs_arranged : graph.arranged.pairs = graph.pairs := by simp [pairs]

@[simp] theorem pairingProblems_arranged (kind : GatewayKind) :
    graph.arranged.pairingProblems kind = graph.pairingProblems kind := by
  have splitProblems : graph.arranged.splitProblems = graph.splitProblems := by
    funext kind split
    simp [ProcessGraph.splitProblems]
  simp [pairingProblems, joinProblems, splitProblems]

/-! ## No problem with the order of arms -/

/-- There is nothing wrong with the arms of a race if they lead to different nodes that can be
entered. -/
theorem armProblems_eq_nil_iff (race : NodeKey) (known targets : List NodeKey) :
    graph.armProblems race known targets = [] ↔
      targets.Nodup ∧ ∀ target ∈ targets, target ∉ known ∧ graph.isEnterable target = true := by
  induction targets generalizing known with
  | nil => simp [armProblems]
  | cons target rest ih =>
    rw [armProblems, List.append_eq_nil_iff, List.append_eq_nil_iff, ih]
    simp [reportIf]
    grind

@[simp] theorem isEnterable_arranged : graph.arranged.isEnterable = graph.isEnterable := by
  funext key
  rw [isEnterable, isEnterable, node?_arranged]
  cases graph.node? key with
  | none => rfl
  | some node =>
    obtain ⟨key, kind⟩ := node
    cases kind <;> rfl

@[simp] theorem hostProblems_arranged : graph.arranged.hostProblems = graph.hostProblems := by
  funext boundary host
  rw [hostProblems, hostProblems, node?_arranged]
  cases graph.node? host with
  | none => rfl
  | some node =>
    exact Node.arranged_congr
      (fun node => reportIf (!node.canHostBoundary) (.boundaryHostInvalid boundary host))
      (fun _ _ _ => rfl) node

/-- Nothing but the order of arms differs, so nothing is wrong with the one node if nothing is
wrong with the other. -/
theorem kindProblems_eq_nil_arranged (node : Node) :
    graph.arranged.kindProblems node.arranged = [] ↔ graph.kindProblems node = [] := by
  have elsewhere : graph.arranged.kindProblems node = graph.kindProblems node ∨
      ∃ arms, node.kind = .raceWait arms := by
    rcases node with ⟨key, kind⟩
    cases kind with
    | raceWait arms => exact .inr ⟨arms, rfl⟩
    | gateway kind direction declared =>
      exact .inl (by cases direction <;> simp [kindProblems])
    | _ => exact .inl (by simp [kindProblems, noneIncoming, oneBoundary])
  rcases node.arranged_cases with same | ⟨arms, race, same⟩
  · rcases elsewhere with equal | ⟨arms, race⟩
    · rw [same, equal]
    · rw [same]
      obtain ⟨key, kind⟩ := node
      cases race
      simp [kindProblems, armProblems_eq_nil_iff]
  · rw [same]
    obtain ⟨key, kind⟩ := node
    cases race
    have perm : (sortOn RaceArm.target arms).Perm arms := sortBy_perm _ _
    have targets := perm.map RaceArm.target
    simp only [kindProblems, List.append_eq_nil_iff, armProblems_eq_nil_iff, reportIf,
      isEnterable_arranged, outgoing_arranged, perm.length_eq, targets.nodup_iff, targets.mem_iff,
      List.isEmpty_iff_length_eq_zero]

theorem nodeProblems_eq_nil_arranged (node : Node) :
    graph.arranged.nodeProblems node.arranged = [] ↔ graph.nodeProblems node = [] := by
  have flows : flowProblems node.arranged = flowProblems node :=
    Node.arranged_congr flowProblems (fun _ _ _ => rfl) node
  rw [nodeProblems, nodeProblems, List.append_eq_nil_iff, List.append_eq_nil_iff,
    kindProblems_eq_nil_arranged, flows, outgoing_arranged, Node.key_arranged]

/-- A graph has no problems whatever the order of arms. -/
theorem problems_eq_nil_arranged : graph.arranged.problems = [] ↔ graph.problems = [] := by
  have start : graph.arranged.startProblems = graph.startProblems := by
    rw [startProblems, startNodes_arranged]
    rfl
  have nodes : graph.arranged.nodes.flatMap graph.arranged.nodeProblems = [] ↔
      graph.nodes.flatMap graph.nodeProblems = [] := by
    rw [nodes_arranged, List.flatMap_map, List.flatMap_eq_nil_iff, List.flatMap_eq_nil_iff]
    exact forall₂_congr (fun node _ => graph.nodeProblems_eq_nil_arranged node)
  simp only [problems, List.append_eq_nil_iff, start, nodes, reachabilityProblems_arranged,
    pairingProblems_arranged]

end ProcessGraph

/-! ## The same code -/

namespace Layout

theorem visit_arranged (graph : ProcessGraph) : visit graph.arranged = visit graph := by
  funext room
  induction room with
  | zero => rfl
  | succ room ih =>
    funext path key layout
    simp [visit, ih]

end Layout

namespace VerifiedGraph

/-- The verified graph with the arms of its races in the order of their targets. -/
def arranged (verified : VerifiedGraph) : VerifiedGraph where
  graph := verified.graph.arranged
  start := verified.start
  pairs := verified.pairs
  sound := verified.graph.problems_eq_nil_arranged.2 verified.sound
  startNodes_eq := verified.graph.startNodes_arranged.trans verified.startNodes_eq
  pairs_eq := verified.pairs_eq.trans verified.graph.pairs_arranged.symm

end VerifiedGraph

/-- What is sorted stays as it is. -/
theorem sortBy_of_pairwise {α : Type} {before : α -> α -> Bool} {list : List α}
    (sorted : list.Pairwise (before · ·)) : sortBy before list = list := by
  induction sorted with
  | nil => rfl
  | @cons head rest least _ ih =>
    rw [sortBy, List.foldr_cons, ← sortBy, ih]
    cases rest with
    | nil => rfl
    | cons second rest => exact if_pos (least second List.mem_cons_self)

theorem sortOn_sortOn {α Key : Type} [Ord Key] [Std.TransOrd Key] (key : α -> Key)
    (list : List α) : sortOn key (sortOn key list) = sortOn key list :=
  sortBy_of_pairwise (pairwise_sortBy (fun _ _ _ => Std.TransCmp.isLE_trans)
    (fun _ _ => isLE_total _ _) list)

namespace Lowering

variable (verified : VerifiedGraph) (layout : Layout)

@[simp] theorem onward_arranged : onward verified.arranged layout = onward verified layout := rfl

@[simp] theorem armCode_arranged (key : NodeKey) (arms : List RaceArm) (register : Nat) :
    armCode verified.arranged layout key arms register =
      armCode verified layout key arms register := by
  induction arms generalizing register with
  | nil => rfl
  | cons arm rest ih =>
    simp only [armCode, ih]
    rfl

@[simp] theorem guarded_arranged (host : NodeKey) (wait : Lowered LabelledCode) :
    guarded verified.arranged host wait = guarded verified host wait := by
  unfold guarded
  rw [show verified.arranged.graph.boundariesOf host = verified.graph.boundariesOf host from
    ProcessGraph.boundariesOf_arranged _ _]

/-- The code of a node depends on the flows, the timers and the partners, and the arms of a race
are sorted anyway. -/
theorem nodeCode_arranged (node : Node) :
    nodeCode verified.arranged layout node.arranged = nodeCode verified layout node := by
  have elsewhere (node : Node) :
      nodeCode verified.arranged layout node = nodeCode verified layout node := by
    obtain ⟨key, kind⟩ := node
    cases kind with
    | finish terminates => cases terminates <;> rfl
    | gateway kind direction declared => cases kind <;> cases direction <;> rfl
    | raceWait arms => simp only [nodeCode, raceBlock, armCode_arranged]
    | serviceTask taskType retries =>
      simp only [nodeCode, onward_arranged, guarded_arranged]
      rfl
    | messageWait name flag => simp only [nodeCode, onward_arranged, guarded_arranged]
    | humanWait task => simp only [nodeCode, onward_arranged, guarded_arranged]
    | _ => rfl
  rw [elsewhere]
  rcases node.arranged_cases with same | ⟨arms, race, same⟩
  · rw [same]
  · rw [same]
    obtain ⟨key, kind⟩ := node
    cases race
    simp only [nodeCode, raceBlock, sortOn_sortOn]

theorem code_arranged : code verified.arranged = code verified := by
  have layout_eq : Layout.ofGraph verified.arranged.graph verified.arranged.start =
      Layout.ofGraph verified.graph verified.start := by
    rw [Layout.ofGraph, Layout.ofGraph]
    exact congrFun (congrFun (congrFun (congr (Layout.visit_arranged _)
      (ProcessGraph.nodeCount_arranged _)) _) _) _
  have block_eq (layout : Layout) : block verified.arranged layout = block verified layout := by
    funext key
    rw [block, block, show verified.arranged.graph.node? key =
      (verified.graph.node? key).map Node.arranged from ProcessGraph.node?_arranged _ _]
    cases verified.graph.node? key with
    | none => rfl
    | some node => simp only [Option.map_some, nodeCode_arranged]
  rw [code, code, layout_eq]
  simp only [block_eq]

end Lowering

namespace ProcessGraph

variable {graph graph' : ProcessGraph}

/-- The order in which races list their arms makes no difference to the program. -/
theorem compile_arranged {program : Program} :
    graph.arranged.compile = .ok program ↔ graph.compile = .ok program := by
  have lower_eq (verified : VerifiedGraph) : verified.arranged.lower = verified.lower := by
    rw [VerifiedGraph.lower, VerifiedGraph.lower, Lowering.code_arranged]
  rw [compile_eq_ok_iff, compile_eq_ok_iff]
  constructor
  · rintro ⟨verified, same, lowered⟩
    obtain ⟨former, rfl⟩ := VerifiedGraph.exists_of_problems
      (problems_eq_nil_arranged graph |>.1 (same ▸ verified.sound))
    obtain rfl : verified = former.arranged := VerifiedGraph.ext_graph same
    exact ⟨former, rfl, (lower_eq former).symm.trans lowered⟩
  · rintro ⟨verified, rfl, lowered⟩
    exact ⟨verified.arranged, rfl, (lower_eq verified).trans lowered⟩

section Rearranged

variable {nodes nodes' : List Node}

theorem keys_of_rearranges (same : List.Forall₂ Node.Rearranges nodes nodes') :
    nodes.map Node.key = nodes'.map Node.key := by
  induction same with
  | nil => rfl
  | cons first _ ih => cases first <;> simp [ih]

theorem armFlows_of_rearranges (same : List.Forall₂ Node.Rearranges nodes nodes') :
    (nodes.flatMap armFlows).Perm (nodes'.flatMap armFlows) := by
  induction same with
  | nil => exact .refl _
  | cons first _ ih =>
    rw [List.flatMap_cons, List.flatMap_cons]
    refine List.Perm.append ?_ ih
    cases first with
    | same => exact .refl _
    | race key same => exact (same.map RaceArm.target).map _

/-- Nodes whose arms are listed in another order make a graph too. -/
theorem exists_ofParts_of_rearranges (same : List.Forall₂ Node.Rearranges nodes nodes')
    {flows : List Flow} (made : ∃ graph, ofParts nodes flows = .ok graph) :
    ∃ graph, ofParts nodes' flows = .ok graph := by
  rw [exists_ofParts_iff] at made ⊢
  rw [← keys_of_rearranges same]
  exact ⟨made.1, fun flow given => made.2 flow
    (((armFlows_of_rearranges same).append_left flows).mem_iff.2 given)⟩

/-- Two races without problems are the same once their arms are sorted. -/
theorem arranged_eq_of_node {node node' : Node} (same : node.Rearranges node')
    (sound : graph.kindProblems node = []) : node.arranged = node'.arranged := by
  cases same with
  | same => rfl
  | race key same =>
    simp only [kindProblems, List.append_eq_nil_iff, armProblems_eq_nil_iff] at sound
    rw [Node.arranged, Node.arranged]
    simp only
    rw [sortOn_eq_of_perm RaceArm.target sound.1.2.1 same]

theorem Lists.arranged {table : OrderedMap NodeKey Node} (lists : Lists table nodes) :
    Lists (table.map (fun _ node => node.arranged)) (nodes.map Node.arranged) := by
  intro key node
  rw [OrderedMap.get?_map, Option.map_eq_some_iff, List.mem_map]
  constructor
  · rintro ⟨former, found, rfl⟩
    obtain ⟨listed, same⟩ := (lists key former).1 found
    exact ⟨⟨former, listed, rfl⟩, former.key_arranged.trans same⟩
  · rintro ⟨⟨former, listed, rfl⟩, same⟩
    exact ⟨former, (lists key former).2 ⟨listed, former.key_arranged.symm.trans same⟩, rfl⟩

/-- Sound graphs that differ in the order of arms only become the same graph. -/
theorem arranged_eq_of_rearranges (same : List.Forall₂ Node.Rearranges nodes nodes')
    {flows : List Flow} (made : ofParts nodes flows = .ok graph)
    (made' : ofParts nodes' flows = .ok graph') (sound : graph.problems = []) :
    graph.arranged = graph'.arranged := by
  obtain ⟨different, lists, order⟩ := ofParts_eq_ok_iff.1 made
  obtain ⟨different', lists', order'⟩ := ofParts_eq_ok_iff.1 made'
  have arranged_eq {node node' : Node} (listed : node ∈ nodes) (same : node.Rearranges node') :
      node.arranged = node'.arranged := by
    refine @arranged_eq_of_node graph _ _ same ?_
    have problems := nodeProblems_eq_nil sound ((lists _ _).2 ⟨listed, rfl⟩)
    exact (List.append_eq_nil_iff.1 problems).2
  have nodes_eq : nodes.map Node.arranged = nodes'.map Node.arranged := by
    clear different different' lists lists' order order' made made'
    induction same with
    | nil => rfl
    | cons first _ ih =>
      rw [List.map_cons, List.map_cons, arranged_eq List.mem_cons_self first,
        ih (fun listed => arranged_eq (List.mem_cons_of_mem _ listed))]
  have flows_eq : graph.flows = graph'.flows := by
    rw [order, order']
    exact sortBy_precedes_perm ((armFlows_of_rearranges same).append_left flows)
  have table_eq : graph.arranged.table = graph'.arranged.table :=
    lists.arranged.unique (nodes_eq ▸ lists'.arranged)
  obtain ⟨table, flows, keyed, connected⟩ := graph
  obtain ⟨table', flows', keyed', connected'⟩ := graph'
  simp only [arranged] at table_eq flows_eq ⊢
  simp only [table_eq, flows_eq]

end Rearranged

end ProcessGraph

end ProcessEngine
