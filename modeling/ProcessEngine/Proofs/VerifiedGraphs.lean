import ProcessEngine.Proofs.NodeCode
import ProcessEngine.Proofs.Tables

/-!
# Verified graphs

Verification accepts exactly the graphs without problems, and there is one verified graph for each
of them. A graph is compiled by lowering its verified graph (`ProcessGraph.compile_eq_ok_iff`).

What the verification of a graph says about one of its nodes is brought into the form in which the
lowering relies on it: which flows leave the node, which timer watches over it and which partner it
has.
-/

namespace ProcessEngine

/-- Results are kept when errors are replaced. -/
theorem mapError_eq_ok {Error Image α : Type} {result : Except Error α} {change : Error -> Image}
    {value : α} : result.mapError change = .ok value ↔ result = .ok value := by
  cases result with
  | error error =>
    rw [show Except.mapError change (Except.error error : Except Error α) =
      .error (change error) from rfl]
    simp
  | ok found =>
    rw [show Except.mapError change (Except.ok found : Except Error α) = .ok found from rfl]
    simp

theorem toOption_eq_some_iff {Error α : Type} {result : Except Error α} {value : α} :
    result.toOption = some value ↔ result = .ok value := by
  cases result <;> simp [Except.toOption]

namespace VerifiedGraph

/-- A graph is verified in one way only. -/
theorem ext_graph {verified verified' : VerifiedGraph} (same : verified.graph = verified'.graph) :
    verified = verified' := by
  obtain ⟨graph, start, pairs, sound, starts, pairs_eq⟩ := verified
  obtain ⟨graph', start', pairs', sound', starts', pairs_eq'⟩ := verified'
  cases same
  cases starts.symm.trans starts'
  cases pairs_eq.trans pairs_eq'.symm
  rfl

/-- Verification accepts the graphs with which there is nothing wrong. -/
theorem exists_of_problems {graph : ProcessGraph} (sound : graph.problems = []) :
    ∃ verified : VerifiedGraph, verified.graph = graph := by
  have starts : graph.startProblems = [] := by
    simp only [ProcessGraph.problems, List.append_eq_nil_iff] at sound
    exact sound.1.1.1.1
  rw [ProcessGraph.startProblems] at starts
  split at starts
  · cases starts
  · rename_i start one
    exact ⟨⟨graph, start, graph.pairs, sound, one, rfl⟩, rfl⟩
  · cases starts

/-- Verification returns the graph that it was given. -/
theorem ofGraph_eq_ok_iff {graph : ProcessGraph} {verified : VerifiedGraph} :
    ofGraph graph = .ok verified ↔ verified.graph = graph := by
  constructor
  · intro accepted
    unfold ofGraph at accepted
    split at accepted
    · cases accepted
    · split at accepted
      · cases accepted
        rfl
      · cases accepted
  · rintro rfl
    unfold ofGraph
    split
    · rename_i amiss
      cases amiss.symm.trans verified.sound
    · split
      · exact congrArg Except.ok (ext_graph rfl)
      · rename_i several
        exact absurd verified.startNodes_eq (several verified.start)

/-- Verification refuses the graphs with problems, and lists these. -/
theorem ofGraph_eq_error_iff {graph : ProcessGraph} {problems : List StructuralProblem} :
    ofGraph graph = .error problems ↔ graph.problems = problems ∧ problems ≠ [] := by
  constructor
  · intro refused
    unfold ofGraph at refused
    split at refused
    · rename_i found
      cases refused
      exact ⟨found, List.cons_ne_nil _ _⟩
    · rename_i sound
      obtain ⟨verified, rfl⟩ := exists_of_problems sound
      split at refused
      · cases refused
      · rename_i several
        exact absurd verified.startNodes_eq (several verified.start)
  · rintro ⟨rfl, some⟩
    unfold ofGraph
    split
    · rename_i found
      rw [found]
    · rename_i sound
      exact absurd sound some

end VerifiedGraph

namespace ProcessGraph

variable {graph : ProcessGraph}

/-- A graph is compiled by lowering it once it is verified. -/
theorem compile_eq_ok_iff {program : Program} :
    graph.compile = .ok program ↔
      ∃ verified : VerifiedGraph, verified.graph = graph ∧ verified.lower = .ok program := by
  simp only [← VerifiedGraph.ofGraph_eq_ok_iff, compile]
  cases VerifiedGraph.ofGraph graph with
  | error problems =>
    rw [show Except.mapError CompileError.unsound (Except.error problems) =
      .error (.unsound problems) from rfl]
    simp [bind, Except.bind]
  | ok verified =>
    rw [show Except.mapError CompileError.unsound (Except.ok verified) = .ok verified from rfl]
    simp only [bind, Except.bind, mapError_eq_ok, Except.ok.injEq, exists_eq_left']

/-- There is nothing wrong with any node of a sound graph. -/
theorem nodeProblems_eq_nil {key : NodeKey} {node : Node} (sound : graph.problems = [])
    (found : graph.node? key = some node) : graph.nodeProblems node = [] := by
  have listed : node ∈ graph.nodes :=
    List.mem_map.2 ⟨(key, node), (OrderedMap.mem_toList_iff _ _ _).2 found, rfl⟩
  simp only [problems, List.append_eq_nil_iff] at sound
  exact List.flatMap_eq_nil_iff.1 sound.1.1.1.2 node listed

end ProcessGraph

/-! ## Nodes -/

open ProcessGraph

/-- Control leaves such a node along one flow, unless it takes an error route. -/
def NodeKind.GoesOn : NodeKind -> Prop
  | .start => True
  | .serviceTask _ _ => True
  | .gateway _ .converging _ => True
  | .timerWait _ => True
  | .messageWait _ _ => True
  | .humanWait _ => True
  | .boundaryTimer _ _ _ => True
  | _ => False

/-- Such a node takes one of its flows by default at most. -/
def NodeKind.Chooses : NodeKind -> Prop
  | .exclusiveGateway => True
  | .gateway _ .diverging _ => True
  | _ => False

/-- Such a node may have a timer. -/
def NodeKind.Hosts : NodeKind -> Prop
  | .serviceTask _ _ => True
  | .messageWait _ _ => True
  | .humanWait _ => True
  | _ => False

@[simp] theorem ProcessGraph.reportIf_eq_nil {amiss : Bool} {problem : StructuralProblem} :
    reportIf amiss problem = [] ↔ amiss = false := by
  cases amiss <;> simp [reportIf]

/-- As many flows pass a test with their places as without. -/
theorem Lowering.length_filter_flowsOf (verified : VerifiedGraph) (key : NodeKey)
    (test : Flow -> Bool) :
    ((flowsOf verified key).filter (fun place => test place.1)).length =
      ((verified.graph.outgoing key).filter test).length := by
  have kept : ∀ (flows : List Flow) (first : Nat),
      ((flows.zipIdx first).filter (fun place => test place.1)).length =
        (flows.filter test).length := by
    intro flows
    induction flows with
    | nil => simp
    | cons flow rest ih =>
      intro first
      rw [List.zipIdx_cons, List.filter_cons, List.filter_cons]
      split <;> simp [ih]
  exact kept _ 0

theorem ProcessGraph.exists_node {graph : ProcessGraph} {key : NodeKey}
    (inside : graph.contains key = true) : ∃ node, graph.node? key = some node := by
  rw [contains, OrderedMap.contains_eq_isSome] at inside
  exact Option.isSome_iff_exists.1 inside

namespace VerifiedGraph

variable {verified : VerifiedGraph} {key : NodeKey} {node : Node}

theorem contains_of_node (found : verified.graph.node? key = some node) :
    verified.graph.contains key = true := by
  rw [ProcessGraph.contains, OrderedMap.contains_eq_isSome]
  exact Option.isSome_iff_exists.2 ⟨node, found⟩

theorem kindProblems_eq_nil (found : verified.graph.node? key = some node) :
    verified.graph.kindProblems node = [] :=
  (List.append_eq_nil_iff.1 (nodeProblems_eq_nil verified.sound found)).2

theorem flowProblems_eq_nil (found : verified.graph.node? key = some node) {flow : Flow}
    (leaves : flow ∈ verified.graph.outgoing key) : flowProblems node flow = [] := by
  have sound := (List.append_eq_nil_iff.1 (nodeProblems_eq_nil verified.sound found)).1
  rw [verified.graph.keyed key node found] at sound
  exact List.flatMap_eq_nil_iff.1 sound flow leaves

/-- Only tasks have error routes. -/
theorem isErrorRoute_eq_false (found : verified.graph.node? key = some node)
    (noTask : ∀ taskType retries, node.kind ≠ .serviceTask taskType retries) {flow : Flow}
    (leaves : flow ∈ verified.graph.outgoing key) : flow.isErrorRoute = false := by
  have sound := flowProblems_eq_nil found leaves
  simp only [flowProblems, List.append_eq_nil_iff, reportIf_eq_nil, Bool.and_eq_false_iff] at sound
  simpa using sound.2

/-- One flow is no error route where control goes on along one flow. -/
theorem exists_plainFlow (found : verified.graph.node? key = some node)
    (goesOn : node.kind.GoesOn) : ∃ place, References.plainFlows verified key = [place] := by
  rw [← List.length_eq_one_iff, References.plainFlows,
    Lowering.length_filter_flowsOf verified key (fun flow => !flow.isErrorRoute)]
  have sound := kindProblems_eq_nil found
  have same := verified.graph.keyed key node found
  by_cases task : ∃ taskType retries, node.kind = .serviceTask taskType retries
  · obtain ⟨taskType, retries, kind⟩ := task
    simp only [kindProblems, kind, List.append_eq_nil_iff, exactlyOne, reportIf_eq_nil, same,
      bne_eq_false_iff_eq] at sound
    exact sound.1.1
  · have plain : (verified.graph.outgoing key).filter (fun flow => !flow.isErrorRoute) =
        verified.graph.outgoing key :=
      List.filter_eq_self.2 (fun flow leaves => by
        rw [isErrorRoute_eq_false found (fun taskType retries kind => task ⟨_, _, kind⟩) leaves]
        rfl)
    rw [plain]
    obtain ⟨name, kind⟩ := node
    cases same
    cases kind with
    | serviceTask taskType retries => exact absurd ⟨taskType, retries, rfl⟩ task
    | gateway kind direction declared =>
      cases direction with
      | diverging => cases goesOn
      | converging => simpa [kindProblems, exactlyOne] using sound
    | start => simpa [kindProblems, exactlyOne] using And.right (List.append_eq_nil_iff.1 sound)
    | boundaryTimer host duration interrupting =>
      simpa [kindProblems, exactlyOne] using And.right (List.append_eq_nil_iff.1 sound)
    | timerWait duration => simpa [kindProblems, exactlyOne] using sound
    | messageWait name flag =>
      simpa [kindProblems, exactlyOne] using And.left (List.append_eq_nil_iff.1 sound)
    | humanWait task =>
      simpa [kindProblems, exactlyOne] using And.left (List.append_eq_nil_iff.1 sound)
    | finish terminate => cases goesOn
    | exclusiveGateway => cases goesOn
    | raceWait arms => cases goesOn

/-- A choosing gateway has at least one flow, and one default flow at most. -/
theorem chooses (found : verified.graph.node? key = some node) (chooses : node.kind.Chooses) :
    Lowering.flowsOf verified key ≠ [] ∧ (References.defaultFlows verified key).length ≤ 1 := by
  have sound := kindProblems_eq_nil found
  have same := verified.graph.keyed key node found
  rw [References.defaultFlows, Lowering.length_filter_flowsOf verified key Flow.isDefault,
    Lowering.flowsOf, ne_eq, List.zipIdx_eq_nil_iff]
  obtain ⟨name, kind⟩ := node
  cases same
  cases kind with
  | exclusiveGateway =>
    simp only [kindProblems, List.append_eq_nil_iff, atLeastOne, reportIf_eq_nil,
      beq_eq_false_iff_ne, decide_eq_false_iff_not] at sound
    exact ⟨fun none => sound.1.1 (by rw [none]; rfl), Nat.le_of_not_lt sound.1.2⟩
  | gateway kind direction declared =>
    cases direction with
    | converging => cases chooses
    | diverging =>
      simp only [kindProblems, List.append_eq_nil_iff, atLeastOne, reportIf_eq_nil,
        beq_eq_false_iff_ne, decide_eq_false_iff_not] at sound
      exact ⟨fun none => sound.1 (by rw [none]; rfl), Nat.le_of_not_lt sound.2⟩
  | _ => cases chooses

/-- A timer on a host is a boundary timer of it. -/
theorem boundary_eq {boundary : Node} (guards : boundary ∈ verified.graph.boundariesOf key) :
    ∃ duration interrupting, boundary.kind = .boundaryTimer key duration interrupting ∧
      verified.graph.node? boundary.key = some boundary := by
  obtain ⟨listed, watches⟩ := List.mem_filter.1 guards
  obtain ⟨entry, present, rfl⟩ := List.mem_map.1 listed
  have found := (OrderedMap.mem_toList_iff verified.graph.table entry.1 entry.2).1 present
  rw [Node.isBoundaryOf] at watches
  split at watches
  · rename_i host duration interrupting kind
    rw [beq_iff_eq] at watches
    exact ⟨duration, interrupting, watches ▸ kind, by
      rw [verified.graph.keyed _ _ found]
      exact found⟩
  · cases watches

/-- A host has one timer at most. -/
theorem boundaries_cases (found : verified.graph.node? key = some node)
    (hosts : node.kind.Hosts) :
    verified.graph.boundariesOf key = [] ∨ ∃ boundary duration interrupting,
      verified.graph.boundariesOf key =
        [⟨boundary, .boundaryTimer key duration interrupting⟩] := by
  have few : (verified.graph.boundariesOf key).length ≤ 1 := by
    have sound := kindProblems_eq_nil found
    have same := verified.graph.keyed key node found
    obtain ⟨name, kind⟩ := node
    cases same
    cases kind with
    | serviceTask _ _ => simpa [kindProblems, oneBoundary] using (List.append_eq_nil_iff.1 sound).2
    | messageWait _ _ => simpa [kindProblems, oneBoundary] using (List.append_eq_nil_iff.1 sound).2
    | humanWait _ => simpa [kindProblems, oneBoundary] using (List.append_eq_nil_iff.1 sound).2
    | _ => cases hosts
  cases boundaries : verified.graph.boundariesOf key with
  | nil => exact .inl rfl
  | cons boundary rest =>
    rw [boundaries, List.length_cons] at few
    cases List.length_eq_zero_iff.1 (Nat.le_zero.1 (Nat.le_of_succ_le_succ few))
    obtain ⟨duration, interrupting, kind, -⟩ :=
      boundary_eq (boundaries ▸ List.mem_cons_self : boundary ∈ verified.graph.boundariesOf key)
    obtain ⟨name, kind'⟩ := boundary
    cases kind
    exact .inr ⟨name, duration, interrupting, rfl⟩

theorem mem_splits {kind : GatewayKind} (found : verified.graph.node? key = some node)
    (splits : node.isSplit kind = true) : node ∈ verified.graph.splits kind :=
  List.mem_filter.2
    ⟨List.mem_map.2 ⟨(key, node), (OrderedMap.mem_toList_iff _ _ _).2 found, rfl⟩, splits⟩

/-- There is nothing wrong with the branches of a split. -/
theorem splitProblems_eq_nil {kind : GatewayKind} (found : verified.graph.node? key = some node)
    (splits : node.isSplit kind = true) : verified.graph.splitProblems kind node = [] := by
  have all := verified.sound
  simp only [problems, List.append_eq_nil_iff] at all
  have ofKind : verified.graph.pairingProblems kind = [] := by
    cases kind
    · exact all.1.2
    · exact all.2
  exact List.flatMap_eq_nil_iff.1 (List.append_eq_nil_iff.1 ofKind).1 node
    (mem_splits found splits)

/-- Every split has a partner. -/
theorem exists_pair {kind : GatewayKind} {declared : Option NodeKey}
    (found : verified.graph.node? key = some node)
    (splits : node.kind = .gateway kind .diverging declared) :
    ∃ pair, verified.pair? key = some pair := by
  have same := verified.graph.keyed key node found
  have parts : node.isSplit kind = true := by simp [Node.isSplit, Node.gateway?, splits]
  have sound := splitProblems_eq_nil found parts
  obtain ⟨join, one⟩ : ∃ join, (verified.graph.survey kind key).joins = [join] := by
    rw [splitProblems, same] at sound
    obtain ⟨escaping, joins⟩ := List.append_eq_nil_iff.1 sound
    rw [List.map_eq_nil_iff] at escaping
    split at joins
    · rw [escaping] at joins
      cases joins
    · exact ⟨_, ‹_›⟩
    · cases joins
  have paired : (key, ⟨kind, join, (verified.graph.outgoing key).length⟩) ∈
      verified.graph.pairsOf .parallel ++ verified.graph.pairsOf .inclusive := by
    have ofKind : (key, ⟨kind, join, (verified.graph.outgoing key).length⟩) ∈
        verified.graph.pairsOf kind :=
      List.mem_filterMap.2 ⟨node, mem_splits found parts, by rw [same, one]⟩
    cases kind
    · exact List.mem_append_left _ ofKind
    · exact List.mem_append_right _ ofKind
  rw [pair?, verified.pairs_eq]
  rcases OrderedMap.get?_foldl_insert_cases Prod.fst Prod.snd
    (verified.graph.pairsOf .parallel ++ verified.graph.pairsOf .inclusive) .empty key with
    ⟨entry, -, -, known⟩ | ⟨absent, -⟩
  · exact ⟨entry.2, known⟩
  · exact absurd rfl (absent _ paired)

end VerifiedGraph

end ProcessEngine
