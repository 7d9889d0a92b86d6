import ProcessEngine.Proofs.Blocks
import ProcessEngine.Proofs.CodeReferences
import ProcessEngine.Proofs.Traversal

/-!
# Code of graphs

The code of a verified graph has a block for each node, in the order of the traversal, and a stub
for each flow that was found to close a loop; all its labels are those of such blocks and stubs
(`Lowering.Coded`). A graph has such code unless a race is refused (`Lowering.code_cases`).
-/

namespace ProcessEngine

namespace VerifiedGraph

variable (verified : VerifiedGraph)

/-- The layout of a verified graph. -/
def layout : Layout := Layout.ofGraph verified.graph verified.start

/-- The start is a node where a process starts. -/
theorem isStart_start : ∃ node, verified.graph.node? verified.start = some node ∧
    node.isStart = true := by
  have listed : verified.start ∈ verified.graph.startNodes :=
    verified.startNodes_eq ▸ List.mem_singleton_self _
  obtain ⟨node, isStart, same⟩ := List.mem_map.1 listed
  obtain ⟨among, starts⟩ := List.mem_filter.1 isStart
  obtain ⟨entry, present, rfl⟩ := List.mem_map.1 among
  have found := (OrderedMap.mem_toList_iff verified.graph.table entry.1 entry.2).1 present
  refine ⟨entry.2, ?_, starts⟩
  rw [← same, verified.graph.keyed _ _ found]
  exact found

theorem contains_start : verified.graph.contains verified.start = true := by
  obtain ⟨node, found, -⟩ := verified.isStart_start
  exact contains_of_node found

/-- The layout is that of the traversal from the start. -/
theorem traverses : Layout.Traverses verified.graph verified.start verified.layout :=
  Layout.ofGraph_traverses verified.contains_start

/-- Every node has its place in the layout. -/
theorem mem_order_iff {key : NodeKey} :
    key ∈ verified.layout.order ↔ verified.graph.contains key = true := by
  constructor
  · exact verified.traverses.inside verified.contains_start key
  · intro present
    have sound := verified.sound
    simp only [ProcessGraph.problems, ProcessGraph.reachabilityProblems, List.append_eq_nil_iff,
      List.map_eq_nil_iff, ProcessGraph.unreachableNodes, verified.startNodes_eq,
      List.filter_eq_nil_iff] at sound
    obtain ⟨node, found⟩ := Option.isSome_iff_exists.1
      ((OrderedMap.contains_eq_isSome verified.graph.table key).symm.trans present)
    have reached := sound.1.1.2.1 key
      (List.mem_map.2 ⟨(key, node), (OrderedMap.mem_toList_iff _ _ _).2 found, rfl⟩)
    rw [Bool.not_eq_true, Bool.not_eq_false', List.contains_iff_mem, ProcessGraph.reachableFrom,
      Domain.mem_reachable_iff] at reached
    obtain ⟨_, same, reaches⟩ := reached
    cases List.mem_singleton.1 same
    exact verified.traverses.mem_of_reaches reaches

end VerifiedGraph

namespace Lowering

/-- The stub that counts a turn under the name of a node and goes back to it. -/
def IsStub (gathered : Gathered) (target : NodeKey) (code : LabelledCode) : Prop :=
  ∃ counter, gathered.symbols.name? ⟨.counter, counter⟩ = some target.text ∧
    code = [.incrementCounter counter, .jump (.node target)]

/-- The block of a node: its code, which is none for a race with too many messages. -/
def IsBlock (verified : VerifiedGraph) (gathered : Gathered) (key : NodeKey) (block : Block) :
    Prop :=
  block.node = key ∧ ∃ node, verified.graph.node? key = some node ∧
    (∀ arms, node.kind = .raceWait arms -> arms.countP isKeyed ≤ registerCount) ∧
    (labelReferences verified.layout gathered).NodeCode verified key node.kind block.code

/-- The blocks and stubs of a graph, with what was gathered for them. -/
structure Coded (verified : VerifiedGraph) (blocks : List Block) (stubs : List LabelledCode)
    (gathered : Gathered) : Prop where
  /-- Each node has its block, and the blocks follow the layout. -/
  blocks : List.Forall₂ (IsBlock verified gathered) verified.layout.order blocks
  /-- Each flow that was found to close a loop has its stub. -/
  stubs : List.Forall₂ (IsStub gathered) gathered.stubs stubs
  /-- A stub goes back to a node. -/
  targets : ∀ target ∈ gathered.stubs, verified.graph.contains target = true

variable {graph : ProcessGraph} {verified : VerifiedGraph}

theorem stubCode_meets {Amiss : LoweringError -> Prop} (target : NodeKey) :
    (stubCode target).Meets graph Amiss (fun final code => IsStub final target code) :=
  .bind (counterSymbol_meets target.text)
    (fun counter => .pure (fun _ named => ⟨counter, named, rfl⟩))

/-- Stubs are made without noting further stubs. -/
theorem stubs_mapM_stubCode {targets : List NodeKey} {gathered later : Gathered}
    {codes : List LabelledCode}
    (done : (targets.mapM stubCode) gathered = .ok (codes, later)) :
    later.stubs = gathered.stubs := by
  induction targets generalizing gathered codes later with
  | nil =>
    rw [List.mapM_nil] at done
    cases done
    rfl
  | cons target rest ih =>
    rw [List.mapM_cons] at done
    obtain ⟨_, middle, first, done⟩ := Lowered.bind_ok done
    obtain ⟨_, last, others, done⟩ := Lowered.bind_ok done
    cases done
    cases first
    exact (ih others).trans rfl

theorem block_meets {key : NodeKey} (present : verified.graph.contains key = true) :
    (block verified verified.layout key).Meets verified.graph (Refused verified)
      (fun final block => IsBlock verified final key block) := by
  obtain ⟨node, found⟩ := Option.isSome_iff_exists.1
    ((OrderedMap.contains_eq_isSome verified.graph.table key).symm.trans present)
  have found : verified.graph.node? key = some node := found
  rw [block, found]
  exact .bind (nodeCode_meets found)
    (fun code => .pure (fun _ shaped => ⟨rfl, node, found, shaped⟩))

/-- A verified graph has code unless it is refused. -/
theorem code_cases (verified : VerifiedGraph) :
    match (code verified).run {} with
    | .error error => Refused verified error
    | .ok ((blocks, stubs), gathered) => Coded verified blocks stubs gathered := by
  have all_blocks : (verified.layout.order.mapM (block verified verified.layout)).Meets
      verified.graph (Refused verified) (fun final blocks => List.Forall₂
        (fun key block => IsBlock verified final key block) verified.layout.order blocks) :=
    .mapM (fun key listed => block_meets (verified.mem_order_iff.1 listed))
  have blocks_meet := all_blocks {}
  have same : (code verified).run {} =
      Except.bind ((verified.layout.order.mapM (block verified verified.layout)) {})
        (fun (blocks, gathered) => Except.bind ((gathered.stubs.mapM stubCode) gathered)
          (fun (stubs, later) => .ok ((blocks, stubs), later))) := rfl
  rw [same]
  cases done : (verified.layout.order.mapM (block verified verified.layout)) {} with
  | error error =>
    simp only [done] at blocks_meet
    exact blocks_meet
  | ok result =>
    obtain ⟨blocks, gathered⟩ := result
    simp only [done] at blocks_meet
    have all_stubs : (gathered.stubs.mapM stubCode).Meets verified.graph (fun _ => False)
        (fun final stubs => List.Forall₂ (fun target code => IsStub final target code)
          gathered.stubs stubs) := .mapM (fun target _ => stubCode_meets target)
    have stubs_meet := all_stubs gathered
    simp only [Except.bind]
    cases done' : (gathered.stubs.mapM stubCode) gathered with
    | error error =>
      simp only [done'] at stubs_meet
    | ok result =>
      obtain ⟨stubs, later⟩ := result
      simp only [done'] at stubs_meet
      have kept := stubs_mapM_stubCode done'
      refine ⟨blocks_meet.2 later stubs_meet.1, ?_, fun target listed => ?_⟩
      · rw [kept]
        exact stubs_meet.2 later (.refl later)
      · rw [kept] at listed
        rcases blocks_meet.1.targets target listed with former | inside
        · cases former
        · exact inside

end Lowering

end ProcessEngine
