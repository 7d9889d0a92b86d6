import Mathlib.Data.List.Permutation
import ProcessEngine.Proofs.AssembledCode
import ProcessEngine.Proofs.RaceArms

/-!
# Compiled graphs

The program of a verified graph sends control where the graph does: it has one block for each node,
and the block goes along the flows of the node. It depends on the nodes and flows but not on the
order in which they are given. Lowering fails for one kind of verified graph only: those with a race
that waits for more messages with correlations of their own than a fiber has registers, of which
verification does not complain.
-/

namespace ProcessEngine

/-! ## Flows are preserved -/

/-- The layout of a verified graph is that of the traversal from its start. Its program consists
of a block for each node, in the order of the layout and each at the entry of its node, and of
stubs behind them; every block has the code of its node, in which each flow leads to the entry of
its target, or to a stub that counts the turn if and only if the flow closes a loop. -/
theorem VerifiedGraph.lower_preserves_flows (verified : VerifiedGraph) {program : Program}
    (lowered : verified.lower = .ok program) :
    Layout.Traverses verified.graph verified.start verified.layout ∧
      ∃ blocks stubs, (blocks.map Prod.fst).Nodup ∧ program.Carries verified blocks stubs := by
  have cases := verified.lower_cases
  simp only [lowered] at cases
  obtain ⟨⟨blocks, stubs, carries⟩, -⟩ := cases
  exact ⟨verified.traverses, blocks, stubs, carries.order ▸ verified.traverses.nodup, carries⟩

namespace RetryProcess

def start : NodeKey := ⟨"s", Eq.refl true⟩
def check : NodeKey := ⟨"c", Eq.refl true⟩
def work : NodeKey := ⟨"w", Eq.refl true⟩
def done : NodeKey := ⟨"d", Eq.refl true⟩

/-- A task that is done again as long as a flag says so. -/
def nodes : List Node := [⟨start, .start⟩, ⟨check, .exclusiveGateway⟩,
  ⟨work, .serviceTask "work" 0⟩, ⟨done, .finish false⟩]

def flows : List Flow := [
  { source := start, target := check },
  { source := check, target := work, condition := some (.flag "again") },
  { source := check, target := done, isDefault := true },
  { source := work, target := check }]

/-- Verification finds nothing wrong with it. -/
theorem sound :
    ((ProcessGraph.ofParts nodes flows).toOption.map ProcessGraph.problems) = some [] := by
  decide_cbv

end RetryProcess

/-- The process is lowered to a program that carries its flows. -/
theorem lower_preserves_flows_of_retryProcess : ∃ verified program,
    ProcessGraph.ofParts RetryProcess.nodes RetryProcess.flows =
      .ok (VerifiedGraph.graph verified) ∧
    verified.lower = .ok program ∧
    Layout.Traverses verified.graph verified.start verified.layout ∧
    ∃ blocks stubs, (blocks.map Prod.fst).Nodup ∧ program.Carries verified blocks stubs := by
  obtain ⟨verified, program, made, lowered, -⟩ := VerifiedGraph.exists_compiled RetryProcess.sound
    (by simp [RetryProcess.nodes])
  exact ⟨verified, program, made, lowered, verified.lower_preserves_flows lowered⟩

/-! ## The limit of registers -/

namespace VerifiedGraph

/-- A verified graph is lowered if every race takes the correlations of no more arms from flags
than there are registers; otherwise some race with more of them makes lowering fail. -/
theorem lower_of_registers {nodes : List Node} {flows : List Flow} {verified : VerifiedGraph}
    (made : ProcessGraph.ofParts nodes flows = .ok verified.graph) :
    ((∀ race arms, verified.graph.node? race = some ⟨race, .raceWait arms⟩ ->
        arms.countP Lowering.isKeyed ≤ registerCount) ∧
      ∃ program, verified.lower = .ok program ∧ verified.graph.compile = .ok program) ∨
    ∃ race arms, verified.graph.node? race = some ⟨race, .raceWait arms⟩ ∧
      registerCount < arms.countP Lowering.isKeyed ∧
      verified.lower = .error (.tooManyArms race (registerCount + 1) registerCount) ∧
      verified.graph.compile =
        .error (.lowering (.tooManyArms race (registerCount + 1) registerCount)) := by
  rw [compile_eq]
  rcases lower_cases_of_parts made with ⟨program, lowered, few⟩ | ⟨race, arms, found, many, lowered⟩
  · exact .inl ⟨few, program, lowered, by rw [lowered]; rfl⟩
  · exact .inr ⟨race, arms, found, many, lowered, by rw [lowered]; rfl⟩

end VerifiedGraph

namespace CrowdedRace

def start : NodeKey := ⟨"s", Eq.refl true⟩
def race : NodeKey := ⟨"r", Eq.refl true⟩

def ends : List NodeKey := [⟨"1", by decide⟩, ⟨"2", by decide⟩, ⟨"3", by decide⟩, ⟨"4", by decide⟩,
  ⟨"5", by decide⟩, ⟨"6", by decide⟩, ⟨"7", by decide⟩, ⟨"8", by decide⟩, ⟨"9", by decide⟩]

def arms : List RaceArm := ends.map (fun target => ⟨.message "m" (some "f"), target⟩)

/-- A race that waits for nine messages whose correlations are the values of a flag. -/
def nodes : List Node :=
  [⟨start, .start⟩, ⟨race, .raceWait arms⟩] ++ ends.map (fun target => ⟨target, .finish false⟩)

def flows : List Flow := [{ source := start, target := race }]

/-- Verification finds nothing wrong with it. -/
theorem sound :
    ((ProcessGraph.ofParts nodes flows).toOption.map ProcessGraph.problems) = some [] := by
  decide_cbv

end CrowdedRace

/-- The race with nine arms is verified but cannot be compiled. -/
theorem lower_of_crowdedRace :
    ∃ verified : VerifiedGraph,
      ProcessGraph.ofParts CrowdedRace.nodes CrowdedRace.flows = .ok verified.graph ∧
      verified.graph.compile = .error (.lowering (.tooManyArms CrowdedRace.race 9 8)) := by
  obtain ⟨graph, made, sound⟩ := Option.map_eq_some_iff.1 CrowdedRace.sound
  obtain ⟨verified, rfl⟩ := VerifiedGraph.exists_of_problems sound
  have made := toOption_eq_some_iff.1 made
  obtain ⟨-, lists, -⟩ := ProcessGraph.ofParts_eq_ok_iff.1 made
  refine ⟨verified, made, ?_⟩
  rcases VerifiedGraph.lower_of_registers made with ⟨few, -⟩ | ⟨race, arms, found, -, -, fails⟩
  · have listed : (⟨CrowdedRace.race, .raceWait CrowdedRace.arms⟩ : Node) ∈ CrowdedRace.nodes :=
      List.mem_cons_of_mem _ List.mem_cons_self
    exact absurd (few _ _ ((lists _ _).2 ⟨listed, rfl⟩)) (by decide)
  · have among := ((lists _ _).1 found).1
    have same : race = CrowdedRace.race ∧ arms = CrowdedRace.arms := by
      simpa [CrowdedRace.nodes] using among
    exact same.1 ▸ fails

/-! ## The order of nodes and flows -/

namespace ProcessGraph

/-- Parts in another order make a graph too; verification finds the same problems with it in the
same order, and compilation has the same result, so that a program has the same text and the same
hash. A program also stays the same if the arms of races are listed in another order. -/
theorem compilation_canonical {nodes nodes' : List Node} {flows flows' : List Flow}
    (sameNodes : nodes.Perm nodes') (sameFlows : flows.Perm flows') :
    ((∃ graph, ofParts nodes flows = .ok graph) ↔ ∃ graph, ofParts nodes' flows' = .ok graph) ∧
    (∀ graph graph', ofParts nodes flows = .ok graph -> ofParts nodes' flows' = .ok graph' ->
      graph.problems = graph'.problems ∧ graph.compile = graph'.compile ∧
      ∀ program program', graph.compile = .ok program -> graph'.compile = .ok program' ->
        program.toText = program'.toText ∧ program.hash = program'.hash) ∧
    ∀ rearranged graph program, List.Forall₂ Node.Rearranges nodes' rearranged ->
      ofParts nodes flows = .ok graph -> graph.compile = .ok program ->
      ∃ graph', ofParts rearranged flows' = .ok graph' ∧ graph'.compile = .ok program := by
  refine ⟨⟨fun ⟨graph, made⟩ => ⟨graph, ofParts_perm sameNodes sameFlows made⟩,
    fun ⟨graph, made⟩ => ⟨graph, ofParts_perm sameNodes.symm sameFlows.symm made⟩⟩, ?_, ?_⟩
  · intro graph graph' made made'
    cases (ofParts_perm sameNodes sameFlows made).symm.trans made'
    refine ⟨rfl, rfl, fun program program' compiled compiled' => ?_⟩
    cases compiled.symm.trans compiled'
    exact ⟨rfl, rfl⟩
  · intro rearranged graph program arms made compiled
    have made := ofParts_perm sameNodes sameFlows made
    obtain ⟨graph', made'⟩ := exists_ofParts_of_rearranges arms ⟨graph, made⟩
    obtain ⟨verified, rfl, -⟩ := compile_eq_ok_iff.1 compiled
    have same := arranged_eq_of_rearranges arms made made' verified.sound
    exact ⟨graph', made', compile_arranged.1 (same ▸ compile_arranged.2 compiled)⟩

end ProcessGraph

namespace PaymentRace

def start : NodeKey := ⟨"s", Eq.refl true⟩
def race : NodeKey := ⟨"r", Eq.refl true⟩
def paid : NodeKey := ⟨"p", Eq.refl true⟩
def late : NodeKey := ⟨"l", Eq.refl true⟩

/-- A race between a payment and a timer. -/
def nodes : List Node := [⟨start, .start⟩,
  ⟨race, .raceWait [⟨.message "payment" none, paid⟩, ⟨.timer 1000, late⟩]⟩,
  ⟨paid, .finish false⟩, ⟨late, .finish false⟩]

/-- The same with the race first. -/
def nodes' : List Node := [
  ⟨race, .raceWait [⟨.message "payment" none, paid⟩, ⟨.timer 1000, late⟩]⟩,
  ⟨start, .start⟩, ⟨paid, .finish false⟩, ⟨late, .finish false⟩]

/-- The same with the timer as the first arm. -/
def rearranged : List Node := [
  ⟨race, .raceWait [⟨.timer 1000, late⟩, ⟨.message "payment" none, paid⟩]⟩,
  ⟨start, .start⟩, ⟨paid, .finish false⟩, ⟨late, .finish false⟩]

def flows : List Flow := [{ source := start, target := race }]

/-- Verification finds nothing wrong with it. -/
theorem sound :
    ((ProcessGraph.ofParts nodes flows).toOption.map ProcessGraph.problems) = some [] := by
  decide_cbv

end PaymentRace

/-- The race is compiled to the same program in every form. -/
theorem compilation_canonical_of_paymentRace : ∃ program,
    ∀ nodes ∈ [PaymentRace.nodes, PaymentRace.nodes', PaymentRace.rearranged], ∃ graph,
      ProcessGraph.ofParts nodes PaymentRace.flows = .ok graph ∧ graph.compile = .ok program := by
  obtain ⟨verified, program, made, -, compiled⟩ := VerifiedGraph.exists_compiled PaymentRace.sound
    (by simp [PaymentRace.nodes, registerCount])
  have swapped : PaymentRace.nodes.Perm PaymentRace.nodes' := .swap _ _ _
  have arms : List.Forall₂ Node.Rearranges PaymentRace.nodes' PaymentRace.rearranged :=
    .cons (.race _ (.swap _ _ _)) (.cons (.same _) (.cons (.same _) (.cons (.same _) .nil)))
  obtain ⟨same, results, permuted⟩ :=
    ProcessGraph.compilation_canonical swapped (.refl PaymentRace.flows)
  obtain ⟨graph', made'⟩ := same.1 ⟨_, made⟩
  obtain ⟨graph'', made'', compiled''⟩ := permuted _ _ _ arms made compiled
  refine ⟨program, ?_⟩
  simp only [List.forall_mem_cons, List.not_mem_nil, false_implies, implies_true, and_true]
  exact ⟨⟨_, made, compiled⟩, ⟨graph', made', (results _ _ made made').2.1 ▸ compiled⟩,
    ⟨graph'', made'', compiled''⟩⟩

end ProcessEngine
