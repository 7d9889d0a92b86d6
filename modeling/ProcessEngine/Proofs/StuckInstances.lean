import Mathlib
import ProcessEngine.Proofs.Deployments
import ProcessEngine.Proofs.FaultFreedom
import ProcessEngine.Proofs.Stranding

/-!
# Where compiled processes get stuck

A running instance of a compiled process has fibers, unless it is stuck for good at a join: some
branches of the split that the join is the partner of have ended elsewhere
(`Engine.History.vacant_iff_stuck`). That does happen, because verification does not complain of a
branch that leads to a join of the other kind.
-/

namespace ProcessEngine

/-- Programs of verified graphs expect fibers only at the partners of splits. -/
theorem Program.Carries.pair_of_splits {program : Program} {verified : VerifiedGraph}
    {blocks : List (NodeKey × List (Instruction Address))}
    {stubs : List (List (Instruction Address))} (carries : program.Carries verified blocks stubs)
    {join : NodeKey} (splits : program.SplitsTo join) :
    ∃ split pair, verified.pair? split = some pair ∧ pair.join = join := by
  obtain ⟨instruction, listed, index, splitsTo, named⟩ := splits
  have knows (key : NodeKey) : (program.references verified.layout).KnowsTargets (fun _ => True)
      (fun index => ∃ split pair, verified.pair? split = some pair ∧
        program.symbols.node? index = some pair.join) verified key :=
    ⟨fun _ _ _ _ => trivial, fun _ _ _ _ => trivial,
      fun pair paired index named => ⟨key, pair, paired, named⟩⟩
  rw [carries.instructions] at listed
  rcases List.mem_append.1 listed with inBlock | inStub
  · obtain ⟨block, among, within⟩ := List.mem_flatMap.1 inBlock
    obtain ⟨node, -, shaped⟩ := carries.shaped block among
    obtain ⟨split, pair, paired, same⟩ :=
      (shaped.refers (knows block.1) instruction within).2.2 index splitsTo
    exact ⟨split, pair, paired, Option.some.inj (same.symm.trans named)⟩
  · obtain ⟨stub, among, within⟩ := List.mem_flatten.1 inStub
    obtain ⟨target, counter, entry, -, -, -, rfl⟩ := carries.counted stub among
    rcases List.mem_cons.1 within with rfl | last
    · cases splitsTo
    · cases List.mem_singleton.1 last
      cases splitsTo

theorem ProcessGraph.pair_of_splits {graph : ProcessGraph} {program : Program}
    (compiled : graph.compile = .ok program) {join : NodeKey} (splits : program.SplitsTo join) :
    ∃ split pair, graph.pairs.get? split = some pair ∧ pair.join = join := by
  obtain ⟨verified, rfl, blocks, stubs, carries⟩ := VerifiedGraph.carries_of_compile compiled
  rw [← verified.pairs_eq]
  exact carries.pair_of_splits splits

namespace Engine

variable {first last : Engine MemoryStore} {entries : List HistoryEntry} {program : Program}

/-- Whatever else the engine is asked, the instance runs without fibers until it is cancelled, and
others are expected at the join. -/
def StuckAt (engine : Engine MemoryStore) (id : InstanceId) (join : NodeKey) : Prop :=
  ∀ entries later, History engine entries later ->
    (∀ entry ∈ entries, ∀ reason, entry.1 ≠ .cancel id reason) ->
    ∃ state, later.store.states.get? id = some state ∧ state.Stranded ∧ state.Lacks join

/-- A running instance of a compiled process has fibers, unless it is stuck at the partner of a
split. -/
theorem History.vacant_iff_stuck (history : History first entries last) (fresh : first.Fresh)
    {graph : ProcessGraph} (compiled : graph.compile = .ok program)
    (identified : Identified entries program) {id : InstanceId} {state : InstanceState}
    (stored : last.store.states.get? id = some state) (own : state.record.program = program.hash)
    (running : state.record.isRunning = true) :
    (∀ fiberId, state.fiber? fiberId = none) ↔
      ∃ split pair, graph.pairs.get? split = some pair ∧ last.StuckAt id pair.join := by
  constructor
  · intro vacant
    have stranded : state.Stranded := ⟨running, vacant⟩
    obtain ⟨join, expected, barrier, expects, some⟩ :=
      history.lively fresh id state stored stranded
    have lacks : state.Lacks join := ⟨expected, barrier, expects, some⟩
    obtain ⟨-, secure⟩ := history.secure fresh (ProcessGraph.checked_of_compile compiled) identified
    obtain ⟨split, pair, paired, rfl⟩ :=
      ProcessGraph.pair_of_splits compiled (secure.counted stored own _ _ expects).1
    refine ⟨split, pair, paired, fun entries later rest spared => ?_⟩
    obtain ⟨latest, stored', rests⟩ :=
      rest.stranded (history.orderly fresh).sound stored stranded spared
    exact ⟨latest, stored', rests.stranded_iff.2 stranded, (rests.lacks_iff _).2 lacks⟩
  · rintro ⟨split, pair, -, stuck⟩
    obtain ⟨other, stored', stranded, -⟩ := stuck [] last .refl (by simp)
    cases stored.symm.trans stored'
    exact stranded.vacant

end Engine

namespace StrayBranch

def start : NodeKey := ⟨"s", Eq.refl true⟩
def split : NodeKey := ⟨"p", Eq.refl true⟩
def join : NodeKey := ⟨"j", Eq.refl true⟩
def choice : NodeKey := ⟨"i", Eq.refl true⟩
def merge : NodeKey := ⟨"a", Eq.refl true⟩
def done : NodeKey := ⟨"e", Eq.refl true⟩

/-- A process with a parallel split one of whose branches leads to an inclusive join. -/
def nodes : List Node := [⟨start, .start⟩, ⟨split, .gateway .parallel .diverging none⟩,
  ⟨join, .gateway .parallel .converging none⟩, ⟨choice, .gateway .inclusive .diverging none⟩,
  ⟨merge, .gateway .inclusive .converging none⟩, ⟨done, .finish false⟩]

def flows : List Flow := [
  { source := start, target := split },
  { source := split, target := merge },
  { source := split, target := join },
  { source := join, target := choice },
  { source := choice, target := merge },
  { source := choice, target := merge },
  { source := merge, target := done }]

theorem made : (ProcessGraph.ofParts nodes flows).toOption.isSome := by decide +kernel

def graph : ProcessGraph := (ProcessGraph.ofParts nodes flows).toOption.get made

/-- There is nothing wrong with it. -/
theorem sound : graph.problems = [] := by decide_cbv

/-- Verification accepts it. -/
def verified : VerifiedGraph where
  graph := graph
  start := start
  pairs := graph.pairs
  sound := sound
  startNodes_eq := by decide +kernel
  pairs_eq := rfl

def instructions : List (Instruction Address) := [.jump 1, .fork 0 [2, 5], .join 1, .jump 4,
  .finish, .join 0, .jump 7, .push (.bool true), .push (.bool true), .forkInclusive 1 [2, 2] none 2]

def symbols : SymbolTable := { nodes := [join, merge, choice] }

theorem code : ((Lowering.code verified).run {}).toOption.map (fun ((blocks, stubs), gathered) =>
    ((Assembly.allCode blocks stubs).map (Instruction.mapTargets (Assembly.resolve blocks stubs)),
      gathered.symbols)) = some (instructions, symbols) := by
  decide_cbv

def engine : Engine MemoryStore where
  store := {}
  now := default
  supply := ⟨0⟩

/-- One branch ends at the inclusive join, where nobody expects it, and the other one waits at the
parallel join for both. -/
theorem turns (entries : OrderedMap NodeKey Address) (hash : ProgramHash) {work : UnitOfWork}
    (took : work = (UnitOfWork.takeTurns ⟨instructions, { symbols with entries }, hash⟩ 10000 0
      (UnitOfWork.create (.create ⟨0⟩ hash .null "" default) default ⟨1⟩).start.2).2) :
    (work.record.isRunning && work.state.fibers.isEmpty) = true := by
  rw [took]
  cbv

/-- It is compiled. -/
theorem compiles : ∃ entries hash,
    graph.compile = .ok ⟨instructions, { symbols with entries }, hash⟩ :=
  @VerifiedGraph.compiles_of_code verified _ _ (Option.some_get made).symm (by simp [nodes])
    _ _ code

open Engine UnitOfWork in
/-- Its instances run without fibers from the beginning. -/
theorem stranded : ∃ program state, graph.compile = .ok program ∧
    (engine.performAll [.deploy graph, .start program.hash .null ""]).store.states.get? ⟨0⟩ =
      some state ∧ state.record.program = program.hash ∧ state.Stranded := by
  obtain ⟨entries, hash, compiled⟩ := compiles
  obtain ⟨work, took, own, stored⟩ := @states_deploy_start engine _ _ compiled rfl rfl .null ""
  rw [show max 1 engine.config.maximumSteps = 10000 from rfl] at took
  have idle := turns entries hash took
  rw [Bool.and_eq_true, OrderedMap.isEmpty_iff] at idle
  exact ⟨_, _, compiled, stored, own, idle.1, idle.2⟩

end StrayBranch

open Engine in
/-- An instance of the process is stuck from the beginning. -/
theorem stuck_of_strayBranch : ∃ program, StrayBranch.graph.compile = .ok program ∧
    ∃ split pair, StrayBranch.graph.pairs.get? split = some pair ∧
      (StrayBranch.engine.performAll
        [.deploy StrayBranch.graph, .start program.hash .null ""]).StuckAt ⟨0⟩ pair.join := by
  obtain ⟨program, state, compiled, stored, own, stranded⟩ := StrayBranch.stranded
  refine ⟨program, compiled, (History.vacant_iff_stuck (.of_operations _ _) ⟨rfl, rfl⟩ compiled
    (fun entry listed other brings _ => ?_) stored own stranded.running).1 stranded.vacant⟩
  simp only [entriesOf, List.mem_cons, List.not_mem_nil, or_false] at listed
  rcases listed with rfl | rfl
  · exact Except.ok.inj (Eq.trans (Eq.symm brings) compiled)
  · cases brings

end ProcessEngine
