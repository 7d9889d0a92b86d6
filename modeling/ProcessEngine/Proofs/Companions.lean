import Mathlib
import ProcessEngine.Proofs.Deployments
import ProcessEngine.Proofs.Shelters

/-!
# Hosts and watchdogs belong together

In what is stored of a compiled process, every watchdog waits for its timer on behalf of one host
that knows it, every host has just that watchdog, and the host is in the block that the watchdog
guards (`Engine.Fresh.watchdogs_paired`). So no watchdog fires without its host, and watchdogs alone
keep no instance from being completed.
-/

namespace ProcessEngine

/-- Hosts and watchdogs belong together. -/
structure WellPaired (program : Program) (fibers : FiberId -> Option Fiber) : Prop where
  mutually : ∀ {watchdog host},
    (∃ guard watch, fibers watchdog = some guard ∧ guard.watch = some watch ∧ watch.host = host) ↔
      ∃ fiber, fibers host = some fiber ∧ fiber.watchdog = some watchdog
  /-- A host has one watchdog. -/
  sole : ∀ {watchdog other guard guard' watch watch'},
    fibers watchdog = some guard -> guard.watch = some watch ->
    fibers other = some guard' -> guard'.watch = some watch' ->
    watch.host = watch'.host -> watchdog = other
  timed : ∀ {watchdog guard watch}, fibers watchdog = some guard -> guard.watch = some watch ->
    ∃ due, guard.wait = .timer due
  /-- A host is behind the instruction that has set its watchdog, and not behind the one that takes
  it away. -/
  within : ∀ {watchdog guard watch fiber}, fibers watchdog = some guard ->
    guard.watch = some watch -> fibers watch.host = some fiber -> program.Guards watch fiber.pc
  /-- A host is no watchdog. -/
  apart : ∀ {host fiber}, fibers host = some fiber -> fiber.watchdog ≠ none -> fiber.watch = none

section

variable {program : Program} {incidents : OrderedMap IncidentId Incident}
  {fibers : FiberId -> Option Fiber} {owner : InstanceId} {sequence supply : Nat}

/-- Fibers that are well guarded are well paired. -/
theorem WellGuarded.paired (guarded : WellGuarded program incidents fibers)
    (wf : WellFormed fibers owner sequence supply) : WellPaired program fibers := by
  have hosted : ∀ {watchdog guard watch}, fibers watchdog = some guard ->
      guard.watch = some watch -> ∃ fiber, fibers watch.host = some fiber ∧
        fiber.watchdog = some watchdog ∧ program.Guards watch fiber.pc :=
    fun found watches => guarded.attended found watches
  constructor
  case mutually =>
    intro watchdog host
    constructor
    · rintro ⟨guard, watch, found, watches, rfl⟩
      obtain ⟨fiber, present, knows, -⟩ := hosted found watches
      exact ⟨fiber, present, knows⟩
    · rintro ⟨fiber, present, knows⟩
      obtain ⟨guard, found⟩ := guarded.accompanied present knows
      obtain ⟨watch, watches, hosts⟩ := wf.watched present knows found
      exact ⟨guard, watch, found, watches, hosts⟩
  case sole =>
    intro watchdog other guard guard' watch watch' found watches found' watches' same
    obtain ⟨fiber, present, knows, -⟩ := hosted found watches
    obtain ⟨fiber', present', knows', -⟩ := hosted found' watches'
    rw [same] at present
    cases present.symm.trans present'
    exact Option.some.inj (knows.symm.trans knows')
  case timed =>
    intro watchdog guard watch found watches
    exact (wf.watching found watches).2
  case within =>
    intro watchdog guard watch fiber found watches present
    obtain ⟨fiber', present', -, within⟩ := hosted found watches
    cases present.symm.trans present'
    exact within
  case apart =>
    intro host fiber present knows
    exact guarded.free wf present knows

/-- Fibers that are well paired are not all watchdogs, unless there are none. -/
theorem WellPaired.idle (paired : WellPaired program fibers)
    (all : ∀ id fiber, fibers id = some fiber -> fiber.watch ≠ none) (id : FiberId) :
    fibers id = none := by
  by_contra present
  obtain ⟨fiber, found⟩ := Option.ne_none_iff_exists'.1 present
  obtain ⟨watch, watches⟩ := Option.ne_none_iff_exists'.1 (all id fiber found)
  obtain ⟨host, present, knows⟩ := paired.mutually.1 ⟨fiber, watch, found, watches, rfl⟩
  exact all _ host present (paired.apart present (by simp [knows]))

end

namespace Engine

open UnitOfWork

variable {first last : Engine MemoryStore} {program : Program}

/-- In a stored instance of a compiled process, hosts and watchdogs are well paired. A watchdog fires
only for a host that knows it, and if there are fibers they are not all watchdogs. -/
theorem Fresh.watchdogs_paired (fresh : first.Fresh) {graph : ProcessGraph}
    (compiled : graph.compile = .ok program)
    (advances : Advances (.identifying program) first last) {id : InstanceId}
    {state : InstanceState} (stored : last.store.states.get? id = some state)
    (own : state.record.program = program.hash) :
    WellPaired program state.fiber? ∧
    (∀ now supply signal watch,
      (UnitOfWork.begin state now supply).resumption signal = .ok (.fire watch) ->
        ∃ host, state.fiber? watch.host = some host ∧ host.watchdog = some signal.fiber ∧
          program.Guards watch host.pc) ∧
    ((∀ id fiber, state.fiber? id = some fiber -> fiber.watch ≠ none) ->
      ∀ id, state.fiber? id = none) := by
  have checked := ProcessGraph.checked_of_compile compiled
  have shielded := ProcessGraph.shielded_of_compile compiled
  have sheltered := advances.sheltered checked shielded (fresh.sheltered program)
  have guarded := sheltered.guarded _ _ stored own
  have paired := guarded.paired (sheltered.orderly.sound _ _ stored).shaped
  refine ⟨paired, fun now supply signal watch fires => ?_, paired.idle⟩
  obtain ⟨-, guard, found, -, answered⟩ := resumption_ok fires
  cases answered with
  | fire waits watches => exact guarded.attended found watches

end Engine

namespace LateApproval

def start : NodeKey := ⟨"s", Eq.refl true⟩
def approval : NodeKey := ⟨"a", Eq.refl true⟩
def late : NodeKey := ⟨"l", Eq.refl true⟩
def done : NodeKey := ⟨"e", Eq.refl true⟩

/-- A process with an approval that must not come late. -/
def nodes : List Node := [⟨start, .start⟩, ⟨approval, .humanWait "approve"⟩,
  ⟨late, .boundaryTimer approval 1000 true⟩, ⟨done, .finish false⟩]

def flows : List Flow := [
  { source := start, target := approval },
  { source := approval, target := done },
  { source := late, target := done }]

theorem made : (ProcessGraph.ofParts nodes flows).toOption.isSome := by decide +kernel

def graph : ProcessGraph := (ProcessGraph.ofParts nodes flows).toOption.get made

/-- There is nothing wrong with it. -/
theorem sound : graph.problems = [] := by decide_cbv

/-- Verification accepts it. -/
def verified : VerifiedGraph where
  graph := graph
  start := start
  pairs := graph.pairs
  sound := sound
  startNodes_eq := by decide +kernel
  pairs_eq := rfl

def instructions : List (Instruction Address) := [.jump 1, .watch 0 1000 true 5, .waitHuman 0,
  .unwatch 0, .jump 6, .jump 6, .finish]

def symbols : SymbolTable := { nodes := [late], humanTasks := ["approve"] }

theorem code : ((Lowering.code verified).run {}).toOption.map (fun ((blocks, stubs), gathered) =>
    ((Assembly.allCode blocks stubs).map (Instruction.mapTargets (Assembly.resolve blocks stubs)),
      gathered.symbols)) = some (instructions, symbols) := by
  decide_cbv

def engine : Engine MemoryStore where
  store := {}
  now := default
  supply := ⟨0⟩

/-- A watchdog is there while the approval is waited for. -/
theorem turns (entries : OrderedMap NodeKey Address) (hash : ProgramHash) {work : UnitOfWork}
    (took : work = (UnitOfWork.takeTurns ⟨instructions, { symbols with entries }, hash⟩ 10000 0
      (UnitOfWork.create (.create ⟨0⟩ hash .null "" default) default ⟨1⟩).start.2).2) :
    (work.state.fibers.get? ⟨1⟩).any (fun fiber => fiber.watchdog = some ⟨2⟩) = true := by
  rw [took]
  cbv

/-- It is compiled. -/
theorem compiles : ∃ entries hash,
    graph.compile = .ok ⟨instructions, { symbols with entries }, hash⟩ :=
  @VerifiedGraph.compiles_of_code verified _ _ (Option.some_get made).symm (by simp [nodes])
    _ _ code

open Engine UnitOfWork in
/-- When it is started, an approval is waited for that a watchdog watches over. -/
theorem watched : ∃ program state host, graph.compile = .ok program ∧
    Advances (.identifying program) engine
      (engine.performAll [.deploy graph, .start program.hash .null ""]) ∧
    (engine.performAll [.deploy graph, .start program.hash .null ""]).store.states.get? ⟨0⟩ =
      some state ∧ state.record.program = program.hash ∧
    state.fiber? ⟨1⟩ = some host ∧ host.watchdog = some ⟨2⟩ := by
  obtain ⟨entries, hash, compiled⟩ := compiles
  obtain ⟨work, took, own, stored⟩ := @states_deploy_start engine _ _ compiled rfl rfl .null ""
  rw [show max 1 engine.config.maximumSteps = 10000 from rfl] at took
  obtain ⟨host, found, knows⟩ := (Option.any_eq_true _ _).1 (turns entries hash took)
  refine ⟨_, _, host, compiled, advances_identifying ?_, stored, own, found,
    of_decide_eq_true knows⟩
  intro entry listed other brings
  simp only [entriesOf, List.mem_cons, List.not_mem_nil, or_false] at listed
  rcases listed with rfl | rfl
  · exact fun _ => Except.ok.inj (Eq.trans (Eq.symm brings) compiled)
  · cases brings

end LateApproval

open Engine in
/-- The approval that must not come late and its watchdog are well paired. -/
theorem paired_of_lateApproval : ∃ program state host,
    LateApproval.graph.compile = .ok program ∧
    (LateApproval.engine.performAll
      [.deploy LateApproval.graph, .start program.hash .null ""]).store.states.get? ⟨0⟩ =
        some state ∧
    state.fiber? ⟨1⟩ = some host ∧ host.watchdog = some ⟨2⟩ ∧ WellPaired program state.fiber? := by
  obtain ⟨program, state, host, compiled, advances, stored, own, found, knows⟩ :=
    LateApproval.watched
  exact ⟨program, state, host, compiled, stored, found, knows,
    (Fresh.watchdogs_paired ⟨rfl, rfl⟩ compiled advances stored own).1⟩

end ProcessEngine
