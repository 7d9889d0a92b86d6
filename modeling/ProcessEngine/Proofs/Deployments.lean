import ProcessEngine.Proofs.AssembledCode
import ProcessEngine.Proofs.Supplies

/-!
# Deployed processes can be started

A graph that is compiled can be deployed (`Engine.outcome_deploy`), and an engine that can load a
program starts an instance of it, which is stored as its first turns leave it
(`Engine.states_start`).
-/

namespace ProcessEngine

/-- A program that parts make is stored under the hash of its parts. -/
theorem Program.checkHash_of_ofParts {instructions : List (Instruction Address)}
    {symbols : SymbolTable} {program : Program}
    (made : ofParts instructions symbols = .ok program) : program.checkHash = .ok () := by
  obtain ⟨rfl, rfl, named, -⟩ := ofParts_eq_ok_iff.1 made
  have computed : computeHash program.instructions program.symbols = .ok program.hash := by
    rw [computeHash, ProgramHash.ofText, ← named, dif_pos program.hash.valid]
  rw [checkHash, computed]
  exact if_pos rfl

/-- What lowering a verified graph makes its program of. -/
theorem VerifiedGraph.parts_of_lower {verified : VerifiedGraph} {program : Program}
    (lowered : verified.lower = .ok program) :
    ∃ blocks stubs gathered, (Lowering.code verified).run {} = .ok ((blocks, stubs), gathered) ∧
      Program.ofParts
        ((Assembly.allCode blocks stubs).map
          (Instruction.mapTargets (Assembly.resolve blocks stubs)))
        { gathered.symbols with entries := Assembly.entriesOf blocks } = .ok program := by
  rw [lower] at lowered
  cases done : (Lowering.code verified).run {} with
  | error error =>
    rw [done] at lowered
    cases lowered
  | ok result =>
    obtain ⟨⟨blocks, stubs⟩, gathered⟩ := result
    rw [done] at lowered
    simp only [bind, Except.bind, Assembly.assemble] at lowered
    split at lowered
    · cases lowered
    · exact ⟨blocks, stubs, gathered, rfl, mapError_eq_ok.1 lowered⟩

/-- What the code of a verified graph is compiled to. Where the nodes begin and what the hash is need
not be known. -/
theorem VerifiedGraph.compiles_of_code {verified : VerifiedGraph} {nodes : List Node}
    {flows : List Flow} (made : (ProcessGraph.ofParts nodes flows).toOption = some verified.graph)
    (few : ∀ node ∈ nodes, ∀ arms, node.kind = .raceWait arms -> arms.length ≤ registerCount)
    {instructions : List (Instruction Address)} {symbols : SymbolTable}
    (code : ((Lowering.code verified).run {}).toOption.map (fun ((blocks, stubs), gathered) =>
      ((Assembly.allCode blocks stubs).map
        (Instruction.mapTargets (Assembly.resolve blocks stubs)), gathered.symbols)) =
          some (instructions, symbols)) :
    ∃ entries hash,
      verified.graph.compile = .ok ⟨instructions, { symbols with entries }, hash⟩ := by
  have sound : (ProcessGraph.ofParts nodes flows).toOption.map ProcessGraph.problems = some [] := by
    rw [made]
    exact congrArg some verified.sound
  obtain ⟨verified', program, made', lowered, compiled⟩ := exists_compiled sound few
  obtain rfl : verified' = verified :=
    ext_graph (Except.ok.inj (made'.symm.trans (toOption_eq_some_iff.1 made)))
  obtain ⟨blocks, stubs, gathered, done, parts⟩ := parts_of_lower lowered
  rw [done] at code
  simp only [Except.toOption, Option.map_some, Option.some.injEq, Prod.mk.injEq] at code
  obtain ⟨same, named⟩ := code
  rw [same, named] at parts
  obtain ⟨found, symbols, -, -⟩ := Program.ofParts_eq_ok_iff.1 parts
  obtain ⟨_, _, hash⟩ := program
  cases found
  cases symbols
  exact ⟨_, hash, compiled⟩

theorem ProcessGraph.checkHash_of_compile {graph : ProcessGraph} {program : Program}
    (compiled : graph.compile = .ok program) : program.checkHash = .ok () := by
  obtain ⟨verified, -, lowered⟩ := ProcessGraph.compile_eq_ok_iff.1 compiled
  obtain ⟨blocks, stubs, gathered, -, parts⟩ := VerifiedGraph.parts_of_lower lowered
  exact Program.checkHash_of_ofParts parts

namespace Engine

open UnitOfWork

variable {engine : Engine MemoryStore} {program : Program}

/-- A program of a new hash is put into the cache and into the store. -/
theorem outcome_deploy {graph : ProcessGraph} (compiled : graph.compile = .ok program)
    (new : engine.programs.get? program.hash = none) :
    outcome (deploy graph) engine = (.ok program.hash, { engine with
      programs := engine.programs.insert program.hash program
      store := { engine.store with
        programs := engine.store.programs.insertNew program.hash program } }) := by
  have valid := ProcessGraph.checkHash_of_compile compiled
  have accepted : outcome (check (graph.compile.mapError EngineError.compile)) engine =
      (.ok program, engine) := by
    rw [compiled]
    exact outcome_liftExcept _ _
  rw [deploy, outcome_bind_ok accepted, outcome_install valid new]
  rfl

/-- What the first turns of a new instance leave is stored. -/
theorem store_start {programs : ProgramCache}
    (loaded : engine.load program.hash = .ok (program, programs))
    (absent : engine.store.states.get? ⟨engine.supply.next⟩ = none) (payload : Json)
    (correlation : String) :
    (outcome (start program.hash payload correlation) engine).2.store =
      engine.store.apply (takeTurns program (max 1 engine.config.maximumSteps) 0
        (UnitOfWork.create (.create ⟨engine.supply.next⟩ program.hash payload correlation
          engine.now) engine.now ⟨engine.supply.next + 1⟩).start.2).2.finish.1 := by
  let work : UnitOfWork := .create (.create ⟨engine.supply.next⟩ program.hash payload correlation
    engine.now) engine.now ⟨engine.supply.next + 1⟩
  let turns := takeTurns program (max 1 engine.config.maximumSteps) 0 work.start.2
  have ran : Ran program work.start.2 turns.2 := ran_takeTurns (shapely_start _) _ _
  have sliced : begin.slice program engine.config.maximumSteps work = .ok ((), turns) := by
    have same : work.start.2.record.program = program.hash := rfl
    rw [Change.slice]
    simp only [begin, bind, Except.bind, UnitOfWork.run, if_pos same]
    rfl
  have owner : turns.2.record.id = ⟨engine.supply.next⟩ := ran.confined.id
  have current : engine.store.version? turns.2.record.id = turns.2.base := by
    rw [owner, MemoryStore.version?, absent]
    exact ran.confined.base.symm
  rw [start, outcome_bind, outcome_programOf, loaded]
  dsimp only
  rw [outcome_bind_ok (outcome_drawInstance _), outcome_bind_ok (outcome_getThe _), outcome_bind,
    check, outcome_liftExcept]
  dsimp only
  rw [show begin.slice program engine.config.maximumSteps (.create (.create ⟨engine.supply.next⟩
    program.hash payload correlation engine.now) engine.now ⟨engine.supply.next + 1⟩) =
      .ok ((), turns) from sliced]
  dsimp only
  rw [outcome_bind_ok (outcome_set _ _), outcome_bind]
  obtain ⟨queue, stores⟩ := outcome_commit_of_current turns.2 turns.1 { engine with
    programs := programs
    supply := turns.2.supply
    locks := engine.locks.insert ⟨engine.supply.next⟩ } current
  rw [stores]
  rfl

/-- So is its state. -/
theorem states_start {programs : ProgramCache}
    (loaded : engine.load program.hash = .ok (program, programs))
    (absent : engine.store.states.get? ⟨engine.supply.next⟩ = none) (payload : Json)
    (correlation : String) :
    (outcome (start program.hash payload correlation) engine).2.store.states.get?
        ⟨engine.supply.next⟩ =
      some (takeTurns program (max 1 engine.config.maximumSteps) 0 (UnitOfWork.create
        (.create ⟨engine.supply.next⟩ program.hash payload correlation engine.now) engine.now
          ⟨engine.supply.next + 1⟩).start.2).2.finish.2 := by
  have ran := @ran_takeTurns program (UnitOfWork.create (.create ⟨engine.supply.next⟩ program.hash
    payload correlation engine.now) engine.now ⟨engine.supply.next + 1⟩).start.2 (shapely_start _)
      (max 1 engine.config.maximumSteps) 0
  rw [store_start loaded absent]
  have states := (storable_create absent ran).states_apply ⟨engine.supply.next⟩
  rw [ran.confined.id] at states
  exact states.trans (if_pos rfl)

/-- A process that an engine has not known can be deployed and started. -/
theorem store_deploy_start {graph : ProcessGraph} (compiled : graph.compile = .ok program)
    (new : engine.programs.get? program.hash = none)
    (absent : engine.store.states.get? ⟨engine.supply.next⟩ = none) (payload : Json)
    (correlation : String) :
    ∃ work, work = (takeTurns program (max 1 engine.config.maximumSteps) 0 (UnitOfWork.create
        (.create ⟨engine.supply.next⟩ program.hash payload correlation engine.now) engine.now
          ⟨engine.supply.next + 1⟩).start.2).2 ∧
      work.record.program = program.hash ∧
      (engine.performAll [.deploy graph, .start program.hash payload correlation]).store =
        { engine.store with
          programs := engine.store.programs.insertNew program.hash program }.apply work.finish.1 ∧
      (engine.performAll [.deploy graph,
        .start program.hash payload correlation]).store.states.get? ⟨engine.supply.next⟩ =
          some work.finish.2 := by
  refine ⟨_, rfl, (ran_takeTurns (shapely_start _) _ _).confined.program, ?_⟩
  let deployed := (outcome (deploy graph) engine).2
  have same : deployed = { engine with
      programs := engine.programs.insert program.hash program
      store := { engine.store with
        programs := engine.store.programs.insertNew program.hash program } } :=
    congrArg Prod.snd (outcome_deploy compiled new)
  have loaded : deployed.load program.hash =
      .ok (program, engine.programs.insert program.hash program) := by
    rw [same, load]
    dsimp only
    rw [OrderedMap.get?_insert_self]
  have absent' : deployed.store.states.get? ⟨deployed.supply.next⟩ = none := by
    rw [same]
    exact absent
  have started := @store_start deployed program _ loaded absent' payload correlation
  have states := @states_start deployed program _ loaded absent' payload correlation
  have after : (engine.performAll [.deploy graph, .start program.hash payload correlation]) =
      (outcome (start program.hash payload correlation) deployed).2 := by
    simp only [performAll, EngineOperation.perform, outcome_map]
    rfl
  rw [after]
  rw [same] at started states ⊢
  exact ⟨started, states⟩

/-- The state of the new instance is as its first turns leave it. -/
theorem states_deploy_start {graph : ProcessGraph} (compiled : graph.compile = .ok program)
    (new : engine.programs.get? program.hash = none)
    (absent : engine.store.states.get? ⟨engine.supply.next⟩ = none) (payload : Json)
    (correlation : String) :
    ∃ work, work = (takeTurns program (max 1 engine.config.maximumSteps) 0 (UnitOfWork.create
        (.create ⟨engine.supply.next⟩ program.hash payload correlation engine.now) engine.now
          ⟨engine.supply.next + 1⟩).start.2).2 ∧
      work.record.program = program.hash ∧
      (engine.performAll [.deploy graph,
        .start program.hash payload correlation]).store.states.get? ⟨engine.supply.next⟩ =
          some work.finish.2 := by
  obtain ⟨work, took, own, -, stored⟩ :=
    store_deploy_start compiled new absent payload correlation
  exact ⟨work, took, own, stored⟩

end Engine

end ProcessEngine
