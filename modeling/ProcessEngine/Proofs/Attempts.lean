import ProcessEngine.Proofs.Outcomes

/-!
# Attempts to change an instance

An attempt is prepared on a stored state, and what it has changed is deposited in the store. Over
a store in memory it ends in one of six ways (`Engine.attempted_attempt`). Only one of them stores
anything, and only a writer that came before makes the engine try again.
-/

namespace ProcessEngine

/-- A transition that began with the stored version is stored. -/
theorem MemoryStore.outcome_commit_of_current (transition : Transition) (store : MemoryStore)
    (current : store.version? transition.record.id = transition.base) :
    outcome (ProcessStore.commit transition) store = (.ok (), store.apply transition) :=
  StoreAction.outcome_change_ok (if_pos current)

/-- A transition that began with another version is refused. -/
theorem MemoryStore.outcome_commit_of_stale (transition : Transition) (store : MemoryStore)
    (stale : store.version? transition.record.id ≠ transition.base) :
    outcome (ProcessStore.commit transition) store =
      (.error (.conflict transition.record.id transition.base
        (store.version? transition.record.id)), store) :=
  StoreAction.outcome_change_error (if_neg stale)

namespace Engine

variable {Result : Type}

/-- Storing what a unit of work has changed may also queue its instance. -/
theorem outcome_commit_of_current (work : UnitOfWork) (report : RunReport)
    (engine : Engine MemoryStore)
    (current : engine.store.version? work.record.id = work.base) :
    ∃ queue, outcome (commit work report) engine =
      (.ok (), { engine with store := engine.store.apply work.finish.1, queue := queue }) := by
  have stored : outcome (ask (ProcessStore.commit work.finish.1)) engine =
      (.ok (), { engine with store := engine.store.apply work.finish.1 }) := by
    rw [outcome_ask, MemoryStore.outcome_commit_of_current _ _ current]
    rfl
  rw [commit, outcome_bind_ok stored]
  split
  · rw [enqueue, outcome_modify]
    dsimp only
    split
    · exact ⟨_, rfl⟩
    · exact ⟨_, rfl⟩
  · exact ⟨_, rfl⟩

theorem outcome_commit_of_stale (work : UnitOfWork) (report : RunReport)
    (engine : Engine MemoryStore) (stale : engine.store.version? work.record.id ≠ work.base) :
    outcome (commit work report) engine =
      (.error (.store (.conflict work.record.id work.base
        (engine.store.version? work.record.id))), engine) := by
  have refused : outcome (ask (ProcessStore.commit work.finish.1)) engine =
      (.error (.store (.conflict work.record.id work.base
        (engine.store.version? work.record.id))), engine) := by
    rw [outcome_ask, MemoryStore.outcome_commit_of_stale _ _ stale]
    rfl
  rw [commit]
  exact outcome_bind_error refused

/-! ## The halves of an attempt -/

/-- The first half of an attempt: the state is loaded, the change is made and the instance runs. -/
def prepare {Store : Type} [ProcessStore Store] (id : InstanceId) (change : Change Result) :
    EngineAction Store (Result × RunReport × UnitOfWork) := do
  let state <- stateOf id
  let program <- programOf state.record.program
  let engine <- getThe (Engine Store)
  let (result, report, work) <- check (change.slice program engine.config.maximumSteps
    (.begin state engine.now engine.supply))
  set { engine with supply := work.supply }
  return (result, report, work)

/-- The second half: what the unit of work has changed is stored, unless another writer came
before. -/
def deposit {Store : Type} [ProcessStore Store] (result : Result) (report : RunReport)
    (work : UnitOfWork) : EngineAction Store (Option Result) := do
  if work.isEmpty then return some result
  tryCatch (do
      commit work report
      return some result)
    (fun error => if error.isConflict then return none else throw error)

theorem attempt_eq {Store : Type} [ProcessStore Store] (id : InstanceId) (change : Change Result) :
    (attempt id change : EngineAction Store (Option Result)) =
      prepare id change >>= fun (result, report, work) => deposit result report work := by
  simp only [attempt, prepare, deposit, bind_assoc, pure_bind]

/-- How an attempt on a stored state goes until its result is to be stored: the program is
loaded, the change is made and the instance runs. -/
structure Sliced (engine : Engine MemoryStore) (id : InstanceId) (change : Change Result)
    (result : Result) (report : RunReport) (work : UnitOfWork) (programs : ProgramCache)
    (state : InstanceState) (program : Program) : Prop where
  stored : engine.store.states.get? id = some state
  loaded : engine.load state.record.program = .ok (program, programs)
  done : change.slice program engine.config.maximumSteps
    (.begin state engine.now engine.supply) = .ok (result, report, work)

/-- How the first half of an attempt ends. -/
inductive Prepared (engine : Engine MemoryStore) (id : InstanceId) (change : Change Result) :
    Except EngineError (Result × RunReport × UnitOfWork) × Engine MemoryStore -> Prop where
  /-- No such instance is stored. -/
  | missing (absent : engine.store.states.get? id = none) :
    Prepared engine id change (.error (.unknownInstance id), engine)
  /-- The program of the instance cannot be found. -/
  | unloaded {state error} (stored : engine.store.states.get? id = some state)
      (failed : engine.load state.record.program = .error error) :
    Prepared engine id change (.error error, engine)
  /-- The change cannot be made. -/
  | refused {state program programs error}
      (stored : engine.store.states.get? id = some state)
      (loaded : engine.load state.record.program = .ok (program, programs))
      (failed : change.slice program engine.config.maximumSteps
        (.begin state engine.now engine.supply) = .error error) :
    Prepared engine id change (.error error, { engine with programs := programs })
  | sliced {result report work programs state program}
      (sliced : Sliced engine id change result report work programs state program) :
    Prepared engine id change
      (.ok (result, report, work), { engine with programs := programs, supply := work.supply })

theorem prepared_prepare (id : InstanceId) (change : Change Result) (engine : Engine MemoryStore) :
    Prepared engine id change (outcome (prepare id change) engine) := by
  rw [prepare, outcome_bind, outcome_stateOf]
  cases stored : engine.store.states.get? id with
  | none => exact .missing stored
  | some state =>
    simp only [Option.elim]
    rw [outcome_bind, outcome_programOf]
    cases loaded : engine.load state.record.program with
    | error error => exact .unloaded stored loaded
    | ok found =>
      obtain ⟨program, programs⟩ := found
      dsimp only
      rw [outcome_bind_ok (outcome_getThe _)]
      dsimp only
      rw [outcome_bind, check, outcome_liftExcept]
      cases done : change.slice program engine.config.maximumSteps
          (.begin state engine.now engine.supply) with
      | error error => exact .refused stored loaded done
      | ok made =>
        obtain ⟨result, report, work⟩ := made
        exact .sliced ⟨stored, loaded, done⟩

/-- How the second half of an attempt ends. -/
inductive Deposited (engine : Engine MemoryStore) (result : Result) (work : UnitOfWork) :
    Except EngineError (Option Result) × Engine MemoryStore -> Prop where
  /-- There is nothing to store. -/
  | idle (empty : work.isEmpty = true) : Deposited engine result work (.ok (some result), engine)
  /-- Another writer came before. -/
  | contended (nonempty : work.isEmpty = false)
      (stale : engine.store.version? work.record.id ≠ work.base) :
    Deposited engine result work (.ok none, engine)
  | committed {queue} (nonempty : work.isEmpty = false)
      (current : engine.store.version? work.record.id = work.base) :
    Deposited engine result work
      (.ok (some result), { engine with
        store := engine.store.apply work.finish.1
        queue := queue })

theorem deposited_deposit (result : Result) (report : RunReport) (work : UnitOfWork)
    (engine : Engine MemoryStore) :
    Deposited engine result work (outcome (deposit result report work) engine) := by
  rw [deposit]
  cases empty : work.isEmpty with
  | true => exact .idle empty
  | false =>
    rw [if_neg (by decide), outcome_tryCatch, outcome_bind]
    by_cases current : engine.store.version? work.record.id = work.base
    · obtain ⟨queue, stores⟩ := outcome_commit_of_current work report engine current
      rw [stores]
      exact .committed empty current
    · rw [outcome_commit_of_stale work report engine current]
      exact .contended empty current

/-! ## Whole attempts -/

/-- What an attempt answers and which engine it leaves behind. -/
inductive Attempted (engine : Engine MemoryStore) (id : InstanceId) (change : Change Result) :
    Except EngineError (Option Result) × Engine MemoryStore -> Prop where
  /-- No such instance is stored. -/
  | missing (absent : engine.store.states.get? id = none) :
    Attempted engine id change (.error (.unknownInstance id), engine)
  /-- The program of the instance cannot be found. -/
  | unloaded {state error} (stored : engine.store.states.get? id = some state)
      (failed : engine.load state.record.program = .error error) :
    Attempted engine id change (.error error, engine)
  /-- The change cannot be made. -/
  | refused {state program programs error}
      (stored : engine.store.states.get? id = some state)
      (loaded : engine.load state.record.program = .ok (program, programs))
      (failed : change.slice program engine.config.maximumSteps
        (.begin state engine.now engine.supply) = .error error) :
    Attempted engine id change (.error error, { engine with programs := programs })
  /-- There is nothing to store. -/
  | idle {result report work programs state program}
      (sliced : Sliced engine id change result report work programs state program)
      (empty : work.isEmpty = true) :
    Attempted engine id change
      (.ok (some result), { engine with programs := programs, supply := work.supply })
  /-- Another writer came before. -/
  | contended {result report work programs state program}
      (sliced : Sliced engine id change result report work programs state program)
      (nonempty : work.isEmpty = false)
      (stale : engine.store.version? work.record.id ≠ work.base) :
    Attempted engine id change
      (.ok none, { engine with programs := programs, supply := work.supply })
  | committed {result report work programs state program queue}
      (sliced : Sliced engine id change result report work programs state program)
      (nonempty : work.isEmpty = false)
      (current : engine.store.version? work.record.id = work.base) :
    Attempted engine id change
      (.ok (some result), { engine with
        programs := programs
        supply := work.supply
        store := engine.store.apply work.finish.1
        queue := queue })

/-- Every attempt ends in one of these ways. -/
theorem attempted_attempt (id : InstanceId) (change : Change Result)
    (engine : Engine MemoryStore) :
    Attempted engine id change (outcome (attempt id change) engine) := by
  have prepared := prepared_prepare id change engine
  rw [attempt_eq, outcome_bind]
  generalize outcome (prepare id change) engine = reached at prepared ⊢
  cases prepared with
  | missing absent => exact .missing absent
  | unloaded stored failed => exact .unloaded stored failed
  | refused stored loaded failed => exact .refused stored loaded failed
  | sliced sliced =>
    rename_i result report work programs state program
    dsimp only
    have deposited := deposited_deposit result report work
      { engine with programs := programs, supply := work.supply }
    generalize outcome (deposit result report work)
      { engine with programs := programs, supply := work.supply } = reached at deposited ⊢
    cases deposited with
    | idle empty => exact .idle sliced empty
    | contended nonempty stale => exact .contended sliced nonempty stale
    | committed nonempty current => exact .committed sliced nonempty current

end Engine

end ProcessEngine
