import ProcessEngine.Engine.Config
import ProcessEngine.Engine.Error
import ProcessEngine.Machine.Run
import ProcessEngine.Program.Cache
import ProcessEngine.Store.Basic

/-!
# Engines

An engine changes instances and stores what it has changed. Each change is made in a
unit of work on the stored state, after which the instance runs as far as it can; then
everything is stored at once (`Engine.attempt`). A change that another writer came before
is made again on the new state, for a limited number of attempts (`Engine.transact`).
-/

namespace ProcessEngine

/-- An engine over a store. -/
structure Engine (Store : Type) where
  store : Store
  config : EngineConfig := {}
  /-- The present time. -/
  now : Instant
  /-- Where the identifiers of new instances, fibers and incidents come from. -/
  supply : IdSupply
  /-- The programs that need not be asked of the store. -/
  programs : ProgramCache := .empty
  /-- The instances that workers are to run, in the order of their turns. -/
  queue : List InstanceId := []
  /-- The instances that have a lock, because they were worked on since locks were dropped. -/
  locks : List InstanceId := []

/-- A request to an engine. -/
abbrev EngineAction (Store : Type) := ExceptT EngineError (StateM (Engine Store))

/-- A change of an instance, made in a unit of work on it while its program is loaded. -/
abbrev Change (Result : Type) :=
  Program -> UnitOfWork -> Except EngineError (Result × UnitOfWork)

/-- Makes a change and runs the instance. -/
def Change.slice {Result : Type} (change : Change Result) (program : Program)
    (maximumSteps : Nat) (work : UnitOfWork) :
    Except EngineError (Result × RunReport × UnitOfWork) := do
  let (result, changed) <- change program work
  let (report, done) <- (changed.run program maximumSteps).mapError .machine
  return (result, report, done)

/-- The change that changes nothing. -/
def Change.none : Change Unit := fun _ work => .ok ((), work)

namespace Engine

variable {Store : Type} {Result : Type}

/-- Goes on with the value of a result. -/
def check (result : Except EngineError Result) : EngineAction Store Result := liftExcept result

/-- Asks the store. -/
def ask (request : StoreAction Store Result) : EngineAction Store Result := do
  let engine <- getThe (Engine Store)
  let (result, store) := request.run engine.store
  set { engine with store := store }
  check (result.mapError .store)

/-- Asks the store for something that has to be there. -/
def require (missing : EngineError) (request : StoreAction Store (Option Result)) :
    EngineAction Store Result := do
  match <- ask request with
  | some found => return found
  | none => throw missing

/-- Whether a request is met; an error is no error of the caller. -/
def attempted (request : EngineAction Store Bool) : EngineAction Store Bool :=
  tryCatch request (fun _ => return false)

/-! ## Programs -/

/-- Keeps a program in the cache; yields the one that is kept under its hash. -/
def keep (program : Program) : EngineAction Store Program := do
  let engine <- getThe (Engine Store)
  let (kept, programs) <- check ((engine.programs.add program).mapError .program)
  set { engine with programs := programs }
  return kept

/-! ## Locks and the queue -/

/-- Locks an instance. -/
def lock (id : InstanceId) : EngineAction Store Unit :=
  modify (fun engine => { engine with locks := engine.locks.insert id })

/-- Drops all locks and counts them. -/
def pruneLocks : EngineAction Store Nat :=
  modifyGet (fun engine => (engine.locks.length, { engine with locks := [] }))

/-- Lets workers run an instance, unless the queue is full. -/
def enqueue (id : InstanceId) : EngineAction Store Unit :=
  modify (fun engine =>
    if engine.queue.length < max 1 engine.config.queueCapacity then
      { engine with queue := engine.queue ++ [id] }
    else engine)

/-! ## Changes -/

variable [ProcessStore Store]

/-- The program of a hash. -/
def programOf (hash : ProgramHash) : EngineAction Store Program := do
  match (<- getThe (Engine Store)).programs.get? hash with
  | some program => return program
  | none => keep (<- require (.unknownProgram hash) (ProcessStore.program? hash))

/-- The stored state of an instance. -/
def stateOf (id : InstanceId) : EngineAction Store InstanceState :=
  require (.unknownInstance id) (ProcessStore.state? id)

/-- Stores what a unit of work has changed; an instance that can run on is queued. -/
def commit (work : UnitOfWork) (report : RunReport) : EngineAction Store Unit := do
  let transition := work.finish.1
  ask (ProcessStore.commit transition)
  if report.exhausted && !transition.record.status.isTerminal then
    enqueue transition.record.id

/-- Makes a change on the stored state, runs the instance and stores the result. Yields nothing,
and stores nothing, if another writer came before. -/
def attempt (id : InstanceId) (change : Change Result) : EngineAction Store (Option Result) := do
  let state <- stateOf id
  let program <- programOf state.record.program
  let engine <- getThe (Engine Store)
  let (result, report, work) <- check (change.slice program engine.config.maximumSteps
    (.begin state engine.now engine.supply))
  set { engine with supply := work.supply }
  if work.isEmpty then return some result
  tryCatch (do
      commit work report
      return some result)
    (fun error => if error.isConflict then return none else throw error)

/-- Makes attempts until one yields a result, at most the given number; some were made before. -/
def insist (id : InstanceId) (one : EngineAction Store (Option Result)) :
    Nat -> Nat -> EngineAction Store Result
  | 0, made => throw (.contention id made)
  | remaining + 1, made => do
    match <- one with
    | some result => return result
    | none => insist id one remaining (made + 1)

/-- Makes attempts, as many as are configured but at least one, until one yields a result. -/
def persist (id : InstanceId) (one : EngineAction Store (Option Result)) :
    EngineAction Store Result := do
  insist id one (max 1 (<- getThe (Engine Store)).config.commitAttempts) 0

/-- Changes an instance. -/
def transact (id : InstanceId) (change : Change Result) : EngineAction Store Result :=
  persist id (attempt id change)

end Engine

end ProcessEngine
