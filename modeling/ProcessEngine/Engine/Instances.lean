import ProcessEngine.Engine.Basic
import ProcessEngine.Lowering.Basic
import ProcessEngine.Machine.Ending

/-!
# Programs and instances of an engine

Programs are deployed, instances of them are started, run and cancelled, and their state
and their events can be looked up.
-/

namespace ProcessEngine

/-- Checks that the instance of a unit of work runs. -/
def UnitOfWork.ensureRunning (work : UnitOfWork) : Except EngineError Unit :=
  if work.record.isRunning then .ok ()
  else .error (.notRunning work.record.id work.record.status)

namespace Engine

variable {Store : Type} [ProcessStore Store]

/-- Keeps a program, in the cache and in the store. -/
def install (program : Program) : EngineAction Store ProgramHash := do
  let kept <- keep program
  ask (ProcessStore.putProgram kept)
  return kept.hash

/-- Compiles a graph and keeps the program. -/
def deploy (graph : ProcessGraph) : EngineAction Store ProgramHash := do
  install (<- check (graph.compile.mapError .compile))

/-- Removes a program from the cache; tells whether it was there. -/
def evict (hash : ProgramHash) : EngineAction Store Bool :=
  modifyGet (fun engine =>
    (engine.programs.contains hash, { engine with programs := engine.programs.erase hash }))

/-- Draws the identifier of a new instance and locks it. -/
def drawInstance : EngineAction Store InstanceId := do
  let id <- modifyGet (fun engine =>
    let (id, supply) := engine.supply.draw
    (id, { engine with supply := supply }))
  lock id
  return id

/-- The change that makes the first fiber. -/
def begin : Change Unit := fun _ work => .ok ((), work.start.2)

/-- Starts an instance of a program and runs it until it waits. -/
def start (hash : ProgramHash) (payload : Json) (correlation : String) :
    EngineAction Store InstanceId := do
  let program <- programOf hash
  let id <- drawInstance
  let engine <- getThe (Engine Store)
  let record := ProcessInstance.create id hash payload correlation engine.now
  let (_, report, work) <- check (begin.slice program engine.config.maximumSteps
    (.create record engine.now engine.supply))
  set { engine with supply := work.supply }
  commit work report
  return id

/-- Runs an instance. -/
def run (id : InstanceId) : EngineAction Store Unit := do
  lock id
  transact id .none

/-- Runs every instance that can run, whatever becomes of it, and counts them. -/
def recover : EngineAction Store Nat := do
  let ids <- ask ProcessStore.runnable
  let _ <- ids.mapM (fun id => attempted (do
    run id
    return true))
  return ids.length

/-- The change that cancels the instance. -/
def cancellation (reason : String) : Change Unit := fun _ work => do
  work.ensureRunning
  return ((), <- (work.cancel reason).mapError .lifecycle)

/-- Cancels a running instance. -/
def cancel (id : InstanceId) (reason : String) : EngineAction Store Unit := do
  lock id
  transact id (cancellation reason)

/-- The events of an instance from a number on. -/
def eventsFrom (id : InstanceId) (first : Nat) : EngineAction Store (List EventRecord) := do
  let _ <- stateOf id
  ask (ProcessStore.eventsFrom id first)

/-- An engine that begins anew over the same store, perhaps with the programs of the cache. -/
def restarted (engine : Engine Store) (config : EngineConfig) (keepsPrograms : Bool) :
    Engine Store :=
  { engine with
    config := config
    programs := if keepsPrograms then engine.programs else .empty
    queue := []
    locks := [] }

end Engine

end ProcessEngine
