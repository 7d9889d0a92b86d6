import ProcessEngine.Engine.Instances
import ProcessEngine.Engine.Signals

/-!
# Workers of an engine

Workers run the instances of the queue. When it is empty, a sweep fires the timers that
are due, if that is configured, and queues the instances that can run.
-/

namespace ProcessEngine

namespace Engine

variable {Store : Type} [ProcessStore Store]

/-- Takes the next instance from the queue. -/
def dequeue : EngineAction Store (Option InstanceId) :=
  modifyGet (fun engine => (engine.queue.head?, { engine with queue := engine.queue.tail }))

/-- Queues what can run, fires due timers if workers do, and drops idle locks. -/
def sweep : EngineAction Store Unit := do
  if (<- getThe (Engine Store)).config.sweepTimers then
    let _ <- fireTimers
  (<- ask ProcessStore.runnable).forM enqueue
  let _ <- pruneLocks

/-- Whether there is nothing for workers to do. -/
def isIdle : EngineAction Store Bool := do
  let engine <- getThe (Engine Store)
  let runnable <- ask ProcessStore.runnable
  let due <- if engine.config.sweepTimers then ask (ProcessStore.dueTimers engine.now) else pure []
  return engine.queue.isEmpty && runnable.isEmpty && due.isEmpty

/-- Lets workers take turns, at most the given number; tells whether they ran out of work. -/
def work : Nat -> EngineAction Store Bool
  | 0 => isIdle
  | turns + 1 => do
    match <- dequeue with
    | some id =>
      let _ <- attempted (do
        run id
        return true)
      work turns
    | none =>
      sweep
      if <- isIdle then return true else work turns

end Engine

end ProcessEngine
