import ProcessEngine.UnitOfWork

/-!
# Ends of fibers and instances

A fiber ends together with its watchdog. An instance completes when its last fiber has
ended; it may also be closed while it has fibers, which cancels the jobs they wait for.
-/

namespace ProcessEngine

namespace UnitOfWork

/-- Ends a fiber and its watchdog. -/
def retire (work : UnitOfWork) (id : FiberId) : UnitOfWork :=
  match work.fiber? id with
  | none => work
  | some fiber => fiber.watchdog.elim (work.endFiber id) (work.endFiber id).endFiber

/-- Gives the instance its final status. -/
def conclude (work : UnitOfWork) (status : InstanceStatus) (event : RuntimeEvent) : UnitOfWork :=
  (work.updateRecord (fun record =>
    { record with status := status, endedAt := some work.time })).emit event

/-- Completes a running instance that has no fibers. -/
def completeIfIdle (work : UnitOfWork) : UnitOfWork :=
  if work.record.isRunning && work.state.fibers.isEmpty then
    work.conclude .completed .instanceCompleted
  else work

/-- Cancels the job that a fiber waits for, if it waits for one. -/
def cancelAwaitedJob (work : UnitOfWork) (fiber : Fiber) : UnitOfWork :=
  match fiber.wait with
  | .job key => work.cancelJob key
  | _ => work

/-- Ends every fiber, cancels the jobs they wait for and closes the instance. -/
def close (work : UnitOfWork) (status : InstanceStatus) (event : RuntimeEvent) :
    Except LifecycleError UnitOfWork := do
  work.record.status.change status
  let ended := work.state.fibersInOrder.foldl (fun (work : UnitOfWork) fiber =>
    (work.cancelAwaitedJob fiber).endFiber fiber.id) work
  return ended.conclude status event

/-- Cancels a running instance. -/
def cancel (work : UnitOfWork) (reason : String) : Except LifecycleError UnitOfWork :=
  work.close .cancelled (.instanceCancelled reason)

end UnitOfWork

end ProcessEngine
