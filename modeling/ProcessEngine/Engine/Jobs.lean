import ProcessEngine.Engine.Basic
import ProcessEngine.Machine.Delivery

/-!
# Jobs of an engine

Workers claim jobs and report what came of them. The first completion that is reported
for a job is recorded and every later one is a duplicate; a result has an effect only
while the job is open and its fiber waits for it. A failed job is tried again, takes an
error route, or is set aside as a dead letter together with an incident.
-/

namespace ProcessEngine

/-- What comes of a completion. -/
inductive CompletionOutcome where
  /-- The fiber goes on. -/
  | applied
  /-- A completion of the job was recorded before. -/
  | duplicate
  /-- Nothing waits for the job. -/
  | ignored
deriving DecidableEq, Repr

/-- What comes of a failure. -/
inductive FailureOutcome where
  | retryScheduled (attempt : Nat) (notBefore : Instant)
  | routed (code : String)
  | deadLettered (incident : IncidentId)
  /-- Nothing waits for the job. -/
  | ignored
deriving DecidableEq

namespace UnitOfWork

/-- Whether the fiber of a job waits for just this job. -/
def awaits (work : UnitOfWork) (job : Job) : Bool :=
  (work.fiber? job.fiber).any (fun fiber => fiber.wait == .job job.key)

/-- Whether a result of a job has an effect. -/
def wants (work : UnitOfWork) (job : Job) : Bool := job.status.isOpen && work.awaits job

/-- Completes a job. -/
def finishJob (work : UnitOfWork) (job : Job) (event : RuntimeEvent) :
    Except EngineError UnitOfWork := do
  (job.status.change .completed).mapError .lifecycle
  return (work.updateJob { job with status := .completed }).emit event

end UnitOfWork

namespace Job

/-- The change that records a completion and applies it if it is wanted. -/
def complete (job : Job) (completion : JobCompletion) : Change CompletionOutcome :=
  fun _ work => do
    let wanted := work.wants job
    let recorded := work.recordCompletion ⟨job.key, completion, wanted, work.time⟩
    if wanted then
      let finished <- recorded.finishJob job (.jobCompleted job.key)
      return (.applied, <- (finished.resumeJob job.fiber completion).mapError .machine)
    else
      return (.ignored, recorded.emit (.completionIgnored job.key))

/-- Lets a job be claimed again after a delay. -/
def retry (job : Job) (problem : String) (policy : RetryPolicy) (work : UnitOfWork) :
    Except EngineError (FailureOutcome × UnitOfWork) := do
  (job.status.change .pending).mapError .lifecycle
  let notBefore := work.time.after (policy.delay (job.attempt - 1))
  let next := job.scheduleRetry notBefore problem
  return (.retryScheduled next.attempt notBefore,
    (work.updateJob next).emit (.jobRetryScheduled job.key next.attempt notBefore))

/-- The job as it is set aside. -/
def setAside (job : Job) (problem : String) : Job :=
  { job with
    status := .deadLettered
    claimedAt := none
    claimedBy := none
    lastError := some problem }

/-- Halts the fiber of a job on an incident and sets the job aside for some milliseconds. -/
def bury (job : Job) (kind : FaultClass) (problem : String) (lifetime : Nat)
    (work : UnitOfWork) : Except EngineError (FailureOutcome × UnitOfWork) := do
  (job.status.change .deadLettered).mapError .lifecycle
  let (id, supply) := work.supply.draw
  let address := (work.fiber? job.fiber).elim 0 Fiber.pc
  let incident : Incident :=
    { Incident.raise id job.owner job.fiber address kind problem work.time with
      node := some job.node
      jobKey := some job.key
      attempts := job.attempt }
  let halted := { work with supply := supply }.halt incident
  let letter : DeadLetter := ⟨job.taskType, job.key, job.setAside problem, problem, some id,
    work.time, work.time.after lifetime⟩
  return (.deadLettered id, ((halted.putDeadLetter letter).updateJob letter.job).emit
    (.jobDeadLettered job.key))

/-- The change that deals with a failure if it is wanted. -/
def fail (job : Job) (problem : JobFailure) (config : EngineConfig) : Change FailureOutcome :=
  fun program work =>
    let bury kind := job.bury kind problem.message config.deadLetterLifetime work
    if work.wants job then
      match problem.kind with
      | .transient =>
        if 0 < job.retriesRemaining then job.retry problem.message config.retry work
        else bury .retryExhausted
      | .business code =>
        match work.fiber? job.fiber >>= fun fiber =>
            UnitOfWork.errorRoute? program fiber code with
        | none => bury (.unroutedBusinessError code)
        | some target => do
          let finished <- work.finishJob { job with lastError := some problem.message }
            (.jobErrorRouted job.key code)
          return (.routed code, <- (finished.routeError job.fiber target).mapError .machine)
    else .ok (.ignored, work)

end Job

namespace Engine

variable {Store : Type} [ProcessStore Store]

/-- The job of a key. -/
def jobOf (key : JobKey) : EngineAction Store Job :=
  require (.unknownJob key) (ProcessStore.job? key)

/-- Hands out jobs of some types to a worker. -/
def activate (taskTypes : List String) (worker : String) (limit : Nat) :
    EngineAction Store (List Job) := do
  let engine <- getThe (Engine Store)
  ask (ProcessStore.claim ⟨taskTypes, worker, limit, engine.now, engine.config.lease⟩)

/-- Whether a completion of a job was recorded; the instance of the job is locked. -/
def isCompleted (key : JobKey) (owner : InstanceId) : EngineAction Store Bool := do
  lock owner
  return (<- ask (ProcessStore.completion? key)).isSome

/-- Makes a change with a job, which is looked up anew for every attempt. -/
def withJob {Result : Type} (key : JobKey) (owner : InstanceId) (change : Job -> Change Result) :
    EngineAction Store Result :=
  persist owner (do attempt owner (change (<- jobOf key)))

/-- Takes a completion of a job. -/
def complete (key : JobKey) (completion : JobCompletion) :
    EngineAction Store CompletionOutcome := do
  let owner := (<- jobOf key).owner
  if <- isCompleted key owner then return .duplicate
  withJob key owner (fun job => job.complete completion)

/-- Takes a failure of a job. -/
def fail (key : JobKey) (problem : JobFailure) : EngineAction Store FailureOutcome := do
  let owner := (<- jobOf key).owner
  if <- isCompleted key owner then return .ignored
  let config := (<- getThe (Engine Store)).config
  withJob key owner (fun job => job.fail problem config)

end Engine

end ProcessEngine
