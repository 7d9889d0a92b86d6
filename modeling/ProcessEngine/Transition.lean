import ProcessEngine.DeadLetter
import ProcessEngine.Event
import ProcessEngine.Instance.State
import ProcessEngine.Job.Result

/-!
# Transitions

Everything that one step of work on an instance changes, to be stored as a whole. A
transition was computed from one version of the stored state and makes the next one;
one without a base version makes a new instance.
-/

namespace ProcessEngine

/-- A change of a stored job. -/
inductive JobWrite where
  /-- Stores a new job; a job of the same key that is stored stays. -/
  | dispatch (job : Job)
  /-- Replaces a stored job. -/
  | update (job : Job)
deriving DecidableEq

/-- The job that is written. -/
def JobWrite.job : JobWrite -> Job
  | .dispatch job => job
  | .update job => job

instance : JsonCodec JobWrite where
  encode
    | .dispatch job => Encode.tagged "write" "dispatch" job.members
    | .update job => Encode.tagged "write" "update" job.members
  reader := Decode.tagged "write" [
    ("dispatch", do return .dispatch (<- Job.read)),
    ("update", do return .update (<- Job.read))]

/-- What one step of work changes. -/
structure Transition where
  /-- The instance after the step. -/
  record : ProcessInstance
  /-- The version of the stored state that the step began with. -/
  base : Option Nat
  time : Instant
  /-- Fibers that are new or have changed. -/
  fibers : List Fiber
  /-- Fibers that have ended. -/
  endedFibers : List FiberId
  /-- Barriers that are new or have changed. -/
  barriers : List JoinBarrier
  jobs : List JobWrite
  /-- Jobs to cancel if they are open. -/
  cancelledJobs : List JobKey
  completions : List CompletionRecord
  /-- Incidents that are new or have changed. -/
  incidents : List Incident
  deadLetters : List DeadLetter
  /-- Dead letters to remove. -/
  removedDeadLetters : List DeadLetterKey
  /-- What happened, in order. -/
  events : List RuntimeEvent
deriving DecidableEq

namespace Transition

/-- Whether the transition makes a new instance. -/
def isCreate (transition : Transition) : Bool := transition.base.isNone

/-- The state of the instance after the transition: ended fibers are gone, then the others are
set. -/
def applyTo (transition : Transition) (state : InstanceState) : InstanceState where
  record := transition.record
  fibers := transition.fibers.foldl (fun fibers fiber => fibers.insert fiber.id fiber)
    (transition.endedFibers.foldl OrderedMap.erase state.fibers)
  barriers := transition.barriers.foldl (fun barriers barrier =>
    barriers.insert barrier.join barrier) state.barriers

instance : JsonCodec Transition where
  encode transition := .object [("instance", encode transition.record),
    ("base_version", Encode.nullable Encode.nat transition.base), ("at", encode transition.time),
    ("upsert_fibers", Encode.list encode transition.fibers),
    ("delete_fibers", Encode.list encode transition.endedFibers),
    ("barriers", Encode.list encode transition.barriers),
    ("jobs", Encode.list encode transition.jobs),
    ("cancel_jobs", Encode.list encode transition.cancelledJobs),
    ("completions", Encode.list encode transition.completions),
    ("incidents", Encode.list encode transition.incidents),
    ("dead_letters", Encode.list encode transition.deadLetters),
    ("remove_dead_letters", Encode.list encode transition.removedDeadLetters),
    ("events", Encode.list encode transition.events)]
  reader := Decode.record do
    return ⟨<- Decode.field "instance" reader, <- Decode.nullableField "base_version" Decode.nat64,
      <- Decode.field "at" reader, <- Decode.field "upsert_fibers" (Decode.list reader),
      <- Decode.field "delete_fibers" (Decode.list reader),
      <- Decode.field "barriers" (Decode.list reader), <- Decode.field "jobs" (Decode.list reader),
      <- Decode.field "cancel_jobs" (Decode.list reader),
      <- Decode.field "completions" (Decode.list reader),
      <- Decode.field "incidents" (Decode.list reader),
      <- Decode.field "dead_letters" (Decode.list reader),
      <- Decode.field "remove_dead_letters" (Decode.list reader),
      <- Decode.field "events" (Decode.list reader)⟩

end Transition

end ProcessEngine
