import ProcessEngine.Job.Key
import ProcessEngine.Job.Status

/-!
# Jobs

The work that a task hands out. A worker claims a job for a time and another may
claim it when that time is over. A failed job waits before it can be claimed again.
-/

namespace ProcessEngine

/-- Work handed out by a task. -/
structure Job where
  key : JobKey
  owner : InstanceId
  /-- The fiber that waits for the result. -/
  fiber : FiberId
  /-- The epoch of the fiber when it handed out the job. -/
  epoch : Nat
  node : NodeKey
  taskType : String
  /-- What the instance worked on when the job was handed out. -/
  payload : Json
  flags : Flags
  /-- The number of the current attempt, from one. -/
  attempt : Nat
  retriesRemaining : Nat
  maximumRetries : Nat
  status : JobStatus
  /-- No worker may claim the job before. -/
  notBefore : Instant
  claimedAt : Option Instant
  claimedBy : Option String
  lastError : Option String
  createdAt : Instant
deriving DecidableEq

namespace Job

/-- Whether a worker may claim the job when claims last for some milliseconds. -/
def isClaimable (job : Job) (now : Instant) (lease : Int) : Bool :=
  match job.status with
  | .pending => decide (job.notBefore ≤ now)
  | .claimed =>
    match job.claimedAt with
    | some claimedAt => decide (claimedAt.shifted (lease * Instant.perMillisecond) ≤ now)
    | none => true
  | _ => false

/-- The job after a worker has claimed it. -/
def claim (job : Job) (worker : String) (now : Instant) : Job :=
  { job with status := .claimed, claimedAt := some now, claimedBy := some worker }

/-- The job after a failed attempt that is followed by another. -/
def scheduleRetry (job : Job) (notBefore : Instant) (problem : String) : Job :=
  { job with
    retriesRemaining := job.retriesRemaining - 1
    attempt := job.attempt + 1
    status := .pending
    notBefore := notBefore
    claimedAt := none
    claimedBy := none
    lastError := some problem }

/-- The members of the written form. -/
def members (job : Job) : List (String × Json) := [
  ("key", encode job.key), ("instance", encode job.owner), ("fiber", encode job.fiber),
  ("epoch", Encode.nat job.epoch), ("node", encode job.node), ("task_type", .text job.taskType),
  ("payload", job.payload), ("flags", job.flags.encode), ("attempt", Encode.nat job.attempt),
  ("retries_remaining", Encode.nat job.retriesRemaining),
  ("max_retries", Encode.nat job.maximumRetries), ("status", encode job.status),
  ("not_before", encode job.notBefore), ("claimed_at", Encode.nullable encode job.claimedAt),
  ("claimed_by", Encode.nullable encode job.claimedBy),
  ("last_error", Encode.nullable encode job.lastError), ("created_at", encode job.createdAt)]

/-- Reads the members of the written form. -/
def read : Decode.RecordReader Job := do
  return ⟨<- Decode.field "key" reader, <- Decode.field "instance" reader,
    <- Decode.field "fiber" reader, <- Decode.field "epoch" Decode.nat64,
    <- Decode.field "node" reader, <- Decode.field "task_type" reader,
    <- Decode.field "payload" Decode.payload, <- Decode.field "flags" Flags.reader,
    <- Decode.field "attempt" Decode.nat32, <- Decode.field "retries_remaining" Decode.nat32,
    <- Decode.field "max_retries" Decode.nat32, <- Decode.field "status" reader,
    <- Decode.field "not_before" reader, <- Decode.optional "claimed_at" reader,
    <- Decode.optional "claimed_by" reader, <- Decode.optional "last_error" reader,
    <- Decode.field "created_at" reader⟩

instance : JsonCodec Job := ⟨fun job => .object job.members, Decode.record read⟩

end Job

end ProcessEngine
