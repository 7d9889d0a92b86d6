import ProcessEngine.Engine.Jobs
import ProcessEngine.Machine.Operation

/-!
# Replies of an engine

What an engine answers when it is asked for something, and the written forms of it.
-/

namespace ProcessEngine

/-- An answer of an engine. -/
inductive EngineReply where
  | done
  /-- A program is kept under its hash. -/
  | installed (hash : ProgramHash)
  /-- A program was in the cache, or was not. -/
  | evicted (wasThere : Bool)
  | started (id : InstanceId)
  /-- The engine has begun anew with so many programs. -/
  | restarted (programs : Nat)
  | count (number : Nat)
  | time (now : Instant)
  | state (state : InstanceState)
  | events (records : List EventRecord)
  | job (job : Job)
  /-- Jobs that were handed out. -/
  | claimed (jobs : List Job)
  /-- The jobs of an instance. -/
  | jobs (jobs : List Job)
  | completion (outcome : CompletionOutcome)
  | failure (outcome : FailureOutcome)
  | delivery (delivery : Delivery)
  | incident (incident : Incident)
  | incidents (incidents : List Incident)
  | deadLetters (letters : List DeadLetter)
  | instances (ids : List InstanceId)
  | fibers (references : List FiberReference)
  | size (store : Option StoreSize) (programs : Nat)
  /-- The workers ran out of work, or did not. -/
  | worked (idle : Bool)

/-- The written form of an outcome. -/
def CompletionOutcome.toJson : CompletionOutcome -> Json
  | .applied => .text "applied"
  | .duplicate => .text "duplicate"
  | .ignored => .text "ignored"

/-- The written form of an outcome. -/
def FailureOutcome.toJson : FailureOutcome -> Json
  | .retryScheduled attempt notBefore =>
    .object [("retry", Encode.nat attempt), ("not_before", encode notBefore)]
  | .routed code => .object [("routed", .text code)]
  | .deadLettered _ => .text "dead_lettered"
  | .ignored => .text "ignored"

/-- The short form of a job in a list. -/
def Job.summary (job : Job) : Json := .list [encode job.key, encode job.status,
  Encode.nat job.attempt, Encode.nat job.retriesRemaining]

namespace EngineReply

/-- The written form of a size. -/
def sizeJson (store : Option StoreSize) (programs : Nat) : Json := .object [
  ("instances", Encode.nullable (fun size => Encode.nat (StoreSize.instances size)) store),
  ("jobs", Encode.nullable (fun size => Encode.nat (StoreSize.jobs size)) store),
  ("programs", Encode.nat programs)]

/-- The written form of an answer. -/
def toJson : EngineReply -> Json
  | .done => .null
  | .installed hash => encode hash
  | .evicted wasThere => .bool wasThere
  | .started id => encode id
  | .restarted programs => .object [("cached", Encode.nat programs)]
  | .count number => Encode.nat number
  | .time now => encode now
  | .state found => found.toJson
  | .events records => Encode.list (fun record => Encode.nat (EventRecord.sequence record)) records
  | .job found => encode found
  | .claimed found => Encode.list encode found
  | .jobs found => Encode.list Job.summary found
  | .completion outcome => outcome.toJson
  | .failure outcome => outcome.toJson
  | .delivery outcome => outcome.toJson
  | .incident found => encode found
  | .incidents found => Encode.list encode found
  | .deadLetters letters => Encode.list encode letters
  | .instances ids => Encode.list encode ids
  | .fibers references => Encode.list FiberReference.toJson references
  | .size store programs => sizeJson store programs
  | .worked idle => .object [("idle", .bool idle)]

end EngineReply

end ProcessEngine
