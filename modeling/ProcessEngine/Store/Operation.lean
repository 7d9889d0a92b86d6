import ProcessEngine.Store.Basic

/-!
# Operations of a store

Everything that can be asked of a store, as data: an operation has a written form and a
written result, so the use of a store can be scripted.
-/

namespace ProcessEngine

/-- Something to ask of a store. -/
inductive StoreOperation where
  | putProgram (program : Program)
  | program (hash : ProgramHash)
  | commit (transition : Transition)
  | state (id : InstanceId)
  | runnable
  | job (key : JobKey)
  | jobs (id : InstanceId)
  | claim (request : ClaimRequest)
  | completion (key : JobKey)
  | events (id : InstanceId) (first : Nat)
  | incident (id : IncidentId)
  | incidents (id : Option InstanceId)
  | deadLetter (place : DeadLetterKey)
  | deadLetters
  | purge (now : Instant)
  | dueTimers (now : Instant)
  | waiters (name correlation : String)

namespace StoreOperation

/-- A limit that no store reaches. -/
def noLimit : Nat := UInt64.size - 1

/-- Reads a request for jobs. -/
def claim? (json : Json) : Option StoreOperation := do
  let lease : Int64 <- Decode.member "lease_ms" reader json
  return .claim ⟨<- Decode.member "types" (Decode.list reader) json,
    <- Decode.member "worker" reader json, <- Decode.memberOr "max" noLimit Decode.nat64 json,
    <- Decode.member "now" reader json, lease.toInt⟩

/-- How the operation of a name is read; a program to be kept is read apart. -/
def reader? : String -> Option (Json -> Option StoreOperation)
  | "get_program" => some (fun json => do return .program (<- Decode.member "hash" reader json))
  | "commit" => some (fun json => do return .commit (<- Decode.member "transition" reader json))
  | "load" => some (fun json => do return .state (<- Decode.member "instance" reader json))
  | "runnable" => some (fun _ => some .runnable)
  | "job" => some (fun json => do return .job (<- Decode.member "key" reader json))
  | "jobs" => some (fun json => do return .jobs (<- Decode.member "instance" reader json))
  | "claim" => some claim?
  | "completion" => some (fun json => do return .completion (<- Decode.member "key" reader json))
  | "events" => some (fun json => do
    return .events (<- Decode.member "instance" reader json)
      (<- Decode.memberOr "from" 0 Decode.nat64 json))
  | "incident" => some (fun json => do return .incident (<- Decode.member "id" reader json))
  | "incidents" => some (fun json => do
    return .incidents (<- Decode.memberIfAny "instance" reader json))
  | "dead_letter" => some (fun json => do
    return .deadLetter ⟨<- Decode.member "task_type" reader json,
      <- Decode.member "key" reader json⟩)
  | "dead_letters" => some (fun _ => some .deadLetters)
  | "purge" => some (fun json => do return .purge (<- Decode.member "now" reader json))
  | "due_timers" => some (fun json => do return .dueTimers (<- Decode.member "now" reader json))
  | "waiters" => some (fun json => do
    return .waiters (<- Decode.member "name" reader json)
      (<- Decode.member "correlation" reader json))
  | _ => none

/-- The written form of a transition that was stored. -/
def committed (transition : Transition) : Json := .object [
  ("create", .bool transition.isCreate),
  ("jobs", Encode.list (fun write => encode (JobWrite.job write).key) transition.jobs)]

variable {Store : Type} [ProcessStore Store]

/-- Asks a store; yields the written result. -/
def perform : StoreOperation -> StoreAction Store Json
  | .putProgram code => do
    ProcessStore.putProgram code
    return encode code.hash
  | .program hash => do
    return Encode.nullable (fun program => Encode.nat (Program.length program))
      (<- ProcessStore.program? hash)
  | .commit transition => do
    ProcessStore.commit transition
    return committed transition
  | .state id => do return Encode.nullable InstanceState.toJson (<- ProcessStore.state? id)
  | .runnable => do return Encode.list encode (<- ProcessStore.runnable)
  | .job key => do return Encode.nullable encode (<- ProcessStore.job? key)
  | .jobs id => do return Encode.list encode (<- ProcessStore.jobsOf id)
  | .claim request => do return Encode.list encode (<- ProcessStore.claim request)
  | .completion key => do return Encode.nullable encode (<- ProcessStore.completion? key)
  | .events id first => do return Encode.list encode (<- ProcessStore.eventsFrom id first)
  | .incident id => do return Encode.nullable encode (<- ProcessStore.incident? id)
  | .incidents id => do return Encode.list encode (<- ProcessStore.incidents id)
  | .deadLetter place => do return Encode.nullable encode (<- ProcessStore.deadLetter? place)
  | .deadLetters => do return Encode.list encode (<- ProcessStore.deadLetters)
  | .purge now => do return Encode.nat (<- ProcessStore.purge now)
  | .dueTimers now => do
    return Encode.list FiberReference.toJson (<- ProcessStore.dueTimers now)
  | .waiters name correlation => do
    return Encode.list FiberReference.toJson (<- ProcessStore.waiters name correlation)

end StoreOperation

end ProcessEngine
