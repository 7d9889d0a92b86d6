import ProcessEngine.Engine.Incidents
import ProcessEngine.Engine.Reply
import ProcessEngine.Engine.Workers

/-!
# Operations of an engine

Everything that can be asked of an engine, as data, so that a history of an engine is a
list of operations. Operations have a written form, except for those that name a program.
-/

namespace ProcessEngine

/-- Something to ask of an engine. -/
inductive EngineOperation where
  | deploy (graph : ProcessGraph)
  | install (program : Program)
  | evict (hash : ProgramHash)
  | start (hash : ProgramHash) (payload : Json) (correlation : String)
  | run (id : InstanceId)
  | recover
  | cancel (id : InstanceId) (reason : String)
  | inspect (id : InstanceId)
  | events (id : InstanceId) (first : Nat)
  | activate (taskTypes : List String) (worker : String) (limit : Nat)
  | job (key : JobKey)
  | jobs (id : InstanceId)
  | complete (key : JobKey) (completion : JobCompletion)
  | fail (key : JobKey) (problem : JobFailure)
  /-- Sends a signal; without an epoch it is for the current one. -/
  | signal (id : InstanceId) (fiber : FiberId) (epoch : Option Nat) (kind : WakeKind)
      (inputs : JobCompletion)
  | correlate (name correlation : String) (payload : Option Json)
  | fireTimers
  | incident (id : IncidentId)
  | incidents (id : Option InstanceId)
  | resolve (id : IncidentId) (resolution : String)
  | deadLetters
  | requeue (place : DeadLetterKey)
  | cancelDeadLetter (place : DeadLetterKey)
  | purge
  | runnable
  | dueTimers
  | waiters (name correlation : String)
  | advance (milliseconds : Nat)
  | setClock (now : Instant)
  /-- Begins anew, with the configuration that is given or the one there is. -/
  | restart (config : Option EngineConfig) (keepsPrograms : Bool)
  | size
  | pruneLocks
  /-- Lets workers take turns. -/
  | work (turns : Nat)

/-- Reads a failure that is given as such, or whose code and message are given. -/
def JobFailure.given? (json : Json) : Option JobFailure := do
  match <- Decode.memberIfAny "failure" reader json with
  | some problem => return problem
  | none =>
    match <- Decode.memberIfAny "business" reader json with
    | some code => return ⟨.business code, <- Decode.member "message" reader json⟩
    | none => return ⟨.transient, <- Decode.member "transient" reader json⟩

namespace EngineOperation

/-- How many turns workers take at most. -/
def turnLimit : Nat := 10000

/-- Reads the place of a dead letter. -/
def place? (json : Json) : Option DeadLetterKey := do
  return ⟨<- Decode.member "task_type" reader json, <- Decode.member "job" reader json⟩

/-- Reads a signal. -/
def signal? (json : Json) : Option EngineOperation := do
  return .signal (<- Decode.member "instance" reader json) (<- Decode.member "fiber" reader json)
    (<- Decode.memberIfAny "epoch" Decode.nat64 json) (<- Decode.member "kind" reader json)
    (<- JobCompletion.inputs? json)

/-- How the operation of a name is read, if it is about jobs, signals or instances. -/
def workReader? : String -> Option (Json -> Option EngineOperation)
  | "run" => some (fun json => do return .run (<- Decode.member "instance" reader json))
  | "recover" => some (fun _ => some .recover)
  | "cancel" => some (fun json => do
    return .cancel (<- Decode.member "instance" reader json)
      (<- Decode.member "reason" reader json))
  | "activate" => some (fun json => do
    return .activate (<- Decode.member "types" (Decode.list reader) json)
      (<- Decode.memberOr "worker" "w" reader json)
      (<- Decode.memberOr "max" 100 Decode.nat64 json))
  | "complete" => some (fun json => do
    return .complete (<- Decode.member "job" reader json) (<- JobCompletion.given? json))
  | "fail" => some (fun json => do
    return .fail (<- Decode.member "job" reader json) (<- JobFailure.given? json))
  | "signal" => some signal?
  | "correlate" => some (fun json => do
    return .correlate (<- Decode.member "name" reader json)
      (<- Decode.member "correlation" reader json)
      (<- Decode.memberIfAny "payload" Decode.payload json))
  | "fire_timers" => some (fun _ => some .fireTimers)
  | "resolve" => some (fun json => do
    return .resolve (<- Decode.member "incident" reader json)
      (<- Decode.member "resolution" reader json))
  | "requeue" => some (fun json => do return .requeue (<- place? json))
  | "cancel_dead_letter" => some (fun json => do return .cancelDeadLetter (<- place? json))
  | "purge" => some (fun _ => some .purge)
  | "advance" => some (fun json => do return .advance (<- Decode.member "ms" Decode.nat64 json))
  | "set_clock" => some (fun json => do return .setClock (<- Decode.member "at" reader json))
  | "restart" => some (fun json => do
    return .restart (<- Decode.memberIfAny "config" reader json)
      (<- Decode.memberOr "share_programs" false reader json))
  | "prune_locks" => some (fun _ => some .pruneLocks)
  | "pool" => some (fun _ => some (.work turnLimit))
  | _ => none

/-- How the operation of a name is read, if it only looks something up. -/
def queryReader? : String -> Option (Json -> Option EngineOperation)
  | "inspect" => some (fun json => do return .inspect (<- Decode.member "instance" reader json))
  | "events" => some (fun json => do
    return .events (<- Decode.member "instance" reader json)
      (<- Decode.memberOr "from" 0 Decode.nat64 json))
  | "job" => some (fun json => do return .job (<- Decode.member "job" reader json))
  | "jobs" => some (fun json => do return .jobs (<- Decode.member "instance" reader json))
  | "incident" => some (fun json => do return .incident (<- Decode.member "incident" reader json))
  | "incidents" => some (fun json => do
    return .incidents (<- Decode.memberIfAny "instance" reader json))
  | "dead_letters" => some (fun _ => some .deadLetters)
  | "runnable" => some (fun _ => some .runnable)
  | "due_timers" => some (fun _ => some .dueTimers)
  | "waiters" => some (fun json => do
    return .waiters (<- Decode.member "name" reader json)
      (<- Decode.member "correlation" reader json))
  | "counts" => some (fun _ => some .size)
  | _ => none

/-- How the operation of a name is read. -/
def reader? (name : String) : Option (Json -> Option EngineOperation) :=
  workReader? name <|> queryReader? name

variable {Store : Type} [ProcessStore Store]

/-- Does something that yields no answer of its own. -/
def noted (action : EngineAction Store Unit) : EngineAction Store EngineReply := do
  action
  return .done

/-- Sets the clock. -/
def setNow (change : Instant -> Instant) : EngineAction Store EngineReply := do
  let engine <- getThe (Engine Store)
  set { engine with now := change engine.now }
  return .time (change engine.now)

/-- Asks an engine. -/
def perform : EngineOperation -> EngineAction Store EngineReply
  | .deploy graph => .installed <$> Engine.deploy graph
  | .install program => .installed <$> Engine.install program
  | .evict hash => .evicted <$> Engine.evict hash
  | .start hash payload correlation => .started <$> Engine.start hash payload correlation
  | .run id => noted (Engine.run id)
  | .recover => .count <$> Engine.recover
  | .cancel id reason => noted (Engine.cancel id reason)
  | .inspect id => .state <$> Engine.stateOf id
  | .events id first => .events <$> Engine.eventsFrom id first
  | .activate taskTypes worker limit => .claimed <$> Engine.activate taskTypes worker limit
  | .job key => .job <$> Engine.jobOf key
  | .jobs id => .jobs <$> Engine.ask (ProcessStore.jobsOf id)
  | .complete key completion => .completion <$> Engine.complete key completion
  | .fail key problem => .failure <$> Engine.fail key problem
  | .signal id fiber epoch kind inputs => do
    let epoch <- match epoch with
      | some epoch => pure epoch
      | none => Engine.epochOf id fiber
    .delivery <$> Engine.signal ⟨id, fiber, epoch, kind, inputs.flags, inputs.payload⟩
  | .correlate name correlation payload => .count <$> Engine.correlate name correlation payload
  | .fireTimers => .count <$> Engine.fireTimers
  | .incident id => .incident <$> Engine.incidentOf id
  | .incidents id => .incidents <$> Engine.ask (ProcessStore.incidents id)
  | .resolve id resolution => noted (Engine.resolve id resolution)
  | .deadLetters => .deadLetters <$> Engine.ask ProcessStore.deadLetters
  | .requeue place => noted (Engine.requeue place)
  | .cancelDeadLetter place => noted (Engine.cancelDeadLetter place)
  | .purge => .count <$> Engine.purge
  | .runnable => .instances <$> Engine.ask ProcessStore.runnable
  | .dueTimers => do
    .fibers <$> Engine.ask (ProcessStore.dueTimers (<- getThe (Engine Store)).now)
  | .waiters name correlation => .fibers <$> Engine.ask (ProcessStore.waiters name correlation)
  | .advance milliseconds => setNow (fun now => now.after milliseconds)
  | .setClock now => setNow (fun _ => now)
  | .restart config keepsPrograms => do
    let engine <- getThe (Engine Store)
    let engine := engine.restarted (config.getD engine.config) keepsPrograms
    set engine
    return .restarted engine.programs.size
  | .size => do
    return .size (<- Engine.ask ProcessStore.size?) (<- getThe (Engine Store)).programs.size
  | .pruneLocks => .count <$> Engine.pruneLocks
  | .work turns => .worked <$> Engine.work turns

end EngineOperation

end ProcessEngine
