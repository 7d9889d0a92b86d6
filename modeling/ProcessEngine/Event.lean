import ProcessEngine.Incident

/-!
# Events

What happened to an instance, in the order in which it happened. The events of an
instance are numbered from one.
-/

namespace ProcessEngine

/-- Something that happened to an instance. -/
inductive RuntimeEvent where
  | instanceStarted (program : ProgramHash) (correlation : String)
  | instanceCompleted
  | instanceTerminated (node : Option NodeKey)
  | instanceCancelled (reason : String)
  | fiberSpawned (fiber : FiberId) (parent : Option FiberId) (pc : Address)
  | fiberParked (fiber : FiberId) (wait : String) (pc : Address)
  | fiberResumed (fiber : FiberId) (epoch : Nat)
  | fiberEnded (fiber : FiberId)
  | counterIncremented (counter : String) (value : Int64)
  | joinActivated (join : NodeKey) (activation expected : Nat)
  | joinArrived (join : NodeKey) (arrived expected : Nat)
  | joinSatisfied (join : NodeKey) (activation : Nat)
  | raceWon (race : NodeKey) (target : Address)
  | raceArmCancelled (race : NodeKey) (target : Address)
  | boundaryFired (boundary : NodeKey) (interrupting : Bool)
  | jobDispatched (key : JobKey) (taskType : String)
  | jobCompleted (key : JobKey)
  | jobRetryScheduled (key : JobKey) (attempt : Nat) (notBefore : Instant)
  | jobErrorRouted (key : JobKey) (code : String)
  | jobDeadLettered (key : JobKey)
  | jobCancelled (key : JobKey)
  | jobRequeued (key : JobKey)
  | completionIgnored (key : JobKey)
  | incidentRaised (incident : IncidentId) (kind : FaultClass)
  | incidentResolved (incident : IncidentId)
  | signalDiscarded (fiber : FiberId) (reason : String)
deriving DecidableEq

namespace RuntimeEvent

/-- The fiber that an event is about. -/
def fiber? : RuntimeEvent -> Option FiberId
  | .fiberSpawned fiber _ _ => some fiber
  | .fiberParked fiber _ _ => some fiber
  | .fiberResumed fiber _ => some fiber
  | .fiberEnded fiber => some fiber
  | .signalDiscarded fiber _ => some fiber
  | _ => none

/-- The job that an event is about. -/
def jobKey? : RuntimeEvent -> Option JobKey
  | .jobDispatched key _ => some key
  | .jobCompleted key => some key
  | .jobRetryScheduled key _ _ => some key
  | .jobErrorRouted key _ => some key
  | .jobDeadLettered key => some key
  | .jobCancelled key => some key
  | .jobRequeued key => some key
  | .completionIgnored key => some key
  | _ => none

/-- Whether the event ends the instance. -/
def isTerminal : RuntimeEvent -> Bool
  | .instanceCompleted => true
  | .instanceTerminated _ => true
  | .instanceCancelled _ => true
  | _ => false

instance : JsonCodec RuntimeEvent where
  encode event :=
    let write := Encode.tagged "event"
    match event with
    | .instanceStarted program correlation => write "instance_started"
      [("program", encode program), ("correlation_id", .text correlation)]
    | .instanceCompleted => write "instance_completed" []
    | .instanceTerminated node => write "instance_terminated"
      [("node", Encode.nullable encode node)]
    | .instanceCancelled reason => write "instance_cancelled" [("reason", .text reason)]
    | .fiberSpawned fiber parent pc => write "fiber_spawned" [("fiber", encode fiber),
      ("parent", Encode.nullable encode parent), ("pc", Encode.nat pc)]
    | .fiberParked fiber wait pc => write "fiber_parked"
      [("fiber", encode fiber), ("wait", .text wait), ("pc", Encode.nat pc)]
    | .fiberResumed fiber epoch => write "fiber_resumed"
      [("fiber", encode fiber), ("epoch", Encode.nat epoch)]
    | .fiberEnded fiber => write "fiber_ended" [("fiber", encode fiber)]
    | .counterIncremented counter value => write "counter_incremented"
      [("counter", .text counter), ("value", encode value)]
    | .joinActivated join activation expected => write "join_activated" [("join", encode join),
      ("activation", Encode.nat activation), ("expected", Encode.nat expected)]
    | .joinArrived join arrived expected => write "join_arrived" [("join", encode join),
      ("arrived", Encode.nat arrived), ("expected", Encode.nat expected)]
    | .joinSatisfied join activation => write "join_satisfied"
      [("join", encode join), ("activation", Encode.nat activation)]
    | .raceWon race target => write "race_won"
      [("race", encode race), ("target", Encode.nat target)]
    | .raceArmCancelled race target => write "race_arm_cancelled"
      [("race", encode race), ("target", Encode.nat target)]
    | .boundaryFired boundary interrupting => write "boundary_fired"
      [("boundary", encode boundary), ("interrupting", .bool interrupting)]
    | .jobDispatched key taskType => write "job_dispatched"
      [("job_key", encode key), ("task_type", .text taskType)]
    | .jobCompleted key => write "job_completed" [("job_key", encode key)]
    | .jobRetryScheduled key attempt notBefore => write "job_retry_scheduled"
      [("job_key", encode key), ("attempt", Encode.nat attempt), ("not_before", encode notBefore)]
    | .jobErrorRouted key code => write "job_error_routed"
      [("job_key", encode key), ("code", .text code)]
    | .jobDeadLettered key => write "job_dead_lettered" [("job_key", encode key)]
    | .jobCancelled key => write "job_cancelled" [("job_key", encode key)]
    | .jobRequeued key => write "job_requeued" [("job_key", encode key)]
    | .completionIgnored key => write "completion_ignored" [("job_key", encode key)]
    | .incidentRaised incident kind => write "incident_raised"
      [("incident", encode incident), ("class", encode kind)]
    | .incidentResolved incident => write "incident_resolved" [("incident", encode incident)]
    | .signalDiscarded fiber reason => write "signal_discarded"
      [("fiber", encode fiber), ("reason", .text reason)]
  reader := Decode.tagged "event" [
    ("instance_started", do
      return .instanceStarted (<- Decode.field "program" reader)
        (<- Decode.field "correlation_id" reader)),
    ("instance_completed", return .instanceCompleted),
    ("instance_terminated", do return .instanceTerminated (<- Decode.nullableField "node" reader)),
    ("instance_cancelled", do return .instanceCancelled (<- Decode.field "reason" reader)),
    ("fiber_spawned", do
      return .fiberSpawned (<- Decode.field "fiber" reader)
        (<- Decode.nullableField "parent" reader) (<- Decode.field "pc" Decode.nat32)),
    ("fiber_parked", do
      return .fiberParked (<- Decode.field "fiber" reader) (<- Decode.field "wait" reader)
        (<- Decode.field "pc" Decode.nat32)),
    ("fiber_resumed", do
      return .fiberResumed (<- Decode.field "fiber" reader) (<- Decode.field "epoch" Decode.nat64)),
    ("fiber_ended", do return .fiberEnded (<- Decode.field "fiber" reader)),
    ("counter_incremented", do
      return .counterIncremented (<- Decode.field "counter" reader)
        (<- Decode.field "value" reader)),
    ("join_activated", do
      return .joinActivated (<- Decode.field "join" reader)
        (<- Decode.field "activation" Decode.nat64) (<- Decode.field "expected" Decode.nat32)),
    ("join_arrived", do
      return .joinArrived (<- Decode.field "join" reader) (<- Decode.field "arrived" Decode.nat32)
        (<- Decode.field "expected" Decode.nat32)),
    ("join_satisfied", do
      return .joinSatisfied (<- Decode.field "join" reader)
        (<- Decode.field "activation" Decode.nat64)),
    ("race_won", do
      return .raceWon (<- Decode.field "race" reader) (<- Decode.field "target" Decode.nat32)),
    ("race_arm_cancelled", do
      return .raceArmCancelled (<- Decode.field "race" reader)
        (<- Decode.field "target" Decode.nat32)),
    ("boundary_fired", do
      return .boundaryFired (<- Decode.field "boundary" reader)
        (<- Decode.field "interrupting" reader)),
    ("job_dispatched", do
      return .jobDispatched (<- Decode.field "job_key" reader)
        (<- Decode.field "task_type" reader)),
    ("job_completed", do return .jobCompleted (<- Decode.field "job_key" reader)),
    ("job_retry_scheduled", do
      return .jobRetryScheduled (<- Decode.field "job_key" reader)
        (<- Decode.field "attempt" Decode.nat32) (<- Decode.field "not_before" reader)),
    ("job_error_routed", do
      return .jobErrorRouted (<- Decode.field "job_key" reader) (<- Decode.field "code" reader)),
    ("job_dead_lettered", do return .jobDeadLettered (<- Decode.field "job_key" reader)),
    ("job_cancelled", do return .jobCancelled (<- Decode.field "job_key" reader)),
    ("job_requeued", do return .jobRequeued (<- Decode.field "job_key" reader)),
    ("completion_ignored", do return .completionIgnored (<- Decode.field "job_key" reader)),
    ("incident_raised", do
      return .incidentRaised (<- Decode.field "incident" reader) (<- Decode.field "class" reader)),
    ("incident_resolved", do return .incidentResolved (<- Decode.field "incident" reader)),
    ("signal_discarded", do
      return .signalDiscarded (<- Decode.field "fiber" reader) (<- Decode.field "reason" reader))]

end RuntimeEvent

/-- An event with its number. -/
structure EventRecord where
  owner : InstanceId
  /-- The place of the event among those of the instance, from one. -/
  sequence : Nat
  time : Instant
  event : RuntimeEvent
deriving DecidableEq

instance : JsonCodec EventRecord where
  encode record := .object [("instance", encode record.owner),
    ("seq", Encode.nat record.sequence), ("at", encode record.time), ("event", encode record.event)]
  reader := Decode.record do
    return ⟨<- Decode.field "instance" reader, <- Decode.field "seq" Decode.nat64,
      <- Decode.field "at" reader, <- Decode.field "event" reader⟩

end ProcessEngine
