import ProcessEngine.Join
import ProcessEngine.Transition

/-!
# Units of work

The working state of one atomic step on an instance. A unit of work holds a copy of the
instance's state and notes everything that its operations touch, so the transition that
it finishes with (`UnitOfWork.finish`) lists what has changed and leads from the state it
began with to the state it has reached.
-/

namespace ProcessEngine

/-- The working state of one step on an instance. -/
structure UnitOfWork where
  /-- The state as it is after the operations so far. -/
  state : InstanceState
  /-- The version of the stored state, or none for a new instance. -/
  base : Option Nat
  time : Instant
  /-- Where the identifiers of new fibers and incidents come from. -/
  supply : IdSupply
  /-- The fibers that may have changed and have not ended. -/
  touched : List FiberId := []
  endedFibers : List FiberId := []
  /-- The joins whose barriers may have changed. -/
  joins : List NodeKey := []
  jobs : List JobWrite := []
  cancelledJobs : List JobKey := []
  completions : List CompletionRecord := []
  incidents : List Incident := []
  deadLetters : List DeadLetter := []
  removedDeadLetters : List DeadLetterKey := []
  events : List RuntimeEvent := []

namespace UnitOfWork

/-- Work on an instance that is not stored yet. -/
def create (record : ProcessInstance) (time : Instant) (supply : IdSupply) : UnitOfWork where
  state := .ofRecord record
  base := none
  time := time
  supply := supply
  events := [.instanceStarted record.program record.correlation]

/-- Work on a stored state. -/
def begin (state : InstanceState) (time : Instant) (supply : IdSupply) : UnitOfWork where
  state := state
  base := some state.record.version
  time := time
  supply := supply

/-- The instance. -/
def record (work : UnitOfWork) : ProcessInstance := work.state.record

/-- The fiber of an identifier. -/
def fiber? (work : UnitOfWork) (id : FiberId) : Option Fiber := work.state.fiber? id

/-- Changes the record of the instance. -/
def updateRecord (work : UnitOfWork) (change : ProcessInstance -> ProcessInstance) : UnitOfWork :=
  { work with state := { work.state with record := change work.state.record } }

/-- Adds an event. -/
def emit (work : UnitOfWork) (event : RuntimeEvent) : UnitOfWork :=
  { work with events := work.events ++ [event] }

/-- Sets the fiber of an identifier. -/
def putFiber (work : UnitOfWork) (id : FiberId) (fiber : Fiber) : UnitOfWork :=
  { work with
    state := { work.state with fibers := work.state.fibers.insert id fiber }
    touched := work.touched.insert id }

/-- Changes a fiber, if it exists. -/
def updateFiber (work : UnitOfWork) (id : FiberId) (change : Fiber -> Fiber) : UnitOfWork :=
  match work.fiber? id with
  | some fiber => work.putFiber id (change fiber)
  | none => work

/-- Makes a fiber that can run from an address on. -/
def spawn (work : UnitOfWork) (pc : Address) (parent : Option FiberId) : FiberId × UnitOfWork :=
  let (sequence, record) := work.record.takeSequence
  let (id, supply) := work.supply.draw
  let numbered := { work with
    state := { work.state with record := record }
    supply := supply }
  (id, (numbered.putFiber id (.create id record.id sequence pc)).emit
    (.fiberSpawned id parent pc))

/-- Ends a fiber, if it exists. -/
def endFiber (work : UnitOfWork) (id : FiberId) : UnitOfWork :=
  match work.fiber? id with
  | none => work
  | some _ =>
    ({ work with
      state := { work.state with fibers := work.state.fibers.erase id }
      touched := work.touched.erase id
      endedFibers := work.endedFibers ++ [id] }).emit (.fiberEnded id)

/-- Lets a fiber wait at an address. -/
def park (work : UnitOfWork) (id : FiberId) (pc : Address) (wait : Wait) : UnitOfWork :=
  (work.updateFiber id (fun fiber => { fiber with pc := pc, wait := wait })).emit
    (.fiberParked id wait.label pc)

/-- Ends the wait of a fiber, if it exists; it goes on at an address. -/
def wake (work : UnitOfWork) (id : FiberId) (pc : Address) : UnitOfWork :=
  match work.fiber? id with
  | none => work
  | some fiber =>
    (work.putFiber id (fiber.wake pc)).emit (.fiberResumed id (fiber.wake pc).epoch)

/-- Activates a join; yields the number of the activation. -/
def activateJoin (work : UnitOfWork) (join : NodeKey) (expected : Nat) : Nat × UnitOfWork :=
  let (activation, state) := work.state.activateJoin join expected
  (activation, { work with state := state, joins := work.joins.insert join }.emit
    (.joinActivated join activation expected))

/-- The event of an arrival. -/
def arrivalEvent? (join : NodeKey) : Arrival -> Option RuntimeEvent
  | .waiting arrived expected => some (.joinArrived join arrived expected)
  | .satisfied activation => some (.joinSatisfied join activation)
  | .stale => none

/-- Spends a ticket. -/
def arrive (work : UnitOfWork) (ticket : JoinTicket) :
    Except LifecycleError (Arrival × UnitOfWork) := do
  let (arrival, state) <- work.state.arrive ticket
  return (arrival, { work with
    state := state
    joins := work.joins.insert ticket.join
    events := work.events ++ (arrivalEvent? ticket.join arrival).toList })

/-- Hands out a job. -/
def dispatch (work : UnitOfWork) (job : Job) : UnitOfWork :=
  { work.emit (.jobDispatched job.key job.taskType) with
    jobs := work.jobs ++ [JobWrite.dispatch job] }

/-- Replaces a job. -/
def updateJob (work : UnitOfWork) (job : Job) : UnitOfWork :=
  { work with jobs := work.jobs ++ [JobWrite.update job] }

/-- Cancels a job if it is open. -/
def cancelJob (work : UnitOfWork) (key : JobKey) : UnitOfWork :=
  { work.emit (.jobCancelled key) with cancelledJobs := work.cancelledJobs ++ [key] }

/-- Records a completion. -/
def recordCompletion (work : UnitOfWork) (completion : CompletionRecord) : UnitOfWork :=
  { work with completions := work.completions ++ [completion] }

/-- Stores an incident. -/
def putIncident (work : UnitOfWork) (incident : Incident) : UnitOfWork :=
  { work with incidents := work.incidents ++ [incident] }

/-- Stores a dead letter. -/
def putDeadLetter (work : UnitOfWork) (letter : DeadLetter) : UnitOfWork :=
  { work with deadLetters := work.deadLetters ++ [letter] }

/-- Removes a dead letter. -/
def removeDeadLetter (work : UnitOfWork) (place : DeadLetterKey) : UnitOfWork :=
  { work with removedDeadLetters := work.removedDeadLetters ++ [place] }

/-- Whether there is nothing to store. -/
def isEmpty (work : UnitOfWork) : Bool :=
  work.base.isSome && work.touched.isEmpty && work.endedFibers.isEmpty && work.joins.isEmpty &&
    work.jobs.isEmpty && work.cancelledJobs.isEmpty && work.completions.isEmpty &&
    work.incidents.isEmpty && work.deadLetters.isEmpty && work.removedDeadLetters.isEmpty &&
    work.events.isEmpty

/-- The fibers that may have changed, in the order in which they were made. -/
def touchedFibers (work : UnitOfWork) : List Fiber :=
  sortOn Fiber.sequence
    (work.state.fibers.filter (fun id _ => work.touched.contains id)).values

/-- The barriers that may have changed. -/
def touchedBarriers (work : UnitOfWork) : List JoinBarrier :=
  (work.state.barriers.filter (fun join _ => work.joins.contains join)).values

/-- The version that the work makes. -/
def nextVersion (work : UnitOfWork) : Nat :=
  match work.base with
  | some version => version + 1
  | none => 0

/-- The instance in the version that the work makes. -/
def finalRecord (work : UnitOfWork) : ProcessInstance :=
  { work.record with version := work.nextVersion, updatedAt := work.time }

/-- The transition to store and the state that it leads to. -/
def finish (work : UnitOfWork) : Transition × InstanceState :=
  ({ record := work.finalRecord
     base := work.base
     time := work.time
     fibers := work.touchedFibers
     endedFibers := work.endedFibers
     barriers := work.touchedBarriers
     jobs := work.jobs
     cancelledJobs := work.cancelledJobs
     completions := work.completions
     incidents := work.incidents
     deadLetters := work.deadLetters
     removedDeadLetters := work.removedDeadLetters
     events := work.events },
   { work.state with record := work.finalRecord })

end UnitOfWork

end ProcessEngine
