import ProcessEngine.Store.Basic

/-!
# A store in memory

Everything is kept in maps, so a state that is loaded is the state that was stored. The
only request to be refused is a transition that did not begin with the stored version.
-/

namespace ProcessEngine

/-- A store that keeps everything in maps. -/
structure MemoryStore where
  programs : OrderedMap ProgramHash Program := .empty
  states : OrderedMap InstanceId InstanceState := .empty
  jobs : OrderedMap JobKey Job := .empty
  completions : OrderedMap JobKey CompletionRecord := .empty
  incidents : OrderedMap IncidentId Incident := .empty
  deadLetters : OrderedMap DeadLetterKey DeadLetter := .empty
  logs : OrderedMap InstanceId (List EventRecord) := .empty
deriving Inhabited

/-- Numbers events after the last one of a log. -/
def appendEvents (id : InstanceId) (time : Instant) (log : List EventRecord)
    (events : List RuntimeEvent) : List EventRecord :=
  let last := log.getLast?.elim 0 EventRecord.sequence
  log ++ events.zipIdx.map (fun (event, place) => ⟨id, last + place + 1, time, event⟩)

namespace MemoryStore

/-- Keeps a program under its hash. -/
def putProgram (store : MemoryStore) (program : Program) : Except ProgramError MemoryStore := do
  program.checkHash
  return { store with programs := store.programs.insertNew program.hash program }

/-- The stored version of an instance. -/
def version? (store : MemoryStore) (id : InstanceId) : Option Nat :=
  (store.states.get? id).map (fun state => state.record.version)

/-- Stores a change of a job. -/
def writeJob (jobs : OrderedMap JobKey Job) : JobWrite -> OrderedMap JobKey Job
  | .dispatch job => jobs.insertNew job.key job
  | .update job => jobs.insert job.key job

/-- Cancels a job if it is open. -/
def cancelJob (jobs : OrderedMap JobKey Job) (key : JobKey) : OrderedMap JobKey Job :=
  jobs.modify key (fun job => if job.status.isOpen then { job with status := .cancelled } else job)

/-- The state of an instance after a transition. -/
def nextState (store : MemoryStore) (transition : Transition) : InstanceState :=
  transition.applyTo ((store.states.get? transition.record.id).getD (.ofRecord transition.record))

/-- Stores a transition, whatever it began with. -/
def apply (store : MemoryStore) (transition : Transition) : MemoryStore :=
  let id := transition.record.id
  { store with
    states := store.states.insert id (store.nextState transition)
    jobs := transition.cancelledJobs.foldl cancelJob (transition.jobs.foldl writeJob store.jobs)
    completions := transition.completions.foldl (fun completions record =>
      completions.insertNew record.key record) store.completions
    incidents := transition.incidents.foldl (fun incidents incident =>
      incidents.insert incident.id incident) store.incidents
    deadLetters := transition.deadLetters.foldl (fun letters letter =>
        letters.insert letter.place letter)
      (transition.removedDeadLetters.foldl OrderedMap.erase store.deadLetters)
    logs := store.logs.insert id
      (appendEvents id transition.time (store.logs.getD id []) transition.events) }

/-- Stores a transition if it began with the stored version. -/
def commit (store : MemoryStore) (transition : Transition) : Except StoreError MemoryStore :=
  let found := store.version? transition.record.id
  if found = transition.base then .ok (store.apply transition)
  else .error (.conflict transition.record.id transition.base found)

/-- The states of running instances, the oldest first. -/
def runningStates (store : MemoryStore) : List InstanceState :=
  sortOn (fun state : InstanceState => state.record.createdAt)
    (store.states.values.filter (fun state => state.record.isRunning))

/-- The running instances with a fiber that can run, the oldest first. -/
def runnable (store : MemoryStore) : List InstanceId :=
  (store.runningStates.filter (fun state => !state.readyFibers.isEmpty)).map
    (fun state => state.record.id)

/-- The jobs of an instance, the oldest first. -/
def jobsOf (store : MemoryStore) (id : InstanceId) : List Job :=
  sortOn Job.createdAt (store.jobs.values.filter (fun job => job.owner == id))

/-- Whether a job is what a worker asks for. -/
def answers (request : ClaimRequest) (job : Job) : Bool :=
  request.taskTypes.contains job.taskType && job.isClaimable request.now request.lease

/-- The jobs to be handed out to a worker, as they were before. -/
def claimable (store : MemoryStore) (request : ClaimRequest) : List Job :=
  (sortOn Job.notBefore (sortOn Job.createdAt (store.jobs.values.filter (answers request)))).take
    request.limit

/-- Hands out jobs to a worker. -/
def claim (store : MemoryStore) (request : ClaimRequest) : List Job × MemoryStore :=
  let claimed := (store.claimable request).map (fun job => job.claim request.worker request.now)
  (claimed, { store with
    jobs := claimed.foldl (fun jobs job => jobs.insert job.key job) store.jobs })

/-- The events of an instance from a number on. -/
def eventsFrom (store : MemoryStore) (id : InstanceId) (first : Nat) : List EventRecord :=
  (store.logs.getD id []).filter (fun record => first ≤ record.sequence)

/-- The incidents of an instance or of all, the oldest first. -/
def incidentsOf (store : MemoryStore) (id? : Option InstanceId) : List Incident :=
  sortOn Incident.raisedAt (store.incidents.values.filter (fun incident =>
    id?.all (fun id => incident.owner == id)))

/-- All dead letters, the oldest first. -/
def deadLettersInOrder (store : MemoryStore) : List DeadLetter :=
  sortOn DeadLetter.deadLetteredAt store.deadLetters.values

/-- Drops the dead letters that have expired and counts them. -/
def purge (store : MemoryStore) (now : Instant) : Nat × MemoryStore :=
  let kept := store.deadLetters.filter (fun _ letter => !letter.isExpired now)
  (store.deadLetters.size - kept.size, { store with deadLetters := kept })

/-- The fibers of an instance whose waits are over, with the times at which they were. -/
def dueFibers (now : Instant) (state : InstanceState) : List (Instant × Fiber) :=
  state.fibersInOrder.filterMap (fun fiber => fiber.wait.due? >>= fun due =>
    if due ≤ now then some (due, fiber) else none)

/-- The fibers of running instances whose waits are over, in the order of their due times; of
several, those of older instances come first, and of these the ones made earlier. -/
def dueTimers (store : MemoryStore) (now : Instant) : List FiberReference :=
  let due := store.runningStates.flatMap (fun state =>
    (dueFibers now state).map (fun (due, fiber) => (due, state.record.createdAt, fiber)))
  let bySequence := sortOn (fun entry => entry.2.2.sequence) due
  let byAge := sortOn (fun entry => entry.2.1) bySequence
  (sortOn Prod.fst byAge).map (fun entry => entry.2.2.reference)

/-- The fibers of running instances that wait for a message, those of older instances first. -/
def waiters (store : MemoryStore) (name correlation : String) : List FiberReference :=
  (store.runningStates.flatMap (fun state =>
    state.fibersInOrder.filter (fun fiber => fiber.wait.awaits name correlation))).map
      Fiber.reference

open StoreAction in
instance : ProcessStore MemoryStore where
  putProgram program := change (fun store => (store.putProgram program).mapError .program)
  program? hash := read (fun store => .ok (store.programs.get? hash))
  commit transition := change (fun store => store.commit transition)
  state? id := read (fun store => .ok (store.states.get? id))
  runnable := read (fun store => .ok store.runnable)
  job? key := read (fun store => .ok (store.jobs.get? key))
  jobsOf id := read (fun store => .ok (store.jobsOf id))
  claim request := modifyGet (fun store => store.claim request)
  completion? key := read (fun store => .ok (store.completions.get? key))
  eventsFrom id first := read (fun store => .ok (store.eventsFrom id first))
  incident? id := read (fun store => .ok (store.incidents.get? id))
  incidents id? := read (fun store => .ok (store.incidentsOf id?))
  deadLetter? place := read (fun store => .ok (store.deadLetters.get? place))
  deadLetters := read (fun store => .ok store.deadLettersInOrder)
  purge now := modifyGet (fun store => store.purge now)
  dueTimers now := read (fun store => .ok (store.dueTimers now))
  waiters name correlation := read (fun store => .ok (store.waiters name correlation))
  size? := read (fun store => .ok (some ⟨store.states.size, store.jobs.size⟩))

end MemoryStore

end ProcessEngine
