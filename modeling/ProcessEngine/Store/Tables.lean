import ProcessEngine.Store.Basic
import ProcessEngine.Store.Column

/-!
# A store in database tables

A row keeps a document of what it stores and beside it the columns that queries select
by. Columns keep less than documents: times to the microsecond and numbers of 63 bits.
What is listed is ordered by the documents. An instance needs the row of its program and
a fiber the row of its instance. A transition that any row refuses leaves the tables as
they were.
-/

namespace ProcessEngine

/-- The row of a fiber. -/
structure FiberRow where
  sequence : Nat
  ready : Bool
  due : Option Instant
  epoch : Nat
  /-- The messages that end the wait, by name and correlation. -/
  messages : List (String × String)
  document : Json

/-- The row of an event. -/
structure EventRow where
  sequence : Nat
  time : Instant
  document : Json

/-- The row of an instance, with the rows that depend on it. -/
structure InstanceRow where
  status : InstanceStatus
  version : Nat
  createdAt : Instant
  document : Json
  fibers : OrderedMap FiberId FiberRow := .empty
  barriers : OrderedMap NodeKey JoinBarrier := .empty
  log : List EventRow := []

/-- The row of a job. -/
structure JobRow where
  owner : InstanceId
  taskType : String
  status : JobStatus
  notBefore : Instant
  claimedAt : Option Instant
  createdAt : Instant
  document : Json

/-- The row of an incident. -/
structure IncidentRow where
  owner : InstanceId
  document : Json

/-- The row of a dead letter. -/
structure DeadLetterRow where
  expiresAt : Instant
  document : Json

/-- A store in database tables. -/
structure TableStore where
  /-- Whether the tables exist. -/
  isMigrated : Bool := true
  /-- The texts of programs by hash. -/
  programs : OrderedMap ProgramHash String := .empty
  instances : OrderedMap InstanceId InstanceRow := .empty
  jobs : OrderedMap JobKey JobRow := .empty
  completions : OrderedMap JobKey Json := .empty
  incidents : OrderedMap IncidentId IncidentRow := .empty
  deadLetters : OrderedMap DeadLetterKey DeadLetterRow := .empty

/-- The messages that end a wait, by name and correlation. -/
def Wait.messages : Wait -> List (String × String)
  | .message name correlation => [(name, correlation)]
  | .race _ arms => arms.filterMap (fun arm =>
    match arm.trigger with
    | .message name correlation => some (name, correlation)
    | .timer _ => none)
  | _ => []

namespace TableStore

/-- A time that may be missing. -/
def optionalTime (value : Option Instant) : Except StoreError (Option Instant) :=
  value.mapM Column.time

/-! ## Writing rows -/

/-- Adds the row of a new instance. -/
def insertInstance (store : TableStore) (record : ProcessInstance) :
    Except StoreError TableStore := do
  Column.text record.correlation
  let document <- Column.document record
  let createdAt <- Column.time record.createdAt
  let _ <- Column.time record.updatedAt
  match store.instances.get? record.id with
  | some row => throw (.conflict record.id none (some row.version))
  | none =>
    if !store.programs.contains record.program then Column.refuse
    let row : InstanceRow := {
      status := record.status, version := Column.number record.version,
      createdAt := createdAt, document := document }
    return { store with instances := store.instances.insert record.id row }

/-- Changes the row of an instance that is stored in a version. -/
def updateInstance (store : TableStore) (record : ProcessInstance) (base : Nat) :
    Except StoreError TableStore := do
  let document <- Column.document record
  let _ <- Column.time record.updatedAt
  match store.instances.get? record.id with
  | none => throw (.conflict record.id (some base) none)
  | some row =>
    if row.version ≠ Column.number base then
      throw (.conflict record.id (some base) (some row.version))
    let changed := { row with
      status := record.status, version := Column.number record.version, document := document }
    return { store with instances := store.instances.insert record.id changed }

/-- Changes the row of an instance, if there is one. -/
def withInstance (store : TableStore) (id : InstanceId) (change : InstanceRow -> InstanceRow) :
    TableStore :=
  { store with instances := store.instances.modify id change }

/-- Removes the row of a fiber. -/
def deleteFiber (id : InstanceId) (store : TableStore) (fiber : FiberId) : TableStore :=
  store.withInstance id (fun row => { row with fibers := row.fibers.erase fiber })

/-- Adds or changes the row of a fiber. -/
def writeFiber (store : TableStore) (fiber : Fiber) : Except StoreError TableStore := do
  let due <- optionalTime fiber.wait.due?
  let document <- Column.document fiber
  if !store.instances.contains fiber.owner then Column.refuse
  return store.withInstance fiber.owner (fun row =>
    let added : FiberRow := {
      sequence := (row.fibers.get? fiber.id).elim (Column.number fiber.sequence) FiberRow.sequence
      ready := fiber.wait.isReady
      due := due
      epoch := Column.number fiber.epoch
      messages := fiber.wait.messages
      document := document }
    { row with fibers := row.fibers.insert fiber.id added })

/-- Adds or changes the row of a barrier. -/
def writeBarrier (id : InstanceId) (store : TableStore) (barrier : JoinBarrier) : TableStore :=
  let kept := { barrier with activation := Column.number barrier.activation }
  store.withInstance id (fun row => { row with barriers := row.barriers.insert barrier.join kept })

/-- Adds or changes the row of a job. -/
def writeJob (store : TableStore) (write : JobWrite) : Except StoreError TableStore := do
  let job := write.job
  Column.text job.key.text
  Column.text job.taskType
  let added : JobRow := {
    owner := job.owner, taskType := job.taskType, status := job.status,
    notBefore := <- Column.time job.notBefore, claimedAt := <- optionalTime job.claimedAt,
    createdAt := <- Column.time job.createdAt, document := <- Column.document job }
  let row := match store.jobs.get? job.key, write with
    | none, _ => added
    | some row, .dispatch _ => row
    | some row, .update _ => { row with
      status := added.status, notBefore := added.notBefore, claimedAt := added.claimedAt,
      document := added.document }
  return { store with jobs := store.jobs.insert job.key row }

/-- A document with one member replaced. -/
def replaceMember (name : String) (value : Json) : Json -> Json
  | .object members => .object (members.map (fun member =>
    if member.1 = name then (name, value) else member))
  | other => other

/-- Cancels the job of a row if it is open. -/
def cancelJob (store : TableStore) (key : JobKey) : Except StoreError TableStore := do
  Column.text key.text
  let cancelled (row : JobRow) : JobRow :=
    if row.status.isOpen then { row with
      status := .cancelled
      document := replaceMember "status" (encode JobStatus.cancelled) row.document }
    else row
  return { store with jobs := store.jobs.modify key cancelled }

/-- Adds the row of a completion unless there is one. -/
def writeCompletion (store : TableStore) (record : CompletionRecord) :
    Except StoreError TableStore := do
  Column.text record.key.text
  let _ <- Column.time record.recordedAt
  return { store with
    completions := store.completions.insertNew record.key (<- Column.document record) }

/-- Adds or changes the row of an incident. -/
def writeIncident (store : TableStore) (incident : Incident) : Except StoreError TableStore := do
  let _ <- Column.time incident.raisedAt
  let document <- Column.document incident
  let row := match store.incidents.get? incident.id with
    | some row => { row with document := document }
    | none => ⟨incident.owner, document⟩
  return { store with incidents := store.incidents.insert incident.id row }

/-- Checks the place of a dead letter. -/
def checkPlace (place : DeadLetterKey) : Except StoreError Unit := do
  Column.text place.taskType
  Column.text place.job.text

/-- Removes the row of a dead letter. -/
def deleteDeadLetter (store : TableStore) (place : DeadLetterKey) :
    Except StoreError TableStore := do
  checkPlace place
  return { store with deadLetters := store.deadLetters.erase place }

/-- Adds or replaces the row of a dead letter. -/
def writeDeadLetter (store : TableStore) (letter : DeadLetter) :
    Except StoreError TableStore := do
  checkPlace letter.place
  let _ <- Column.time letter.deadLetteredAt
  let row : DeadLetterRow := ⟨<- Column.time letter.expiresAt, <- Column.document letter⟩
  return { store with deadLetters := store.deadLetters.insert letter.place row }

/-- Adds the row of an event. -/
def writeEvent (id : InstanceId) (time : Instant) (store : TableStore) (event : RuntimeEvent) :
    Except StoreError TableStore := do
  let time <- Column.time time
  let document <- Column.document event
  return store.withInstance id (fun row =>
    let last := row.log.getLast?.elim 0 EventRow.sequence
    { row with log := row.log ++ [⟨last + 1, time, document⟩] })

/-- Stores a transition. -/
def commit (store : TableStore) (transition : Transition) : Except StoreError TableStore := do
  let id := transition.record.id
  let store <- match transition.base with
    | none => store.insertInstance transition.record
    | some base => store.updateInstance transition.record base
  let store := transition.endedFibers.foldl (deleteFiber id) store
  let store <- transition.fibers.foldlM writeFiber store
  let store := transition.barriers.foldl (writeBarrier id) store
  let store <- transition.jobs.foldlM writeJob store
  let store <- transition.cancelledJobs.foldlM cancelJob store
  let store <- transition.completions.foldlM writeCompletion store
  let store <- transition.incidents.foldlM writeIncident store
  let store <- transition.removedDeadLetters.foldlM deleteDeadLetter store
  let store <- transition.deadLetters.foldlM writeDeadLetter store
  transition.events.foldlM (writeEvent id transition.time) store

/-- Adds the text of a program. -/
def putProgram (store : TableStore) (program : Program) : TableStore :=
  { store with programs := store.programs.insertNew program.hash program.toText }

/-! ## Reading rows -/

/-- The program of a hash, read from its text. -/
def program? (store : TableStore) (hash : ProgramHash) : Except StoreError (Option Program) :=
  (store.programs.get? hash).mapM (fun text => (Program.ofText text).mapError .program)

/-- The state that rows hold. -/
def InstanceRow.state (row : InstanceRow) : Except StoreError InstanceState := do
  let record <- Column.value row.document
  let rows := sortOn FiberRow.sequence row.fibers.values
  let fibers : List Fiber <- rows.mapM (fun fiber => Column.value fiber.document)
  return ⟨record, .ofList (fibers.map (fun fiber => (fiber.id, fiber))), row.barriers⟩

/-- The rows of running instances, the oldest first. -/
def runningRows (store : TableStore) : List (InstanceId × InstanceRow) :=
  sortOn (fun entry => entry.2.createdAt)
    (store.instances.toList.filter (fun entry => entry.2.status == .running))

/-- The running instances with a fiber that can run, the oldest first. -/
def runnable (store : TableStore) : List InstanceId :=
  (store.runningRows.filter (fun entry => entry.2.fibers.values.any FiberRow.ready)).map Prod.fst

/-- The job of a key. -/
def job? (store : TableStore) (key : JobKey) : Except StoreError (Option Job) := do
  Column.text key.text
  (store.jobs.get? key).mapM (fun row => Column.value row.document)

/-- The jobs of an instance, the oldest first. -/
def jobsOf (store : TableStore) (id : InstanceId) : Except StoreError (List Job) := do
  let rows := store.jobs.values.filter (fun row => row.owner == id)
  return sortOn Job.createdAt (<- rows.mapM (fun row => Column.value row.document))

/-- Whether the job of a row may be claimed when claims that began by a time are over. -/
def isClaimable (now cutoff : Instant) (row : JobRow) : Bool :=
  match row.status with
  | .pending => row.notBefore ≤ now
  | .claimed => row.claimedAt.any (fun claimedAt => claimedAt ≤ cutoff)
  | _ => false

/-- Hands out jobs to a worker. -/
def claim (store : TableStore) (request : ClaimRequest) :
    Except StoreError (List Job × TableStore) := do
  request.taskTypes.forM Column.text
  let now <- Column.time request.now
  let cutoff <- Column.time (request.now.shifted (-request.lease * Instant.perMillisecond))
  let rows := store.jobs.toList.filter (fun entry =>
    request.taskTypes.contains entry.2.taskType && isClaimable now cutoff entry.2)
  let byAge := sortOn (fun entry => entry.2.createdAt) rows
  let chosen := (sortOn (fun entry => entry.2.notBefore) byAge).take request.limit
  let take (found : List Job × TableStore) (entry : JobKey × JobRow) :
      Except StoreError (List Job × TableStore) := do
    let job : Job <- Column.value entry.2.document
    let claimed := job.claim request.worker request.now
    let document <- Column.document claimed
    let row := { entry.2 with
      status := claimed.status, claimedAt := some now, document := document }
    return (found.1 ++ [claimed],
      { found.2 with jobs := found.2.jobs.insert entry.1 row })
  let (claimed, store) <- (sortOn Prod.fst chosen).foldlM take ([], store)
  return (sortOn Job.notBefore (sortOn Job.createdAt claimed), store)

/-- The completion of a job. -/
def completion? (store : TableStore) (key : JobKey) :
    Except StoreError (Option CompletionRecord) := do
  Column.text key.text
  (store.completions.get? key).mapM Column.value

/-- The events of an instance from a number on. -/
def eventsFrom (store : TableStore) (id : InstanceId) (first : Nat) :
    Except StoreError (List EventRecord) :=
  let rows := (store.instances.get? id).elim [] InstanceRow.log
  (rows.filter (fun row => Column.number first ≤ row.sequence)).mapM (fun row => do
    return ⟨id, row.sequence, row.time, <- Column.value row.document⟩)

/-- The incident of an identifier. -/
def incident? (store : TableStore) (id : IncidentId) : Except StoreError (Option Incident) :=
  (store.incidents.get? id).mapM (fun row => Column.value row.document)

/-- The incidents of an instance or of all, the oldest first. -/
def incidentsOf (store : TableStore) (id? : Option InstanceId) :
    Except StoreError (List Incident) := do
  let rows := store.incidents.values.filter (fun row => id?.all (fun id => row.owner == id))
  return sortOn Incident.raisedAt (<- rows.mapM (fun row => Column.value row.document))

/-- The dead letter at a place. -/
def deadLetter? (store : TableStore) (place : DeadLetterKey) :
    Except StoreError (Option DeadLetter) := do
  checkPlace place
  (store.deadLetters.get? place).mapM (fun row => Column.value row.document)

/-- All dead letters, the oldest first. -/
def deadLettersInOrder (store : TableStore) : Except StoreError (List DeadLetter) := do
  return sortOn DeadLetter.deadLetteredAt
    (<- store.deadLetters.values.mapM (fun row => Column.value row.document))

/-- Drops the dead letters that have expired and counts them. -/
def purge (store : TableStore) (now : Instant) : Except StoreError (Nat × TableStore) := do
  let now <- Column.time now
  let kept := store.deadLetters.filter (fun _ row => decide (now < row.expiresAt))
  return (store.deadLetters.size - kept.size, { store with deadLetters := kept })

/-- The fibers of running instances with the rows of both. -/
def runningFibers (store : TableStore) : List (InstanceId × InstanceRow × FiberId × FiberRow) :=
  let fibers := store.runningRows.flatMap (fun (id, row) =>
    row.fibers.toList.map (fun (fiberId, fiber) => (id, row, fiberId, fiber)))
  sortOn (fun (_, row, _, _) => row.createdAt)
    (sortOn (fun (_, _, _, fiber) => fiber.sequence) fibers)

/-- The reference to the fiber of a row. -/
def reference (entry : InstanceId × InstanceRow × FiberId × FiberRow) : FiberReference :=
  ⟨entry.1, entry.2.2.1, entry.2.2.2.epoch⟩

/-- The fibers of running instances whose waits are over by a time. -/
def dueTimers (store : TableStore) (now : Instant) : Except StoreError (List FiberReference) := do
  let now <- Column.time now
  let due := store.runningFibers.filterMap (fun entry => entry.2.2.2.due >>= fun due =>
    if due ≤ now then some (due, reference entry) else none)
  return (sortOn Prod.fst due).map Prod.snd

/-- The fibers of running instances that wait for a message. -/
def waiters (store : TableStore) (name correlation : String) :
    Except StoreError (List FiberReference) := do
  Column.text name
  Column.text correlation
  return (store.runningFibers.filter (fun entry =>
    entry.2.2.2.messages.contains (name, correlation))).map reference

/-! ## Requests -/

/-- Refuses every request while there are no tables. -/
def whenMigrated {α : Type} (request : StoreAction TableStore α) : StoreAction TableStore α := do
  if (<- getThe TableStore).isMigrated then request else throw .refused

/-- Answers a request. -/
def read {α : Type} (answer : TableStore -> Except StoreError α) : StoreAction TableStore α :=
  whenMigrated (StoreAction.read answer)

/-- Answers a request that changes rows. -/
def update {α : Type} (change : TableStore -> Except StoreError (α × TableStore)) :
    StoreAction TableStore α :=
  whenMigrated (do
    let (result, store) <- liftExcept (change (<- get))
    set store
    return result)

instance : ProcessStore TableStore where
  putProgram program := do
    liftExcept (program.checkHash.mapError StoreError.program)
    update (fun store => .ok ((), store.putProgram program))
  program? hash := read (fun store => store.program? hash)
  commit transition := update (fun store => do return ((), <- store.commit transition))
  state? id := read (fun store => (store.instances.get? id).mapM InstanceRow.state)
  runnable := read (fun store => .ok store.runnable)
  job? key := read (fun store => store.job? key)
  jobsOf id := read (fun store => store.jobsOf id)
  claim request := update (fun store => store.claim request)
  completion? key := read (fun store => store.completion? key)
  eventsFrom id first := read (fun store => store.eventsFrom id first)
  incident? id := read (fun store => store.incident? id)
  incidents id? := read (fun store => store.incidentsOf id?)
  deadLetter? place := read (fun store => store.deadLetter? place)
  deadLetters := read TableStore.deadLettersInOrder
  purge now := update (fun store => store.purge now)
  dueTimers now := read (fun store => store.dueTimers now)
  waiters name correlation := read (fun store => store.waiters name correlation)
  size? := return none

end TableStore

end ProcessEngine
