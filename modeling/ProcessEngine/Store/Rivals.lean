import ProcessEngine.Store.Basic

/-!
# Stores with rivals

A store that is shared with other writers: before each of the next commits to a stored
instance, a rival stores a new version of it with no other change, so the commit meets a
conflict.
-/

namespace ProcessEngine

/-- A store that others write to. -/
structure ContestedStore (Store : Type) where
  store : Store
  /-- How many commits a rival will come before. -/
  rivals : Nat := 0
  /-- The jobs that were written, in the order in which they were written first. -/
  written : List JobKey := []

/-- The transition of a rival: a new version and no other change. -/
def Transition.ofRival (record : ProcessInstance) : Transition where
  record := { record with version := record.version + 1 }
  base := some record.version
  time := record.updatedAt
  fibers := []
  endedFibers := []
  barriers := []
  jobs := []
  cancelledJobs := []
  completions := []
  incidents := []
  deadLetters := []
  removedDeadLetters := []
  events := []

namespace ContestedStore

variable {Store : Type}

/-- A request to the store itself. -/
def onStore {α : Type} (request : StoreAction Store α) : StoreAction (ContestedStore Store) α := do
  let contested <- getThe (ContestedStore Store)
  let (result, store) := request.run contested.store
  set { contested with store := store }
  liftExcept result

variable [ProcessStore Store]

/-- Lets a rival store a new version of an instance. -/
def rivalCommit (id : InstanceId) : StoreAction (ContestedStore Store) Unit := do
  let state? <- onStore (ProcessStore.state? id)
  state?.forM (fun state => onStore (ProcessStore.commit (.ofRival state.record)))
  modify (fun contested => { contested with rivals := contested.rivals - 1 })

/-- Adds the job of a write to those that were written before. -/
def noteJob (written : List JobKey) (write : JobWrite) : List JobKey :=
  if written.contains write.job.key then written else written ++ [write.job.key]

instance : ProcessStore (ContestedStore Store) where
  putProgram program := onStore (ProcessStore.putProgram program)
  program? hash := onStore (ProcessStore.program? hash)
  commit transition := do
    if transition.base.isSome && 0 < (<- getThe (ContestedStore Store)).rivals then
      rivalCommit transition.record.id
    onStore (ProcessStore.commit transition)
    modify (fun contested =>
      { contested with written := transition.jobs.foldl noteJob contested.written })
  state? id := onStore (ProcessStore.state? id)
  runnable := onStore ProcessStore.runnable
  job? key := onStore (ProcessStore.job? key)
  jobsOf id := onStore (ProcessStore.jobsOf id)
  claim request := onStore (ProcessStore.claim request)
  completion? key := onStore (ProcessStore.completion? key)
  eventsFrom id first := onStore (ProcessStore.eventsFrom id first)
  incident? id := onStore (ProcessStore.incident? id)
  incidents id? := onStore (ProcessStore.incidents id?)
  deadLetter? place := onStore (ProcessStore.deadLetter? place)
  deadLetters := onStore ProcessStore.deadLetters
  purge now := onStore (ProcessStore.purge now)
  dueTimers now := onStore (ProcessStore.dueTimers now)
  waiters name correlation := onStore (ProcessStore.waiters name correlation)
  size? := onStore ProcessStore.size?

end ContestedStore

end ProcessEngine
