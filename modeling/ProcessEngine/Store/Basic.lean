import ProcessEngine.Store.Error
import ProcessEngine.Transition

/-!
# Stores

What the engine asks of a store. The state of an instance changes only by a transition,
which is stored as a whole or not at all; claims change nothing but jobs. A store may
refuse any request, and keeps what it has.
-/

namespace ProcessEngine

/-- A fiber in one of its epochs. -/
structure FiberReference where
  owner : InstanceId
  fiber : FiberId
  epoch : Nat
deriving DecidableEq

/-- The written form of a reference. -/
def FiberReference.toJson (reference : FiberReference) : Json := .object [
  ("instance", encode reference.owner), ("fiber", encode reference.fiber),
  ("epoch", Encode.nat reference.epoch)]

/-- The reference to a fiber in its present epoch. -/
def Fiber.reference (fiber : Fiber) : FiberReference := ⟨fiber.owner, fiber.id, fiber.epoch⟩

/-- A worker's request for jobs. -/
structure ClaimRequest where
  taskTypes : List String
  worker : String
  /-- The greatest number of jobs to hand out. -/
  limit : Nat
  now : Instant
  /-- How many milliseconds earlier claims last. -/
  lease : Int
deriving DecidableEq

/-- How much a store holds. -/
structure StoreSize where
  instances : Nat
  jobs : Nat
deriving DecidableEq, Repr

/-- A request to a store. -/
abbrev StoreAction (Store : Type) := ExceptT StoreError (StateM Store)

/-- A request that only reads. -/
def StoreAction.read {Store : Type} {α : Type} (answer : Store -> Except StoreError α) :
    StoreAction Store α := do
  liftExcept (answer (<- get))

/-- A request that changes the store, or is refused and changes nothing. -/
def StoreAction.change {Store : Type} (update : Store -> Except StoreError Store) :
    StoreAction Store Unit := do
  set (<- liftExcept (update (<- get)))

/-- What can be asked of a store. -/
class ProcessStore (Store : Type) where
  /-- Keeps a program under its hash; one that is kept already stays. -/
  putProgram : Program -> StoreAction Store Unit
  program? : ProgramHash -> StoreAction Store (Option Program)
  /-- Stores a transition if it began with the stored version. -/
  commit : Transition -> StoreAction Store Unit
  state? : InstanceId -> StoreAction Store (Option InstanceState)
  /-- The running instances with a fiber that can run, the oldest first. -/
  runnable : StoreAction Store (List InstanceId)
  job? : JobKey -> StoreAction Store (Option Job)
  /-- The jobs of an instance, the oldest first. -/
  jobsOf : InstanceId -> StoreAction Store (List Job)
  /-- Hands out jobs to a worker, those that may be claimed longest first. -/
  claim : ClaimRequest -> StoreAction Store (List Job)
  completion? : JobKey -> StoreAction Store (Option CompletionRecord)
  /-- The events of an instance from a number on. -/
  eventsFrom : InstanceId -> Nat -> StoreAction Store (List EventRecord)
  incident? : IncidentId -> StoreAction Store (Option Incident)
  /-- The incidents of an instance or of all, the oldest first. -/
  incidents : Option InstanceId -> StoreAction Store (List Incident)
  deadLetter? : DeadLetterKey -> StoreAction Store (Option DeadLetter)
  /-- All dead letters, the oldest first. -/
  deadLetters : StoreAction Store (List DeadLetter)
  /-- Drops the dead letters that have expired and counts them. -/
  purge : Instant -> StoreAction Store Nat
  /-- The fibers of running instances whose waits are over by a time. -/
  dueTimers : Instant -> StoreAction Store (List FiberReference)
  /-- The fibers of running instances that wait for a message with a name and a correlation. -/
  waiters : String -> String -> StoreAction Store (List FiberReference)
  /-- How much the store holds, if it keeps count. -/
  size? : StoreAction Store (Option StoreSize)

end ProcessEngine
