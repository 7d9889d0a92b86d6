import ProcessEngine.Proofs.Attempts
import ProcessEngine.Proofs.Commits

/-!
# Transitions and the states that they lead to

A unit of work keeps its state and the lists of what it has changed side by side. Whatever
operations it performs, in whatever order, the lists keep up with the state
(`UnitOfWork.Recorded`), so the transition that it finishes with leads from the state that it
began with to the very state that it has reached (`UnitOfWork.finish_leads_to_state`).
-/

namespace ProcessEngine

/-- Fibers and barriers are found under their own names. -/
structure InstanceState.Keyed (state : InstanceState) : Prop where
  fibers : ∀ {id fiber}, state.fiber? id = some fiber -> fiber.id = id
  barriers : ∀ {join barrier}, state.barriers.get? join = some barrier -> barrier.join = join

theorem InstanceState.keyed_ofRecord (record : ProcessInstance) : (ofRecord record).Keyed where
  fibers found := by cases found
  barriers found := by cases found

/-- An operation of a unit of work. -/
inductive WorkOperation where
  /-- Changes a fiber, if it exists; it keeps its identifier. -/
  | editFiber (id : FiberId) (change : Fiber -> Fiber)
    (keeps : ∀ fiber, (change fiber).id = fiber.id)
  /-- Changes the record of the instance in any way. -/
  | editRecord (change : ProcessInstance -> ProcessInstance)
  /-- Lets identifiers come from elsewhere. -/
  | resupply (supply : IdSupply)
  | spawn (pc : Address) (parent : Option FiberId)
  | endFiber (id : FiberId)
  | park (id : FiberId) (pc : Address) (wait : Wait)
  | wake (id : FiberId) (pc : Address)
  | activateJoin (join : NodeKey) (expected : Nat)
  /-- Spends a ticket; an arrival that is one too many changes nothing. -/
  | arrive (ticket : JoinTicket)
  | dispatch (job : Job)
  | updateJob (job : Job)
  | cancelJob (key : JobKey)
  | recordCompletion (completion : CompletionRecord)
  | putIncident (incident : Incident)
  | putDeadLetter (letter : DeadLetter)
  | removeDeadLetter (place : DeadLetterKey)
  | emit (event : RuntimeEvent)

namespace UnitOfWork

/-- Performs an operation. -/
def perform (work : UnitOfWork) : WorkOperation -> UnitOfWork
  | .editFiber id change _ => work.updateFiber id change
  | .editRecord change => work.updateRecord change
  | .resupply supply => { work with supply := supply }
  | .spawn pc parent => (work.spawn pc parent).2
  | .endFiber id => work.endFiber id
  | .park id pc wait => work.park id pc wait
  | .wake id pc => work.wake id pc
  | .activateJoin join expected => (work.activateJoin join expected).2
  | .arrive ticket => ((work.arrive ticket).toOption.map Prod.snd).getD work
  | .dispatch job => work.dispatch job
  | .updateJob job => work.updateJob job
  | .cancelJob key => work.cancelJob key
  | .recordCompletion completion => work.recordCompletion completion
  | .putIncident incident => work.putIncident incident
  | .putDeadLetter letter => work.putDeadLetter letter
  | .removeDeadLetter place => work.removeDeadLetter place
  | .emit event => work.emit event

/-- Performs one operation after another. -/
def performAll (work : UnitOfWork) (operations : List WorkOperation) : UnitOfWork :=
  operations.foldl perform work

/-! ## The lists keep up with the state -/

/-- The work goes on from a stored version, its fibers are found under their own identifiers, and
it has noted how it differs from a state. -/
structure Recorded (base : InstanceState) (version : Option Nat) (work : UnitOfWork) : Prop where
  version : work.base = version
  keyed : ∀ {id fiber}, work.fiber? id = some fiber -> fiber.id = id
  notes : work.Notes base

namespace Recorded

variable {work next : UnitOfWork} {base : InstanceState} {version : Option Nat} {id : FiberId}

/-- What goes on and gives no fiber another identifier stays recorded. -/
theorem step (recorded : Recorded base version work) (continues : work.Continues next)
    (keyed : ∀ {id fiber}, next.fiber? id = some fiber -> fiber.id = id) :
    Recorded base version next :=
  ⟨continues.base.trans recorded.version, keyed, continues.notes base recorded.notes⟩

/-- So does what leaves the fibers as they are. -/
theorem of_same (recorded : Recorded base version work) (continues : work.Continues next)
    (same : ∀ id, next.fiber? id = work.fiber? id) : Recorded base version next :=
  recorded.step continues (fun {id _} found => recorded.keyed ((same id).symm.trans found))

/-- So does what changes one fiber and keeps its identifier. -/
theorem of_change (recorded : Recorded base version work) (continues : work.Continues next)
    {change : Fiber -> Fiber} (changed : ∀ asked, next.fiber? asked =
      if asked = id then (work.fiber? asked).map change else work.fiber? asked)
    (keeps : ∀ fiber, (change fiber).id = fiber.id) :
    Recorded base version next := by
  apply recorded.step continues
  intro asked fiber found
  rw [changed] at found
  split at found
  · obtain ⟨former, before, rfl⟩ := Option.map_eq_some_iff.1 found
    exact (keeps former).trans (recorded.keyed before)
  · exact recorded.keyed found

theorem spawn (recorded : Recorded base version work) (pc : Address) (parent : Option FiberId) :
    Recorded base version (work.spawn pc parent).2 := by
  apply recorded.step (steady_spawn work pc parent).toContinues
  intro asked fiber found
  rw [fiber?_spawn] at found
  split at found
  · rename_i same
    cases found
    exact same.symm
  · exact recorded.keyed found

theorem endFiber (recorded : Recorded base version work) :
    Recorded base version (work.endFiber id) := by
  apply recorded.step (steady_endFiber work id).toContinues
  intro asked fiber found
  rw [fiber?_endFiber] at found
  split at found
  · cases found
  · exact recorded.keyed found

theorem arrive (recorded : Recorded base version work) (ticket : JoinTicket) :
    Recorded base version (((work.arrive ticket).toOption.map Prod.snd).getD work) := by
  cases arrives : work.arrive ticket with
  | error error => exact recorded
  | ok result =>
    obtain ⟨arrival, next⟩ := result
    exact recorded.of_same (steady_arrive arrives).toContinues
      (fun id => fiber?_arrive _ id arrives)

/-- Every operation keeps the lists up with the state. -/
theorem perform (recorded : Recorded base version work) (operation : WorkOperation) :
    Recorded base version (work.perform operation) := by
  have unnoted : ∀ {next : UnitOfWork}, next.base = work.base -> next.state = work.state ->
      next.touched = work.touched -> next.endedFibers = work.endedFibers ->
      next.joins = work.joins -> Recorded base version next := by
    intro next
    rcases next with ⟨⟩
    rintro rfl rfl rfl rfl rfl
    exact ⟨recorded.version, recorded.keyed, recorded.notes⟩
  cases operation with
  | editFiber id change keeps =>
    exact recorded.of_change (steady_updateFiber work id change).toContinues
      (fun asked => fiber?_updateFiber work id asked change) keeps
  | editRecord change => exact ⟨recorded.version, recorded.keyed, recorded.notes⟩
  | spawn pc parent => exact recorded.spawn pc parent
  | endFiber id => exact recorded.endFiber
  | park id pc wait =>
    exact recorded.of_change (steady_park work id pc wait).toContinues
      (fun asked => fiber?_park work id asked pc wait) (fun _ => rfl)
  | wake id pc =>
    exact recorded.of_change (steady_wake work id pc).toContinues
      (fun asked => fiber?_wake work id asked pc) (fun _ => rfl)
  | activateJoin join expected =>
    exact recorded.of_same (steady_activateJoin work join expected).toContinues (fun _ => rfl)
  | arrive ticket => exact recorded.arrive ticket
  | resupply | dispatch | updateJob | cancelJob | recordCompletion | putIncident | putDeadLetter
  | removeDeadLetter | emit => exact unnoted rfl rfl rfl rfl rfl

/-- So do any number of operations. -/
theorem performAll (recorded : Recorded base version work) (operations : List WorkOperation) :
    Recorded base version (work.performAll operations) := by
  induction operations generalizing work with
  | nil => exact recorded
  | cons operation rest ih => exact ih (recorded.perform operation)

/-- The transition leads from the state that the work began with to the one it has reached. -/
theorem applyTo (recorded : Recorded base version work) :
    work.finish.1.applyTo base = work.finish.2 :=
  applyTo_finish recorded.keyed recorded.notes

/-- The state that is reached is in order again. -/
theorem reached (recorded : Recorded base version work) : work.finish.2.Keyed :=
  ⟨recorded.keyed, recorded.notes.named _ _⟩

end Recorded

theorem recorded_begin {state : InstanceState} (keyed : state.Keyed) (time : Instant)
    (supply : IdSupply) :
    Recorded state (some state.record.version) (begin state time supply) :=
  ⟨rfl, keyed.fibers, .refl (fun _ _ => keyed.barriers)⟩

theorem recorded_create (record other : ProcessInstance) (time : Instant) (supply : IdSupply) :
    Recorded (.ofRecord other) none (create record time supply) := by
  refine ⟨rfl, (InstanceState.keyed_ofRecord record).fibers, .refl ?_⟩
  intro join barrier found
  cases found

/-- What a store then has of an instance: the state that the work has reached. -/
theorem Recorded.outcome_commit {store : MemoryStore} {work : UnitOfWork} {base : InstanceState}
    {version : Option Nat} (recorded : Recorded base version work) {found : Option InstanceState}
    (stored : store.states.get? work.record.id = found)
    (current : found.map (fun state => state.record.version) = version)
    (begun : found.getD (.ofRecord work.finalRecord) = base) :
    outcome (do
        ProcessStore.commit work.finish.1
        ProcessStore.state? work.finish.1.record.id) store =
      (.ok (some work.finish.2), store.apply work.finish.1) := by
  subst found
  have accepted := MemoryStore.outcome_commit_of_current work.finish.1 store
    (current.trans recorded.version.symm)
  have reached : (store.apply work.finish.1).states.get? work.finish.1.record.id =
      some work.finish.2 := by
    have next : store.nextState work.finish.1 = work.finish.2 :=
      (congrArg work.finish.1.applyTo begun).trans recorded.applyTo
    rw [← next]
    exact OrderedMap.get?_insert_self _ _ _
  rw [outcome_bind_ok accepted, ← reached]
  rfl

/-- The transition of a unit of work is its state. Whatever operations are performed on a stored
state whose fibers and barriers are found under their own names, or for a new instance, the
transition leads from there to the state that was reached; and whoever loads the instance after
the transition was stored over what it began with finds this state. -/
theorem finish_leads_to_state (time : Instant) (supply : IdSupply)
    (operations : List WorkOperation) :
    (∀ state : InstanceState, state.Keyed -> ∀ transition reached,
      ((begin state time supply).performAll operations).finish = (transition, reached) ->
        transition.applyTo state = reached ∧
        ∀ store : MemoryStore, store.states.get? transition.record.id = some state ->
          ∃ next, outcome (do
              ProcessStore.commit transition
              ProcessStore.state? transition.record.id) store = (.ok (some reached), next)) ∧
    (∀ record : ProcessInstance, ∀ transition reached,
      ((create record time supply).performAll operations).finish = (transition, reached) ->
        transition.applyTo (.ofRecord transition.record) = reached ∧
        ∀ store : MemoryStore, store.states.get? transition.record.id = none ->
          ∃ next, outcome (do
              ProcessStore.commit transition
              ProcessStore.state? transition.record.id) store = (.ok (some reached), next)) := by
  constructor
  · rintro state keyed transition reached ⟨⟩
    have recorded := (recorded_begin keyed time supply).performAll operations
    exact ⟨recorded.applyTo, fun store stored => ⟨_, recorded.outcome_commit stored rfl rfl⟩⟩
  · rintro record transition reached ⟨⟩
    have recorded := fun other =>
      (recorded_create record other time supply).performAll operations
    exact ⟨(recorded _).applyTo,
      fun store absent => ⟨_, (recorded _).outcome_commit absent rfl rfl⟩⟩

/-! ## A fiber that ends and is made again -/

namespace Redrawn

/-- A stored instance with one fiber and a join that expects two. -/
def state : InstanceState :=
  ((create (.create ⟨0⟩ TaskRun.program.hash .null "" default) default ⟨1⟩).performAll
    [.spawn 0 none, .activateJoin ⟨"j", Eq.refl true⟩ 2]).finish.2

/-- The fiber goes on and ends; then one is made under the same identifier. -/
def operations : List WorkOperation :=
  [.wake ⟨1⟩ 1, .arrive ⟨⟨"j", Eq.refl true⟩, 1⟩, .endFiber ⟨1⟩, .spawn 5 none]

def work : UnitOfWork := (begin state default ⟨1⟩).performAll operations

/-- A store of the instance. -/
def store : MemoryStore := { states := OrderedMap.empty.insert ⟨0⟩ state }

end Redrawn

/-- Although the fiber is noted as ended and as changed, the new one is there in the end. -/
theorem finish_leads_to_state_of_redrawn :
    (∃ next, outcome (do
        ProcessStore.commit Redrawn.work.finish.1
        ProcessStore.state? Redrawn.work.finish.1.record.id) Redrawn.store =
      (.ok (some Redrawn.work.finish.2), next)) ∧
    (Redrawn.work.finish.2.fiber? ⟨1⟩).map Fiber.pc = some 5 := by
  have keyed : Redrawn.state.Keyed :=
    ((recorded_create _ (.create ⟨0⟩ TaskRun.program.hash .null "" default) _ _).performAll
      _).reached
  have same : Redrawn.work.record.id = ⟨0⟩ := by decide +kernel
  have stored : Redrawn.store.states.get? Redrawn.work.record.id = some Redrawn.state := by
    rw [same]
    exact OrderedMap.get?_insert_self _ _ _
  obtain ⟨-, loads⟩ :=
    (finish_leads_to_state default ⟨1⟩ Redrawn.operations).1 Redrawn.state keyed _ _ rfl
  exact ⟨loads Redrawn.store stored, by decide +kernel⟩

end UnitOfWork

end ProcessEngine
