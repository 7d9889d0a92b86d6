import ProcessEngine.Proofs.Commits

/-!
# Instances that have ended

An instance that no longer runs has no fibers (`Engine.Ended`): whatever gives an instance its
final status ends its fibers first, and only instances that run are worked on.
-/

namespace ProcessEngine

namespace UnitOfWork

/-- The instance has the status that it had. -/
def Persists (work next : UnitOfWork) : Prop := next.record.status = work.record.status

/-- The work has no fibers. -/
def Vacant (work : UnitOfWork) : Prop := ∀ id, work.fiber? id = none

/-- If the instance does not run, it has no fibers. -/
def Ended (work : UnitOfWork) : Prop := work.record.isRunning = false -> work.Vacant

variable {first middle last work next : UnitOfWork} {fiber : Fiber} {program : Program}

theorem Persists.refl (work : UnitOfWork) : work.Persists work := rfl

theorem Persists.trans (earlier : first.Persists middle) (later : middle.Persists last) :
    first.Persists last := Eq.trans later earlier

theorem Persists.isRunning (persists : work.Persists next) :
    next.record.isRunning = work.record.isRunning :=
  congrArg (· == InstanceStatus.running) persists

/-- An instance that runs and keeps its status has not ended. -/
theorem Persists.ended (persists : work.Persists next) (running : work.record.isRunning = true) :
    next.Ended := by
  intro stopped
  rw [persists.isRunning, running] at stopped
  cases stopped

/-! ## Operations that keep the status -/

theorem persists_emit (work : UnitOfWork) (event : RuntimeEvent) :
    work.Persists (work.emit event) := rfl

theorem persists_putIncident (work : UnitOfWork) (incident : Incident) :
    work.Persists (work.putIncident incident) := rfl

theorem persists_updateFiber (work : UnitOfWork) (id : FiberId) (change : Fiber -> Fiber) :
    work.Persists (work.updateFiber id change) :=
  congrArg ProcessInstance.status (record_updateFiber work id change)

theorem persists_endFiber (work : UnitOfWork) (id : FiberId) :
    work.Persists (work.endFiber id) := by
  rw [endFiber]
  split
  · exact .refl work
  · rfl

theorem persists_park (work : UnitOfWork) (id : FiberId) (pc : Address) (wait : Wait) :
    work.Persists (work.park id pc wait) := persists_updateFiber work id _

theorem persists_wake (work : UnitOfWork) (id : FiberId) (pc : Address) :
    work.Persists (work.wake id pc) := by
  rw [wake]
  split
  · exact .refl work
  · rfl

theorem persists_retire (work : UnitOfWork) (id : FiberId) : work.Persists (work.retire id) :=
  @retire_keeps work work.Persists (fun _ persists => persists.trans (persists_endFiber _ _))
    (.refl work) id

theorem persists_branch (parent : Fiber) (ticket : JoinTicket) (work : UnitOfWork)
    (target : Address) : work.Persists (branch parent ticket work target) :=
  (congrArg ProcessInstance.status (record_branch work parent ticket target) :)

theorem persists_fork (work : UnitOfWork) (parent : Fiber) (join : NodeKey)
    (targets : List Address) : work.Persists (work.fork parent join targets) := by
  have activated : work.Persists (work.activateJoin join targets.length).2 := rfl
  exact (activated.trans (related_foldl Persists.refl Persists.trans
    (persists_branch parent _) targets _)).trans (persists_endFiber _ _)

theorem persists_arrive {ticket : JoinTicket} {arrival : Arrival}
    (arrives : work.arrive ticket = .ok (arrival, next)) : work.Persists next := by
  rw [arrive] at arrives
  cases counted : work.state.arrive ticket with
  | error error =>
    rw [counted] at arrives
    cases arrives
  | ok result =>
    obtain ⟨found, state⟩ := result
    rw [counted] at arrives
    cases arrives
    rcases arrive_cases counted with
      ⟨-, -, rfl⟩ | ⟨_, _, -, -, -, -, ⟨-, -, record⟩ | ⟨-, -, record⟩⟩
    · rfl
    · exact (congrArg ProcessInstance.status record :)
    · exact (congrArg ProcessInstance.status record :)

theorem persists_watchOver (work : UnitOfWork) (host : Fiber) (boundary : NodeKey)
    (duration : Nat) (interrupting : Bool) (target : Address) :
    work.Persists (work.watchOver host boundary duration interrupting target) :=
  (congrArg ProcessInstance.status
    (record_watchOver work host boundary duration interrupting target) :)

theorem persists_dropWatchdog (work : UnitOfWork) (fiber : Fiber) :
    work.Persists (work.dropWatchdog fiber) :=
  @dropWatchdog_keeps work work.Persists (fun _ persists => persists.trans (persists_endFiber _ _))
    fiber (persists_updateFiber work _ _)

theorem persists_halt (work : UnitOfWork) (incident : Incident) :
    work.Persists (work.halt incident) :=
  persists_park (work.emit (.incidentRaised incident.id incident.kind)) _ _ _

theorem persists_restart (work : UnitOfWork) (program : Program) (incident : Incident) :
    work.Persists (work.restart program incident).2 := by
  rw [restart]
  split
  · exact .refl work
  · split
    · exact persists_wake work _ _
    · exact .refl work

theorem persists_accept (work : UnitOfWork) (flags : Flags) (payload : Option Json) :
    work.Persists (work.updateRecord (fun record => record.accept flags payload)) := by
  cases payload with
  | none => rfl
  | some payload => rfl

theorem persists_cancelAwaitedJob (work : UnitOfWork) (fiber : Fiber) :
    work.Persists (work.cancelAwaitedJob fiber) := by
  rw [cancelAwaitedJob]
  split
  · rfl
  · rfl

theorem persists_interrupt (work : UnitOfWork) (host : FiberId) :
    work.Persists (work.interrupt host).2 := by
  rw [interrupt]
  split
  · exact .refl work
  · exact (persists_cancelAwaitedJob work _).trans (persists_endFiber _ _)

theorem persists_fire (work : UnitOfWork) (watchdog : FiberId) (watch : Watch) :
    work.Persists (work.fire watchdog watch) := by
  rw [fire]
  dsimp only
  refine .trans ?_ ((persists_updateFiber _ _ _).trans (persists_wake _ _ _))
  split
  · exact persists_interrupt (work.emit (.boundaryFired watch.boundary watch.interrupting)) _
  · exact persists_updateFiber (work.emit (.boundaryFired watch.boundary watch.interrupting)) _ _

theorem persists_deliver (work : UnitOfWork) (signal : WakeSignal) :
    work.Persists (work.deliver signal).2 := by
  rw [deliver]
  split
  · rfl
  · rename_i how _
    refine (persists_accept work signal.flags signal.payload).trans ?_
    cases how with
    | goOn pc => exact persists_wake _ _ _
    | win race winner losers =>
      have cancelled := related_foldl Persists.refl Persists.trans
        (fun (work : UnitOfWork) target =>
          show work.Persists (work.emit (.raceArmCancelled race target)) from rfl) losers
        ((work.updateRecord (fun record => record.accept signal.flags signal.payload)).emit
          (.raceWon race winner))
      exact cancelled.trans (persists_wake _ _ _)
    | fire watch => exact persists_fire _ _ _

/-! ## Operations that end an instance -/

theorem completeIfIdle_cases (work : UnitOfWork) :
    work.completeIfIdle = work ∨ work.Vacant ∧ work.completeIfIdle.Vacant := by
  rw [completeIfIdle]
  split
  · rename_i idle
    rw [Bool.and_eq_true, OrderedMap.isEmpty_iff] at idle
    exact .inr ⟨idle.2, idle.2⟩
  · exact .inl rfl

/-- Closing an instance ends all of its fibers. -/
theorem vacant_close (shapely : work.Shapely) {status : InstanceStatus} {event : RuntimeEvent}
    (closes : work.close status event = .ok next) : next.Vacant := by
  have effect : ∀ (fibers : List Fiber) (start : UnitOfWork) (asked : FiberId),
      (fibers.foldl (fun (work : UnitOfWork) fiber =>
        (work.cancelAwaitedJob fiber).endFiber fiber.id) start).fiber? asked =
          if asked ∈ fibers.map Fiber.id then none else start.fiber? asked := by
    intro fibers
    induction fibers with
    | nil => exact fun start asked => (if_neg List.not_mem_nil).symm
    | cons fiber rest ih =>
      intro start asked
      rw [List.foldl_cons, ih, fiber?_endFiber, fiber?_cancelAwaitedJob, List.map_cons]
      by_cases same : asked = fiber.id
      · simp [same]
      · simp [same]
  obtain ⟨-, rfl⟩ := close_cases closes
  intro asked
  rw [fiber?_conclude, effect]
  split
  · rfl
  · rename_i unlisted
    cases found : work.fiber? asked with
    | none => rfl
    | some fiber =>
      have same : fiber.id = asked := WellFormed.keyed shapely found
      refine absurd (List.mem_map.2 ⟨fiber, ?_, same⟩) unlisted
      exact mem_sortOn.2 ((OrderedMap.mem_values_iff _ _).2 ⟨asked, found⟩)

theorem ends_arriveAt {join : NodeKey} (arrives : work.arriveAt fiber join = .ok next) :
    work.Persists next ∨ next.Vacant := by
  have ends : ∀ {reached : UnitOfWork}, work.Persists reached ->
      work.Persists reached.completeIfIdle ∨ reached.completeIfIdle.Vacant := by
    intro reached persists
    rcases completeIfIdle_cases reached with same | ⟨-, vacant⟩
    · rw [same]
      exact .inl persists
    · exact .inr vacant
  cases arrivesAt arrives with
  | stray => exact ends (persists_retire work _)
  | satisfied holds counted =>
    exact .inl ((persists_arrive counted).trans (persists_updateFiber _ _ _))
  | waiting holds counted => exact .inl ((persists_arrive counted).trans (persists_retire _ _))
  | stale holds counted => exact ends ((persists_arrive counted).trans (persists_retire _ _))

theorem persists_prepared {before : UnitOfWork} (prepared : work.Prepared fiber before) :
    work.Persists before := by
  cases prepared with
  | same => rfl
  | changed computes stays => rfl

/-- A turn keeps the status or leaves no fibers. -/
theorem Turned.ends (shapely : work.Shapely) (turned : Turned program fiber work next) :
    work.Persists next ∨ next.Vacant := by
  cases turned with
  | compute reached computes lands => exact .inl rfl
  | storeFlag reached computes lands => exact .inl rfl
  | count reached computes lands => exact .inl rfl
  | handOut reached named => exact .inl (persists_park (work.dispatch _) _ _ _)
  | sleep reached => exact .inl (persists_park work _ _ _)
  | listen reached => exact .inl (persists_park work _ _ _)
  | consult reached => exact .inl (persists_park work _ _ _)
  | race reached leads => exact .inl (persists_park work _ _ _)
  | watch reached => exact .inl (persists_watchOver work _ _ _ _ _)
  | unwatch reached computes lands => exact .inl (persists_dropWatchdog (work.putFiber _ _) _)
  | fork reached named branches => exact .inl (persists_fork work _ _ _)
  | forkInclusive reached named branches chosen prepared =>
    exact .inl ((persists_prepared prepared).trans (persists_fork _ _ _ _))
  | join reached named arrives => exact ends_arriveAt arrives
  | finish reached =>
    rcases completeIfIdle_cases (work.retire fiber.id) with same | ⟨-, vacant⟩
    · rw [same]
      exact .inl (persists_retire work _)
    · exact .inr vacant
  | terminate reached closes => exact .inr (vacant_close shapely closes)
  | halt prepared =>
    have drawn : ∀ before : UnitOfWork,
        before.Persists { before with supply := ⟨before.supply.next + 1⟩ } := fun _ => rfl
    exact .inl (((persists_prepared prepared).trans (drawn _)).trans (persists_halt _ _))

/-- A turn of an instance that runs leaves no fibers if it ends the instance. -/
theorem Turned.ended (shapely : work.Shapely) (running : work.record.isRunning = true)
    (turned : Turned program fiber work next) : next.Ended := by
  rcases turned.ends shapely with persists | vacant
  · exact persists.ended running
  · exact fun _ => vacant

theorem Ran.ended (ran : Ran program work next) (shapely : work.Shapely) (ended : work.Ended) :
    next.Ended := by
  suffices next.Shapely ∧ next.Ended from this.2
  induction ran with
  | refl => exact ⟨shapely, ended⟩
  | step _ running found ready turned ih =>
    exact ⟨ih.1.turned found ready turned, turned.ended ih.1 running⟩

end UnitOfWork

open UnitOfWork

/-- A fiber that exists belongs to an instance that runs. -/
theorem UnitOfWork.Ended.running {work : UnitOfWork} (ended : work.Ended) {id : FiberId}
    {fiber : Fiber} (found : work.fiber? id = some fiber) : work.record.isRunning = true := by
  cases running : work.record.isRunning with
  | true => rfl
  | false =>
    rw [ended running id] at found
    cases found

theorem Job.persists_finished (job : Job) (event : RuntimeEvent) (work : UnitOfWork) :
    work.Persists (job.finished event work) := rfl

theorem Job.persists_applied (job : Job) (completion : JobCompletion) (pc : Address)
    (work : UnitOfWork) : work.Persists (job.applied completion pc work) := by
  have recorded : work.Persists
    (work.recordCompletion ⟨job.key, completion, true, work.time⟩) := rfl
  have finished := recorded.trans (job.persists_finished (.jobCompleted job.key) _)
  exact (finished.trans (persists_accept _ _ _)).trans (persists_wake _ _ _)

theorem Job.persists_stopped (job : Job) (kind : FaultClass) (problem : String)
    (address : Address) (work : UnitOfWork) :
    work.Persists (job.stopped kind problem address work) := by
  have drawn : work.Persists { work with supply := ⟨work.supply.next + 1⟩ } := rfl
  exact drawn.trans (persists_halt _ _)

theorem Job.persists_shelved (letter : DeadLetter) (work : UnitOfWork) :
    work.Persists (Job.shelved letter work) := rfl

/-- What comes of a failure keeps the status. -/
theorem Job.Failed.persists {job : Job} {program : Program} {work changed : UnitOfWork}
    {fiber : Fiber} {outcome : FailureOutcome}
    (failed : job.Failed program work fiber outcome changed) : work.Persists changed := by
  cases failed with
  | retry notBefore problem => rfl
  | bury kind problem expires =>
    exact (job.persists_stopped kind problem fiber.pc work).trans (Job.persists_shelved _ _)
  | route problem leads =>
    exact ((Job.persists_finished _ _ work).trans (persists_dropWatchdog _ _)).trans
      (persists_wake _ _ _)

/-- A change that ends an instance leaves no fibers. -/
theorem Intervened.ended {store : MemoryStore} {id : InstanceId} {program : Program}
    {work changed : UnitOfWork} {purpose : Purpose}
    (intervened : Intervened store id program work purpose changed) (shapely : work.Shapely)
    (ended : work.Ended) : changed.Ended := by
  cases intervened with
  | run => exact ended
  | cancel running closes => exact fun _ => vacant_close shapely closes
  | complete stored owned first wanted completion =>
    rename_i key job fiber
    exact (job.persists_applied completion fiber.pc work).ended (ended.running wanted.found)
  | record stored owned first unwanted completion => exact ended
  | fail stored owned wanted failed => exact failed.persists.ended (ended.running wanted.found)
  | dismiss => exact ended
  | deliver running signal => exact (persists_deliver work signal).ended running
  | discard => exact ended
  | restart stored settles running alone owned closed =>
    exact (((persists_emit work _).trans (persists_restart _ program _)).trans
      (persists_putIncident _ _)).ended running
  | settle stored settles owned closed => exact ended
  | requeue stored owned running found waits settles =>
    rename_i place letter fiber incident settled
    have requeued : work.Persists (letter.requeued fiber.pc work) := persists_park work _ _ _
    cases settles with
    | nothing => exact (requeued.trans (persists_emit _ _)).ended running
    | incident found settles closed =>
      exact (((requeued.trans (persists_emit _ _)).trans
        (persists_putIncident _ _)).trans (persists_emit _ _)).ended running
  | abandon stored owned => exact ended

namespace Engine

/-- Stored instances that do not run have no fibers. -/
def Ended (engine : Engine MemoryStore) : Prop :=
  ∀ id state, engine.store.states.get? id = some state -> state.record.isRunning = false ->
    ∀ asked, state.fiber? asked = none

theorem Advance.ended {scope : Scope} {engine next : Engine MemoryStore} (sound : engine.Sound)
    (ended : engine.Ended) (advance : Advance scope engine next) : next.Ended := by
  have keeps : ∀ {work : UnitOfWork}, engine.Storable work -> work.Ended ->
      next.store = engine.store.apply work.finish.1 -> next.Ended := by
    intro work storable reached store id state stored stopped
    rw [store, storable.states_apply] at stored
    split at stored
    · cases stored
      exact reached stopped
    · exact ended id state stored stopped
  cases advance.act sound with
  | nothing untouched =>
    rw [Ended, untouched.states]
    exact ended
  | create known absent ran store supply =>
    refine keeps (storable_create absent ran) (ran.ended (shapely_start _) ?_) store
    rintro ⟨⟩
  | slice known stored own admitted intervened ran store supply =>
    have begun := @shapely_begin _ _ engine.now _ (sound _ _ stored)
    have changed := intervened.ended begun (ended _ _ stored)
    exact keeps (storable_slice sound stored intervened ran).1
      (ran.ended (intervened.shapely begun) changed) store

theorem Fresh.ended {engine : Engine MemoryStore} (fresh : engine.Fresh) : engine.Ended := by
  intro id state stored
  rw [fresh.store] at stored
  cases stored

end Engine

end ProcessEngine
