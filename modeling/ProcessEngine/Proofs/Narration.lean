import ProcessEngine.Proofs.Sparing

/-!
# What operations tell the log

An event says what has changed about its instance: its status, its fibers, its counters and its
joins (`Course`). Every operation adds just the events that lead from the course of the instance
before to the one after. Most operations are calm (`UnitOfWork.Calm`): they change neither jobs
nor incidents, and their events do not speak of any. Only the last event of a unit of work ends
the instance (`UnitOfWork.Concludes`).
-/

namespace ProcessEngine

/-! ## What events say -/

/-- What is left of the status of a job when it does not matter whether a worker has claimed
it. -/
inductive JobPhase where
  | pending
  | completed
  | deadLettered
  | cancelled
deriving DecidableEq, Repr

/-- The phase of a status. -/
def JobStatus.phase : JobStatus -> JobPhase
  | .pending => .pending
  | .claimed => .pending
  | .completed => .completed
  | .deadLettered => .deadLettered
  | .cancelled => .cancelled

namespace RuntimeEvent

/-- The status that an event gives its instance, if it ends it. -/
def ending? : RuntimeEvent -> Option InstanceStatus
  | .instanceCompleted => some .completed
  | .instanceTerminated _ => some .terminated
  | .instanceCancelled _ => some .cancelled
  | _ => none

/-- The phase that an event gives a job, if it is about one. -/
def jobPhase? : RuntimeEvent -> Option (JobKey × JobPhase)
  | .jobDispatched key _ => some (key, .pending)
  | .jobCompleted key => some (key, .completed)
  | .jobRetryScheduled key _ _ => some (key, .pending)
  | .jobErrorRouted key _ => some (key, .completed)
  | .jobDeadLettered key => some (key, .deadLettered)
  | .jobCancelled key => some (key, .cancelled)
  | .jobRequeued key => some (key, .pending)
  | _ => none

/-- Whether an incident is open after an event, if the event is about one. -/
def incidentPhase? : RuntimeEvent -> Option (IncidentId × Bool)
  | .incidentRaised incident _ => some (incident, true)
  | .incidentResolved incident => some (incident, false)
  | _ => none

/-- The event neither ends the instance nor changes a job or an incident. -/
structure IsPlain (event : RuntimeEvent) : Prop where
  ending : event.ending? = none
  job : event.jobPhase? = none
  incident : event.incidentPhase? = none

/-- Plain events are of the kind, and so are those of cancelled jobs. -/
structure Covers (kind : RuntimeEvent -> Prop) : Prop where
  plain : ∀ {event}, event.IsPlain -> kind event
  cancelled : ∀ key, kind (.jobCancelled key)

theorem covers_lasting : Covers (fun event => event.ending? = none) :=
  ⟨IsPlain.ending, fun _ => rfl⟩

theorem covers_incidents : Covers (fun event => event.incidentPhase? = none) :=
  ⟨IsPlain.incident, fun _ => rfl⟩

/-- An event that ends its instance does not let it run. -/
theorem ending_ne_running {event : RuntimeEvent} {status : InstanceStatus}
    (ends : event.ending? = some status) : status ≠ .running := by
  cases event with
  | instanceCompleted | instanceTerminated _ | instanceCancelled _ =>
    cases ends
    exact nofun
  | _ => cases ends

/-- An event that ends its instance is not about a job. -/
theorem jobPhase_of_ending {event : RuntimeEvent} {status : InstanceStatus}
    (ends : event.ending? = some status) : event.jobPhase? = none := by
  cases event with
  | instanceCompleted | instanceTerminated _ | instanceCancelled _ => rfl
  | _ => cases ends

/-- An event that ends its instance is not about an incident. -/
theorem incidentPhase_of_ending {event : RuntimeEvent} {status : InstanceStatus}
    (ends : event.ending? = some status) : event.incidentPhase? = none := by
  cases event with
  | instanceCompleted | instanceTerminated _ | instanceCancelled _ => rfl
  | _ => cases ends

end RuntimeEvent

/-- What the log tells about an instance itself. -/
structure Course where
  status : InstanceStatus
  /-- The fibers that live. -/
  live : OrderedMap FiberId Unit
  counters : Counters
  barriers : OrderedMap NodeKey JoinBarrier
  /-- How many fibers each join expects, for the joins that expect any. -/
  expected : OrderedMap NodeKey Nat
deriving DecidableEq

namespace Course

/-- The course after an event. -/
def after (course : Course) : RuntimeEvent -> Course
  | .instanceCompleted => { course with status := .completed }
  | .instanceTerminated _ => { course with status := .terminated }
  | .instanceCancelled _ => { course with status := .cancelled }
  | .fiberSpawned fiber _ _ => { course with live := course.live.insert fiber () }
  | .fiberEnded fiber => { course with live := course.live.erase fiber }
  | .counterIncremented counter value =>
    { course with counters := course.counters.insert counter value }
  | .joinActivated join activation expected =>
    { course with
      barriers := course.barriers.insert join ⟨join, activation, 0⟩
      expected := course.expected.insert join expected }
  | .joinArrived join arrived _ =>
    { course with barriers := course.barriers.modify join (fun barrier =>
        { barrier with arrived := arrived }) }
  -- The last fiber that was expected has arrived.
  | .joinSatisfied join _ =>
    { course with
      barriers := course.barriers.modify join (fun barrier =>
        { barrier with arrived := barrier.arrived + 1 })
      expected := course.expected.erase join }
  | _ => course

/-- An event that ends an instance changes nothing but the status. -/
theorem after_ending (course : Course) {event : RuntimeEvent} {status : InstanceStatus}
    (ends : event.ending? = some status) :
    course.after event = { course with status := status } := by
  cases event with
  | instanceCompleted | instanceTerminated _ | instanceCancelled _ =>
    cases ends
    rfl
  | _ => cases ends

/-- Only an event that ends an instance changes the status. -/
theorem status_after (course : Course) {event : RuntimeEvent} (lasting : event.ending? = none) :
    (course.after event).status = course.status := by
  cases event with
  | instanceCompleted | instanceTerminated _ | instanceCancelled _ => cases lasting
  | _ => rfl

end Course

/-- The course that an instance has taken. -/
def InstanceState.course (state : InstanceState) : Course where
  status := state.record.status
  live := state.fibers.map (fun _ _ => ())
  counters := state.record.counters
  barriers := state.barriers
  expected := state.record.expected

/-! ## Operations -/

namespace UnitOfWork

/-- The events that were added lead from the course before to the one after, and each of them is of
a kind. -/
def Tells (kind : RuntimeEvent -> Prop) (work next : UnitOfWork) : Prop :=
  ∃ events, next.events = work.events ++ events ∧
    events.foldl Course.after work.state.course = next.state.course ∧ ∀ event ∈ events, kind event

/-- Nothing has become of jobs and incidents, and the events that were added say just that. -/
structure Calm (work next : UnitOfWork) : Prop extends Steady work next where
  incidents : next.incidents = work.incidents
  tells : Tells RuntimeEvent.IsPlain work next

/-- The events that were added lead to the course that the instance has taken, and none ends it. -/
abbrev Lasts (work next : UnitOfWork) : Prop :=
  Tells (fun event => event.ending? = none) work next

/-- The instance goes on, or the last thing that has happened is its end. -/
def Concludes (work next : UnitOfWork) : Prop :=
  work.Lasts next ∨ ∃ middle status event, work.Lasts middle ∧
    middle.record.isRunning = true ∧ event.ending? = some status ∧
    next = middle.conclude status event

variable {kind : RuntimeEvent -> Prop} {first middle last work next : UnitOfWork}
  {fiber : Fiber} {program : Program}

theorem Tells.refl (kind : RuntimeEvent -> Prop) (work : UnitOfWork) : Tells kind work work :=
  ⟨[], (List.append_nil _).symm, rfl, nofun⟩

theorem Tells.trans (earlier : Tells kind first middle) (later : Tells kind middle last) :
    Tells kind first last := by
  obtain ⟨events, added, leads, fits⟩ := earlier
  obtain ⟨events', added', leads', fits'⟩ := later
  refine ⟨events ++ events', by rw [added', added, List.append_assoc], ?_, fun event listed => ?_⟩
  · rw [List.foldl_append, leads, leads']
  · exact (List.mem_append.1 listed).elim (fits event) (fits' event)

/-- Work that adds no event must not change the course. -/
theorem tells_of_same (events : next.events = work.events)
    (course : next.state.course = work.state.course) : Tells kind work next :=
  ⟨[], events.trans (List.append_nil _).symm, course.symm, nofun⟩

/-- Work that adds one event must lead where the event leads. -/
theorem tells_event {event : RuntimeEvent} (fits : kind event)
    (events : next.events = work.events ++ [event])
    (course : next.state.course = work.state.course.after event) : Tells kind work next :=
  ⟨[event], events, course.symm, by simpa using fits⟩

/-- An event that says nothing about the course may be added. -/
theorem tells_emit (work : UnitOfWork) {event : RuntimeEvent} (fits : kind event)
    (silent : work.state.course.after event = work.state.course) :
    Tells kind work (work.emit event) := tells_event fits rfl silent.symm

theorem Calm.refl (work : UnitOfWork) : work.Calm work := ⟨.refl work, rfl, .refl _ work⟩

theorem Calm.trans (earlier : first.Calm middle) (later : middle.Calm last) :
    first.Calm last where
  toSteady := earlier.toSteady.trans later.toSteady
  incidents := later.incidents.trans earlier.incidents
  tells := earlier.tells.trans later.tells

/-- What is calm is told by events of every kind that covers plain ones. -/
theorem Calm.covered (calm : work.Calm next) (covers : RuntimeEvent.Covers kind) :
    Tells kind work next := by
  obtain ⟨events, added, leads, plain⟩ := calm.tells
  exact ⟨events, added, leads, fun event listed => covers.plain (plain event listed)⟩

/-- What is calm does not end the instance. -/
theorem Calm.lasts (calm : work.Calm next) : work.Lasts next :=
  calm.covered RuntimeEvent.covers_lasting

/-- An instance that goes on keeps its status. -/
theorem Lasts.status (lasts : work.Lasts next) : next.record.status = work.record.status := by
  obtain ⟨events, -, leads, lasting⟩ := lasts
  have kept : ∀ (events : List RuntimeEvent) (course : Course),
      (∀ event ∈ events, event.ending? = none) ->
      (events.foldl Course.after course).status = course.status := by
    intro events
    induction events with
    | nil => exact fun course _ => rfl
    | cons event rest ih =>
      intro course lasting
      rw [List.foldl_cons, ih _ (fun later listed => lasting later (List.mem_cons_of_mem _ listed))]
      exact course.status_after (lasting event List.mem_cons_self)
  have same := kept events work.state.course lasting
  rw [leads] at same
  exact same

theorem Lasts.isRunning (lasts : work.Lasts next) :
    next.record.isRunning = work.record.isRunning :=
  congrArg (· == InstanceStatus.running) lasts.status

/-! ### Calm operations -/

theorem calm_emit (work : UnitOfWork) {event : RuntimeEvent} (plain : event.IsPlain)
    (silent : work.state.course.after event = work.state.course) : work.Calm (work.emit event) :=
  ⟨steady_emit work event, rfl, tells_emit work plain silent⟩

theorem calm_updateRecord (work : UnitOfWork) {change : ProcessInstance -> ProcessInstance}
    (id : (change work.record).id = work.record.id)
    (program : (change work.record).program = work.record.program)
    (sequence : work.record.nextSequence ≤ (change work.record).nextSequence)
    (status : (change work.record).status = work.record.status)
    (counters : (change work.record).counters = work.record.counters)
    (expected : (change work.record).expected = work.record.expected) :
    work.Calm (work.updateRecord change) := by
  refine ⟨steady_updateRecord work id program sequence, rfl, tells_of_same rfl ?_⟩
  change Course.mk (change work.record).status _ (change work.record).counters _
    (change work.record).expected = _
  rw [status, counters, expected]
  rfl

/-- A fiber that is there may be changed. -/
theorem calm_putFiber {id : FiberId} (found : work.fiber? id = some fiber) (changed : Fiber) :
    work.Calm (work.putFiber id changed) := by
  refine ⟨steady_putFiber work id changed, rfl, tells_of_same rfl ?_⟩
  have live : (work.state.fibers.insert id changed).map (fun _ _ => ()) =
      work.state.fibers.map (fun _ _ => ()) := by
    apply OrderedMap.ext_get?
    intro asked
    rw [OrderedMap.get?_map, OrderedMap.get?_map, OrderedMap.get?_insert]
    split
    · rename_i same
      rw [same, show work.state.fibers.get? id = some fiber from found]
      rfl
    · rfl
  exact congrArg (Course.mk work.record.status · work.record.counters work.state.barriers
    work.record.expected) live

theorem calm_updateFiber (work : UnitOfWork) (id : FiberId) (change : Fiber -> Fiber) :
    work.Calm (work.updateFiber id change) := by
  rw [updateFiber]
  split
  · rename_i fiber found
    exact calm_putFiber found _
  · exact .refl work

theorem calm_spawn (work : UnitOfWork) (pc : Address) (parent : Option FiberId) :
    work.Calm (work.spawn pc parent).2 := by
  refine ⟨steady_spawn work pc parent, rfl, tells_event ⟨rfl, rfl, rfl⟩ rfl ?_⟩
  have live : (work.state.fibers.insert ⟨work.supply.next⟩ (.create ⟨work.supply.next⟩
      work.record.id work.record.nextSequence pc)).map (fun _ _ => ()) =
      (work.state.fibers.map (fun _ _ => ())).insert ⟨work.supply.next⟩ () := by
    apply OrderedMap.ext_get?
    intro asked
    rw [OrderedMap.get?_map, OrderedMap.get?_insert, OrderedMap.get?_insert, OrderedMap.get?_map]
    split
    · rfl
    · rfl
  exact congrArg (Course.mk work.record.status · work.record.counters work.state.barriers
    work.record.expected) live

theorem calm_endFiber (work : UnitOfWork) (id : FiberId) : work.Calm (work.endFiber id) := by
  refine ⟨steady_endFiber work id, incidents_endFiber work id, ?_⟩
  rw [endFiber]
  split
  · exact .refl _ work
  · refine tells_event ⟨rfl, rfl, rfl⟩ rfl ?_
    have live : (work.state.fibers.erase id).map (fun _ _ => ()) =
        (work.state.fibers.map (fun _ _ => ())).erase id := by
      apply OrderedMap.ext_get?
      intro asked
      rw [OrderedMap.get?_map, OrderedMap.get?_erase, OrderedMap.get?_erase, OrderedMap.get?_map]
      split
      · rfl
      · rfl
    exact congrArg (Course.mk work.record.status · work.record.counters work.state.barriers
      work.record.expected) live

theorem calm_park (work : UnitOfWork) (id : FiberId) (pc : Address) (wait : Wait) :
    work.Calm (work.park id pc wait) :=
  (calm_updateFiber work id _).trans (calm_emit _ ⟨rfl, rfl, rfl⟩ rfl)

theorem calm_wake (work : UnitOfWork) (id : FiberId) (pc : Address) :
    work.Calm (work.wake id pc) := by
  rw [wake]
  split
  · exact .refl work
  · rename_i fiber found
    exact (calm_putFiber found _).trans (calm_emit _ ⟨rfl, rfl, rfl⟩ rfl)

theorem calm_retire (work : UnitOfWork) (id : FiberId) : work.Calm (work.retire id) :=
  @retire_keeps work work.Calm (fun _ calm => calm.trans (calm_endFiber _ _)) (.refl work) id

theorem calm_branch (parent : Fiber) (ticket : JoinTicket) (work : UnitOfWork)
    (target : Address) : work.Calm (branch parent ticket work target) :=
  (calm_spawn work target (some parent.id)).trans (calm_updateFiber _ _ _)

theorem calm_activateJoin (work : UnitOfWork) (join : NodeKey) (expected : Nat) :
    work.Calm (work.activateJoin join expected).2 :=
  ⟨steady_activateJoin work join expected, rfl, tells_event ⟨rfl, rfl, rfl⟩ rfl rfl⟩

theorem calm_fork (work : UnitOfWork) (parent : Fiber) (join : NodeKey)
    (targets : List Address) : work.Calm (work.fork parent join targets) :=
  ((calm_activateJoin work join _).trans
    (related_foldl .refl .trans (calm_branch parent _) targets _)).trans (calm_endFiber _ _)

/-- The event of an arrival tells how many have arrived, and the last one that no more are
expected. -/
theorem calm_arrive {ticket : JoinTicket} {arrival : Arrival}
    (arrives : work.arrive ticket = .ok (arrival, next)) : work.Calm next := by
  refine ⟨steady_arrive arrives, incidents_arrive arrives, ?_⟩
  rw [arrive] at arrives
  cases counted : work.state.arrive ticket with
  | error error =>
    rw [counted] at arrives
    cases arrives
  | ok result =>
    obtain ⟨found, state⟩ := result
    rw [counted] at arrives
    cases arrives
    rcases arrive_cases counted with
      ⟨-, rfl, rfl⟩ | ⟨barrier, expected, admitted, -, fibers, barriers, outcome⟩
    · exact tells_of_same (List.append_nil _) rfl
    · have present := (barrier_of_admission admitted).1
      have counts : ∀ change : JoinBarrier -> JoinBarrier,
          change barrier = { barrier with arrived := barrier.arrived + 1 } ->
          work.state.barriers.modify ticket.join change = state.barriers := by
        intro change changes
        apply OrderedMap.ext_get?
        intro asked
        rw [barriers, OrderedMap.get?_modify, OrderedMap.get?_insert]
        split
        · rename_i same
          rw [same, present, Option.map_some, changes]
        · rfl
      rcases outcome with ⟨-, rfl, record⟩ | ⟨-, rfl, record⟩
      · refine tells_event ⟨rfl, rfl, rfl⟩ rfl ?_
        rw [InstanceState.course, record, fibers,
          ← counts (fun barrier => { barrier with arrived := barrier.arrived + 1 }) rfl]
        rfl
      · refine tells_event ⟨rfl, rfl, rfl⟩ rfl ?_
        rw [InstanceState.course, record, fibers, ← counts (fun other =>
          { other with arrived := barrier.arrived + 1 }) rfl]
        rfl

theorem calm_watchOver (work : UnitOfWork) (host : Fiber) (boundary : NodeKey)
    (duration : Nat) (interrupting : Bool) (target : Address) :
    work.Calm (work.watchOver host boundary duration interrupting target) :=
  ((calm_spawn work _ _).trans (calm_updateFiber _ _ _)).trans (calm_updateFiber _ _ _)

theorem calm_dropWatchdog (work : UnitOfWork) (fiber : Fiber) :
    work.Calm (work.dropWatchdog fiber) :=
  @dropWatchdog_keeps work work.Calm (fun _ calm => calm.trans (calm_endFiber _ _)) fiber
    (calm_updateFiber work _ _)

theorem calm_accept (work : UnitOfWork) (flags : Flags) (payload : Option Json) :
    work.Calm (work.updateRecord (fun record => record.accept flags payload)) := by
  cases payload with
  | none => exact calm_updateRecord work rfl rfl (Nat.le_refl _) rfl rfl rfl
  | some payload => exact calm_updateRecord work rfl rfl (Nat.le_refl _) rfl rfl rfl

theorem calm_restart (work : UnitOfWork) (program : Program) (incident : Incident) :
    work.Calm (work.restart program incident).2 := by
  rw [restart]
  split
  · exact .refl work
  · split
    · exact calm_wake work _ _
    · exact .refl work

theorem calm_prepared {before : UnitOfWork} (found : work.fiber? fiber.id = some fiber)
    (prepared : work.Prepared fiber before) : work.Calm before := by
  cases prepared with
  | same => exact .refl work
  | changed computes stays => exact calm_putFiber found _

/-! ### Operations that end an instance -/

/-- The event that ends an instance tells the status that it gets. -/
theorem course_conclude (work : UnitOfWork) {status : InstanceStatus} {event : RuntimeEvent}
    (ends : event.ending? = some status) :
    (work.conclude status event).state.course = work.state.course.after event :=
  (work.state.course.after_ending ends).symm

theorem Lasts.concludes (lasts : work.Lasts next) : work.Concludes next := .inl lasts

theorem Lasts.trans_concludes (lasts : first.Lasts middle) (concludes : middle.Concludes last) :
    first.Concludes last := by
  rcases concludes with later | ⟨before, status, event, later, running, ends, rfl⟩
  · exact .inl (lasts.trans later)
  · exact .inr ⟨before, status, event, lasts.trans later, running, ends, rfl⟩

theorem concludes_completeIfIdle (work : UnitOfWork) : work.Concludes work.completeIfIdle := by
  rw [completeIfIdle]
  split
  · rename_i idle
    rw [Bool.and_eq_true] at idle
    exact .inr ⟨work, _, _, .refl _ work, idle.1, rfl, rfl⟩
  · exact .inl (.refl _ work)

theorem calm_arriveAt {join : NodeKey} (arrives : work.arriveAt fiber join = .ok next) :
    ∃ middle, work.Calm middle ∧ (next = middle ∨ next = middle.completeIfIdle) := by
  cases arrivesAt arrives with
  | stray => exact ⟨_, calm_retire work _, .inr rfl⟩
  | satisfied holds counted =>
    exact ⟨_, (calm_arrive counted).trans (calm_updateFiber _ _ _), .inl rfl⟩
  | waiting holds counted => exact ⟨_, (calm_arrive counted).trans (calm_retire _ _), .inl rfl⟩
  | stale holds counted => exact ⟨_, (calm_arrive counted).trans (calm_retire _ _), .inr rfl⟩

theorem lasts_dispatch (work : UnitOfWork) (job : Job) : work.Lasts (work.dispatch job) :=
  tells_event rfl rfl rfl

theorem tells_cancelAwaitedJob (covers : RuntimeEvent.Covers kind) (work : UnitOfWork)
    (fiber : Fiber) : Tells kind work (work.cancelAwaitedJob fiber) := by
  rw [cancelAwaitedJob]
  split
  · exact tells_event (covers.cancelled _) rfl rfl
  · exact .refl _ work

/-- The fibers of an instance may end one after another. -/
theorem tells_endFibers (covers : RuntimeEvent.Covers kind) (fibers : List Fiber)
    (work : UnitOfWork) :
    Tells kind work (fibers.foldl (fun (work : UnitOfWork) fiber =>
      (work.cancelAwaitedJob fiber).endFiber fiber.id) work) :=
  related_foldl (.refl kind) .trans (fun work fiber => (tells_cancelAwaitedJob covers work
    fiber).trans ((calm_endFiber _ _).covered covers)) fibers work

theorem lasts_halt (work : UnitOfWork) (incident : Incident) : work.Lasts (work.halt incident) := by
  have logged : work.Lasts (work.emit (.incidentRaised incident.id incident.kind)) :=
    tells_emit work rfl rfl
  exact (logged.trans (calm_park _ _ _ _).lasts).trans (tells_of_same rfl rfl)

theorem lasts_raise (work : UnitOfWork) (symbols : SymbolTable) (fiber : FiberId)
    (address : Address) (kind : FaultClass) (message : String) :
    work.Lasts (work.raise symbols fiber address kind message) := by
  have drawn : work.Lasts { work with supply := ⟨work.supply.next + 1⟩ } := tells_of_same rfl rfl
  exact drawn.trans (lasts_halt _ _)

theorem concludes_close {status : InstanceStatus} {event : RuntimeEvent}
    (ends : event.ending? = some status) (closes : work.close status event = .ok next) :
    work.Concludes next := by
  obtain ⟨running, rfl⟩ := close_cases closes
  have lasts : work.Lasts _ :=
    tells_endFibers RuntimeEvent.covers_lasting work.state.fibersInOrder work
  exact .inr ⟨_, status, event, lasts, lasts.isRunning.trans running, ends, rfl⟩

/-! ## Turns -/

/-- What a turn does: it is calm, and perhaps ends the last fiber; or it hands out a job, closes the
instance or halts a fiber. -/
theorem Turned.narrated (turned : Turned program fiber work next)
    (found : work.fiber? fiber.id = some fiber) :
    (∃ middle, work.Calm middle ∧ (next = middle ∨ next = middle.completeIfIdle)) ∨
      (∃ key name node retries, next = work.handOut fiber
        (.first work.record fiber key name retries work.time) ∧
        ∃ taskType routes, program.instruction? fiber.pc =
          some (.dispatch taskType node retries routes)) ∨
      (∃ node, work.close .terminated (.instanceTerminated node) = .ok next) ∨
      ∃ before kind message, work.Calm before ∧
        next = before.raise program.symbols fiber.id fiber.pc kind message := by
  have calm : ∀ {reached : UnitOfWork}, work.Calm reached ->
      ∃ middle, work.Calm middle ∧ (reached = middle ∨ reached = middle.completeIfIdle) :=
    fun reached => ⟨_, reached, .inl rfl⟩
  cases turned with
  | compute reached computes lands => exact .inl (calm (calm_putFiber found _))
  | storeFlag reached computes lands =>
    exact .inl (calm ((calm_putFiber found _).trans
      (calm_updateRecord _ rfl rfl (Nat.le_refl _) rfl rfl rfl)))
  | count reached computes lands =>
    rename_i counter changed name value
    refine .inl (calm ((calm_putFiber found changed).trans ?_))
    refine ⟨(steady_updateRecord _ rfl rfl (Nat.le_refl _)).trans (steady_emit _ _), rfl, ?_⟩
    exact tells_event ⟨rfl, rfl, rfl⟩ rfl rfl
  | handOut reached named => exact .inr (.inl ⟨_, _, _, _, rfl, _, _, reached⟩)
  | sleep reached => exact .inl (calm (calm_park work _ _ _))
  | listen reached => exact .inl (calm (calm_park work _ _ _))
  | consult reached => exact .inl (calm (calm_park work _ _ _))
  | race reached leads => exact .inl (calm (calm_park work _ _ _))
  | watch reached => exact .inl (calm (calm_watchOver work _ _ _ _ _))
  | unwatch reached computes lands =>
    exact .inl (calm ((calm_putFiber found _).trans (calm_dropWatchdog _ _)))
  | fork reached named branches => exact .inl (calm (calm_fork work _ _ _))
  | forkInclusive reached named branches chosen prepared =>
    exact .inl (calm ((calm_prepared found prepared).trans (calm_fork _ _ _ _)))
  | join reached named arrives => exact .inl (calm_arriveAt arrives)
  | finish reached => exact .inl ⟨_, calm_retire work _, .inr rfl⟩
  | terminate reached closes => exact .inr (.inr (.inl ⟨_, closes⟩))
  | halt prepared => exact .inr (.inr (.inr ⟨_, _, _, calm_prepared found prepared, rfl⟩))

theorem Turned.concludes (turned : Turned program fiber work next)
    (found : work.fiber? fiber.id = some fiber) : work.Concludes next := by
  rcases turned.narrated found with ⟨middle, calm, rfl | rfl⟩ | ⟨_, _, _, _, rfl, -⟩ |
    ⟨node, closes⟩ | ⟨before, kind, message, calm, rfl⟩
  · exact calm.lasts.concludes
  · exact calm.lasts.trans_concludes (concludes_completeIfIdle middle)
  · exact .inl ((lasts_dispatch work _).trans (calm_park _ _ _ _).lasts)
  · exact concludes_close rfl closes
  · exact .inl (calm.lasts.trans (lasts_raise _ _ _ _ _ _))

/-- A sequence of turns ends the instance at last, if at all. -/
theorem Ran.concludes (ran : Ran program work next) : work.Concludes next := by
  induction ran with
  | refl => exact .inl (.refl _ work)
  | step prior running found ready turned ih =>
    rcases ih with lasts | ⟨middle, status, event, -, -, ends, rfl⟩
    · exact lasts.trans_concludes (turned.concludes found)
    · -- An instance that has ended takes no turn.
      have stopped : status = .running := eq_of_beq running
      exact absurd stopped (RuntimeEvent.ending_ne_running ends)

/-- An instance that has ended takes no turns. -/
theorem Ran.of_stopped (ran : Ran program work next) (stopped : work.record.isRunning = false) :
    next = work := by
  induction ran with
  | refl => rfl
  | step prior running found ready turned ih =>
    obtain rfl := ih
    cases stopped.symm.trans running

/-- Turns that follow other work end the instance at last, if at all. -/
theorem Concludes.trans_ran (concludes : first.Concludes middle) (ran : Ran program middle last) :
    first.Concludes last := by
  rcases concludes with lasts | ⟨before, status, event, lasts, running, ends, rfl⟩
  · exact lasts.trans_concludes ran.concludes
  · have stopped : (before.conclude status event).record.isRunning = false :=
      beq_eq_false_iff_ne.2 (RuntimeEvent.ending_ne_running ends)
    obtain rfl := ran.of_stopped stopped
    exact .inr ⟨before, status, event, lasts, running, ends, rfl⟩

/-! ## Changes -/

theorem tells_interrupt (covers : RuntimeEvent.Covers kind) (work : UnitOfWork) (host : FiberId) :
    Tells kind work (work.interrupt host).2 := by
  rw [interrupt]
  split
  · exact .refl _ work
  · exact (tells_cancelAwaitedJob covers work _).trans ((calm_endFiber _ _).covered covers)

theorem tells_fire (covers : RuntimeEvent.Covers kind) (work : UnitOfWork) (watchdog : FiberId)
    (watch : Watch) : Tells kind work (work.fire watchdog watch) := by
  have logged : work.Calm (work.emit (.boundaryFired watch.boundary watch.interrupting)) :=
    calm_emit work ⟨rfl, rfl, rfl⟩ rfl
  rw [fire]
  dsimp only
  refine .trans ?_ (((calm_updateFiber _ _ _).trans (calm_wake _ _ _)).covered covers)
  split
  · exact (logged.covered covers).trans (tells_interrupt covers _ _)
  · exact (logged.trans (calm_updateFiber _ _ _)).covered covers

/-- A fiber that goes on at an arm of a race does so calmly. -/
theorem calm_win (work : UnitOfWork) (id : FiberId) (race : NodeKey) (winner : Address)
    (losers : List Address) : work.Calm (work.resume id (.win race winner losers)) := by
  have won : work.Calm (work.emit (.raceWon race winner)) := calm_emit work ⟨rfl, rfl, rfl⟩ rfl
  have cancel : ∀ (work : UnitOfWork) target,
      work.Calm (work.emit (.raceArmCancelled race target)) :=
    fun work target => calm_emit work ⟨rfl, rfl, rfl⟩ rfl
  exact (won.trans (related_foldl .refl .trans cancel losers _)).trans (calm_wake _ _ _)

/-- A signal is ignored, lets a fiber go on, or fires a watchdog. -/
theorem deliver_narrated (work : UnitOfWork) (signal : WakeSignal) :
    work.Calm (work.deliver signal).2 ∨ ∃ watch accepted,
      work.resumption signal = .ok (.fire watch) ∧
      accepted = work.updateRecord (fun record => record.accept signal.flags signal.payload) ∧
      (work.deliver signal).2 = accepted.fire signal.fiber watch := by
  rw [deliver]
  cases answered : work.resumption signal with
  | error reason => exact .inl (calm_emit work ⟨rfl, rfl, rfl⟩ rfl)
  | ok how =>
    have accepted := calm_accept work signal.flags signal.payload
    cases how with
    | goOn pc => exact .inl (accepted.trans (calm_wake _ _ _))
    | win race winner losers => exact .inl (accepted.trans (calm_win _ _ _ _ _))
    | fire watch => exact .inr ⟨watch, _, rfl, rfl, rfl⟩

theorem tells_deliver (covers : RuntimeEvent.Covers kind) (work : UnitOfWork)
    (signal : WakeSignal) : Tells kind work (work.deliver signal).2 := by
  rcases deliver_narrated work signal with calm | ⟨watch, accepted, -, rfl, same⟩
  · exact calm.covered covers
  · rw [same]
    exact ((calm_accept work _ _).covered covers).trans (tells_fire covers _ _ _)

end UnitOfWork

open UnitOfWork

variable {work changed : UnitOfWork} {job : Job} {fiber : Fiber} {program : Program}

theorem Job.lasts_applied (job : Job) (completion : JobCompletion) (pc : Address)
    (work : UnitOfWork) : work.Lasts (job.applied completion pc work) := by
  have finished : work.Lasts (job.finished (.jobCompleted job.key)
      (work.recordCompletion ⟨job.key, completion, true, work.time⟩)) := tells_event rfl rfl rfl
  exact (finished.trans (calm_accept _ _ _).lasts).trans (calm_wake _ _ _).lasts

theorem Job.lasts_stopped (job : Job) (kind : FaultClass) (problem : String)
    (address : Address) (work : UnitOfWork) :
    work.Lasts (job.stopped kind problem address work) := by
  have drawn : work.Lasts { work with supply := ⟨work.supply.next + 1⟩ } := tells_of_same rfl rfl
  exact drawn.trans (lasts_halt _ _)

theorem Job.Failed.lasts {outcome : FailureOutcome}
    (failed : job.Failed program work fiber outcome changed) : work.Lasts changed := by
  cases failed with
  | retry notBefore problem => exact tells_event rfl rfl rfl
  | bury kind problem expires =>
    exact (job.lasts_stopped kind problem fiber.pc work).trans (tells_event rfl rfl rfl)
  | route problem leads =>
    rename_i code target
    have finished : work.Lasts (Job.finished { job with lastError := some problem }
      (.jobErrorRouted job.key code) work) := tells_event rfl rfl rfl
    exact (finished.trans (calm_dropWatchdog _ _).lasts).trans (calm_wake _ _ _).lasts

theorem DeadLetter.lasts_requeued (letter : DeadLetter) (pc : Address) :
    work.Lasts (letter.requeued pc work) :=
  (calm_park work letter.job.fiber pc (.job letter.key)).lasts.trans (tells_of_same rfl rfl)

theorem DeadLetter.Settled.lasts {linked : Option Incident} {settled : UnitOfWork}
    (settles : DeadLetter.Settled linked work settled) : work.Lasts settled := by
  cases settles with
  | nothing => exact .refl _ work
  | incident found settles closed => exact tells_event rfl rfl rfl

/-- A change of an instance ends it at last, if at all. -/
theorem Intervened.concludes {store : MemoryStore} {id : InstanceId} {purpose : Purpose}
    (intervened : Intervened store id program work purpose changed) : work.Concludes changed := by
  cases intervened with
  | run => exact .inl (.refl _ work)
  | cancel running closes => exact concludes_close rfl closes
  | complete stored owned first wanted completion => exact .inl (Job.lasts_applied _ _ _ work)
  | record stored owned first unwanted completion => exact .inl (tells_event rfl rfl rfl)
  | fail stored owned wanted failed => exact .inl failed.lasts
  | dismiss => exact .inl (.refl _ work)
  | deliver running signal => exact .inl (tells_deliver RuntimeEvent.covers_lasting work signal)
  | discard => exact .inl (.refl _ work)
  | restart stored settles running alone owned closed =>
    rename_i key incident resolved
    have logged : work.Lasts (work.emit (.incidentResolved incident.id)) := tells_emit work rfl rfl
    exact .inl ((logged.trans (calm_restart _ _ _).lasts).trans (tells_of_same rfl rfl))
  | settle stored settles owned closed => exact .inl (tells_event rfl rfl rfl)
  | requeue stored owned running found waits settles =>
    rename_i place letter fiber incident settled
    have logged : settled.Lasts (settled.emit (.jobRequeued letter.key)) :=
      tells_emit settled rfl rfl
    exact .inl (((letter.lasts_requeued fiber.pc).trans settles.lasts).trans logged)
  | abandon stored owned => exact .inl (tells_event rfl rfl rfl)

end ProcessEngine
