import ProcessEngine.Proofs.Endings
import ProcessEngine.Proofs.SafeWork

/-!
# Instances that are stranded

An instance that runs without any fiber is stranded. Only an arrival at a join that expects others
as well ends a fiber without looking whether it was the last one. So where an instance is stranded,
some fibers have arrived at a join and others are expected (`Engine.Lively`). Nothing but a
cancellation ever changes a stranded instance (`Engine.Advance.stranded`).
-/

namespace ProcessEngine

namespace InstanceState

/-- Some fibers have arrived at the join, and others are still expected. -/
def Lacks (state : InstanceState) (join : NodeKey) : Prop :=
  ∃ expected barrier, state.record.expected.get? join = some expected ∧
    state.barriers.get? join = some barrier ∧ 0 < barrier.arrived ∧ barrier.arrived < expected

/-- The instance runs without fibers. -/
structure Stranded (state : InstanceState) : Prop where
  running : state.record.isRunning = true
  vacant : ∀ id, state.fiber? id = none

/-- Neither the status of the instance, nor its fibers, nor what is expected at joins changes. -/
structure Rests (state next : InstanceState) : Prop where
  status : next.record.status = state.record.status
  fibers : next.fiber? = state.fiber?
  expected : next.record.expected = state.record.expected
  barriers : next.barriers = state.barriers

variable {state middle next : InstanceState}

theorem Rests.refl (state : InstanceState) : state.Rests state := ⟨rfl, rfl, rfl, rfl⟩

theorem Rests.trans (earlier : state.Rests middle) (later : middle.Rests next) : state.Rests next :=
  ⟨later.status.trans earlier.status, later.fibers.trans earlier.fibers,
    later.expected.trans earlier.expected, later.barriers.trans earlier.barriers⟩

theorem Rests.lacks_iff (rests : state.Rests next) (join : NodeKey) :
    next.Lacks join ↔ state.Lacks join := by
  rw [Lacks, Lacks, rests.expected, rests.barriers]

theorem Rests.stranded_iff (rests : state.Rests next) : next.Stranded ↔ state.Stranded := by
  have same : next.record.isRunning = state.record.isRunning :=
    congrArg (· == .running) rests.status
  constructor
  · rintro ⟨running, vacant⟩
    exact ⟨same.symm.trans running, rests.fibers ▸ vacant⟩
  · rintro ⟨running, vacant⟩
    exact ⟨same.trans running, rests.fibers.symm ▸ vacant⟩

end InstanceState

namespace UnitOfWork

variable {work next : UnitOfWork} {fiber : Fiber} {program : Program}

/-- If the instance runs without fibers, others are expected at a join. -/
def Lively (work : UnitOfWork) : Prop := work.state.Stranded -> ∃ join, work.state.Lacks join

theorem lively_of_present (id : FiberId) (present : (work.fiber? id).isSome) : work.Lively := by
  intro stranded
  cases (stranded.vacant id).symm.trans (Option.some_get present).symm

/-- An instance that no longer runs needs no fibers. -/
theorem lively_of_stopped (stopped : work.record.isRunning = false) : work.Lively := by
  intro stranded
  cases stopped.symm.trans stranded.running

/-! ## Turns -/

/-- An instance that is completed as soon as it has no fibers is never stranded. -/
theorem lively_completeIfIdle (work : UnitOfWork) : work.completeIfIdle.Lively := by
  rw [completeIfIdle]
  split
  · exact lively_of_stopped rfl
  · rename_i busy
    rintro ⟨running, vacant⟩
    rw [show work.record.isRunning = true from running, Bool.true_and,
      OrderedMap.isEmpty_iff] at busy
    exact absurd vacant busy

theorem stopped_close {status : InstanceStatus} {event : RuntimeEvent}
    (closes : work.close status event = .ok next) (stopped : status ≠ .running) :
    next.record.isRunning = false := by
  obtain ⟨-, rfl⟩ := close_cases closes
  exact beq_eq_false_iff_ne.2 stopped

/-- The branches of a split do not end those that were there. -/
theorem present_branches (parent : Fiber) (ticket : JoinTicket) (targets : List Address)
    {id : FiberId} (present : (work.fiber? id).isSome) (old : id.number < work.supply.next) :
    ((targets.foldl (branch parent ticket) work).fiber? id).isSome := by
  induction targets generalizing work with
  | nil => exact present
  | cons target rest ih =>
    have other : id ≠ ⟨work.supply.next⟩ := by
      rintro rfl
      exact Nat.lt_irrefl _ old
    refine ih ?_ ?_
    · rw [fiber?_branch, if_neg other]
      exact present
    · rw [supply_branch]
      exact Nat.lt_succ_of_lt old

/-- A split leaves the fiber of its first branch. -/
theorem lively_fork {parent : Fiber} (older : parent.id.number < work.supply.next)
    (join : NodeKey) {targets : List Address} (branches : targets ≠ []) :
    (work.fork parent join targets).Lively := by
  obtain ⟨target, rest, rfl⟩ := List.exists_cons_of_ne_nil branches
  have first : ((branch parent ⟨join, (work.activateJoin join (target :: rest).length).1⟩
      (work.activateJoin join (target :: rest).length).2 target).fiber?
        ⟨work.supply.next⟩).isSome := by
    rw [fiber?_branch]
    exact Option.isSome_iff_exists.2 ⟨_, if_pos rfl⟩
  have kept := present_branches parent
    ⟨join, (work.activateJoin join (target :: rest).length).1⟩ rest first
      (by rw [supply_branch]; exact Nat.lt_succ_self _)
  have other : (⟨work.supply.next⟩ : FiberId) ≠ parent.id := by
    intro same
    rw [← same] at older
    exact Nat.lt_irrefl _ older
  refine lively_of_present ⟨work.supply.next⟩ ?_
  rw [fork]
  dsimp only
  rw [fiber?_endFiber, if_neg other]
  exact kept

theorem kept_retire (work : UnitOfWork) (id : FiberId) :
    (work.retire id).record.expected = work.record.expected ∧
      (work.retire id).state.barriers = work.state.barriers :=
  @retire_keeps work (fun reached => reached.record.expected = work.record.expected ∧
      reached.state.barriers = work.state.barriers)
    (fun {reached} id kept => ⟨(kept_endFiber reached id).1.trans kept.1,
      (kept_endFiber reached id).2.trans kept.2⟩) ⟨rfl, rfl⟩ id

/-- Where a fiber has to wait for others at a join, some have arrived and others are expected. -/
theorem lacks_of_waiting {ticket : JoinTicket} {arrived expected : Nat}
    (arrives : work.arrive ticket = .ok (.waiting arrived expected, next)) :
    next.state.Lacks ticket.join := by
  rw [UnitOfWork.arrive] at arrives
  cases counted : work.state.arrive ticket with
  | error error =>
    rw [counted] at arrives
    cases arrives
  | ok result =>
    obtain ⟨found, state⟩ := result
    rw [counted] at arrives
    cases arrives
    rcases arrive_cases counted with ⟨-, none, -⟩ |
      ⟨barrier, expected', admitted, -, -, barriers, ⟨-, full, -⟩ | ⟨below, same, record⟩⟩
    · cases none
    · cases full
    · cases same
      refine ⟨_, { barrier with arrived := barrier.arrived + 1 }, ?_, ?_, Nat.succ_pos _, below⟩
      · dsimp only
        rw [record]
        exact (barrier_of_admission admitted).2.2
      · dsimp only
        rw [barriers]
        exact OrderedMap.get?_insert_self _ _ _

/-- Only a fiber that has to wait at a join for others may be the last one. -/
theorem lively_arriveAt (present : (work.fiber? fiber.id).isSome) {join : NodeKey}
    (arrives : work.arriveAt fiber join = .ok next) : next.Lively := by
  cases arrivesAt arrives with
  | stray => exact lively_completeIfIdle _
  | satisfied holds counted =>
    refine lively_of_present fiber.id ?_
    rw [fiber?_updateFiber, if_pos rfl, fiber?_arrive work fiber.id counted, Option.isSome_map]
    exact present
  | @waiting ticket arrived expected reached holds counted =>
    obtain ⟨expected', barrier, expects, counts, some⟩ := lacks_of_waiting counted
    obtain ⟨sameExpected, sameBarriers⟩ := kept_retire reached fiber.id
    refine fun _ => ⟨ticket.join, expected', barrier, ?_, ?_, some⟩
    · exact (congrArg (OrderedMap.get? · ticket.join) sameExpected).trans expects
    · rw [sameBarriers]
      exact counts
  | stale holds counted => exact lively_completeIfIdle _

theorem present_prepared {before : UnitOfWork} (prepared : work.Prepared fiber before)
    (found : work.fiber? fiber.id = some fiber) : (before.fiber? fiber.id).isSome := by
  cases prepared with
  | same => simp [found]
  | changed computes stays => simp

/-- A fiber outlives its watchdog. -/
theorem present_dropWatchdog {id : FiberId} (present : (work.fiber? id).isSome)
    (other : fiber.watchdog ≠ some id) : ((work.dropWatchdog fiber).fiber? id).isSome := by
  rw [fiber?_dropWatchdog, if_neg other, Option.isSome_map]
  exact present

/-- A fiber that is halted on an incident is still there. -/
theorem present_halt {incident : Incident} (present : (work.fiber? incident.fiber).isSome) :
    ((work.halt incident).fiber? incident.fiber).isSome := by
  rw [halt, fiber?_putIncident, fiber?_park, if_pos rfl, Option.isSome_map]
  exact present

/-- A turn leaves an instance that runs without fibers only where others are expected at a join. -/
theorem Turned.lively (turned : Turned program fiber work next) (shapely : work.Shapely)
    (found : work.fiber? fiber.id = some fiber) : next.Lively := by
  cases turned with
  | compute reached computes lands => exact lively_of_present fiber.id (by simp)
  | storeFlag reached computes lands => exact lively_of_present fiber.id (by simp)
  | count reached computes lands => exact lively_of_present fiber.id (by simp)
  | handOut reached named =>
    refine lively_of_present fiber.id ?_
    rw [UnitOfWork.handOut, suspend, fiber?_park, if_pos rfl, Option.isSome_map, fiber?_dispatch,
      found]
    rfl
  | sleep reached => exact lively_of_present fiber.id (by simp [suspend, found])
  | listen reached => exact lively_of_present fiber.id (by simp [suspend, found])
  | consult reached => exact lively_of_present fiber.id (by simp [suspend, found])
  | race reached leads => exact lively_of_present fiber.id (by simp [suspend, found])
  | watch reached =>
    refine lively_of_present fiber.id ?_
    rw [fiber?_watchOver _ _ _ _ _ _ _ (WellFormed.ne_fresh shapely found), if_pos rfl, found]
    rfl
  | unwatch reached computes lands =>
    exact lively_of_present fiber.id
      (present_dropWatchdog (by simp) (WellFormed.unguarded shapely found))
  | fork reached named branches => exact lively_fork (WellFormed.drawn shapely found) _ branches
  | forkInclusive reached named branches chosen prepared =>
    obtain ⟨other, there⟩ := Option.isSome_iff_exists.1 (present_prepared prepared found)
    exact lively_fork (WellFormed.drawn (shapely.prepared found prepared) there) _ branches
  | join reached named arrives => exact lively_arriveAt (by simp [found]) arrives
  | finish reached => exact lively_completeIfIdle _
  | terminate reached closes => exact lively_of_stopped (stopped_close closes (by simp))
  | halt prepared =>
    have present := present_prepared prepared found
    exact lively_of_present fiber.id (by rw [raise]; exact present_halt present)

theorem Ran.lively (ran : Ran program work next) (shapely : work.Shapely) (lively : work.Lively) :
    next.Lively := by
  cases ran with
  | refl => exact lively
  | step prior running found ready turned => exact turned.lively (prior.shapely shapely) found

/-- An instance without fibers takes no turns. -/
theorem Ran.of_vacant (ran : Ran program work next) (vacant : work.Vacant) : next = work := by
  induction ran with
  | refl => rfl
  | step prior running found ready turned ih =>
    obtain rfl := ih
    cases (vacant _).symm.trans found

/-! ## Changes -/

/-- The instance has a fiber as before, or rests. -/
inductive Retains (work next : UnitOfWork) : Prop where
  | present (id : FiberId) (before : (work.fiber? id).isSome) (after : (next.fiber? id).isSome)
  | rests (rests : work.state.Rests next.state)

theorem Retains.lively (retains : work.Retains next) (lively : work.Lively) : next.Lively := by
  cases retains with
  | present id before after => exact lively_of_present id after
  | rests rests =>
    intro stranded
    obtain ⟨join, lacks⟩ := lively (rests.stranded_iff.1 stranded)
    exact ⟨join, (rests.lacks_iff join).2 lacks⟩

/-- Without fibers an instance rests. -/
theorem Retains.of_vacant (retains : work.Retains next) (vacant : work.Vacant) :
    work.state.Rests next.state := by
  cases retains with
  | present id before after => cases (vacant id).symm.trans (Option.some_get before).symm
  | rests rests => exact rests

/-- What is stored of a unit of work has rested. -/
theorem rests_finish (work : UnitOfWork) : work.state.Rests work.finish.2 := ⟨rfl, rfl, rfl, rfl⟩

/-- A fiber that is answered goes on. -/
theorem present_resume (shapely : work.Shapely) {id : FiberId}
    (found : work.fiber? id = some fiber) {how : Resumption} (answered : fiber.Answered how) :
    ((work.resume id how).fiber? id).isSome := by
  have awake : ∀ (start : UnitOfWork) pc, (start.fiber? id).isSome ->
      ((start.wake id pc).fiber? id).isSome := by
    intro start pc present
    rw [fiber?_wake, if_pos rfl, Option.isSome_map]
    exact present
  have present : (work.fiber? id).isSome := by simp [found]
  cases answered with
  | fire waits watches =>
    rename_i due watch
    have other : id ≠ watch.host := fun same =>
      (WellFormed.watching shapely found watches).1 same.symm
    rw [resume, fire]
    dsimp only
    refine awake _ _ ?_
    rw [fiber?_updateFiber, if_pos rfl, Option.isSome_map]
    split
    · rw [fiber?_interrupt, if_neg other]
      exact present
    · rw [fiber?_updateFiber, if_neg other]
      exact present
  | timer waits free => exact awake _ _ present
  | message waits => exact awake _ _ present
  | human waits => exact awake _ _ present
  | race waits leads =>
    rename_i node arms winner losers
    rw [resume]
    refine awake _ _ ?_
    have logged : ∀ (targets : List Address) (start : UnitOfWork), (start.fiber? id).isSome ->
        ((targets.foldl (fun (work : UnitOfWork) target =>
          work.emit (.raceArmCancelled node target)) start).fiber? id).isSome := by
      intro targets
      induction targets with
      | nil => exact fun _ present => present
      | cons target rest ih => exact fun start present => ih (start.emit _) present
    exact logged losers _ present

theorem retains_deliver (shapely : work.Shapely) (signal : WakeSignal) :
    work.Retains (work.deliver signal).2 := by
  rw [deliver]
  cases answered : work.resumption signal with
  | error reason => exact .rests (.refl _)
  | ok how =>
    obtain ⟨-, fiber, found, -, answers⟩ := resumption_ok answered
    exact .present signal.fiber (by simp [found])
      (present_resume (shapely.accept signal.flags signal.payload) found answers)

theorem retains_restart (work : UnitOfWork) (program : Program) (incident : Incident) :
    work.Retains (work.restart program incident).2 := by
  rw [restart]
  split
  · exact .rests (.refl _)
  · rename_i fiber found
    split
    · exact .present incident.fiber (by simp [found]) (by simp [found])
    · exact .rests (.refl _)

end UnitOfWork

open UnitOfWork

variable {work changed : UnitOfWork} {program : Program}

theorem Job.Failed.retains {job : Job} {fiber : Fiber} {outcome : FailureOutcome}
    (failed : job.Failed program work fiber outcome changed) (wanted : work.Wanted job fiber)
    (shapely : work.Shapely) : work.Retains changed := by
  have present : (work.fiber? job.fiber).isSome := by simp [wanted.found]
  cases failed with
  | retry notBefore problem => exact .rests (.refl _)
  | bury kind problem expires cause =>
    refine .present job.fiber present ?_
    rw [Job.buried, Job.shelved, fiber?_emit, fiber?_updateJob]
    exact present_halt present
  | route problem leads =>
    refine .present job.fiber present ?_
    rw [Job.routed, fiber?_wake, if_pos rfl, Option.isSome_map]
    exact present_dropWatchdog present (WellFormed.unguarded shapely wanted.found)

/-- Only a cancellation takes all fibers of an instance; it no longer runs then. -/
theorem Intervened.retains {store : MemoryStore} {id : InstanceId} {purpose : Purpose}
    (intervened : Intervened store id program work purpose changed) (shapely : work.Shapely) :
    (purpose = .cancel id ∧ changed.record.isRunning = false) ∨ work.Retains changed := by
  cases intervened with
  | run => exact .inr (.rests (.refl _))
  | cancel running closes =>
    exact .inl ⟨rfl, stopped_close closes (by simp)⟩
  | complete stored owned first wanted completion =>
    rename_i key job fiber
    have present : (work.fiber? job.fiber).isSome := by simp [wanted.found]
    refine .inr (.present job.fiber present ?_)
    rw [Job.applied, fiber?_wake, if_pos rfl, Option.isSome_map]
    exact present
  | record stored owned first unwanted completion => exact .inr (.rests (.refl _))
  | fail stored owned wanted failed => exact .inr (failed.retains wanted shapely)
  | dismiss => exact .inr (.rests (.refl _))
  | deliver running signal => exact .inr (retains_deliver shapely signal)
  | discard => exact .inr (.rests (.refl _))
  | restart stored settles running alone owned closed =>
    rename_i key incident resolved
    rcases retains_restart (work.emit (.incidentResolved incident.id)) program resolved with
      ⟨fiber, before, after⟩ | rests
    · exact .inr (.present fiber before after)
    · exact .inr (.rests rests)
  | settle stored settles owned closed => exact .inr (.rests (.refl _))
  | requeue stored owned running found waits settles =>
    rename_i place letter fiber incident settled
    have present : (work.fiber? letter.job.fiber).isSome := by simp [found]
    refine .inr (.present letter.job.fiber present ?_)
    rw [settles.fibers_emit, letter.fiber?_requeued, if_pos rfl, Option.isSome_map]
    exact present
  | abandon stored owned => exact .inr (.rests (.refl _))

/-- Only an operation that cancels an instance may cancel it. -/
theorem EngineOperation.spares_of_ne {operation : EngineOperation} {id : InstanceId}
    (other : ∀ reason, operation ≠ .cancel id reason) : ¬ operation.scope.admits (.cancel id) := by
  intro admitted
  cases operation with
  | cancel asked reason =>
    cases admitted
    exact other reason rfl
  | work turns => rcases admitted with same | same <;> cases same
  | _ => cases admitted

namespace Engine

variable {engine next first last : Engine MemoryStore} {scope : Scope}

/-- Where a stored instance is stranded, others are expected at a join. -/
def Lively (engine : Engine MemoryStore) : Prop :=
  ∀ id state, engine.store.states.get? id = some state -> state.Stranded ->
    ∃ join, state.Lacks join

/-- Every atomic step leaves instances stranded only where others are expected at a join. -/
theorem Advance.lively (advance : Advance scope engine next) (sound : engine.Sound)
    (lively : engine.Lively) : next.Lively := by
  have keeps : ∀ {work : UnitOfWork}, engine.Storable work -> work.Lively ->
      next.store = engine.store.apply work.finish.1 -> next.Lively := by
    intro work storable reached store id state stored stranded
    rw [store, storable.states_apply] at stored
    split at stored
    · cases stored
      obtain ⟨join, lacks⟩ := reached (work.rests_finish.stranded_iff.1 stranded)
      exact ⟨join, (work.rests_finish.lacks_iff join).2 lacks⟩
    · exact lively id state stored stranded
  cases advance.act sound with
  | nothing untouched =>
    rw [Lively, untouched.states]
    exact lively
  | create known absent ran store supply =>
    refine keeps (storable_create absent ran) (ran.lively (shapely_start _) ?_) store
    refine lively_of_present ⟨engine.supply.next + 1⟩ ?_
    rw [UnitOfWork.start, fiber?_spawn]
    exact Option.isSome_iff_exists.2 ⟨_, if_pos rfl⟩
  | slice known stored own admitted intervened ran store supply took =>
    rename_i id purpose state program changed work
    have begun := @shapely_begin _ _ engine.now _ (sound _ _ stored)
    have changes : changed.Lively := by
      rcases intervened.retains begun with ⟨-, stopped⟩ | retains
      · exact lively_of_stopped stopped
      · exact retains.lively (lively _ _ stored)
    exact keeps (storable_slice sound stored intervened ran).1
      (ran.lively (intervened.shapely begun) changes) store

/-- An atomic step other than its cancellation lets a stranded instance rest. -/
theorem Advance.stranded (advance : Advance scope engine next) (sound : engine.Sound)
    {id : InstanceId} {state : InstanceState} (stored : engine.store.states.get? id = some state)
    (stranded : state.Stranded) (spared : ¬ scope.admits (.cancel id)) :
    ∃ later, next.store.states.get? id = some later ∧ state.Rests later := by
  cases advance.act sound with
  | nothing untouched => exact ⟨state, untouched.states ▸ stored, .refl state⟩
  | create known absent ran store supply took =>
    rename_i work
    have other : id ≠ work.record.id := by
      rintro rfl
      rw [show work.record.id = ⟨engine.supply.next⟩ from ran.confined.id] at stored
      cases absent.symm.trans stored
    refine ⟨state, ?_, .refl state⟩
    rw [store, (storable_create absent ran).states_apply, if_neg other]
    exact stored
  | slice known present own admitted intervened ran store supply took =>
    rename_i changedId purpose former program changed work
    obtain ⟨storable, keyed⟩ := storable_slice sound present intervened ran
    rw [store, storable.states_apply, keyed]
    by_cases same : id = changedId
    · subst same
      cases stored.symm.trans present
      rw [if_pos rfl]
      refine ⟨_, rfl, ?_⟩
      rcases intervened.retains (shapely_begin (sound _ _ stored)) with ⟨rfl, -⟩ | retains
      · exact absurd admitted spared
      · have rests := retains.of_vacant stranded.vacant
        have vacant : changed.Vacant := (rests.stranded_iff.2 stranded).vacant
        obtain rfl := ran.of_vacant vacant
        exact rests.trans (rests_finish work)
    · rw [if_neg same]
      exact ⟨state, stored, .refl state⟩

theorem Fresh.lively (fresh : first.Fresh) : first.Lively := by
  intro id state stored
  rw [fresh.store] at stored
  cases stored

/-- Whatever an engine was asked, instances are stranded only where others are expected. -/
theorem History.lively {entries : List HistoryEntry} (history : History first entries last)
    (fresh : first.Fresh) : last.Lively := by
  have step : ∀ scope engine next, Advance scope engine next ->
      engine.Sound ∧ engine.Lively -> next.Sound ∧ next.Lively :=
    fun scope engine next advance holds =>
      ⟨advance.sound holds.1, advance.lively holds.1 holds.2⟩
  exact (history.preserves step ⟨fresh.sound, fresh.lively⟩).2

/-- Whatever else an engine is asked, a stranded instance rests until it is cancelled. -/
theorem History.stranded {entries : List HistoryEntry} (history : History first entries last)
    (sound : first.Sound) {id : InstanceId} {state : InstanceState}
    (stored : first.store.states.get? id = some state) (stranded : state.Stranded)
    (spared : ∀ entry ∈ entries, ∀ reason, entry.1 ≠ .cancel id reason) :
    ∃ later, last.store.states.get? id = some later ∧ state.Rests later := by
  suffices last.Sound ∧ ∃ later, last.store.states.get? id = some later ∧ state.Rests later from
    this.2
  induction history with
  | refl => exact ⟨sound, state, stored, .refl state⟩
  | step prior operation ih =>
    have spares : ¬ operation.scope.admits (.cancel id) :=
      EngineOperation.spares_of_ne (spared _ (List.mem_append_right _ (List.mem_singleton.2 rfl)))
    have step : ∀ engine next, Advance operation.scope engine next ->
        (engine.Sound ∧ ∃ later, engine.store.states.get? id = some later ∧ state.Rests later) ->
        next.Sound ∧ ∃ later, next.store.states.get? id = some later ∧ state.Rests later := by
      rintro engine next advance ⟨sound, later, stored, rests⟩
      obtain ⟨latest, stored', rests'⟩ :=
        advance.stranded sound stored (rests.stranded_iff.2 stranded) spares
      exact ⟨advance.sound sound, latest, stored', rests.trans rests'⟩
    exact (operation.advances _).preserves step
      (ih (fun entry listed => spared entry (List.mem_append_left _ listed)))

end Engine

end ProcessEngine
