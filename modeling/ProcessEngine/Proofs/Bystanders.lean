import ProcessEngine.Proofs.Endings

/-!
# Bystanders

A turn is about one fiber, and so is a signal. All others that are there are bystanders: they may
end, but those that are left are the same as before, except that a host may have lost its watchdog
(`UnitOfWork.Turned.unmoved`, `UnitOfWork.unmoved_deliver`). So a fiber that waits goes on waiting
in the same epoch while others take turns (`UnitOfWork.Ran.stays`).
-/

namespace ProcessEngine

/-- A fiber is the same as before but for its watchdog. -/
def Fiber.Stays (fiber later : Fiber) : Prop :=
  ∃ watchdog, later = { fiber with watchdog := watchdog }

namespace Fiber.Stays

variable {fiber middle later : Fiber}

theorem refl (fiber : Fiber) : fiber.Stays fiber := ⟨fiber.watchdog, rfl⟩

theorem trans (first : fiber.Stays middle) (rest : middle.Stays later) : fiber.Stays later := by
  obtain ⟨between, rfl⟩ := first
  obtain ⟨watchdog, rfl⟩ := rest
  exact ⟨watchdog, rfl⟩

theorem wait (stays : fiber.Stays later) : later.wait = fiber.wait := by
  obtain ⟨watchdog, rfl⟩ := stays
  rfl

theorem pc (stays : fiber.Stays later) : later.pc = fiber.pc := by
  obtain ⟨watchdog, rfl⟩ := stays
  rfl

theorem epoch (stays : fiber.Stays later) : later.epoch = fiber.epoch := by
  obtain ⟨watchdog, rfl⟩ := stays
  rfl

end Fiber.Stays

namespace UnitOfWork

/-- Apart from one fiber, those that were there and still are have stayed as they were. -/
structure Unmoved (work : UnitOfWork) (own : FiberId) (next : UnitOfWork) : Prop where
  supply : work.supply.next ≤ next.supply.next
  others : ∀ {id later}, id ≠ own -> id.number < work.supply.next ->
    next.fiber? id = some later -> ∃ fiber, work.fiber? id = some fiber ∧ fiber.Stays later

variable {first middle last work next : UnitOfWork} {fiber : Fiber} {own : FiberId}

theorem Unmoved.refl (work : UnitOfWork) (own : FiberId) : work.Unmoved own work :=
  ⟨Nat.le_refl _, fun _ _ found => ⟨_, found, .refl _⟩⟩

theorem Unmoved.trans (earlier : first.Unmoved own middle) (rest : middle.Unmoved own last) :
    first.Unmoved own last := by
  refine ⟨Nat.le_trans earlier.supply rest.supply, fun other old found => ?_⟩
  obtain ⟨between, found, stays⟩ :=
    rest.others other (Nat.lt_of_lt_of_le old earlier.supply) found
  obtain ⟨former, found, stays'⟩ := earlier.others other old found
  exact ⟨former, found, stays'.trans stays⟩

/-- Work that only touches the one fiber, or new ones, moves no other one. -/
theorem Continues.unmoved (continues : work.Continues next)
    (same : ∀ id, id ≠ own -> id.number < work.supply.next ->
      next.fiber? id = work.fiber? id) : work.Unmoved own next :=
  ⟨continues.supply, fun other old found => ⟨_, (same _ other old).symm.trans found, .refl _⟩⟩

/-! ## Operations of a turn -/

theorem unmoved_putFiber (work : UnitOfWork) (changed : Fiber) :
    work.Unmoved own (work.putFiber own changed) :=
  (steady_putFiber work own changed).toContinues.unmoved
    (fun _ other _ => (fiber?_putFiber ..).trans (if_neg other))

theorem unmoved_updateFiber (work : UnitOfWork) (change : Fiber -> Fiber) :
    work.Unmoved own (work.updateFiber own change) :=
  (steady_updateFiber work own change).toContinues.unmoved
    (fun _ other _ => (fiber?_updateFiber ..).trans (if_neg other))

theorem unmoved_park (work : UnitOfWork) (pc : Address) (wait : Wait) :
    work.Unmoved own (work.park own pc wait) :=
  (steady_park work own pc wait).toContinues.unmoved
    (fun _ other _ => (fiber?_park ..).trans (if_neg other))

theorem unmoved_wake (work : UnitOfWork) (pc : Address) : work.Unmoved own (work.wake own pc) :=
  (steady_wake work own pc).toContinues.unmoved
    (fun _ other _ => (fiber?_wake ..).trans (if_neg other))

/-- A fiber that ends is not moved. -/
theorem unmoved_endFiber (work : UnitOfWork) (id : FiberId) :
    work.Unmoved own (work.endFiber id) := by
  refine ⟨(steady_endFiber work id).supply, fun _ _ found => ?_⟩
  rw [fiber?_endFiber] at found
  split at found
  · cases found
  · exact ⟨_, found, .refl _⟩

/-- Nor is one that loses its watchdog. -/
theorem unmoved_forget (work : UnitOfWork) (id : FiberId) :
    work.Unmoved own (work.updateFiber id (fun fiber => { fiber with watchdog := none })) := by
  refine ⟨(steady_updateFiber work id _).supply, fun _ _ found => ?_⟩
  rw [fiber?_updateFiber] at found
  split at found
  · obtain ⟨former, before, rfl⟩ := Option.map_eq_some_iff.1 found
    exact ⟨former, before, none, rfl⟩
  · exact ⟨_, found, .refl _⟩

theorem unmoved_retire (work : UnitOfWork) (id : FiberId) :
    work.Unmoved own (work.retire id) :=
  @retire_keeps work (work.Unmoved own) (fun _ unmoved => unmoved.trans (unmoved_endFiber _ _))
    (.refl work own) id

theorem unmoved_completeIfIdle (work : UnitOfWork) : work.Unmoved own work.completeIfIdle :=
  (steady_completeIfIdle work).toContinues.unmoved (fun id _ _ => fiber?_completeIfIdle work id)

theorem unmoved_branch (parent : Fiber) (ticket : JoinTicket) (work : UnitOfWork)
    (target : Address) : work.Unmoved own (branch parent ticket work target) := by
  refine (steady_branch parent ticket work target).toContinues.unmoved (fun id _ old => ?_)
  rw [fiber?_branch, if_neg]
  rintro rfl
  exact Nat.lt_irrefl _ old

theorem unmoved_fork (work : UnitOfWork) (parent : Fiber) (join : NodeKey)
    (targets : List Address) : work.Unmoved own (work.fork parent join targets) := by
  have activated : work.Unmoved own (work.activateJoin join targets.length).2 :=
    (steady_activateJoin work join _).toContinues.unmoved (fun _ _ _ => rfl)
  exact (activated.trans (related_foldl (.refl · own) .trans (unmoved_branch parent _) targets
    _)).trans (unmoved_endFiber _ _)

theorem unmoved_arriveAt {join : NodeKey} (arrives : work.arriveAt fiber join = .ok next) :
    work.Unmoved fiber.id next := by
  have begun : ∀ {ticket arrival} {reached : UnitOfWork},
      work.arrive ticket = .ok (arrival, reached) -> work.Unmoved fiber.id reached := fun counted =>
    (steady_arrive counted).toContinues.unmoved (fun id _ _ => fiber?_arrive work id counted)
  cases arrivesAt arrives with
  | stray => exact (unmoved_retire work _).trans (unmoved_completeIfIdle _)
  | satisfied holds counted => exact (begun counted).trans (unmoved_updateFiber _ _)
  | waiting holds counted => exact (begun counted).trans (unmoved_retire _ _)
  | stale holds counted =>
    exact ((begun counted).trans (unmoved_retire _ _)).trans (unmoved_completeIfIdle _)

/-- The watchdog of a host is a new fiber. -/
theorem unmoved_watchOver (work : UnitOfWork) (host : Fiber) (boundary : NodeKey)
    (duration : Nat) (interrupting : Bool) (target : Address) :
    work.Unmoved host.id (work.watchOver host boundary duration interrupting target) := by
  refine (steady_watchOver work host boundary duration interrupting target).toContinues.unmoved
    (fun id other old => ?_)
  have fresh : id ≠ ⟨work.supply.next⟩ := by
    rintro rfl
    exact Nat.lt_irrefl _ old
  change (((work.spawn host.pc (some host.id)).2.updateFiber ⟨work.supply.next⟩ _).updateFiber
    host.id _).fiber? id = work.fiber? id
  rw [fiber?_updateFiber, if_neg other, fiber?_updateFiber, if_neg fresh, fiber?_spawn,
    if_neg fresh]

theorem unmoved_dropWatchdog (work : UnitOfWork) (fiber : Fiber) :
    work.Unmoved own (work.dropWatchdog fiber) :=
  @dropWatchdog_keeps work (work.Unmoved own)
    (fun _ unmoved => unmoved.trans (unmoved_endFiber _ _)) fiber (unmoved_forget work fiber.id)

theorem unmoved_raise (work : UnitOfWork) (symbols : SymbolTable) (id : FiberId)
    (address : Address) (kind : FaultClass) (message : String) :
    work.Unmoved id (work.raise symbols id address kind message) :=
  (steady_raise work symbols id address kind message).toContinues.unmoved
    (fun _ other _ => (fiber?_park ..).trans (if_neg other))

/-- Nothing is left of an instance that is closed. -/
theorem unmoved_close (shapely : work.Shapely) {status : InstanceStatus} {event : RuntimeEvent}
    (closes : work.close status event = .ok next) : work.Unmoved own next := by
  refine ⟨(confined_close closes).supply, fun {id later} _ _ found => ?_⟩
  rw [vacant_close shapely closes id] at found
  cases found

theorem unmoved_prepared {before : UnitOfWork} (prepared : work.Prepared fiber before) :
    work.Unmoved fiber.id before := by
  cases prepared with
  | same => exact .refl work _
  | changed computes stays => exact unmoved_putFiber work _

/-- A turn moves no fiber but the one whose turn it is. -/
theorem Turned.unmoved {program : Program} (shapely : work.Shapely)
    (turned : Turned program fiber work next) : work.Unmoved fiber.id next := by
  cases turned with
  | compute reached computes lands => exact unmoved_putFiber work _
  | storeFlag reached computes lands =>
    exact (unmoved_putFiber work _).trans
      ((steady_updateRecord _ rfl rfl (Nat.le_refl _)).toContinues.unmoved (fun _ _ _ => rfl))
  | count reached computes lands =>
    exact (unmoved_putFiber work _).trans
      (((steady_updateRecord _ rfl rfl (Nat.le_refl _)).trans
        (steady_emit _ _)).toContinues.unmoved (fun _ _ _ => rfl))
  | handOut reached named =>
    exact ((confined_dispatch work _).toContinues.unmoved (fun _ _ _ => rfl)).trans
      (unmoved_park _ _ _)
  | sleep reached => exact unmoved_park work _ _
  | listen reached => exact unmoved_park work _ _
  | consult reached => exact unmoved_park work _ _
  | race reached leads => exact unmoved_park work _ _
  | watch reached => exact unmoved_watchOver work _ _ _ _ _
  | unwatch reached computes lands =>
    exact (unmoved_putFiber work _).trans (unmoved_dropWatchdog _ _)
  | fork reached named branches => exact unmoved_fork work _ _ _
  | forkInclusive reached named branches chosen prepared =>
    exact (unmoved_prepared prepared).trans (unmoved_fork _ _ _ _)
  | join reached named arrives => exact unmoved_arriveAt arrives
  | finish reached => exact (unmoved_retire work _).trans (unmoved_completeIfIdle _)
  | terminate reached closes => exact unmoved_close shapely closes
  | halt prepared => exact (unmoved_prepared prepared).trans (unmoved_raise _ _ _ _ _ _)

/-! ## Signals -/

theorem unmoved_interrupt (work : UnitOfWork) (host : FiberId) :
    work.Unmoved own (work.interrupt host).2 := by
  rw [interrupt]
  split
  · exact .refl work own
  · rename_i fiber _
    have cancelled : work.Unmoved own (work.cancelAwaitedJob fiber) :=
      (confined_cancelAwaitedJob work fiber).toContinues.unmoved
        (fun id _ _ => fiber?_cancelAwaitedJob work id fiber)
    exact cancelled.trans (unmoved_endFiber _ host)

theorem unmoved_emit (work : UnitOfWork) (event : RuntimeEvent) :
    work.Unmoved own (work.emit event) :=
  (steady_emit work event).toContinues.unmoved (fun _ _ _ => rfl)

/-- The host of a watchdog ends, or loses its watchdog. -/
theorem unmoved_fire (work : UnitOfWork) (watchdog : FiberId) (watch : Watch) :
    work.Unmoved watchdog (work.fire watchdog watch) := by
  have logged : work.Unmoved watchdog
      (work.emit (.boundaryFired watch.boundary watch.interrupting)) := unmoved_emit work _
  rw [fire]
  dsimp only
  refine Unmoved.trans (Unmoved.trans ?_ (unmoved_updateFiber _ _)) (unmoved_wake _ _)
  split
  · exact logged.trans (unmoved_interrupt _ _)
  · exact logged.trans (unmoved_forget _ _)

theorem unmoved_resume (work : UnitOfWork) (id : FiberId) (how : Resumption) :
    work.Unmoved id (work.resume id how) := by
  cases how with
  | goOn pc => exact unmoved_wake work pc
  | win race winner losers =>
    have cancelled : (work.emit (.raceWon race winner)).Unmoved id
        (losers.foldl (fun (work : UnitOfWork) target => work.emit (.raceArmCancelled race target))
          (work.emit (.raceWon race winner))) :=
      @related_foldl _ (fun work next => work.Unmoved id next) (.refl · id) .trans _
        (fun _ _ => unmoved_emit _ _) losers _
    exact ((unmoved_emit work (.raceWon race winner)).trans cancelled).trans (unmoved_wake _ winner)
  | fire watch => exact unmoved_fire work id watch

/-- A signal moves no fiber but the one that it is for. -/
theorem unmoved_deliver (work : UnitOfWork) (signal : WakeSignal) :
    work.Unmoved signal.fiber (work.deliver signal).2 := by
  rw [deliver]
  split
  · exact unmoved_emit work _
  · have accepted : work.Unmoved signal.fiber
        (work.updateRecord (fun record => record.accept signal.flags signal.payload)) :=
      (steady_accept work signal.flags signal.payload).toContinues.unmoved (fun _ _ _ => rfl)
    exact accepted.trans (unmoved_resume _ _ _)

/-! ## Any number of turns -/

/-- A fiber that waits stays as it is while others take turns, unless it ends. -/
theorem Ran.stays {program : Program} (ran : Ran program first last) (shapely : first.Shapely)
    {id : FiberId} {later : Fiber} (found : first.fiber? id = some fiber)
    (waits : fiber.wait ≠ .ready) (present : last.fiber? id = some later) :
    fiber.Stays later := by
  induction ran generalizing later with
  | refl =>
    cases found.symm.trans present
    exact .refl fiber
  | step prior running acts ready turned ih =>
    rename_i middle actor next
    have drawn : id.number < middle.supply.next :=
      Nat.lt_of_lt_of_le (WellFormed.drawn shapely found) prior.confined.supply
    have other : id ≠ actor.id := by
      rintro rfl
      exact waits ((ih acts).wait.symm.trans ready)
    obtain ⟨between, there, stays⟩ :=
      (turned.unmoved (prior.shapely shapely)).others other drawn present
    exact (ih there).trans stays

end UnitOfWork

end ProcessEngine
