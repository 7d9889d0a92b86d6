import ProcessEngine.Proofs.Awaiting
import ProcessEngine.Proofs.Bystanders

/-!
# Fibers whose turn it is not

A turn of one fiber may end others and make new ones, but those that were there and are still
there wait for the same as before, at the same address (`UnitOfWork.Turned.spares`). For they have
not moved, and an incident is raised only by a turn that halts its fiber; it is new as well.
-/

namespace ProcessEngine

namespace UnitOfWork

/-- Apart from one fiber, those that were there and still are wait where they waited, and incidents
that are raised belong to the instance and have identifiers that were not drawn before. -/
structure Spares (work : UnitOfWork) (own : FiberId) (next : UnitOfWork) : Prop where
  supply : work.supply.next ≤ next.supply.next
  owner : next.record.id = work.record.id
  waits : ∀ {id later}, id ≠ own -> id.number < work.supply.next ->
    next.fiber? id = some later ->
      ∃ fiber, work.fiber? id = some fiber ∧ later.wait = fiber.wait ∧ later.pc = fiber.pc
  raised : ∃ raised, next.incidents = work.incidents ++ raised ∧ ∀ incident ∈ raised,
    incident.owner = work.record.id ∧ work.supply.next ≤ incident.id.number ∧
      incident.id.number < next.supply.next

variable {first middle last work next : UnitOfWork} {fiber : Fiber} {own : FiberId}

theorem Spares.refl (work : UnitOfWork) (own : FiberId) : work.Spares own work :=
  ⟨Nat.le_refl _, rfl, fun _ _ found => ⟨_, found, rfl, rfl⟩, [], (List.append_nil _).symm, nofun⟩

theorem Spares.trans (earlier : first.Spares own middle) (rest : middle.Spares own last) :
    first.Spares own last := by
  refine ⟨Nat.le_trans earlier.supply rest.supply, rest.owner.trans earlier.owner,
    fun other old found => ?_, ?_⟩
  · obtain ⟨fiber, between, waits, place⟩ :=
      rest.waits other (Nat.lt_of_lt_of_le old earlier.supply) found
    obtain ⟨former, before, waits', place'⟩ := earlier.waits other old between
    exact ⟨former, before, waits.trans waits', place.trans place'⟩
  · obtain ⟨raised, same, fresh⟩ := earlier.raised
    obtain ⟨raised', same', fresh'⟩ := rest.raised
    refine ⟨raised ++ raised', by rw [same', same, List.append_assoc], fun incident listed => ?_⟩
    have first := earlier.supply
    have last := rest.supply
    rcases List.mem_append.1 listed with listed | listed
    · obtain ⟨owned, late, drawn⟩ := fresh incident listed
      exact ⟨owned, late, by omega⟩
    · obtain ⟨owned, late, drawn⟩ := fresh' incident listed
      exact ⟨owned.trans earlier.owner, by omega, drawn⟩

/-- Work that moves no other fiber and raises nothing spares all others. -/
theorem Unmoved.spares (unmoved : work.Unmoved own next) (owner : next.record.id = work.record.id)
    (incidents : next.incidents = work.incidents) : work.Spares own next := by
  refine ⟨unmoved.supply, owner, fun other old found => ?_, [],
    incidents.trans (List.append_nil _).symm, nofun⟩
  obtain ⟨fiber, before, stays⟩ := unmoved.others other old found
  exact ⟨fiber, before, stays.wait, stays.pc⟩

/-- Work that only touches the one fiber, or new ones, and raises nothing spares all others. -/
theorem Continues.spares (continues : work.Continues next)
    (incidents : next.incidents = work.incidents)
    (same : ∀ id, id ≠ own -> id.number < work.supply.next ->
      next.fiber? id = work.fiber? id) : work.Spares own next :=
  (continues.unmoved same).spares continues.id incidents

/-! ## Operations that raise no incident -/

@[simp] theorem incidents_updateFiber (work : UnitOfWork) (id : FiberId)
    (change : Fiber -> Fiber) : (work.updateFiber id change).incidents = work.incidents := by
  rw [updateFiber]
  split
  · rfl
  · rfl

@[simp] theorem incidents_park (work : UnitOfWork) (id : FiberId) (pc : Address) (wait : Wait) :
    (work.park id pc wait).incidents = work.incidents :=
  incidents_updateFiber work id (fun fiber => { fiber with pc := pc, wait := wait })

@[simp] theorem incidents_endFiber (work : UnitOfWork) (id : FiberId) :
    (work.endFiber id).incidents = work.incidents := by
  rw [endFiber]
  split
  · rfl
  · rfl

@[simp] theorem incidents_wake (work : UnitOfWork) (id : FiberId) (pc : Address) :
    (work.wake id pc).incidents = work.incidents := by
  rw [wake]
  split
  · rfl
  · rfl

@[simp] theorem incidents_completeIfIdle (work : UnitOfWork) :
    work.completeIfIdle.incidents = work.incidents := by
  rw [completeIfIdle]
  split
  · rfl
  · rfl

theorem incidents_arrive {ticket : JoinTicket} {arrival : Arrival}
    (arrives : work.arrive ticket = .ok (arrival, next)) : next.incidents = work.incidents := by
  rw [arrive] at arrives
  cases counted : work.state.arrive ticket with
  | error error =>
    rw [counted] at arrives
    cases arrives
  | ok result =>
    rw [counted] at arrives
    cases arrives
    rfl

@[simp] theorem incidents_cancelAwaitedJob (work : UnitOfWork) (fiber : Fiber) :
    (work.cancelAwaitedJob fiber).incidents = work.incidents := by
  rw [cancelAwaitedJob]
  split
  · rfl
  · rfl

theorem incidents_close {status : InstanceStatus} {event : RuntimeEvent}
    (closes : work.close status event = .ok next) : next.incidents = work.incidents := by
  refine @close_keeps work (fun reached => reached.incidents = work.incidents)
    (fun {reached} fiber same => ?_) (fun _ _ same => same) rfl _ _ _ closes
  rw [incidents_endFiber, incidents_cancelAwaitedJob, same]

@[simp] theorem incidents_retire (work : UnitOfWork) (id : FiberId) :
    (work.retire id).incidents = work.incidents :=
  @retire_keeps work (fun reached => reached.incidents = work.incidents)
    (fun id same => (incidents_endFiber _ id).trans same) rfl id

theorem incidents_fork (work : UnitOfWork) (parent : Fiber) (join : NodeKey)
    (targets : List Address) : (work.fork parent join targets).incidents = work.incidents := by
  have branched : ∀ ticket (work : UnitOfWork) target,
      (branch parent ticket work target).incidents = work.incidents :=
    fun _ _ _ => incidents_updateFiber _ _ _
  refine (incidents_endFiber _ _).trans ?_
  exact @related_foldl _ (fun work next => next.incidents = work.incidents) (fun _ => rfl)
    (fun earlier later => later.trans earlier) _ (branched _) targets
    (work.activateJoin join targets.length).2

theorem incidents_arriveAt {join : NodeKey} (arrives : work.arriveAt fiber join = .ok next) :
    next.incidents = work.incidents := by
  cases arrivesAt arrives with
  | stray => exact (incidents_completeIfIdle _).trans (incidents_retire work _)
  | satisfied holds counted =>
    exact (incidents_updateFiber _ _ _).trans (incidents_arrive counted)
  | waiting holds counted => exact (incidents_retire _ _).trans (incidents_arrive counted)
  | stale holds counted =>
    exact ((incidents_completeIfIdle _).trans (incidents_retire _ _)).trans
      (incidents_arrive counted)

@[simp] theorem incidents_dropWatchdog (work : UnitOfWork) (fiber : Fiber) :
    (work.dropWatchdog fiber).incidents = work.incidents :=
  @dropWatchdog_keeps work (fun reached => reached.incidents = work.incidents)
    (fun id same => (incidents_endFiber _ id).trans same) fiber (incidents_updateFiber work _ _)

/-- A turn raises no incident unless it halts its fiber. -/
theorem Turned.incidents {program : Program} (turned : Turned program fiber work next) :
    next.incidents = work.incidents ∨ ∃ before kind message, work.Prepared fiber before ∧
      (kind = .machineFault ∨ kind = .noRoute) ∧
        next = before.raise program.symbols fiber.id fiber.pc kind message := by
  cases turned with
  | compute reached computes lands => exact .inl rfl
  | storeFlag reached computes lands => exact .inl rfl
  | count reached computes lands => exact .inl rfl
  | handOut reached named => exact .inl (incidents_updateFiber _ _ _)
  | sleep reached => exact .inl (incidents_updateFiber _ _ _)
  | listen reached => exact .inl (incidents_updateFiber _ _ _)
  | consult reached => exact .inl (incidents_updateFiber _ _ _)
  | race reached leads => exact .inl (incidents_updateFiber _ _ _)
  | watch reached =>
    exact .inl ((incidents_updateFiber _ _ _).trans (incidents_updateFiber _ _ _))
  | unwatch reached computes lands => exact .inl (incidents_dropWatchdog _ _)
  | fork reached named branches => exact .inl (incidents_fork _ _ _ _)
  | forkInclusive reached named branches chosen prepared =>
    refine .inl ((incidents_fork _ _ _ _).trans ?_)
    cases prepared with
    | same => rfl
    | changed computes stays => rfl
  | join reached named arrives => exact .inl (incidents_arriveAt arrives)
  | finish reached =>
    exact .inl ((incidents_completeIfIdle _).trans (incidents_retire work _))
  | terminate reached closes => exact .inl (incidents_close closes)
  | halt prepared cause => exact .inr ⟨_, _, _, prepared, cause, rfl⟩

theorem incidents_interrupt (work : UnitOfWork) (host : FiberId) :
    (work.interrupt host).2.incidents = work.incidents := by
  rw [interrupt]
  split
  · rfl
  · exact (incidents_endFiber _ _).trans (incidents_cancelAwaitedJob work _)

theorem incidents_fire (work : UnitOfWork) (watchdog : FiberId) (watch : Watch) :
    (work.fire watchdog watch).incidents = work.incidents := by
  rw [fire]
  dsimp only
  rw [incidents_wake, incidents_updateFiber]
  split
  · exact incidents_interrupt _ _
  · exact incidents_updateFiber _ _ _

theorem incidents_resume (work : UnitOfWork) (id : FiberId) (how : Resumption) :
    (work.resume id how).incidents = work.incidents := by
  cases how with
  | goOn pc => exact incidents_wake work id pc
  | win race winner losers =>
    have cancelled : ∀ (work : UnitOfWork) target,
        (work.emit (.raceArmCancelled race target)).incidents = work.incidents := fun _ _ => rfl
    refine (incidents_wake _ _ _).trans ?_
    exact @related_foldl _ (fun work next => next.incidents = work.incidents) (fun _ => rfl)
      (fun earlier later => later.trans earlier) _ cancelled losers
      (work.emit (.raceWon race winner))
  | fire watch => exact incidents_fire work id watch

theorem incidents_deliver (work : UnitOfWork) (signal : WakeSignal) :
    (work.deliver signal).2.incidents = work.incidents := by
  rw [deliver]
  split
  · rfl
  · exact incidents_resume _ _ _

/-! ## Operations that spare all others -/

theorem spares_park (work : UnitOfWork) (pc : Address) (wait : Wait) :
    work.Spares own (work.park own pc wait) :=
  (unmoved_park work pc wait).spares (steady_park work own pc wait).id
    (incidents_updateFiber ..)

theorem spares_wake (work : UnitOfWork) (pc : Address) : work.Spares own (work.wake own pc) :=
  (unmoved_wake work pc).spares (steady_wake work own pc).id (incidents_wake ..)

theorem spares_dropWatchdog (work : UnitOfWork) (fiber : Fiber) :
    work.Spares own (work.dropWatchdog fiber) :=
  (unmoved_dropWatchdog work fiber).spares (steady_dropWatchdog work fiber).id
    (incidents_dropWatchdog work fiber)

/-- Whatever halts a fiber is noted. -/
theorem incidents_halt (work : UnitOfWork) (incident : Incident) :
    (work.halt incident).incidents = work.incidents ++ [incident] := by
  have parked := incidents_park (work.emit (.incidentRaised incident.id incident.kind))
    incident.fiber incident.address (.incident incident.id)
  exact congrArg (· ++ [incident]) parked

/-- A fiber may be halted on a new incident. -/
theorem spares_halt (work : UnitOfWork) (incident : Incident)
    (owned : incident.owner = work.record.id) (fresh : incident.id = ⟨work.supply.next⟩) :
    work.Spares incident.fiber ({ work with supply := ⟨work.supply.next + 1⟩ }.halt incident) := by
  have halted := (steady_draw work).trans (steady_halt _ incident)
  have supply : work.supply.next + 1 ≤ ({ work with supply := ⟨work.supply.next + 1⟩ }.halt
      incident).supply.next := (steady_halt { work with
        supply := ⟨work.supply.next + 1⟩ } incident).supply
  refine ⟨halted.supply, halted.id, fun {id later} other old found => ?_, [incident], ?_, ?_⟩
  · have found := (fiber?_park ..).symm.trans found
    rw [if_neg other] at found
    exact ⟨later, found, rfl, rfl⟩
  · exact incidents_halt _ incident
  · intro other listed
    rw [List.mem_singleton.1 listed, fresh]
    exact ⟨owned, Nat.le_refl _, supply⟩

/-- Nothing is left of an instance that is closed. -/
theorem spares_close (shapely : work.Shapely) {status : InstanceStatus} {event : RuntimeEvent}
    (closes : work.close status event = .ok next) : work.Spares own next :=
  (unmoved_close shapely closes).spares (confined_close closes).id (incidents_close closes)

theorem spares_prepared {before : UnitOfWork} (prepared : work.Prepared fiber before) :
    work.Spares fiber.id before := by
  cases prepared with
  | same => exact .refl work _
  | changed computes stays =>
    exact (unmoved_putFiber work _).spares rfl rfl

/-- A turn spares all fibers but the one whose turn it is. -/
theorem Turned.spares {program : Program} (shapely : work.Shapely)
    (turned : Turned program fiber work next) : work.Spares fiber.id next := by
  rcases turned.incidents with same | ⟨before, kind, message, prepared, -, rfl⟩
  · exact (turned.unmoved shapely).spares turned.confined.id same
  · exact (spares_prepared prepared).trans (spares_halt before { Incident.raise
      ⟨before.supply.next⟩ before.record.id fiber.id fiber.pc kind message before.time with
      node := program.symbols.nodeContaining? fiber.pc } rfl rfl)

/-- A signal spares all fibers but the one that it is for. -/
theorem spares_deliver (work : UnitOfWork) (signal : WakeSignal) :
    work.Spares signal.fiber (work.deliver signal).2 :=
  (unmoved_deliver work signal).spares (confined_deliver work signal).id
    (incidents_deliver work signal)

end UnitOfWork

/-! ## Incidents that are kept -/

theorem Incident.Settles.refl (incident : Incident) : incident.Settles incident :=
  ⟨incident.status, rfl⟩

theorem Incident.Settles.trans {incident middle resolved : Incident}
    (earlier : incident.Settles middle) (later : middle.Settles resolved) :
    incident.Settles resolved := by
  obtain ⟨status, rfl⟩ := earlier
  obtain ⟨status', rfl⟩ := later
  exact ⟨status', rfl⟩

/-- Incidents are kept; at most they are settled. -/
def Recalled (incidents later : OrderedMap IncidentId Incident) : Prop :=
  ∀ id incident, incidents.get? id = some incident ->
    ∃ resolved, later.get? id = some resolved ∧ incident.Settles resolved

theorem Recalled.refl (incidents : OrderedMap IncidentId Incident) :
    Recalled incidents incidents := fun _ _ found => ⟨_, found, .refl _⟩

theorem Recalled.trans {incidents middle later : OrderedMap IncidentId Incident}
    (earlier : Recalled incidents middle) (rest : Recalled middle later) :
    Recalled incidents later := by
  intro id incident found
  obtain ⟨between, found', settles⟩ := earlier _ _ found
  obtain ⟨resolved, found'', settles'⟩ := rest _ _ found'
  exact ⟨resolved, found'', settles.trans settles'⟩

namespace UnitOfWork

variable {work next : UnitOfWork} {own : FiberId} {table : OrderedMap IncidentId Incident}

/-- The incidents as they will be stored. -/
def incidentsOver (work : UnitOfWork) (table : OrderedMap IncidentId Incident) :
    OrderedMap IncidentId Incident :=
  work.incidents.foldl (fun incidents incident => incidents.insert incident.id incident) table

/-- Incidents are found under their identifiers, which were drawn. -/
def Recalls (work : UnitOfWork) (table : OrderedMap IncidentId Incident) : Prop :=
  ∀ id incident, (work.incidentsOver table).get? id = some incident ->
    incident.id = id ∧ id.number < work.supply.next

theorem incidentsOver_of_same (same : next.incidents = work.incidents) :
    next.incidentsOver table = work.incidentsOver table := by
  rw [incidentsOver, incidentsOver, same]

theorem incidentsOver_append {raised : List Incident}
    (appended : next.incidents = work.incidents ++ raised) :
    next.incidentsOver table =
      raised.foldl (fun incidents incident => incidents.insert incident.id incident)
        (work.incidentsOver table) := by
  rw [incidentsOver, appended, List.foldl_append]
  rfl

theorem get?_incidentsOver_putIncident (work : UnitOfWork) (incident : Incident)
    (asked : IncidentId) : ((work.putIncident incident).incidentsOver table).get? asked =
      if asked = incident.id then some incident else (work.incidentsOver table).get? asked := by
  have appended : (work.putIncident incident).incidents = work.incidents ++ [incident] := rfl
  rw [incidentsOver_append appended]
  exact OrderedMap.get?_insert _ _ _ _

theorem get?_incidentsOver_halt (work : UnitOfWork) (incident : Incident) (asked : IncidentId) :
    ((work.halt incident).incidentsOver table).get? asked =
      if asked = incident.id then some incident else (work.incidentsOver table).get? asked := by
  rw [incidentsOver_append (incidents_halt work incident)]
  exact OrderedMap.get?_insert _ _ _ _

theorem Recalls.of_same (recalls : work.Recalls table) (same : next.incidents = work.incidents)
    (supply : work.supply.next ≤ next.supply.next) : next.Recalls table := by
  intro id incident found
  rw [incidentsOver_of_same same] at found
  obtain ⟨named, drawn⟩ := recalls _ _ found
  exact ⟨named, Nat.lt_of_lt_of_le drawn supply⟩

/-- The incidents that work raises are new, so those that were there are still the same. -/
theorem Spares.recalls (spares : work.Spares own next) (recalls : work.Recalls table) :
    next.Recalls table ∧ Recalled (work.incidentsOver table) (next.incidentsOver table) := by
  obtain ⟨raised, appended, fresh⟩ := spares.raised
  have cases := fun asked => OrderedMap.get?_foldl_insert_cases Incident.id
    (fun incident => incident) raised (work.incidentsOver table) asked
  rw [← incidentsOver_append appended] at cases
  constructor
  · intro id incident found
    rcases cases id with ⟨incident', listed, named, found'⟩ | ⟨-, same⟩
    · cases found.symm.trans found'
      exact ⟨named, named ▸ (fresh incident listed).2.2⟩
    · obtain ⟨named, drawn⟩ := recalls _ _ (same.symm.trans found)
      exact ⟨named, Nat.lt_of_lt_of_le drawn spares.supply⟩
  · intro id incident found
    rcases cases id with ⟨incident', listed, named, -⟩ | ⟨-, same⟩
    · have drawn := (recalls _ _ found).2
      have late := (fresh incident' listed).2.1
      rw [named] at late
      omega
    · exact ⟨incident, same.trans found, .refl incident⟩

/-- An incident that is settled is still found under its identifier. -/
theorem Recalls.putIncident (recalls : work.Recalls table) {incident resolved : Incident}
    {key : IncidentId} (found : (work.incidentsOver table).get? key = some incident)
    (settles : incident.Settles resolved) :
    (work.putIncident resolved).Recalls table ∧
      Recalled (work.incidentsOver table) ((work.putIncident resolved).incidentsOver table) := by
  obtain ⟨status, rfl⟩ := settles
  obtain ⟨named, drawn⟩ := recalls _ _ found
  constructor
  · intro id other found'
    rw [get?_incidentsOver_putIncident] at found'
    split at found'
    · rename_i same
      cases found'
      rw [same]
      exact ⟨rfl, named ▸ drawn⟩
    · exact recalls _ _ found'
  · intro id other found'
    rw [get?_incidentsOver_putIncident]
    split
    · rename_i same
      rw [same, named, found] at found'
      cases found'
      exact ⟨_, rfl, status, rfl⟩
    · exact ⟨other, found', .refl other⟩

@[simp] theorem incidents_restart (work : UnitOfWork) (program : Program) (incident : Incident) :
    (work.restart program incident).2.incidents = work.incidents := by
  rw [UnitOfWork.restart]
  split
  · rfl
  · split
    · exact incidents_wake work _ _
    · rfl

end UnitOfWork

end ProcessEngine
