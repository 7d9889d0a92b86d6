import ProcessEngine.Proofs.Faults
import ProcessEngine.Proofs.Lineages

/-!
# Fibers within the program

Before parts make a program it is checked that their targets are addresses of instructions and that
the names exist that they refer to. So no fiber leaves the program: it is at an instruction or right
behind the last one, and it may go on where it is sent when its wait ends (`Program.Encloses`).
Turns and all changes of an engine keep that, and every join goes on to expect the fibers that
arrive (`InstanceState.Enclosed`). What a step can still want then is values, branches, or an
instruction behind the last one (`UnitOfWork.foresees_of_fails`).
-/

namespace ProcessEngine

open UnitOfWork Execution

namespace Program

variable (program : Program)

/-- The fiber is at an instruction or right behind the last one, and every address that it keeps for
later is that of an instruction. -/
structure Holds (fiber : Fiber) : Prop where
  place : fiber.pc ≤ program.length
  arms : ∀ {node arms}, fiber.wait = .race node arms -> ∀ arm ∈ arms, arm.target < program.length
  watch : ∀ {watch}, fiber.watch = some watch -> watch.target < program.length

/-- Moreover a fiber that waits is at an instruction. One that is halted may also be behind the last
one, unless its incident is about a job, and so may the incident. -/
structure Encloses (incidents : OrderedMap IncidentId Incident) (fiber : Fiber) : Prop
    extends program.Holds fiber where
  waits : fiber.wait ≠ .ready -> (∀ id, fiber.wait ≠ .incident id) -> fiber.pc < program.length
  halted : ∀ {id}, fiber.wait = .incident id -> ∃ incident, incidents.get? id = some incident ∧
    incident.address ≤ program.length ∧
    (incident.jobKey ≠ none -> fiber.pc < program.length)

/-- Why a step may fail in a program whose parts were checked. -/
def Foresees : MachineError -> Prop
  | .addressOutOfRange pc => pc = program.length
  | .stackUnderflow _ => True
  | .typeMismatch _ _ => True
  | .registerOutOfRange _ _ => True
  | .emptyFork _ => True
  | .programMismatch _ _ => False
  | .missingFiber _ => False
  | .program _ => False
  | .lifecycle _ => False

variable {program} {incidents later : OrderedMap IncidentId Incident} {fiber changed : Fiber}
  {instruction : Instruction Address} {pc : Address} {wait : Wait}

/-! ## Addresses of a program -/

theorem lt_of_reached (reached : program.instruction? pc = some instruction) :
    pc < program.length :=
  (List.getElem?_eq_some_iff.1 reached).1

/-- Targets of instructions are addresses of instructions. -/
theorem target_lt (sound : program.problem? = none)
    (reached : program.instruction? pc = some instruction) {target : Address}
    (listed : target ∈ instruction.targets) : target < program.length :=
  ((problem?_eq_none_iff.1 sound).2.1 _ (List.mem_of_getElem? reached)).1 _ listed

/-- The names exist that instructions refer to. -/
theorem name_isSome (sound : program.problem? = none)
    (reached : program.instruction? pc = some instruction) {reference : SymbolReference}
    (refers : reference ∈ instruction.symbols) :
    (program.symbols.name? reference).isSome = true :=
  ((problem?_eq_none_iff.1 sound).2.1 _ (List.mem_of_getElem? reached)).2 _ refers

/-- An instruction does not lead out of the program. -/
theorem onward_le (sound : program.problem? = none)
    (reached : program.instruction? pc = some instruction) {target : Address}
    (onward : target ∈ instruction.onward pc) : target ≤ program.length := by
  obtain ⟨other, reached', leads⟩ := flows_of_onward reached onward
  cases reached.symm.trans reached'
  rcases leads with ⟨-, rfl⟩ | listed
  · exact lt_of_reached reached
  · exact Nat.le_of_lt (target_lt sound reached listed)

/-- A fiber begins again where its incident is, or where a node begins. -/
theorem restartAddress_le (sound : program.problem? = none) {incident : Incident}
    (behind : incident.address ≤ program.length) :
    restartAddress program incident ≤ program.length := by
  rw [restartAddress]
  cases begins : incident.node >>= program.entry? with
  | none => exact behind
  | some entry =>
    obtain ⟨node, -, begins⟩ := Option.bind_eq_some_iff.1 begins
    exact Nat.le_of_lt ((problem?_eq_none_iff.1 sound).2.2 node entry begins)

/-! ## Fibers that are enclosed -/

theorem encloses_of_ready (place : fiber.pc ≤ program.length) (ready : fiber.wait = .ready)
    (watch : ∀ {watch}, fiber.watch = some watch -> watch.target < program.length) :
    program.Encloses incidents fiber where
  place := place
  arms waits := by cases ready.symm.trans waits
  watch := watch
  waits waits := absurd ready waits
  halted waits := by cases ready.symm.trans waits

/-- A new fiber has no watchdog to be. -/
theorem encloses_create {id : FiberId} {owner : InstanceId} {sequence : Nat}
    (place : pc ≤ program.length) :
    program.Encloses incidents (.create id owner sequence pc) :=
  encloses_of_ready place rfl nofun

namespace Encloses

variable (encloses : program.Encloses incidents fiber)

include encloses

theorem remains (remains : fiber.Remains changed) : program.Encloses incidents changed where
  place := remains.pc ▸ encloses.place
  arms waits := encloses.arms (remains.wait.symm.trans waits)
  watch watches := encloses.watch (remains.watch.symm.trans watches)
  waits := by
    rw [remains.wait, remains.pc]
    exact encloses.waits
  halted waits := by
    rw [remains.pc]
    exact encloses.halted (remains.wait.symm.trans waits)

theorem recalled (recalled : Recalled incidents later) : program.Encloses later fiber where
  toHolds := encloses.toHolds
  waits := encloses.waits
  halted waits := by
    obtain ⟨incident, found, behind, next⟩ := encloses.halted waits
    obtain ⟨_, found, status, rfl⟩ := recalled _ _ found
    exact ⟨_, found, behind, next⟩

theorem wake (place : pc ≤ program.length) : program.Encloses incidents (fiber.wake pc) :=
  encloses_of_ready place rfl encloses.watch

/-- A fiber may wait at an instruction for anything but the resolution of an incident. -/
theorem park (place : pc < program.length)
    (arms : ∀ {node arms}, wait = .race node arms -> ∀ arm ∈ arms, arm.target < program.length)
    (other : ∀ id, wait ≠ .incident id) :
    program.Encloses incidents { fiber with pc := pc, wait := wait } where
  place := Nat.le_of_lt place
  arms := arms
  watch := encloses.watch
  waits _ _ := place
  halted waits := absurd waits (other _)

/-- A fiber may be halted on an incident that was raised. -/
theorem halt {id : IncidentId} {incident : Incident} (found : incidents.get? id = some incident)
    (place : incident.address ≤ program.length)
    (next : incident.jobKey ≠ none -> incident.address < program.length) :
    program.Encloses incidents { fiber with pc := incident.address, wait := .incident id } where
  place := place
  arms := nofun
  watch := encloses.watch
  waits _ other := absurd rfl (other id)
  halted := by
    rintro _ ⟨⟩
    exact ⟨incident, found, place, next⟩

end Encloses

end Program

/-! ## Work within the program -/

/-- All fibers are enclosed, and every join that expects fibers goes on to expect those that
arrive. -/
structure InstanceState.Enclosed (state : InstanceState) (program : Program)
    (incidents : OrderedMap IncidentId Incident) : Prop where
  fibers : ∀ {id fiber}, state.fiber? id = some fiber -> program.Encloses incidents fiber
  counted : state.Counted program

namespace InstanceState.Enclosed

variable {work next : UnitOfWork} {program : Program}
  {incidents later : OrderedMap IncidentId Incident} {id : FiberId} {fiber changed : Fiber}
  {pc : Address} {wait : Wait}

theorem recalled {state : InstanceState} (enclosed : state.Enclosed program incidents)
    (recalled : Recalled incidents later) : state.Enclosed program later :=
  ⟨fun found => (enclosed.fibers found).recalled recalled, enclosed.counted⟩

section

variable (enclosed : work.state.Enclosed program incidents)

include enclosed

/-- Fibers may end, or know others and have tickets as they please. -/
theorem subsides (subsides : Subsides work.fiber? next.fiber?)
    (expected : next.record.expected = work.record.expected)
    (barriers : next.state.barriers = work.state.barriers) :
    next.state.Enclosed program incidents := by
  refine ⟨fun {id later} found => ?_, enclosed.counted.of_same expected barriers⟩
  obtain ⟨former, before, remains⟩ := subsides id later found
  exact (enclosed.fibers before).remains remains

theorem updateRecord {change : ProcessInstance -> ProcessInstance}
    (expected : (change work.record).expected = work.record.expected) :
    (work.updateRecord change).state.Enclosed program incidents :=
  ⟨enclosed.fibers, enclosed.counted.of_same expected rfl⟩

theorem accept (flags : Flags) (payload : Option Json) :
    (work.updateRecord (fun record => record.accept flags payload)).state.Enclosed program
      incidents := by
  refine enclosed.updateRecord ?_
  cases payload with
  | none => rfl
  | some payload => rfl

theorem putFiber (encloses : program.Encloses incidents changed) :
    (work.putFiber id changed).state.Enclosed program incidents := by
  refine ⟨fun {asked fiber} found => ?_, enclosed.counted.of_same rfl rfl⟩
  have found := (fiber?_putFiber work id asked changed).symm.trans found
  split at found
  · cases found
    exact encloses
  · exact enclosed.fibers found

theorem updateFiber {change : Fiber -> Fiber}
    (encloses : ∀ fiber, work.fiber? id = some fiber -> program.Encloses incidents (change fiber)) :
    (work.updateFiber id change).state.Enclosed program incidents := by
  rw [UnitOfWork.updateFiber]
  split
  · rename_i fiber found
    exact enclosed.putFiber (encloses fiber found)
  · exact enclosed

theorem park (encloses : ∀ fiber, work.fiber? id = some fiber ->
      program.Encloses incidents { fiber with pc := pc, wait := wait }) :
    (work.park id pc wait).state.Enclosed program incidents :=
  enclosed.updateFiber encloses

theorem wake (place : pc ≤ program.length) :
    (work.wake id pc).state.Enclosed program incidents := by
  rw [UnitOfWork.wake]
  split
  · exact enclosed
  · rename_i fiber found
    exact enclosed.putFiber ((enclosed.fibers found).wake place)

theorem spawn (place : pc ≤ program.length) (parent : Option FiberId) :
    (work.spawn pc parent).2.state.Enclosed program incidents := by
  refine ⟨fun {asked fiber} found => ?_, enclosed.counted.of_same rfl rfl⟩
  have found := (fiber?_spawn work asked pc parent).symm.trans found
  split at found
  · cases found
    exact Program.encloses_create place
  · exact enclosed.fibers found

/-! ### Ends -/

theorem endFiber (id : FiberId) : (work.endFiber id).state.Enclosed program incidents := by
  obtain ⟨expected, barriers⟩ := kept_endFiber work id
  exact enclosed.subsides (subsides_endFiber work id) expected barriers

theorem retire (id : FiberId) : (work.retire id).state.Enclosed program incidents :=
  @retire_keeps work (fun work => work.state.Enclosed program incidents)
    (fun id enclosed => endFiber enclosed id) enclosed id

theorem conclude (status : InstanceStatus) (event : RuntimeEvent) :
    (work.conclude status event).state.Enclosed program incidents :=
  ⟨enclosed.fibers, enclosed.counted.of_same rfl rfl⟩

theorem completeIfIdle : work.completeIfIdle.state.Enclosed program incidents := by
  rw [UnitOfWork.completeIfIdle]
  split
  · exact enclosed.conclude _ _
  · exact enclosed

theorem cancelAwaitedJob (fiber : Fiber) :
    (work.cancelAwaitedJob fiber).state.Enclosed program incidents := by
  rw [UnitOfWork.cancelAwaitedJob]
  split
  · exact enclosed
  · exact enclosed

theorem dropWatchdog (fiber : Fiber) :
    (work.dropWatchdog fiber).state.Enclosed program incidents := by
  have forgot : (work.updateFiber fiber.id (fun fiber =>
      { fiber with watchdog := none })).state.Enclosed program incidents :=
    enclosed.updateFiber (fun other found => (enclosed.fibers found).remains ⟨rfl, rfl, rfl, rfl⟩)
  exact @dropWatchdog_keeps work (fun work => work.state.Enclosed program incidents)
    (fun id enclosed => endFiber enclosed id) fiber forgot

/-! ### Splits, joins and watchdogs -/

theorem fork {parent : Fiber} {join : NodeKey} (splits : program.SplitsTo join)
    {targets : List Address} (branches : targets ≠ [])
    (within : ∀ target ∈ targets, target ≤ program.length) :
    (work.fork parent join targets).state.Enclosed program incidents := by
  have branched : ∀ (ticket : JoinTicket) (targets : List Address) (work : UnitOfWork),
      work.state.Enclosed program incidents -> (∀ target ∈ targets, target ≤ program.length) ->
      (targets.foldl (branch parent ticket) work).state.Enclosed program incidents := by
    intro ticket targets
    induction targets with
    | nil => exact fun work enclosed _ => enclosed
    | cons target rest ih =>
      intro work enclosed within
      obtain ⟨here, within⟩ := List.forall_mem_cons.1 within
      have begun := enclosed.spawn here (some parent.id)
      exact ih _ (begun.updateFiber
        (fun fiber found => (begun.fibers found).remains ⟨rfl, rfl, rfl, rfl⟩)) within
  have activated : (work.activateJoin join targets.length).2.state.Enclosed program incidents :=
    ⟨enclosed.fibers, enclosed.counted.activateJoin splits (List.length_pos_of_ne_nil branches)⟩
  exact (branched _ targets _ activated within).endFiber parent.id

/-- A ticket is spent. -/
theorem arrive {ticket : JoinTicket} {arrival : Arrival}
    (arrives : work.arrive ticket = .ok (arrival, next)) :
    next.state.Enclosed program incidents := by
  refine ⟨fun found => enclosed.fibers ((fiber?_arrive work _ arrives).symm.trans found), ?_⟩
  rw [UnitOfWork.arrive] at arrives
  cases counted : work.state.arrive ticket with
  | error error =>
    rw [counted] at arrives
    cases arrives
  | ok result =>
    rw [counted] at arrives
    cases arrives
    exact enclosed.counted.arrive counted

/-- A fiber that is at an instruction may arrive at a join. -/
theorem arriveAt (place : ∀ other, work.fiber? fiber.id = some other ->
      other.wait = .ready ∧ other.pc < program.length) {join : NodeKey}
    (arrives : work.arriveAt fiber join = .ok next) :
    next.state.Enclosed program incidents := by
  cases arrivesAt arrives with
  | stray => exact (enclosed.retire fiber.id).completeIfIdle
  | satisfied holds counted =>
    have reached := enclosed.arrive counted
    refine reached.updateFiber (fun other found => ?_)
    obtain ⟨ready, within⟩ := place other ((fiber?_arrive work _ counted).symm.trans found)
    exact Program.encloses_of_ready within ready (reached.fibers found).watch
  | waiting holds counted => exact (enclosed.arrive counted).retire fiber.id
  | stale holds counted => exact ((enclosed.arrive counted).retire fiber.id).completeIfIdle

/-- No arrival is refused. -/
theorem arrives (fiber : Fiber) (join : NodeKey) : ∃ next, work.arriveAt fiber join = .ok next := by
  rw [UnitOfWork.arriveAt]
  split
  · exact ⟨_, rfl⟩
  · rename_i ticket _
    obtain ⟨arrival, state, counts⟩ := enclosed.counted.arrives ticket
    rw [UnitOfWork.arrive, counts]
    cases arrival with
    | satisfied activation => exact ⟨_, rfl⟩
    | waiting arrived expected => exact ⟨_, rfl⟩
    | stale => exact ⟨_, rfl⟩

theorem watchOver (found : work.fiber? fiber.id = some fiber) (ready : fiber.wait = .ready)
    (older : fiber.id ≠ ⟨work.supply.next⟩) (place : fiber.pc < program.length)
    {boundary : NodeKey} {duration : Nat} {interrupting : Bool} {target : Address}
    (within : target < program.length) :
    (work.watchOver fiber boundary duration interrupting target).state.Enclosed program
      incidents := by
  refine ⟨fun {asked other} there => ?_, ?_⟩
  · have there := (fiber?_watchOver work asked fiber boundary duration interrupting target
      older).symm.trans there
    split at there
    · rename_i same
      rw [same, found] at there
      cases there
      exact Program.encloses_of_ready place ready (enclosed.fibers found).watch
    · split at there
      · cases there
        exact ⟨⟨Nat.le_of_lt place, nofun, by rintro _ ⟨⟩; exact within⟩, fun _ _ => place, nofun⟩
      · exact enclosed.fibers there
  · refine enclosed.counted.of_same ?_ ?_
    · exact (congrArg ProcessInstance.expected
        (record_watchOver work fiber boundary duration interrupting target)).trans rfl
    · rw [UnitOfWork.watchOver]
      simp only [barriers_updateFiber]
      rfl

theorem close {status : InstanceStatus} {event : RuntimeEvent}
    (closes : work.close status event = .ok next) : next.state.Enclosed program incidents := by
  exact @close_keeps work (fun work => work.state.Enclosed program incidents)
    (fun fiber enclosed => (cancelAwaitedJob enclosed fiber).endFiber fiber.id)
    (fun status event enclosed => conclude enclosed status event) enclosed _ _ _ closes

/-! ### Signals -/

theorem interrupt (host : FiberId) :
    (work.interrupt host).2.state.Enclosed program incidents := by
  rw [UnitOfWork.interrupt]
  split
  · exact enclosed
  · rename_i fiber _
    exact (enclosed.cancelAwaitedJob fiber).endFiber host

theorem fire {watch : Watch} (within : watch.target < program.length) (id : FiberId) :
    (work.fire id watch).state.Enclosed program incidents := by
  have takesPlace : ∀ (freed : UnitOfWork) (tickets : List JoinTicket),
      freed.state.Enclosed program incidents ->
      ((freed.updateFiber id (fun fiber => { fiber with watch := none, tickets := tickets })).wake
        id watch.target).state.Enclosed program incidents := by
    intro freed tickets enclosed
    have free : (freed.updateFiber id (fun fiber =>
        { fiber with watch := none, tickets := tickets })).state.Enclosed program incidents := by
      refine enclosed.updateFiber (fun fiber found => ?_)
      have encloses := enclosed.fibers found
      exact ⟨⟨encloses.place, encloses.arms, nofun⟩, encloses.waits, encloses.halted⟩
    exact free.wake (Nat.le_of_lt within)
  have logged : (work.emit (.boundaryFired watch.boundary watch.interrupting)).state.Enclosed
      program incidents := enclosed
  rw [UnitOfWork.fire]
  dsimp only
  split
  · exact takesPlace _ _ (logged.interrupt watch.host)
  · exact takesPlace _ _ (logged.updateFiber
      (fun host found => (enclosed.fibers found).remains ⟨rfl, rfl, rfl, rfl⟩))

/-- A fiber that is answered goes on where its wait leads. -/
theorem resume (found : work.fiber? id = some fiber) {how : Resumption}
    (answered : fiber.Answered how) : (work.resume id how).state.Enclosed program incidents := by
  have encloses := enclosed.fibers found
  cases answered with
  | fire waits watches => exact enclosed.fire (encloses.watch watches) id
  | timer waits free => exact enclosed.wake (encloses.waits (by simp [waits]) (by simp [waits]))
  | message waits => exact enclosed.wake (encloses.waits (by simp [waits]) (by simp [waits]))
  | human waits => exact enclosed.wake (encloses.waits (by simp [waits]) (by simp [waits]))
  | @race node arms winner losers waits leads =>
    obtain ⟨arm, listed, rfl⟩ := List.mem_map.1 leads
    have within := encloses.arms waits arm listed
    have logged : ∀ (losers : List Address) (work : UnitOfWork),
        work.state.Enclosed program incidents ->
        (losers.foldl (fun (work : UnitOfWork) target =>
          work.emit (.raceArmCancelled node target)) work).state.Enclosed program incidents := by
      intro losers
      induction losers with
      | nil => exact fun work enclosed => enclosed
      | cons target rest ih => exact fun work enclosed => ih _ enclosed
    exact (logged losers (work.emit (.raceWon node arm.target)) enclosed).wake (Nat.le_of_lt within)

theorem deliver (signal : WakeSignal) :
    (work.deliver signal).2.state.Enclosed program incidents := by
  cases answered : work.resumption signal with
  | error reason =>
    rw [UnitOfWork.deliver, answered]
    exact enclosed
  | ok how =>
    obtain ⟨-, fiber, found, -, answers⟩ := resumption_ok answered
    rw [UnitOfWork.deliver, answered]
    exact (enclosed.accept signal.flags signal.payload).resume found answers

/-! ### Incidents -/

/-- A fiber may be halted on an incident that was raised. -/
theorem halt {incident : Incident} (found : incidents.get? incident.id = some incident)
    (place : incident.address ≤ program.length)
    (next : incident.jobKey ≠ none -> incident.address < program.length) :
    (work.halt incident).state.Enclosed program incidents :=
  have logged : (work.emit (.incidentRaised incident.id incident.kind)).state.Enclosed program
      incidents := enclosed
  logged.park (fun _ there => (enclosed.fibers there).halt found place next)

/-- A fiber that an operator lets begin again does so within the program. -/
theorem restart (sound : program.problem? = none) {incident resolved : Incident}
    (found : incidents.get? incident.id = some incident) (settles : incident.Settles resolved) :
    (work.restart program resolved).2.state.Enclosed program incidents := by
  obtain ⟨status, rfl⟩ := settles
  rw [UnitOfWork.restart]
  split
  · exact enclosed
  · rename_i fiber present
    split
    · rename_i waits
      obtain ⟨_, found', behind, -⟩ := (enclosed.fibers present).halted waits
      cases found.symm.trans found'
      exact enclosed.wake (Program.restartAddress_le sound behind)
    · exact enclosed

end

end InstanceState.Enclosed

/-! ## Turns -/

namespace UnitOfWork

variable {work next : UnitOfWork} {program : Program} {table : OrderedMap IncidentId Incident}
  {fiber : Fiber} {id : FiberId}

/-- What a fiber has computed before its turn ends leaves it where it is. -/
theorem Prepared.enclosed {incidents : OrderedMap IncidentId Incident} {before : UnitOfWork}
    (prepared : work.Prepared fiber before) (enclosed : work.state.Enclosed program incidents)
    (found : work.fiber? fiber.id = some fiber) (ready : fiber.wait = .ready) :
    before.state.Enclosed program incidents := by
  cases prepared with
  | same => exact enclosed
  | changed computes stays =>
    refine enclosed.putFiber (Program.encloses_of_ready ?_ (computes.wait.trans ready) ?_)
    · exact stays ▸ (enclosed.fibers found).place
    · exact computes.watch ▸ (enclosed.fibers found).watch

/-- No turn leads out of the program. -/
theorem Turned.enclosed (turned : Turned program fiber work next) (sound : program.problem? = none)
    (shapely : work.Shapely) (recalls : work.Recalls table)
    (enclosed : work.state.Enclosed program (work.incidentsOver table))
    (found : work.fiber? fiber.id = some fiber) (ready : fiber.wait = .ready) :
    next.state.Enclosed program (next.incidentsOver table) := by
  have enclosed := enclosed.recalled ((turned.spares shapely).recalls recalls).2
  have encloses := enclosed.fibers found
  have computed {instruction changed} (reached : program.instruction? fiber.pc = some instruction)
      (computes : fiber.Computes changed) (lands : changed.pc ∈ instruction.onward fiber.pc) :
      (work.putFiber fiber.id changed).state.Enclosed program (next.incidentsOver table) :=
    enclosed.putFiber (Program.encloses_of_ready (Program.onward_le sound reached lands)
      (computes.wait.trans ready) (computes.watch ▸ encloses.watch))
  have suspended {start : UnitOfWork} {instruction wait}
      (begun : start.state.Enclosed program (next.incidentsOver table))
      (reached : program.instruction? fiber.pc = some instruction)
      (arms : ∀ {node arms}, wait = .race node arms -> ∀ arm ∈ arms, arm.target < program.length)
      (other : ∀ id, wait ≠ .incident id) :
      (start.suspend fiber wait).state.Enclosed program (next.incidentsOver table) :=
    begun.park (fun _ there => (begun.fibers there).park (Program.lt_of_reached reached) arms other)
  have splits {instruction index join} (reached : program.instruction? fiber.pc = some instruction)
      (meets : instruction.splitsTo? = some index)
      (named : program.symbols.node? index = some join) : program.SplitsTo join :=
    ⟨instruction, List.mem_of_getElem? reached, index, meets, named⟩
  cases turned with
  | compute reached computes lands => exact computed reached computes lands
  | storeFlag reached computes lands =>
    exact (computed reached computes (List.mem_singleton.2 lands)).updateRecord rfl
  | count reached computes lands =>
    have counts := computed reached computes (List.mem_singleton.2 lands)
    exact ⟨counts.fibers, counts.counted.of_same rfl rfl⟩
  | @handOut _ _ _ _ key name reached named =>
    exact @suspended (work.dispatch (.first work.record fiber key name _ work.time)) _ _ enclosed
      reached nofun nofun
  | sleep reached => exact suspended enclosed reached nofun nofun
  | listen reached => exact suspended enclosed reached nofun nofun
  | consult reached => exact suspended enclosed reached nofun nofun
  | race reached leads =>
    refine suspended enclosed reached ?_ nofun
    rintro _ _ ⟨⟩ arm listed
    have target := List.mem_map_of_mem (f := ArmWait.target) listed
    rw [leads] at target
    exact Program.target_lt sound reached target
  | watch reached =>
    exact enclosed.watchOver found ready (WellFormed.ne_fresh shapely found)
      (Program.lt_of_reached reached) (Program.target_lt sound reached List.mem_cons_self)
  | unwatch reached computes lands =>
    exact (computed reached computes (List.mem_singleton.2 lands)).dropWatchdog fiber
  | fork reached named branches =>
    exact enclosed.fork (splits reached rfl named) branches
      (fun _ listed => Nat.le_of_lt (Program.target_lt sound reached listed))
  | forkInclusive reached named branches chosen prepared =>
    refine (prepared.enclosed enclosed found ready).fork (splits reached rfl named) branches
      (fun target listed => Nat.le_of_lt (Program.target_lt sound reached (List.mem_append.2 ?_)))
    rcases chosen with part | rfl
    · exact .inl (part.subset listed)
    · exact .inr listed
  | join reached named arrives =>
    refine enclosed.arriveAt (fun other there => ?_) arrives
    cases found.symm.trans there
    exact ⟨ready, Program.lt_of_reached reached⟩
  | finish reached => exact (enclosed.retire fiber.id).completeIfIdle
  | terminate reached closes => exact enclosed.close closes
  | halt prepared cause =>
    rename_i kind message before
    let drawn : UnitOfWork := { before with supply := ⟨before.supply.next + 1⟩ }
    have numbered : drawn.state.Enclosed program _ := prepared.enclosed enclosed found ready
    refine numbered.halt ?_ ?_ ?_
    · exact (get?_incidentsOver_putIncident ..).trans (if_pos rfl)
    · exact encloses.place
    · exact fun about => absurd rfl about

/-- Whatever a step of a running instance lacks is foreseen. -/
theorem foresees_of_fails {incidents : OrderedMap IncidentId Incident}
    (enclosed : work.state.Enclosed program incidents) (sound : program.problem? = none)
    (running : work.record.isRunning = true) (found : work.fiber? fiber.id = some fiber)
    {error : MachineError} (fails : (outcome (step program fiber.id) work).1 = .error error) :
    program.Foresees error := by
  rcases stepped : outcome (step program fiber.id) work with ⟨result, after⟩
  rw [stepped] at fails
  cases fails
  cases faulted_step found stepped with
  | beyond absent =>
    exact Nat.le_antisymm (enclosed.fibers found).place (List.getElem?_eq_none_iff.1 absent)
  | values wants spent =>
    cases error with
    | stackUnderflow pc => trivial
    | typeMismatch pc value => trivial
    | registerOutOfRange pc index => trivial
    | _ => cases wants
  | unknown reached refers absent spent =>
    have named := Program.name_isSome sound reached refers
    rw [absent] at named
    cases named
  | unsplit reached => trivial
  | overrun reached named refused =>
    obtain ⟨next, arrives⟩ := enclosed.arrives fiber _
    cases arrives.symm.trans refused
  | closed reached refused =>
    rw [UnitOfWork.close, eq_of_beq running] at refused
    cases refused

end UnitOfWork

/-! ## Results of jobs -/

section

variable {work changed : UnitOfWork} {program : Program}
  {incidents : OrderedMap IncidentId Incident} {job : Job} {fiber : Fiber}
  (within : work.state.Enclosed program incidents)

include within

/-- A fiber that waits for a job is at an instruction. -/
theorem UnitOfWork.Wanted.lt (wanted : work.Wanted job fiber) : fiber.pc < program.length :=
  (within.fibers wanted.found).waits (by simp [wanted.waits]) (by simp [wanted.waits])

theorem Job.enclosed_applied (wanted : work.Wanted job fiber) (completion : JobCompletion) :
    (job.applied completion fiber.pc work).state.Enclosed program incidents := by
  have finished : (job.finished (.jobCompleted job.key) (work.recordCompletion
      ⟨job.key, completion, true, work.time⟩)).state.Enclosed program incidents := within
  exact (finished.accept completion.flags completion.payload).wake (wanted.lt within)

theorem Job.Failed.enclosed {outcome : FailureOutcome}
    (failed : job.Failed program work fiber outcome changed) (sound : program.problem? = none)
    (wanted : work.Wanted job fiber)
    (raised : ∀ {kind problem expires}, changed = job.buried kind problem expires fiber.pc work ->
      incidents.get? ⟨work.supply.next⟩ = some
        { Incident.raise ⟨work.supply.next⟩ job.owner job.fiber fiber.pc kind problem work.time with
          node := some job.node
          jobKey := some job.key
          attempts := job.attempt }) :
    changed.state.Enclosed program incidents := by
  cases failed with
  | retry notBefore problem => exact within
  | bury kind problem expires cause =>
    let drawn : UnitOfWork := { work with supply := ⟨work.supply.next + 1⟩ }
    have numbered : drawn.state.Enclosed program incidents := within
    have stopped : (job.stopped kind problem fiber.pc work).state.Enclosed program incidents := by
      refine numbered.halt (raised rfl) ?_ ?_
      · exact Nat.le_of_lt (wanted.lt within)
      · exact fun _ => wanted.lt within
    rw [Job.buried, Job.state_shelved]
    exact stopped
  | route problem leads =>
    rename_i code target
    obtain ⟨instruction, reached, listed⟩ := mem_targets_of_errorRoute leads
    have finished : (Job.finished { job with lastError := some problem }
        (.jobErrorRouted job.key code) work).state.Enclosed program incidents := within
    exact (finished.dropWatchdog fiber).wake
      (Nat.le_of_lt (Program.target_lt sound reached listed))

/-- The fiber of a job that is put back waits for it where it is. -/
theorem DeadLetter.enclosed_requeued {letter : DeadLetter}
    (found : work.fiber? letter.job.fiber = some fiber) {incident : IncidentId}
    (waits : fiber.wait = .incident incident) (raised : RaisedFor incidents incident letter.key) :
    (letter.requeued fiber.pc work).state.Enclosed program incidents := by
  rw [letter.state_requeued]
  refine within.park (fun other there => (within.fibers there).park ?_ nofun nofun)
  obtain ⟨_, present, -, next⟩ := (within.fibers found).halted waits
  obtain ⟨_, present', about⟩ := raised
  cases present.symm.trans present'
  exact next (by simp [about])

end

/-! ## All changes -/

/-- No change leads out of the program. -/
theorem Intervened.enclosed {store : MemoryStore} {id : InstanceId} {program : Program}
    {state : InstanceState} {now : Instant} {supply : IdSupply} {purpose : Purpose}
    {changed : UnitOfWork}
    (intervened : Intervened store id program (.begin state now supply) purpose changed)
    (sound : program.problem? = none) (filed : store.Filed)
    (shapely : (UnitOfWork.begin state now supply).Shapely) (same : state.record.id = id)
    (anchored : (UnitOfWork.begin state now supply).Anchored store)
    (enclosed : state.Enclosed program store.incidents) :
    changed.state.Enclosed program (changed.incidentsOver store.incidents) := by
  have recalled := (intervened.anchored filed shapely same anchored).recalled
  have begun : (UnitOfWork.begin state now supply).state.Enclosed program
      (changed.incidentsOver store.incidents) := enclosed.recalled recalled
  cases intervened with
  | run => exact begun
  | cancel running closes => exact begun.close closes
  | complete stored owned first wanted completion =>
    exact Job.enclosed_applied begun wanted completion
  | record stored owned first unwanted completion => exact begun
  | fail stored owned wanted failed =>
    refine failed.enclosed begun sound wanted ?_
    rintro kind problem expires rfl
    rw [Job.buried, Job.incidentsOver_shelved, Job.stopped, halt]
    exact (get?_incidentsOver_putIncident ..).trans (if_pos rfl)
  | dismiss => exact begun
  | deliver running signal => exact begun.deliver signal
  | discard => exact begun
  | restart stored settles running alone owned closed =>
    rename_i key incident resolved
    have named := (anchored.recalls _ _ stored).1
    let logged := (UnitOfWork.begin state now supply).emit (.incidentResolved incident.id)
    have restarted : logged.state.Enclosed program store.incidents := enclosed
    exact (restarted.restart sound (named.symm ▸ stored) settles).recalled recalled
  | settle stored settles owned closed => exact begun
  | requeue stored owned running found waits settles =>
    rename_i place letter fiber incident settled
    obtain ⟨⟨id', halted, raised⟩, -⟩ := anchored.held stored (owned.trans same.symm) found
    cases waits.symm.trans halted
    have within : (UnitOfWork.begin state now supply).state.Enclosed program store.incidents :=
      enclosed
    rw [settles.state_emit]
    exact (DeadLetter.enclosed_requeued within found waits raised).recalled recalled
  | abandon stored owned => exact begun

end ProcessEngine
