import Mathlib.Data.List.Nodup
import ProcessEngine.Engine.Operation
import ProcessEngine.Proofs.Tables
import ProcessEngine.Proofs.Turns

/-!
# How far the operations of a unit of work reach

Every operation of a unit of work goes on with the same instance of the same program and notes
the fibers and barriers that it changes (`Continues`). Turns never touch completions and dead
letters (`Confined`), and most operations do not touch jobs either (`Steady`).
-/

namespace ProcessEngine

/-- What differs from a state of an instance is noted: a fiber that is not noted as touched is as
before or noted as ended, and a barrier that is not noted is as before. -/
structure Noted (base : InstanceState) (fibers : OrderedMap FiberId Fiber)
    (barriers : OrderedMap NodeKey JoinBarrier) (touched ended : List FiberId)
    (joins : List NodeKey) : Prop where
  once : touched.Nodup
  live : ∀ id ∈ touched, (fibers.get? id).isSome
  others : ∀ id, id ∉ touched ->
    fibers.get? id = if id ∈ ended then none else base.fibers.get? id
  same : ∀ join, join ∉ joins -> barriers.get? join = base.barriers.get? join
  kept : ∀ join, barriers.get? join = none -> base.barriers.get? join = none
  named : ∀ join barrier, barriers.get? join = some barrier -> barrier.join = join

namespace Noted

variable {base : InstanceState} {fibers : OrderedMap FiberId Fiber}
  {barriers : OrderedMap NodeKey JoinBarrier} {touched ended : List FiberId}
  {joins : List NodeKey}

/-- Nothing has changed yet. -/
theorem refl (named : ∀ join barrier, base.barriers.get? join = some barrier ->
    barrier.join = join) : Noted base base.fibers base.barriers [] [] [] :=
  ⟨.nil, by simp, by simp, fun _ _ => rfl, fun _ absent => absent, named⟩

theorem put (noted : Noted base fibers barriers touched ended joins) (id : FiberId)
    (fiber : Fiber) :
    Noted base (fibers.insert id fiber) barriers (touched.insert id) ended joins where
  once := List.Nodup.insert noted.once
  live other listed := by
    rw [OrderedMap.get?_insert]
    split
    · rfl
    · rename_i different
      exact noted.live other ((List.mem_insert_iff.1 listed).resolve_left different)
  others other absent := by
    obtain ⟨different, untouched⟩ := not_or.1 (fun known => absent (List.mem_insert_iff.2 known))
    rw [OrderedMap.get?_insert, if_neg different]
    exact noted.others other untouched
  same := noted.same
  kept := noted.kept
  named := noted.named

theorem erase (noted : Noted base fibers barriers touched ended joins) (id : FiberId) :
    Noted base (fibers.erase id) barriers (touched.erase id) (ended ++ [id]) joins where
  once := noted.once.erase id
  live other listed := by
    obtain ⟨different, known⟩ := noted.once.mem_erase_iff.1 listed
    rw [OrderedMap.get?_erase, if_neg different]
    exact noted.live other known
  others other absent := by
    rw [OrderedMap.get?_erase]
    by_cases same : other = id
    · simp [same]
    · have untouched : other ∉ touched :=
        fun known => absent (noted.once.mem_erase_iff.2 ⟨same, known⟩)
      rw [if_neg same]
      simpa [same] using noted.others other untouched
  same := noted.same
  kept := noted.kept
  named := noted.named

theorem putBarrier (noted : Noted base fibers barriers touched ended joins) (join : NodeKey)
    (activation arrived : Nat) :
    Noted base fibers (barriers.insert join ⟨join, activation, arrived⟩) touched ended
      (joins.insert join) where
  once := noted.once
  live := noted.live
  others := noted.others
  same other absent := by
    obtain ⟨different, untouched⟩ := not_or.1 (fun known => absent (List.mem_insert_iff.2 known))
    rw [OrderedMap.get?_insert, if_neg different]
    exact noted.same other untouched
  kept other absent := by
    rw [OrderedMap.get?_insert] at absent
    split at absent
    · cases absent
    · exact noted.kept other absent
  named other found listed := by
    rw [OrderedMap.get?_insert] at listed
    split at listed
    · rename_i same
      cases listed
      exact same.symm
    · exact noted.named other found listed

/-- A join may be noted although its barrier has not changed. -/
theorem noteJoin (noted : Noted base fibers barriers touched ended joins) (join : NodeKey) :
    Noted base fibers barriers touched ended (joins.insert join) :=
  ⟨noted.once, noted.live, noted.others,
    fun other absent => noted.same other (fun known => absent (List.mem_insert_of_mem known)),
    noted.kept, noted.named⟩

end Noted

namespace UnitOfWork

/-- The work notes what differs from the state it began with. -/
abbrev Notes (work : UnitOfWork) (base : InstanceState) : Prop :=
  Noted base work.state.fibers work.state.barriers work.touched work.endedFibers work.joins

/-- The same instance is worked on, numbers and identifiers are only taken, and changes are
noted. -/
structure Continues (work next : UnitOfWork) : Prop where
  id : next.record.id = work.record.id
  program : next.record.program = work.record.program
  base : next.base = work.base
  time : next.time = work.time
  supply : work.supply.next ≤ next.supply.next
  sequence : work.record.nextSequence ≤ next.record.nextSequence
  notes : ∀ base, work.Notes base -> next.Notes base

/-- Moreover nothing is noted about completions and dead letters. -/
structure Confined (work next : UnitOfWork) : Prop extends Continues work next where
  completions : next.completions = work.completions
  deadLetters : next.deadLetters = work.deadLetters
  removedDeadLetters : next.removedDeadLetters = work.removedDeadLetters

/-- Moreover nothing is noted about jobs. -/
structure Steady (work next : UnitOfWork) : Prop extends Confined work next where
  jobs : next.jobs = work.jobs
  cancelledJobs : next.cancelledJobs = work.cancelledJobs

variable {first middle last work : UnitOfWork}

theorem Continues.refl (work : UnitOfWork) : work.Continues work :=
  ⟨rfl, rfl, rfl, rfl, Nat.le_refl _, Nat.le_refl _, fun _ noted => noted⟩

theorem Continues.trans (earlier : first.Continues middle) (later : middle.Continues last) :
    first.Continues last where
  id := later.id.trans earlier.id
  program := later.program.trans earlier.program
  base := later.base.trans earlier.base
  time := later.time.trans earlier.time
  supply := Nat.le_trans earlier.supply later.supply
  sequence := Nat.le_trans earlier.sequence later.sequence
  notes base noted := later.notes base (earlier.notes base noted)

theorem Confined.refl (work : UnitOfWork) : work.Confined work :=
  ⟨.refl work, rfl, rfl, rfl⟩

theorem Confined.trans (earlier : first.Confined middle) (later : middle.Confined last) :
    first.Confined last where
  toContinues := earlier.toContinues.trans later.toContinues
  completions := later.completions.trans earlier.completions
  deadLetters := later.deadLetters.trans earlier.deadLetters
  removedDeadLetters := later.removedDeadLetters.trans earlier.removedDeadLetters

theorem Steady.refl (work : UnitOfWork) : work.Steady work := ⟨.refl work, rfl, rfl⟩

theorem Steady.trans (earlier : first.Steady middle) (later : middle.Steady last) :
    first.Steady last where
  toConfined := earlier.toConfined.trans later.toConfined
  jobs := later.jobs.trans earlier.jobs
  cancelledJobs := later.cancelledJobs.trans earlier.cancelledJobs

/-! ## Cases of operations -/

/-- What every end of a fiber keeps is kept when a fiber ends together with its watchdog. -/
theorem retire_keeps {Kept : UnitOfWork -> Prop}
    (ends : ∀ {work} id, Kept work -> Kept (work.endFiber id)) (kept : Kept work) (id : FiberId) :
    Kept (work.retire id) := by
  rw [retire]
  split
  · exact kept
  · rename_i fiber _
    cases fiber.watchdog with
    | none => exact ends id kept
    | some watchdog => exact ends watchdog (ends id kept)

/-- It is kept when a fiber drops its watchdog if it is kept when the fiber forgets it. -/
theorem dropWatchdog_keeps {Kept : UnitOfWork -> Prop}
    (ends : ∀ {work} id, Kept work -> Kept (work.endFiber id)) (fiber : Fiber)
    (forgot : Kept (work.updateFiber fiber.id (fun fiber => { fiber with watchdog := none }))) :
    Kept (work.dropWatchdog fiber) := by
  rw [dropWatchdog]
  cases fiber.watchdog with
  | none => exact forgot
  | some watchdog => exact ends watchdog forgot

/-- What becomes of a fiber that is brought to a join. -/
inductive ArrivesAt (work : UnitOfWork) (fiber : Fiber) (join : NodeKey) : UnitOfWork -> Prop where
  /-- The fiber has no ticket for the join. -/
  | stray : ArrivesAt work fiber join (work.retire fiber.id).completeIfIdle
  | satisfied {ticket activation reached}
      (holds : fiber.tickets.find? (isFor join) = some ticket)
      (counted : work.arrive ticket = .ok (.satisfied activation, reached)) :
    ArrivesAt work fiber join (reached.updateFiber fiber.id (fun fiber =>
      { fiber with tickets := fiber.tickets.eraseP (isFor join), pc := fiber.pc + 1 }))
  | waiting {ticket arrived expected reached}
      (holds : fiber.tickets.find? (isFor join) = some ticket)
      (counted : work.arrive ticket = .ok (.waiting arrived expected, reached)) :
    ArrivesAt work fiber join (reached.retire fiber.id)
  | stale {ticket reached} (holds : fiber.tickets.find? (isFor join) = some ticket)
      (counted : work.arrive ticket = .ok (.stale, reached)) :
    ArrivesAt work fiber join (reached.retire fiber.id).completeIfIdle

theorem arrivesAt {fiber : Fiber} {join : NodeKey} {next : UnitOfWork}
    (arrives : work.arriveAt fiber join = .ok next) : work.ArrivesAt fiber join next := by
  rw [arriveAt] at arrives
  split at arrives
  · cases arrives
    exact .stray
  · rename_i ticket holds
    cases counted : work.arrive ticket with
    | error error =>
      rw [counted] at arrives
      cases arrives
    | ok result =>
      obtain ⟨arrival, reached⟩ := result
      rw [counted] at arrives
      cases arrival with
      | satisfied activation =>
        cases arrives
        exact .satisfied holds counted
      | waiting arrived expected =>
        cases arrives
        exact .waiting holds counted
      | stale =>
        cases arrives
        exact .stale holds counted

/-- Closing an instance that runs ends its fibers first. -/
theorem close_cases {status : InstanceStatus} {event : RuntimeEvent} {next : UnitOfWork}
    (closes : work.close status event = .ok next) :
    work.record.isRunning = true ∧
      next = (work.state.fibersInOrder.foldl (fun (work : UnitOfWork) fiber =>
        (work.cancelAwaitedJob fiber).endFiber fiber.id) work).conclude status event := by
  rw [close] at closes
  cases changed : work.record.status.change status with
  | error error =>
    rw [changed] at closes
    cases closes
  | ok done =>
    rw [changed] at closes
    cases closes
    refine ⟨?_, rfl⟩
    rw [InstanceStatus.change] at changed
    split at changed
    · rename_i becomes
      rw [InstanceStatus.canBecome, Bool.and_eq_true] at becomes
      rw [ProcessInstance.isRunning]
      cases same : work.record.status with
      | running => rfl
      | _ =>
        rw [same] at becomes
        cases becomes.1
    · cases changed

/-- What is kept when a fiber ends, its job is cancelled or the instance is given its final status
is kept when the instance is closed. -/
theorem close_keeps {Kept : UnitOfWork -> Prop}
    (ends : ∀ {work} (fiber : Fiber), Kept work ->
      Kept ((work.cancelAwaitedJob fiber).endFiber fiber.id))
    (concludes : ∀ {work} status event, Kept work -> Kept (work.conclude status event))
    (kept : Kept work) {status : InstanceStatus} {event : RuntimeEvent} {next : UnitOfWork}
    (closes : work.close status event = .ok next) : Kept next := by
  obtain ⟨-, rfl⟩ := close_cases closes
  refine concludes status event ?_
  clear closes
  generalize work.state.fibersInOrder = fibers
  induction fibers generalizing work with
  | nil => exact kept
  | cons fiber rest ih => exact ih (ends fiber kept)

/-! ## Operations that note nothing about jobs -/

theorem steady_updateRecord (work : UnitOfWork) {change : ProcessInstance -> ProcessInstance}
    (id : (change work.record).id = work.record.id)
    (program : (change work.record).program = work.record.program)
    (sequence : work.record.nextSequence ≤ (change work.record).nextSequence) :
    work.Steady (work.updateRecord change) :=
  ⟨⟨⟨id, program, rfl, rfl, Nat.le_refl _, sequence, fun _ noted => noted⟩, rfl, rfl, rfl⟩,
    rfl, rfl⟩

theorem steady_emit (work : UnitOfWork) (event : RuntimeEvent) : work.Steady (work.emit event) :=
  ⟨⟨⟨rfl, rfl, rfl, rfl, Nat.le_refl _, Nat.le_refl _, fun _ noted => noted⟩,
    rfl, rfl, rfl⟩, rfl, rfl⟩

theorem steady_putFiber (work : UnitOfWork) (id : FiberId) (fiber : Fiber) :
    work.Steady (work.putFiber id fiber) :=
  ⟨⟨⟨rfl, rfl, rfl, rfl, Nat.le_refl _, Nat.le_refl _, fun _ noted => noted.put id fiber⟩,
    rfl, rfl, rfl⟩, rfl, rfl⟩

theorem steady_updateFiber (work : UnitOfWork) (id : FiberId) (change : Fiber -> Fiber) :
    work.Steady (work.updateFiber id change) := by
  rw [updateFiber]
  split
  · exact steady_putFiber work id _
  · exact .refl work

theorem steady_spawn (work : UnitOfWork) (pc : Address) (parent : Option FiberId) :
    work.Steady (work.spawn pc parent).2 :=
  ⟨⟨⟨rfl, rfl, rfl, rfl, Nat.le_succ _, Nat.le_succ _, fun _ noted => noted.put _ _⟩,
    rfl, rfl, rfl⟩, rfl, rfl⟩

theorem steady_endFiber (work : UnitOfWork) (id : FiberId) : work.Steady (work.endFiber id) := by
  rw [endFiber]
  split
  · exact .refl work
  · exact ⟨⟨⟨rfl, rfl, rfl, rfl, Nat.le_refl _, Nat.le_refl _, fun _ noted => noted.erase id⟩,
      rfl, rfl, rfl⟩, rfl, rfl⟩

theorem steady_park (work : UnitOfWork) (id : FiberId) (pc : Address) (wait : Wait) :
    work.Steady (work.park id pc wait) :=
  (steady_updateFiber work id _).trans (steady_emit _ _)

theorem steady_wake (work : UnitOfWork) (id : FiberId) (pc : Address) :
    work.Steady (work.wake id pc) := by
  rw [wake]
  split
  · exact .refl work
  · exact (steady_putFiber work id _).trans (steady_emit _ _)

theorem steady_activateJoin (work : UnitOfWork) (join : NodeKey) (expected : Nat) :
    work.Steady (work.activateJoin join expected).2 :=
  ⟨⟨⟨rfl, rfl, rfl, rfl, Nat.le_refl _, Nat.le_refl _, fun _ noted => noted.putBarrier join _ _⟩,
    rfl, rfl, rfl⟩, rfl, rfl⟩

/-- What an arrival at a join comes to: a stale ticket changes nothing, and any other is counted
at the barrier of its join. -/
theorem arrive_cases {state next : InstanceState} {ticket : JoinTicket} {arrival : Arrival}
    (arrives : state.arrive ticket = .ok (arrival, next)) :
    (state.admission? ticket = none ∧ arrival = .stale ∧ next = state) ∨
      ∃ barrier expected, state.admission? ticket = some (barrier, expected) ∧
        barrier.arrived < expected ∧
        next.fibers = state.fibers ∧
        next.barriers = state.barriers.insert ticket.join
          { barrier with arrived := barrier.arrived + 1 } ∧
        ((barrier.arrived + 1 = expected ∧ arrival = .satisfied barrier.activation ∧
            next.record = { state.record with
              expected := state.record.expected.erase ticket.join }) ∨
          (barrier.arrived + 1 < expected ∧ arrival = .waiting (barrier.arrived + 1) expected ∧
            next.record = state.record)) := by
  rw [InstanceState.arrive] at arrives
  cases admitted : state.admission? ticket with
  | none =>
    rw [admitted] at arrives
    cases arrives
    exact .inl ⟨rfl, rfl, rfl⟩
  | some found =>
    obtain ⟨barrier, expected⟩ := found
    rw [admitted] at arrives
    dsimp only at arrives
    refine .inr ⟨barrier, expected, rfl, ?_⟩
    split at arrives
    · cases arrives
    · rename_i room
      have below : barrier.arrived < expected := Nat.lt_of_not_le room
      split at arrives
      · rename_i last
        cases arrives
        exact ⟨below, rfl, rfl, .inl ⟨last, rfl, rfl⟩⟩
      · rename_i more
        cases arrives
        exact ⟨below, rfl, rfl, .inr ⟨by omega, rfl, rfl⟩⟩

/-- A ticket is admitted at the barrier of its join. -/
theorem barrier_of_admission {state : InstanceState} {ticket : JoinTicket}
    {barrier : JoinBarrier} {expected : Nat}
    (admitted : state.admission? ticket = some (barrier, expected)) :
    state.barriers.get? ticket.join = some barrier ∧ barrier.activation = ticket.activation ∧
      state.record.expected.get? ticket.join = some expected := by
  rw [InstanceState.admission?] at admitted
  cases found : state.barriers.get? ticket.join with
  | none =>
    rw [found] at admitted
    cases admitted
  | some present =>
    rw [found] at admitted
    simp only [Option.bind_eq_bind, Option.bind_some] at admitted
    split at admitted
    · rename_i current
      cases counted : state.record.expected.get? ticket.join with
      | none =>
        rw [counted] at admitted
        cases admitted
      | some number =>
        rw [counted] at admitted
        cases admitted
        exact ⟨rfl, current, rfl⟩
    · cases admitted

theorem steady_arrive {ticket : JoinTicket} {arrival : Arrival} {next : UnitOfWork}
    (arrives : work.arrive ticket = .ok (arrival, next)) : work.Steady next := by
  rw [arrive] at arrives
  cases counted : work.state.arrive ticket with
  | error error =>
    rw [counted] at arrives
    cases arrives
  | ok result =>
    obtain ⟨found, state⟩ := result
    rw [counted] at arrives
    cases arrives
    refine ⟨⟨⟨?_, ?_, rfl, rfl, Nat.le_refl _, ?_, fun base noted => ?_⟩, rfl, rfl, rfl⟩, rfl, rfl⟩
    all_goals
      rcases arrive_cases counted with ⟨-, -, rfl⟩ |
        ⟨barrier, expected, admitted, -, fibers, barriers, ⟨-, -, record⟩ | ⟨-, -, record⟩⟩
    · rfl
    · exact (congrArg ProcessInstance.id record :)
    · exact (congrArg ProcessInstance.id record :)
    · rfl
    · exact (congrArg ProcessInstance.program record :)
    · exact (congrArg ProcessInstance.program record :)
    · exact Nat.le_refl _
    · exact Nat.le_of_eq (congrArg ProcessInstance.nextSequence record :).symm
    · exact Nat.le_of_eq (congrArg ProcessInstance.nextSequence record :).symm
    · exact noted.noteJoin ticket.join
    all_goals
      have named := noted.named _ _ (barrier_of_admission admitted).1
      have counted := noted.putBarrier ticket.join barrier.activation (barrier.arrived + 1)
      rw [← named] at counted
      change Noted base state.fibers state.barriers _ _ _
      rw [fibers, barriers]
      simpa [named] using counted

theorem steady_putIncident (work : UnitOfWork) (incident : Incident) :
    work.Steady (work.putIncident incident) :=
  ⟨⟨⟨rfl, rfl, rfl, rfl, Nat.le_refl _, Nat.le_refl _, fun _ noted => noted⟩,
    rfl, rfl, rfl⟩, rfl, rfl⟩

theorem steady_retire (work : UnitOfWork) (id : FiberId) : work.Steady (work.retire id) :=
  @retire_keeps work work.Steady (fun _ steady => steady.trans (steady_endFiber _ _))
    (.refl work) id

theorem steady_conclude (work : UnitOfWork) (status : InstanceStatus) (event : RuntimeEvent) :
    work.Steady (work.conclude status event) :=
  (steady_updateRecord work rfl rfl (Nat.le_refl _)).trans (steady_emit _ _)

theorem steady_completeIfIdle (work : UnitOfWork) : work.Steady work.completeIfIdle := by
  rw [completeIfIdle]
  split
  · exact steady_conclude work _ _
  · exact .refl work

theorem steady_branch (parent : Fiber) (ticket : JoinTicket) (work : UnitOfWork)
    (target : Address) : work.Steady (branch parent ticket work target) :=
  (steady_spawn work target (some parent.id)).trans (steady_updateFiber _ _ _)

/-- A relation that every operation of a list moves along relates the ends of their sequence. -/
theorem related_foldl {Item : Type} {related : UnitOfWork -> UnitOfWork -> Prop}
    (refl : ∀ work, related work work)
    (trans : ∀ {first middle last}, related first middle -> related middle last ->
      related first last)
    {operation : UnitOfWork -> Item -> UnitOfWork}
    (each : ∀ work item, related work (operation work item)) (items : List Item)
    (work : UnitOfWork) : related work (items.foldl operation work) := by
  induction items generalizing work with
  | nil => exact refl work
  | cons head rest ih => exact trans (each work head) (ih _)

theorem steady_fork (work : UnitOfWork) (parent : Fiber) (join : NodeKey)
    (targets : List Address) : work.Steady (work.fork parent join targets) :=
  ((steady_activateJoin work join _).trans
    (related_foldl .refl .trans (steady_branch parent _) targets _)).trans (steady_endFiber _ _)

theorem steady_arriveAt {fiber : Fiber} {join : NodeKey} {next : UnitOfWork}
    (arrives : work.arriveAt fiber join = .ok next) : work.Steady next := by
  cases arrivesAt arrives with
  | stray => exact (steady_retire work _).trans (steady_completeIfIdle _)
  | satisfied holds counted => exact (steady_arrive counted).trans (steady_updateFiber _ _ _)
  | waiting holds counted => exact (steady_arrive counted).trans (steady_retire _ _)
  | stale holds counted =>
    exact ((steady_arrive counted).trans (steady_retire _ _)).trans (steady_completeIfIdle _)

theorem steady_watchOver (work : UnitOfWork) (host : Fiber) (boundary : NodeKey)
    (duration : Nat) (interrupting : Bool) (target : Address) :
    work.Steady (work.watchOver host boundary duration interrupting target) :=
  ((steady_spawn work _ _).trans (steady_updateFiber _ _ _)).trans (steady_updateFiber _ _ _)

theorem steady_dropWatchdog (work : UnitOfWork) (fiber : Fiber) :
    work.Steady (work.dropWatchdog fiber) :=
  @dropWatchdog_keeps work work.Steady (fun _ steady => steady.trans (steady_endFiber _ _)) fiber
    (steady_updateFiber work _ _)

theorem steady_halt (work : UnitOfWork) (incident : Incident) :
    work.Steady (work.halt incident) :=
  ((steady_emit work _).trans (steady_park _ _ _ _)).trans (steady_putIncident _ _)

/-- Drawing an identifier touches nothing else. -/
theorem steady_draw (work : UnitOfWork) :
    work.Steady { work with supply := ⟨work.supply.next + 1⟩ } :=
  ⟨⟨⟨rfl, rfl, rfl, rfl, Nat.le_succ _, Nat.le_refl _, fun _ noted => noted⟩, rfl, rfl, rfl⟩,
    rfl, rfl⟩

theorem steady_raise (work : UnitOfWork) (symbols : SymbolTable) (fiber : FiberId)
    (address : Address) (kind : FaultClass) (message : String) :
    work.Steady (work.raise symbols fiber address kind message) :=
  (steady_draw work).trans (steady_halt _ _)

theorem steady_restart (work : UnitOfWork) (program : Program) (incident : Incident) :
    work.Steady (work.restart program incident).2 := by
  rw [restart]
  split
  · exact .refl work
  · split
    · exact steady_wake work _ _
    · exact .refl work

/-! ## Operations that touch jobs -/

theorem confined_dispatch (work : UnitOfWork) (job : Job) : work.Confined (work.dispatch job) :=
  ⟨⟨rfl, rfl, rfl, rfl, Nat.le_refl _, Nat.le_refl _, fun _ noted => noted⟩, rfl, rfl, rfl⟩

theorem confined_cancelJob (work : UnitOfWork) (key : JobKey) :
    work.Confined (work.cancelJob key) :=
  ⟨⟨rfl, rfl, rfl, rfl, Nat.le_refl _, Nat.le_refl _, fun _ noted => noted⟩, rfl, rfl, rfl⟩

theorem confined_handOut (work : UnitOfWork) (fiber : Fiber) (job : Job) :
    work.Confined (work.handOut fiber job) :=
  (confined_dispatch work job).trans (steady_park _ _ _ _).toConfined

theorem confined_cancelAwaitedJob (work : UnitOfWork) (fiber : Fiber) :
    work.Confined (work.cancelAwaitedJob fiber) := by
  rw [cancelAwaitedJob]
  split
  · exact confined_cancelJob work _
  · exact .refl work

theorem confined_close {status : InstanceStatus} {event : RuntimeEvent} {next : UnitOfWork}
    (closes : work.close status event = .ok next) : work.Confined next := by
  refine @close_keeps work work.Confined (fun {reached} fiber confined => ?_)
    (fun _ _ confined => confined.trans (steady_conclude _ _ _).toConfined) (.refl work) _ _ _
    closes
  exact (confined.trans (confined_cancelAwaitedJob reached fiber)).trans
    (steady_endFiber _ _).toConfined

theorem confined_interrupt (work : UnitOfWork) (host : FiberId) :
    work.Confined (work.interrupt host).2 := by
  rw [interrupt]
  split
  · exact .refl work
  · exact (confined_cancelAwaitedJob work _).trans (steady_endFiber _ _).toConfined

theorem confined_fire (work : UnitOfWork) (watchdog : FiberId) (watch : Watch) :
    work.Confined (work.fire watchdog watch) := by
  rw [fire]
  dsimp only
  refine .trans ?_ ((steady_updateFiber _ _ _).trans (steady_wake _ _ _)).toConfined
  split
  · exact (steady_emit work _).toConfined.trans (confined_interrupt _ _)
  · exact ((steady_emit work _).trans (steady_updateFiber _ _ _)).toConfined

theorem confined_resume (work : UnitOfWork) (id : FiberId) (how : Resumption) :
    work.Confined (work.resume id how) := by
  cases how with
  | goOn pc => exact (steady_wake work id pc).toConfined
  | win race winner losers =>
    have cancelled := related_foldl Steady.refl Steady.trans
      (fun work target => steady_emit work (.raceArmCancelled race target)) losers
      (work.emit (.raceWon race winner))
    exact (((steady_emit work _).trans cancelled).trans (steady_wake _ _ _)).toConfined
  | fire watch => exact confined_fire work id watch

/-- What a signal or a completion brings does not change which instance is worked on. -/
theorem steady_accept (work : UnitOfWork) (flags : Flags) (payload : Option Json) :
    work.Steady (work.updateRecord (fun record => record.accept flags payload)) := by
  cases payload with
  | none => exact steady_updateRecord work rfl rfl (Nat.le_refl _)
  | some payload => exact steady_updateRecord work rfl rfl (Nat.le_refl _)

theorem confined_deliver (work : UnitOfWork) (signal : WakeSignal) :
    work.Confined (work.deliver signal).2 := by
  rw [deliver]
  split
  · exact (steady_emit work _).toConfined
  · exact (steady_accept work _ _).toConfined.trans (confined_resume _ _ _)

end UnitOfWork

end ProcessEngine
