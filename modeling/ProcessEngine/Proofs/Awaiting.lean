import ProcessEngine.Proofs.Interventions

/-!
# Fibers that wait for jobs

A fiber never becomes ready again in an epoch in which it has waited (`UnitOfWork.Ages`), so
it hands out at most one job in each epoch. Except for the operations that are about jobs, no
operation lets a fiber begin or end a wait for a job (`UnitOfWork.Idles`).
-/

namespace ProcessEngine

/-- A fiber as it may be later: it has the same number, its epoch has not fallen, and if it has
become ready its epoch has risen. -/
structure Fiber.Ages (fiber later : Fiber) : Prop where
  sequence : later.sequence = fiber.sequence
  epoch : fiber.epoch ≤ later.epoch
  ready : later.wait = .ready -> fiber.wait = .ready ∨ fiber.epoch < later.epoch

namespace Fiber

variable {fiber later last : Fiber}

theorem Ages.refl (fiber : Fiber) : fiber.Ages fiber := ⟨rfl, Nat.le_refl _, .inl⟩

theorem Ages.trans (earlier : fiber.Ages later) (rest : later.Ages last) : fiber.Ages last where
  sequence := rest.sequence.trans earlier.sequence
  epoch := Nat.le_trans earlier.epoch rest.epoch
  ready ready := by
    rcases rest.ready ready with before | risen
    · rcases earlier.ready before with before | risen
      · exact .inl before
      · exact .inr (Nat.lt_of_lt_of_le risen rest.epoch)
    · exact .inr (Nat.lt_of_le_of_lt earlier.epoch risen)

/-- A fiber that is woken has a new epoch. -/
theorem ages_wake (fiber : Fiber) (pc : Address) : fiber.Ages (fiber.wake pc) :=
  ⟨rfl, Nat.le_succ _, fun _ => .inr (Nat.lt_succ_self _)⟩

theorem Computes.ages (computes : fiber.Computes later) : fiber.Ages later :=
  ⟨computes.sequence, computes.epoch, fun ready => .inl (computes.wait ▸ ready)⟩

end Fiber

namespace UnitOfWork

/-- Every fiber has aged, or is new and has a new number and a new identifier. -/
structure Ages (work next : UnitOfWork) : Prop where
  sequence : work.record.nextSequence ≤ next.record.nextSequence
  supply : work.supply.next ≤ next.supply.next
  origin : ∀ {id later}, next.fiber? id = some later ->
    (∃ fiber, work.fiber? id = some fiber ∧ fiber.Ages later) ∨
      work.record.nextSequence ≤ later.sequence ∧ work.supply.next ≤ id.number

/-- A fiber that waits for a job. -/
def WaitsFor (work : UnitOfWork) (id : FiberId) (key : JobKey) : Prop :=
  ∃ fiber, work.fiber? id = some fiber ∧ fiber.wait = .job key

/-- The same fibers wait for the same jobs. -/
def Idles (work next : UnitOfWork) : Prop :=
  ∀ id key, next.WaitsFor id key ↔ work.WaitsFor id key

variable {first middle last work next : UnitOfWork} {fiber : Fiber}

theorem Ages.refl (work : UnitOfWork) : work.Ages work :=
  ⟨Nat.le_refl _, Nat.le_refl _, fun found => .inl ⟨_, found, .refl _⟩⟩

theorem Ages.trans (earlier : first.Ages middle) (rest : middle.Ages last) : first.Ages last where
  sequence := Nat.le_trans earlier.sequence rest.sequence
  supply := Nat.le_trans earlier.supply rest.supply
  origin found := by
    rcases rest.origin found with ⟨fiber, between, ages⟩ | ⟨new, fresh⟩
    · rcases earlier.origin between with ⟨former, before, ages'⟩ | new
      · exact .inl ⟨former, before, ages'.trans ages⟩
      · exact .inr (ages.sequence ▸ new)
    · exact .inr ⟨Nat.le_trans earlier.sequence new, Nat.le_trans earlier.supply fresh⟩

theorem Idles.refl (work : UnitOfWork) : work.Idles work := fun _ _ => .rfl

theorem Idles.trans (earlier : first.Idles middle) (rest : middle.Idles last) :
    first.Idles last := fun id key => (rest id key).trans (earlier id key)

/-! ## Operations that are not about fibers -/

theorem Continues.ages (continues : work.Continues next)
    (same : ∀ id, next.fiber? id = work.fiber? id) : work.Ages next :=
  ⟨continues.sequence, continues.supply,
    fun found => .inl ⟨_, (same _).symm.trans found, .refl _⟩⟩

theorem idles_of_same (same : ∀ id, next.fiber? id = work.fiber? id) : work.Idles next := by
  intro id key
  rw [WaitsFor, WaitsFor, same]

theorem idles_emit (work : UnitOfWork) (event : RuntimeEvent) : work.Idles (work.emit event) :=
  idles_of_same (fun _ => rfl)

/-! ## Ages -/

theorem ages_putFiber {id : FiberId} {changed : Fiber} (found : work.fiber? id = some fiber)
    (ages : fiber.Ages changed) : work.Ages (work.putFiber id changed) := by
  refine ⟨Nat.le_refl _, Nat.le_refl _, fun present => ?_⟩
  rw [fiber?_putFiber] at present
  split at present
  · rename_i same
    cases present
    exact .inl ⟨fiber, same ▸ found, ages⟩
  · exact .inl ⟨_, present, .refl _⟩

theorem ages_updateFiber (work : UnitOfWork) (id : FiberId) {change : Fiber -> Fiber}
    (ages : ∀ fiber : Fiber, fiber.Ages (change fiber)) :
    work.Ages (work.updateFiber id change) := by
  rw [updateFiber]
  split
  · exact ages_putFiber ‹_› (ages _)
  · exact .refl work

theorem ages_endFiber (work : UnitOfWork) (id : FiberId) : work.Ages (work.endFiber id) := by
  have ended := steady_endFiber work id
  refine ⟨ended.sequence, ended.supply, fun present => ?_⟩
  rw [fiber?_endFiber] at present
  split at present
  · cases present
  · exact .inl ⟨_, present, .refl _⟩

theorem ages_park (work : UnitOfWork) (id : FiberId) (pc : Address) {wait : Wait}
    (waits : wait ≠ .ready) : work.Ages (work.park id pc wait) :=
  (ages_updateFiber work id (fun fiber =>
    show fiber.Ages { fiber with pc := pc, wait := wait } from
      ⟨rfl, Nat.le_refl _, fun ready => absurd ready waits⟩)).trans
        ((steady_emit _ _).toContinues.ages (fun _ => rfl))

theorem ages_wake (work : UnitOfWork) (id : FiberId) (pc : Address) :
    work.Ages (work.wake id pc) := by
  rw [wake]
  split
  · exact .refl work
  · rename_i fiber found
    refine (ages_putFiber found (fiber.ages_wake pc)).trans ?_
    exact (steady_emit _ _).toContinues.ages (fun _ => rfl)

/-- A fiber that is made takes a new number and a new identifier. -/
theorem ages_spawn (work : UnitOfWork) (pc : Address) (parent : Option FiberId) :
    work.Ages (work.spawn pc parent).2 := by
  refine ⟨Nat.le_succ _, Nat.le_succ _, fun present => ?_⟩
  rw [fiber?_spawn] at present
  split at present
  · rename_i fresh
    cases present
    exact .inr ⟨Nat.le_refl _, Nat.le_of_eq (congrArg Identifier.number fresh).symm⟩
  · exact .inl ⟨_, present, .refl _⟩

theorem ages_branch (parent : Fiber) (ticket : JoinTicket) (work : UnitOfWork)
    (target : Address) : work.Ages (branch parent ticket work target) := by
  have branched := steady_branch parent ticket work target
  refine ⟨branched.sequence, branched.supply, fun present => ?_⟩
  rw [fiber?_branch] at present
  split at present
  · rename_i fresh
    cases present
    exact .inr ⟨Nat.le_refl _, Nat.le_of_eq (congrArg Identifier.number fresh).symm⟩
  · exact .inl ⟨_, present, .refl _⟩

theorem ages_retire (work : UnitOfWork) (id : FiberId) : work.Ages (work.retire id) :=
  @retire_keeps work work.Ages (fun _ ages => ages.trans (ages_endFiber _ _)) (.refl work) id

theorem ages_completeIfIdle (work : UnitOfWork) : work.Ages work.completeIfIdle :=
  (steady_completeIfIdle work).toContinues.ages (fiber?_completeIfIdle work)

theorem ages_fork (work : UnitOfWork) (parent : Fiber) (join : NodeKey) (targets : List Address) :
    work.Ages (work.fork parent join targets) := by
  have activated : work.Ages (work.activateJoin join targets.length).2 :=
    (steady_activateJoin work join _).toContinues.ages (fun _ => rfl)
  exact (activated.trans (related_foldl .refl .trans (ages_branch parent _) targets _)).trans
    (ages_endFiber _ _)

theorem ages_watchOver (work : UnitOfWork) (host : Fiber) (boundary : NodeKey)
    (duration : Nat) (interrupting : Bool) (target : Address) :
    work.Ages (work.watchOver host boundary duration interrupting target) := by
  have armed := ages_updateFiber (work.spawn host.pc (some host.id)).2 ⟨work.supply.next⟩
    (fun fiber => show fiber.Ages { fiber with
      wait := .timer (work.time.after duration)
      watch := some ⟨host.id, boundary, interrupting, target⟩ } from
        ⟨rfl, Nat.le_refl _, nofun⟩)
  exact ((ages_spawn work _ _).trans armed).trans
    (ages_updateFiber _ _ (fun _ => ⟨rfl, Nat.le_refl _, .inl⟩))

theorem ages_dropWatchdog (work : UnitOfWork) (fiber : Fiber) :
    work.Ages (work.dropWatchdog fiber) :=
  @dropWatchdog_keeps work work.Ages (fun _ ages => ages.trans (ages_endFiber _ _)) fiber
    (ages_updateFiber work fiber.id (fun _ => ⟨rfl, Nat.le_refl _, .inl⟩))

theorem ages_halt (work : UnitOfWork) (incident : Incident) : work.Ages (work.halt incident) := by
  have logged := (steady_emit work
    (.incidentRaised incident.id incident.kind)).toContinues.ages (fun _ => rfl)
  have parked := ages_park (work.emit (.incidentRaised incident.id incident.kind)) incident.fiber
    incident.address (show Wait.incident incident.id ≠ .ready from nofun)
  exact (logged.trans parked).trans
    ((steady_putIncident _ _).toContinues.ages (fun _ => rfl))

theorem ages_raise (work : UnitOfWork) (symbols : SymbolTable) (fiber : FiberId)
    (address : Address) (kind : FaultClass) (message : String) :
    work.Ages (work.raise symbols fiber address kind message) :=
  ((steady_draw work).toContinues.ages (fun _ => rfl)).trans (ages_halt _ _)

theorem ages_arriveAt {join : NodeKey} (arrives : work.arriveAt fiber join = .ok next) :
    work.Ages next := by
  have begun : ∀ {ticket arrival} {reached : UnitOfWork},
      work.arrive ticket = .ok (arrival, reached) -> work.Ages reached := fun counted =>
    (steady_arrive counted).toContinues.ages (fun id => fiber?_arrive work id counted)
  cases arrivesAt arrives with
  | stray => exact (ages_retire work _).trans (ages_completeIfIdle _)
  | satisfied holds counted =>
    exact (begun counted).trans (ages_updateFiber _ _ (fun _ => ⟨rfl, Nat.le_refl _, .inl⟩))
  | waiting holds counted => exact (begun counted).trans (ages_retire _ _)
  | stale holds counted =>
    exact ((begun counted).trans (ages_retire _ _)).trans (ages_completeIfIdle _)

theorem ages_cancelAwaitedJob (work : UnitOfWork) (fiber : Fiber) :
    work.Ages (work.cancelAwaitedJob fiber) :=
  (confined_cancelAwaitedJob work fiber).toContinues.ages (fiber?_cancelAwaitedJob work · fiber)

theorem ages_close {status : InstanceStatus} {event : RuntimeEvent}
    (closes : work.close status event = .ok next) : work.Ages next := by
  refine @close_keeps work work.Ages (fun {reached} fiber ages => ?_)
    (fun _ _ ages => ages.trans ((steady_conclude _ _ _).toContinues.ages (fun _ => rfl)))
    (.refl work) _ _ _ closes
  exact (ages.trans (ages_cancelAwaitedJob reached fiber)).trans (ages_endFiber _ _)

theorem ages_prepared {before : UnitOfWork} (found : work.fiber? fiber.id = some fiber)
    (prepared : work.Prepared fiber before) : work.Ages before := by
  cases prepared with
  | same => exact .refl work
  | changed computes stays => exact ages_putFiber found computes.ages

/-- Fibers age over a turn. -/
theorem Turned.ages {program : Program} (found : work.fiber? fiber.id = some fiber)
    (turned : Turned program fiber work next) : work.Ages next := by
  cases turned with
  | compute reached computes lands => exact ages_putFiber found computes.ages
  | storeFlag reached computes lands =>
    exact (ages_putFiber found computes.ages).trans
      ((steady_updateRecord _ rfl rfl (Nat.le_refl _)).toContinues.ages (fun _ => rfl))
  | count reached computes lands =>
    exact (ages_putFiber found computes.ages).trans
      (((steady_updateRecord _ rfl rfl (Nat.le_refl _)).trans
        (steady_emit _ _)).toContinues.ages (fun _ => rfl))
  | handOut reached named =>
    exact ((confined_dispatch work _).toContinues.ages (fun _ => rfl)).trans
      (ages_park _ _ _ nofun)
  | sleep reached => exact ages_park work _ _ nofun
  | listen reached => exact ages_park work _ _ nofun
  | consult reached => exact ages_park work _ _ nofun
  | race reached leads => exact ages_park work _ _ nofun
  | watch reached => exact ages_watchOver work _ _ _ _ _
  | unwatch reached computes lands =>
    exact (ages_putFiber found computes.ages).trans (ages_dropWatchdog _ _)
  | fork reached named branches => exact ages_fork work _ _ _
  | forkInclusive reached named branches chosen prepared =>
    exact (ages_prepared found prepared).trans (ages_fork _ _ _ _)
  | join reached named arrives => exact ages_arriveAt arrives
  | finish reached => exact (ages_retire work _).trans (ages_completeIfIdle _)
  | terminate reached closes => exact ages_close closes
  | halt prepared => exact (ages_prepared found prepared).trans (ages_raise _ _ _ _ _ _)

/-! ## Waits for jobs -/

theorem waitsFor_of_found {id : FiberId} {key : JobKey} (found : work.fiber? id = some fiber) :
    work.WaitsFor id key ↔ fiber.wait = .job key := by
  constructor
  · rintro ⟨other, present, waits⟩
    cases found.symm.trans present
    exact waits
  · exact fun waits => ⟨fiber, found, waits⟩

theorem idles_putFiber {id : FiberId} {changed : Fiber} (found : work.fiber? id = some fiber)
    (waits : ∀ key, changed.wait = .job key ↔ fiber.wait = .job key) :
    work.Idles (work.putFiber id changed) := by
  intro asked key
  by_cases same : asked = id
  · subst same
    rw [waitsFor_of_found ((fiber?_putFiber _ _ _ _).trans (if_pos rfl)), waitsFor_of_found found]
    exact waits key
  · rw [WaitsFor, WaitsFor, fiber?_putFiber, if_neg same]

theorem idles_updateFiber {id : FiberId} {change : Fiber -> Fiber}
    (waits : ∀ fiber, work.fiber? id = some fiber ->
      ∀ key, (change fiber).wait = .job key ↔ fiber.wait = .job key) :
    work.Idles (work.updateFiber id change) := by
  rw [updateFiber]
  split
  · rename_i fiber found
    exact idles_putFiber found (waits fiber found)
  · exact .refl work

/-! ## Ends of waits -/

/-- One fiber waits for no job any more, and all others wait for the same jobs as before. -/
def Releases (work : UnitOfWork) (id : FiberId) (next : UnitOfWork) : Prop :=
  ∀ asked key, next.WaitsFor asked key ↔ asked ≠ id ∧ work.WaitsFor asked key

theorem releases_of_free {id : FiberId} (free : ∀ key, ¬ next.WaitsFor id key)
    (elsewhere : ∀ asked, asked ≠ id -> next.fiber? asked = work.fiber? asked) :
    work.Releases id next := by
  intro asked key
  by_cases same : asked = id
  · subst same
    exact iff_of_false (free key) (fun released => released.1 rfl)
  · rw [WaitsFor, WaitsFor, elsewhere asked same]
    exact (and_iff_right same).symm

/-- To end the wait of a fiber that waits for no job changes nothing. -/
theorem Releases.idles {id : FiberId} (releases : work.Releases id next)
    (free : ∀ key, ¬ work.WaitsFor id key) : work.Idles next := by
  intro asked key
  rw [releases]
  constructor
  · exact fun released => released.2
  · intro waits
    refine ⟨?_, waits⟩
    rintro rfl
    exact free key waits

theorem Releases.trans_idles {id : FiberId} (releases : work.Releases id next)
    (idles : next.Idles last) : work.Releases id last :=
  fun asked key => (idles asked key).trans (releases asked key)

theorem Idles.trans_releases {id : FiberId} (idles : first.Idles middle)
    (releases : middle.Releases id last) : first.Releases id last := by
  intro asked key
  rw [releases, idles]

theorem Releases.free {id : FiberId} (releases : work.Releases id next) {asked : FiberId}
    (free : ∀ key, ¬ work.WaitsFor asked key) (key : JobKey) : ¬ next.WaitsFor asked key :=
  fun waits => free key ((releases asked key).1 waits).2

theorem releases_endFiber (work : UnitOfWork) (id : FiberId) :
    work.Releases id (work.endFiber id) := by
  refine releases_of_free ?_ (fun asked different => (fiber?_endFiber ..).trans (if_neg different))
  rintro key ⟨fiber, present, -⟩
  rw [fiber?_endFiber, if_pos rfl] at present
  cases present

theorem releases_park (work : UnitOfWork) (id : FiberId) (pc : Address) {wait : Wait}
    (other : ∀ key, wait ≠ .job key) : work.Releases id (work.park id pc wait) := by
  refine releases_of_free ?_ (fun asked different => (fiber?_park ..).trans (if_neg different))
  rintro key ⟨fiber, present, waits⟩
  rw [fiber?_park, if_pos rfl] at present
  obtain ⟨former, -, rfl⟩ := Option.map_eq_some_iff.1 present
  exact other key waits

theorem releases_wake (work : UnitOfWork) (id : FiberId) (pc : Address) :
    work.Releases id (work.wake id pc) := by
  refine releases_of_free ?_ (fun asked different => (fiber?_wake ..).trans (if_neg different))
  rintro key ⟨fiber, present, waits⟩
  rw [fiber?_wake, if_pos rfl] at present
  obtain ⟨former, -, rfl⟩ := Option.map_eq_some_iff.1 present
  cases waits

/-- An interrupted fiber waits for nothing. -/
theorem releases_interrupt (work : UnitOfWork) (host : FiberId) :
    work.Releases host (work.interrupt host).2 := by
  rw [interrupt]
  split
  · rename_i absent
    refine releases_of_free ?_ (fun _ _ => rfl)
    rintro key ⟨fiber, found, -⟩
    rw [absent] at found
    cases found
  · exact Idles.trans_releases (idles_of_same (fiber?_cancelAwaitedJob work · _))
      (releases_endFiber _ host)

/-- A fiber that waits for no job may end. -/
theorem idles_endFiber {id : FiberId} (free : ∀ key, ¬ work.WaitsFor id key) :
    work.Idles (work.endFiber id) := (releases_endFiber work id).idles free

theorem idles_park {id : FiberId} {pc : Address} {wait : Wait}
    (free : ∀ key, ¬ work.WaitsFor id key) (other : ∀ key, wait ≠ .job key) :
    work.Idles (work.park id pc wait) := (releases_park work id pc other).idles free

theorem idles_wake {id : FiberId} (free : ∀ key, ¬ work.WaitsFor id key) (pc : Address) :
    work.Idles (work.wake id pc) := (releases_wake work id pc).idles free

/-- A fiber that is new waits for no job. -/
theorem idles_add {fresh : FiberId} (absent : work.fiber? fresh = none) {made : Fiber}
    (there : next.fiber? fresh = some made) (free : ∀ key, made.wait ≠ .job key)
    (elsewhere : ∀ id, id ≠ fresh -> next.fiber? id = work.fiber? id) : work.Idles next := by
  intro id key
  by_cases same : id = fresh
  · subst same
    rw [waitsFor_of_found there]
    refine iff_of_false (free key) ?_
    rintro ⟨fiber, present, -⟩
    rw [absent] at present
    cases present
  · rw [WaitsFor, WaitsFor, elsewhere id same]

theorem Shapely.unused (shapely : work.Shapely) : work.fiber? ⟨work.supply.next⟩ = none :=
  WellFormed.unused shapely (Nat.le_refl _)

theorem idles_branch (shapely : work.Shapely) (parent : Fiber) (ticket : JoinTicket)
    (target : Address) : work.Idles (branch parent ticket work target) := by
  have there := fiber?_branch work ⟨work.supply.next⟩ parent ticket target
  rw [if_pos rfl] at there
  refine idles_add shapely.unused there nofun (fun id different => ?_)
  rw [fiber?_branch, if_neg different]

theorem idles_branches (parent : Fiber) (ticket : JoinTicket) (targets : List Address)
    {start : UnitOfWork} (idles : work.Idles start) (shapely : start.Shapely) :
    work.Idles (targets.foldl (branch parent ticket) start) := by
  induction targets generalizing start with
  | nil => exact idles
  | cons target rest ih =>
    exact ih (idles.trans (idles_branch shapely parent ticket target))
      (shapely.branch parent ticket target)

theorem idles_fork (shapely : work.Shapely) {parent : Fiber}
    (free : ∀ key, ¬ work.WaitsFor parent.id key) (join : NodeKey) (targets : List Address) :
    work.Idles (work.fork parent join targets) := by
  have activated : work.Idles (work.activateJoin join targets.length).2 :=
    idles_of_same (fun _ => rfl)
  have begun : (work.activateJoin join targets.length).2.Shapely :=
    shapely.of_same (fun _ => rfl) (steady_activateJoin work join _).toContinues
  have split := idles_branches parent ⟨join, (work.activateJoin join targets.length).1⟩ targets
    activated begun
  exact split.trans (idles_endFiber (fun key waits => free key ((split _ key).1 waits)))

/-- A watchdog waits for its timer. -/
theorem Shapely.guarding (shapely : work.Shapely) {id watchdog : FiberId}
    (found : work.fiber? id = some fiber) (knows : fiber.watchdog = some watchdog) (key : JobKey) :
    ¬ work.WaitsFor watchdog key := by
  rintro ⟨guard, guards, waits⟩
  obtain ⟨watch, watches, -⟩ := WellFormed.watched shapely found knows guards
  obtain ⟨-, due, timed⟩ := WellFormed.watching shapely guards watches
  rw [timed] at waits
  cases waits

theorem idles_retire (shapely : work.Shapely) {id : FiberId}
    (free : ∀ key, ¬ work.WaitsFor id key) : work.Idles (work.retire id) := by
  have ended := idles_endFiber free
  rw [retire]
  split
  · exact .refl work
  · rename_i fiber found
    cases knows : fiber.watchdog with
    | none => exact ended
    | some watchdog =>
      refine ended.trans (idles_endFiber (fun key waits => ?_))
      exact shapely.guarding found knows key ((ended _ key).1 waits)

theorem idles_completeIfIdle (work : UnitOfWork) : work.Idles work.completeIfIdle :=
  idles_of_same (fiber?_completeIfIdle work)

/-- The watchdog of a fiber may end. -/
theorem idles_dropWatchdog {watchdog? : Option FiberId} (is : fiber.watchdog = watchdog?)
    (guarding : ∀ watchdog, watchdog? = some watchdog -> ∀ key, ¬ work.WaitsFor watchdog key) :
    work.Idles (work.dropWatchdog fiber) := by
  have freed :
      work.Idles (work.updateFiber fiber.id (fun fiber => { fiber with watchdog := none })) :=
    idles_updateFiber (fun _ _ _ => .rfl)
  rw [dropWatchdog, is]
  cases watchdog? with
  | none => exact freed
  | some watchdog =>
    refine freed.trans (idles_endFiber (fun key waits => ?_))
    exact guarding watchdog rfl key ((freed _ key).1 waits)

theorem idles_watchOver (shapely : work.Shapely) {host : Fiber} (boundary : NodeKey)
    (duration : Nat) (interrupting : Bool) (target : Address)
    (found : work.fiber? host.id = some host) :
    work.Idles (work.watchOver host boundary duration interrupting target) := by
  have older : host.id ≠ ⟨work.supply.next⟩ := by
    intro same
    rw [same, shapely.unused] at found
    cases found
  have effect := fun asked =>
    fiber?_watchOver work asked host boundary duration interrupting target older
  intro id key
  by_cases same : id = host.id
  · have there := effect id
    rw [if_pos same, same, found] at there
    rw [same, waitsFor_of_found there, waitsFor_of_found found]
  · by_cases fresh : id = ⟨work.supply.next⟩
    · have there := effect id
      rw [if_neg same, if_pos fresh] at there
      rw [waitsFor_of_found there]
      refine iff_of_false nofun ?_
      rintro ⟨fiber, present, -⟩
      rw [fresh, shapely.unused] at present
      cases present
    · rw [WaitsFor, WaitsFor, effect, if_neg same, if_neg fresh]

theorem releases_halt (work : UnitOfWork) (incident : Incident) :
    work.Releases incident.fiber (work.halt incident) := by
  have logged := idles_emit work (.incidentRaised incident.id incident.kind)
  have parked := releases_park (work.emit (.incidentRaised incident.id incident.kind))
    incident.fiber incident.address
    (show ∀ key, Wait.incident incident.id ≠ .job key from nofun)
  exact (logged.trans_releases parked).trans_idles (idles_of_same (fun _ => rfl))

theorem idles_halt (incident : Incident) (free : ∀ key, ¬ work.WaitsFor incident.fiber key) :
    work.Idles (work.halt incident) := (releases_halt work incident).idles free

theorem idles_raise (symbols : SymbolTable) {id : FiberId} (address : Address) (kind : FaultClass)
    (message : String) (free : ∀ key, ¬ work.WaitsFor id key) :
    work.Idles (work.raise symbols id address kind message) := by
  have drawn : work.Idles { work with supply := ⟨work.supply.next + 1⟩ } :=
    idles_of_same (fun _ => rfl)
  exact drawn.trans (idles_halt _ free)

theorem idles_arriveAt (shapely : work.Shapely) {join : NodeKey}
    (free : ∀ key, ¬ work.WaitsFor fiber.id key) (arrives : work.arriveAt fiber join = .ok next) :
    work.Idles next := by
  have begun : ∀ {ticket arrival} {reached : UnitOfWork},
      work.arrive ticket = .ok (arrival, reached) -> work.Idles reached := fun counted =>
    idles_of_same (fun id => fiber?_arrive work id counted)
  have retires : ∀ {ticket arrival} {reached : UnitOfWork},
      work.arrive ticket = .ok (arrival, reached) -> work.Idles (reached.retire fiber.id) := by
    intro ticket arrival reached counted
    have shapely' : reached.Shapely := shapely.of_same
      (fun id => fiber?_arrive work id counted) (steady_arrive counted).toContinues
    exact (begun counted).trans (idles_retire shapely'
      (fun key waits => free key ((begun counted _ key).1 waits)))
  cases arrivesAt arrives with
  | stray => exact (idles_retire shapely free).trans (idles_completeIfIdle _)
  | satisfied holds counted => exact (begun counted).trans (idles_updateFiber (fun _ _ _ => .rfl))
  | waiting holds counted => exact retires counted
  | stale holds counted => exact (retires counted).trans (idles_completeIfIdle _)

theorem idles_computes {changed : Fiber} (found : work.fiber? fiber.id = some fiber)
    (computes : fiber.Computes changed) : work.Idles (work.putFiber fiber.id changed) :=
  idles_putFiber found (fun key => by rw [computes.wait])

theorem idles_prepared {before : UnitOfWork} (found : work.fiber? fiber.id = some fiber)
    (prepared : work.Prepared fiber before) : work.Idles before := by
  cases prepared with
  | same => exact .refl work
  | changed computes stays => exact idles_computes found computes

/-- A turn neither touches jobs nor begins or ends a wait for one, unless it hands out a job or
terminates the instance. -/
theorem Turned.idles {program : Program} (shapely : work.Shapely)
    (found : work.fiber? fiber.id = some fiber) (ready : fiber.wait = .ready)
    (turned : Turned program fiber work next) :
    (work.Steady next ∧ work.Idles next) ∨
      (∃ key name node retries, next = work.handOut fiber
        (.first work.record fiber key name retries work.time) ∧
        ∃ taskType routes, program.instruction? fiber.pc =
          some (.dispatch taskType node retries routes)) ∨
      ∃ node, work.close .terminated (.instanceTerminated node) = .ok next := by
  have free : ∀ key, ¬ work.WaitsFor fiber.id key := by
    intro key waits
    rw [waitsFor_of_found found, ready] at waits
    cases waits
  by_cases closes : ∃ node, work.close .terminated (.instanceTerminated node) = .ok next
  · exact .inr (.inr closes)
  rcases turned.reaches with steady | handsOut | closes'
  · refine .inl ⟨steady, ?_⟩
    cases turned with
    | compute reached computes lands => exact idles_computes found computes
    | storeFlag reached computes lands =>
      exact (idles_computes found computes).trans (idles_of_same (fun _ => rfl))
    | count reached computes lands =>
      exact (idles_computes found computes).trans (idles_of_same (fun _ => rfl))
    | handOut reached named =>
      have jobs := congrArg List.length steady.jobs
      rw [UnitOfWork.handOut, suspend, (steady_park _ _ _ _).jobs] at jobs
      simp [dispatch, emit] at jobs
    | sleep reached => exact idles_park free nofun
    | listen reached => exact idles_park free nofun
    | consult reached => exact idles_park free nofun
    | race reached leads => exact idles_park free nofun
    | watch reached => exact idles_watchOver shapely _ _ _ _ found
    | unwatch reached computes lands =>
      have computed := idles_computes found computes
      refine computed.trans (idles_dropWatchdog rfl (fun watchdog knows key waits => ?_))
      exact shapely.guarding found knows key ((computed _ key).1 waits)
    | fork reached named branches => exact idles_fork shapely free _ _
    | forkInclusive reached named branches chosen prepared =>
      cases prepared with
      | same => exact idles_fork shapely free _ _
      | changed computes stays =>
        have before := idles_computes found computes
        refine before.trans (idles_fork (shapely.putFiber found computes.revises) ?_ _ _)
        exact fun key waits => free key ((before _ key).1 waits)
    | join reached named arrives => exact idles_arriveAt shapely free arrives
    | finish reached => exact (idles_retire shapely free).trans (idles_completeIfIdle _)
    | terminate reached closes' => exact absurd ⟨_, closes'⟩ closes
    | halt prepared =>
      have before := idles_prepared found prepared
      exact before.trans (idles_raise _ _ _ _ (fun key waits => free key ((before _ key).1 waits)))
  · exact .inr (.inl handsOut)
  · exact .inr (.inr closes')

/-! ## Changes -/

/-- No fiber begins to wait for a job. -/
def Frees (work next : UnitOfWork) : Prop :=
  ∀ id key, next.WaitsFor id key -> work.WaitsFor id key

theorem Frees.trans (earlier : first.Frees middle) (rest : middle.Frees last) :
    first.Frees last := fun id key waits => earlier id key (rest id key waits)

theorem Idles.frees (idles : work.Idles next) : work.Frees next :=
  fun id key waits => (idles id key).1 waits

theorem Releases.frees {id : FiberId} (releases : work.Releases id next) : work.Frees next :=
  fun id key waits => ((releases id key).1 waits).2

theorem frees_fire (work : UnitOfWork) (watchdog : FiberId) (watch : Watch) :
    work.Frees (work.fire watchdog watch) := by
  have logged := (idles_emit work (.boundaryFired watch.boundary watch.interrupting)).frees
  have turned : ∀ (work : UnitOfWork) (tickets : List JoinTicket),
      work.Idles (work.updateFiber watchdog (fun fiber =>
        { fiber with watch := none, tickets := tickets })) :=
    fun _ _ => idles_updateFiber (fun _ _ _ => .rfl)
  rw [fire]
  dsimp only
  split
  · exact ((logged.trans (releases_interrupt _ _).frees).trans (turned _ _).frees).trans
      (releases_wake _ _ _).frees
  · have forgot : (work.emit (.boundaryFired watch.boundary watch.interrupting)).Idles
        ((work.emit (.boundaryFired watch.boundary watch.interrupting)).updateFiber watch.host
          (fun host => { host with watchdog := none })) := idles_updateFiber (fun _ _ _ => .rfl)
    exact ((logged.trans forgot.frees).trans (turned _ _).frees).trans (releases_wake _ _ _).frees

theorem frees_resume (work : UnitOfWork) (id : FiberId) (how : Resumption) :
    work.Frees (work.resume id how) := by
  cases how with
  | goOn pc => exact (releases_wake work id pc).frees
  | win race winner losers =>
    have logged : (work.emit (.raceWon race winner)).Idles
        (losers.foldl (fun (work : UnitOfWork) target => work.emit (.raceArmCancelled race target))
          (work.emit (.raceWon race winner))) :=
      @related_foldl _ Idles .refl .trans _ (fun _ _ => idles_emit _ _) losers _
    have won := idles_emit work (.raceWon race winner)
    exact (won.trans logged).frees.trans (releases_wake _ id winner).frees
  | fire watch => exact frees_fire work id watch

end UnitOfWork

end ProcessEngine
