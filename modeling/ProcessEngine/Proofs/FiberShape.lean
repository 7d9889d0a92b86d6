import ProcessEngine.Proofs.FiberEffects

/-!
# The shape of the fibers of an instance

The fibers of an instance keep a shape (`WellFormed`): they are found under their own
identifiers, no two have the same number, and a watchdog waits for its timer on behalf of another
fiber, the only one that knows it. Every operation of a unit of work and every turn of a fiber
that can run keeps it.
-/

namespace ProcessEngine

/-- The changed fiber is the same one, it watches over the same host, and it has the same watchdog
or none; a watchdog goes on waiting. -/
structure Fiber.Revises (fiber changed : Fiber) : Prop where
  id : changed.id = fiber.id
  owner : changed.owner = fiber.owner
  sequence : changed.sequence = fiber.sequence
  pointer : changed.watchdog = fiber.watchdog ∨ changed.watchdog = none
  watch : changed.watch = fiber.watch
  waits : fiber.watch = none ∨ changed.wait = fiber.wait

theorem Fiber.Computes.revises {fiber changed : Fiber} (computes : fiber.Computes changed) :
    fiber.Revises changed :=
  ⟨computes.id, computes.owner, computes.sequence, .inl computes.watchdog, computes.watch,
    .inr computes.wait⟩

/-- The shape that the fibers of an instance keep, given the number of the next fiber and the
next identifier. -/
structure WellFormed (fibers : FiberId -> Option Fiber) (owner : InstanceId)
    (sequence supply : Nat) : Prop where
  keyed : ∀ {id fiber}, fibers id = some fiber -> fiber.id = id
  owned : ∀ {id fiber}, fibers id = some fiber -> fiber.owner = owner
  drawn : ∀ {id fiber}, fibers id = some fiber -> id.number < supply
  numbered : ∀ {id fiber}, fibers id = some fiber -> fiber.sequence < sequence
  distinct : ∀ {id id' fiber fiber'}, fibers id = some fiber -> fibers id' = some fiber' ->
    fiber.sequence = fiber'.sequence -> id = id'
  taken : ∀ {id fiber watchdog}, fibers id = some fiber -> fiber.watchdog = some watchdog ->
    watchdog.number < supply
  watched : ∀ {id fiber watchdog guard}, fibers id = some fiber ->
    fiber.watchdog = some watchdog -> fibers watchdog = some guard ->
    ∃ watch, guard.watch = some watch ∧ watch.host = id
  watching : ∀ {id fiber watch}, fibers id = some fiber -> fiber.watch = some watch ->
    watch.host ≠ id ∧ ∃ due, fiber.wait = .timer due

namespace WellFormed

variable {fibers fibers' : FiberId -> Option Fiber} {owner : InstanceId}
  {sequence sequence' supply supply' : Nat} {id : FiberId} {fiber changed : Fiber}

theorem mono (wf : WellFormed fibers owner sequence supply) (more : sequence ≤ sequence')
    (later : supply ≤ supply') : WellFormed fibers owner sequence' supply' where
  keyed := wf.keyed
  owned := wf.owned
  drawn found := Nat.lt_of_lt_of_le (wf.drawn found) later
  numbered found := Nat.lt_of_lt_of_le (wf.numbered found) more
  distinct := wf.distinct
  taken found knows := Nat.lt_of_lt_of_le (wf.taken found knows) later
  watched := wf.watched
  watching := wf.watching

/-- Nothing points at an identifier that has not been drawn. -/
theorem unused (wf : WellFormed fibers owner sequence supply) {fresh : FiberId}
    (undrawn : supply ≤ fresh.number) : fibers fresh = none := by
  cases found : fibers fresh with
  | none => rfl
  | some fiber =>
    have := wf.drawn found
    omega

/-- The identifier that is drawn next is no fiber's. -/
theorem ne_fresh (wf : WellFormed fibers owner sequence supply) (found : fibers id = some fiber) :
    id ≠ ⟨supply⟩ := by
  rintro rfl
  exact Nat.lt_irrefl _ (wf.drawn found)

/-- A fiber may change as long as it stays the same fiber and pointers between hosts and
watchdogs stay as they are, are dropped, or are made both ways. -/
theorem revise (wf : WellFormed fibers owner sequence supply) (found : fibers id = some fiber)
    (there : fibers' id = some changed)
    (elsewhere : ∀ other, other ≠ id -> fibers' other = fibers other)
    (same : changed.id = fiber.id) (owned : changed.owner = fiber.owner)
    (numbered : changed.sequence = fiber.sequence)
    (pointer : ∀ watchdog, changed.watchdog = some watchdog -> watchdog.number < supply ∧
      ∀ guard, fibers watchdog = some guard -> ∃ watch, guard.watch = some watch ∧ watch.host = id)
    (watch : changed.watch = fiber.watch ∨ changed.watchdog = fiber.watchdog ∧
      ∀ other host, fibers other = some host -> host.watchdog ≠ some id)
    (watching : ∀ watch, changed.watch = some watch ->
      watch.host ≠ id ∧ ∃ due, changed.wait = .timer due) :
    WellFormed fibers' owner sequence supply := by
  have origin : ∀ {other current}, fibers' other = some current ->
      ∃ former, fibers other = some former ∧ current.id = former.id ∧
        current.owner = former.owner ∧ current.sequence = former.sequence ∧
        (other = id ∧ current = changed ∨ other ≠ id ∧ current = former) := by
    intro other current listed
    by_cases same' : other = id
    · subst same'
      rw [there] at listed
      cases listed
      exact ⟨fiber, found, same, owned, numbered, .inl ⟨rfl, rfl⟩⟩
    · rw [elsewhere other same'] at listed
      exact ⟨current, listed, rfl, rfl, rfl, .inr ⟨same', rfl⟩⟩
  refine ⟨?_, ?_, ?_, ?_, ?_, ?_, ?_, ?_⟩
  · intro other current listed
    obtain ⟨former, before, sameId, -⟩ := origin listed
    exact sameId.trans (wf.keyed before)
  · intro other current listed
    obtain ⟨former, before, -, sameOwner, -⟩ := origin listed
    exact sameOwner.trans (wf.owned before)
  · intro other current listed
    obtain ⟨former, before, -⟩ := origin listed
    exact wf.drawn before
  · intro other current listed
    obtain ⟨former, before, -, -, sameNumber, -⟩ := origin listed
    exact sameNumber ▸ wf.numbered before
  · intro other other' current current' listed listed' equal
    obtain ⟨former, before, -, -, sameNumber, -⟩ := origin listed
    obtain ⟨former', before', -, -, sameNumber', -⟩ := origin listed'
    exact wf.distinct before before' (by rw [← sameNumber, ← sameNumber', equal])
  · intro other current watchdog listed knows
    obtain ⟨former, before, -, -, -, ⟨rfl, rfl⟩ | ⟨-, rfl⟩⟩ := origin listed
    · exact (pointer watchdog knows).1
    · exact wf.taken before knows
  · intro other current watchdog guard listed knows guards
    have former : ∀ before, fibers watchdog = some before ->
        ∃ watch, before.watch = some watch ∧ watch.host = other := by
      obtain ⟨host, before, -, -, -, ⟨rfl, rfl⟩ | ⟨-, rfl⟩⟩ := origin listed
      · exact (pointer watchdog knows).2
      · exact fun guard present => wf.watched before knows present
    by_cases same' : watchdog = id
    · subst same'
      rw [there] at guards
      cases guards
      rcases watch with unchanged | ⟨kept, unknown⟩
      · rw [unchanged]
        exact former fiber found
      · obtain ⟨host, before, -, -, -, ⟨rfl, rfl⟩ | ⟨-, rfl⟩⟩ := origin listed
        · exact absurd (kept ▸ knows) (unknown _ _ found)
        · exact absurd knows (unknown _ _ before)
    · rw [elsewhere watchdog same'] at guards
      exact former guard guards
  · intro other current watch' listed watches
    obtain ⟨former, before, -, -, -, ⟨rfl, rfl⟩ | ⟨-, rfl⟩⟩ := origin listed
    · exact watching watch' watches
    · exact wf.watching before watches

/-- A fiber that is no watchdog may change freely, apart from what identifies it. -/
theorem change (wf : WellFormed fibers owner sequence supply) (found : fibers id = some fiber)
    (there : fibers' id = some changed)
    (elsewhere : ∀ other, other ≠ id -> fibers' other = fibers other)
    (revises : fiber.Revises changed) : WellFormed fibers' owner sequence supply := by
  refine wf.revise found there elsewhere revises.id revises.owner revises.sequence
    (fun watchdog knows => ?_) (.inl revises.watch) (fun watch watches => ?_)
  · rcases revises.pointer with kept | dropped
    · rw [kept] at knows
      exact ⟨wf.taken found knows, fun guard guards => wf.watched found knows guards⟩
    · rw [dropped] at knows
      cases knows
  · rw [revises.watch] at watches
    rcases revises.waits with none | unchanged
    · rw [none] at watches
      cases watches
    · rw [unchanged]
      exact wf.watching found watches

/-- Only a fiber that waits for a timer is a watchdog. -/
theorem unwatched (wf : WellFormed fibers owner sequence supply) (found : fibers id = some fiber)
    (waits : ∀ due, fiber.wait ≠ .timer due) : fiber.watch = none := by
  cases watch : fiber.watch with
  | none => rfl
  | some watch =>
    obtain ⟨-, due, timed⟩ := wf.watching found ‹_›
    exact absurd timed (waits due)

/-- No fiber is its own watchdog. -/
theorem unguarded (wf : WellFormed fibers owner sequence supply)
    (found : fibers id = some fiber) : fiber.watchdog ≠ some id := by
  intro own
  obtain ⟨watch, watches, hosted⟩ := wf.watched found own found
  exact (wf.watching found watches).1 hosted

/-- A fiber may end. -/
theorem remove (wf : WellFormed fibers owner sequence supply) (gone : fibers' id = none)
    (elsewhere : ∀ other, other ≠ id -> fibers' other = fibers other) :
    WellFormed fibers' owner sequence supply := by
  have before : ∀ {other current}, fibers' other = some current -> fibers other = some current := by
    intro other current listed
    by_cases same : other = id
    · subst same
      rw [gone] at listed
      cases listed
    · rw [elsewhere other same] at listed
      exact listed
  exact ⟨fun listed => wf.keyed (before listed), fun listed => wf.owned (before listed),
    fun listed => wf.drawn (before listed), fun listed => wf.numbered (before listed),
    fun listed listed' => wf.distinct (before listed) (before listed'),
    fun listed => wf.taken (before listed),
    fun listed knows guards => wf.watched (before listed) knows (before guards),
    fun listed => wf.watching (before listed)⟩

/-- A new fiber takes the next number and the next identifier. -/
theorem add (wf : WellFormed fibers owner sequence supply)
    (there : fibers' ⟨supply⟩ = some changed)
    (elsewhere : ∀ other, other ≠ ⟨supply⟩ -> fibers' other = fibers other)
    (same : changed.id = ⟨supply⟩) (owned : changed.owner = owner)
    (numbered : changed.sequence = sequence) (alone : changed.watchdog = none)
    (watching : ∀ watch, changed.watch = some watch ->
      watch.host ≠ ⟨supply⟩ ∧ ∃ due, changed.wait = .timer due) :
    WellFormed fibers' owner (sequence + 1) (supply + 1) := by
  have origin : ∀ {other current}, fibers' other = some current ->
      other = ⟨supply⟩ ∧ current = changed ∨ other ≠ ⟨supply⟩ ∧ fibers other = some current := by
    intro other current listed
    by_cases fresh : other = ⟨supply⟩
    · subst fresh
      rw [there] at listed
      exact .inl ⟨rfl, (Option.some.inj listed).symm⟩
    · rw [elsewhere other fresh] at listed
      exact .inr ⟨fresh, listed⟩
  refine ⟨?_, ?_, ?_, ?_, ?_, ?_, ?_, ?_⟩
  · intro other current listed
    obtain ⟨rfl, rfl⟩ | ⟨-, before⟩ := origin listed
    · exact same
    · exact wf.keyed before
  · intro other current listed
    obtain ⟨rfl, rfl⟩ | ⟨-, before⟩ := origin listed
    · exact owned
    · exact wf.owned before
  · intro other current listed
    obtain ⟨rfl, rfl⟩ | ⟨-, before⟩ := origin listed
    · exact Nat.lt_succ_self _
    · exact Nat.lt_succ_of_lt (wf.drawn before)
  · intro other current listed
    obtain ⟨rfl, rfl⟩ | ⟨-, before⟩ := origin listed
    · rw [numbered]
      exact Nat.lt_succ_self _
    · exact Nat.lt_succ_of_lt (wf.numbered before)
  · intro other other' current current' listed listed' equal
    obtain ⟨rfl, rfl⟩ | ⟨-, before⟩ := origin listed
    · obtain ⟨rfl, rfl⟩ | ⟨-, before'⟩ := origin listed'
      · rfl
      · have := wf.numbered before'
        omega
    · obtain ⟨rfl, rfl⟩ | ⟨-, before'⟩ := origin listed'
      · have := wf.numbered before
        omega
      · exact wf.distinct before before' equal
  · intro other current watchdog listed knows
    obtain ⟨rfl, rfl⟩ | ⟨-, before⟩ := origin listed
    · rw [alone] at knows
      cases knows
    · exact Nat.lt_succ_of_lt (wf.taken before knows)
  · intro other current watchdog guard listed knows guards
    obtain ⟨rfl, rfl⟩ | ⟨-, before⟩ := origin listed
    · rw [alone] at knows
      cases knows
    · obtain ⟨rfl, rfl⟩ | ⟨-, guarded⟩ := origin guards
      · exact absurd (wf.taken before knows) (Nat.lt_irrefl _)
      · exact wf.watched before knows guarded
  · intro other current watch listed watches
    obtain ⟨rfl, rfl⟩ | ⟨-, before⟩ := origin listed
    · exact watching watch watches
    · exact wf.watching before watches

end WellFormed

/-! ## Operations keep the shape -/

namespace UnitOfWork

/-- The fibers of a unit of work have the shape that fibers keep. -/
abbrev Shapely (work : UnitOfWork) : Prop :=
  WellFormed work.fiber? work.record.id work.record.nextSequence work.supply.next

variable {work : UnitOfWork} {fiber : Fiber}

/-- An operation that touches neither fibers nor numbers keeps the shape. -/
theorem Shapely.of_same {next : UnitOfWork} (shapely : work.Shapely)
    (same : ∀ id, next.fiber? id = work.fiber? id) (continues : work.Continues next) :
    next.Shapely := by
  have fibers : next.fiber? = work.fiber? := funext same
  rw [Shapely, fibers, continues.id]
  exact shapely.mono continues.sequence continues.supply

theorem Shapely.emit (shapely : work.Shapely) (event : RuntimeEvent) :
    (work.emit event).Shapely := shapely

theorem Shapely.endFiber (shapely : work.Shapely) (id : FiberId) : (work.endFiber id).Shapely := by
  have ended : WellFormed (work.endFiber id).fiber? work.record.id work.record.nextSequence
      work.supply.next := by
    refine WellFormed.remove shapely (fiber?_endFiber _ _ _ |>.trans (if_pos rfl)) ?_
    intro other different
    rw [fiber?_endFiber, if_neg different]
  have continues := (steady_endFiber work id).toContinues
  rw [Shapely, continues.id]
  exact ended.mono continues.sequence continues.supply

theorem Shapely.putFiber (shapely : work.Shapely) {id : FiberId} {changed : Fiber}
    (found : work.fiber? id = some fiber) (revises : fiber.Revises changed) :
    (work.putFiber id changed).Shapely := by
  refine WellFormed.change shapely found ?_ ?_ revises
  · rw [fiber?_putFiber, if_pos rfl]
  · intro other different
    rw [fiber?_putFiber, if_neg different]

theorem Shapely.updateFiber (shapely : work.Shapely) {id : FiberId} {change : Fiber -> Fiber}
    (revises : ∀ fiber, work.fiber? id = some fiber -> fiber.Revises (change fiber)) :
    (work.updateFiber id change).Shapely := by
  rw [UnitOfWork.updateFiber]
  split
  · rename_i fiber found
    exact shapely.putFiber found (revises fiber found)
  · exact shapely

theorem Shapely.park (shapely : work.Shapely) {id : FiberId} (pc : Address) (wait : Wait)
    (unwatched : ∀ fiber, work.fiber? id = some fiber -> fiber.watch = none) :
    (work.park id pc wait).Shapely :=
  shapely.updateFiber (fun fiber found =>
    ⟨rfl, rfl, rfl, .inl rfl, rfl, .inl (unwatched fiber found)⟩)

theorem Shapely.wake (shapely : work.Shapely) {id : FiberId} (pc : Address)
    (unwatched : ∀ fiber, work.fiber? id = some fiber -> fiber.watch = none) :
    (work.wake id pc).Shapely := by
  rw [UnitOfWork.wake]
  split
  · exact shapely
  · rename_i fiber found
    exact shapely.putFiber found ⟨rfl, rfl, rfl, .inl rfl, rfl, .inl (unwatched fiber found)⟩

theorem Shapely.branch (shapely : work.Shapely) (parent : Fiber) (ticket : JoinTicket)
    (target : Address) : (branch parent ticket work target).Shapely := by
  rw [Shapely, record_branch, supply_branch]
  have there := fiber?_branch work ⟨work.supply.next⟩ parent ticket target
  rw [if_pos rfl] at there
  refine WellFormed.add shapely there ?_ rfl rfl rfl rfl ?_
  · intro other different
    rw [fiber?_branch, if_neg different]
  · intro watch watches
    cases watches

theorem Shapely.branches (shapely : work.Shapely) (parent : Fiber) (ticket : JoinTicket)
    (targets : List Address) :
    (targets.foldl (UnitOfWork.branch parent ticket) work).Shapely := by
  induction targets generalizing work with
  | nil => exact shapely
  | cons target rest ih => exact ih (shapely.branch parent ticket target)

theorem Shapely.fork (shapely : work.Shapely) (parent : Fiber) (join : NodeKey)
    (targets : List Address) : (work.fork parent join targets).Shapely := by
  have begun : (work.activateJoin join targets.length).2.Shapely :=
    shapely.of_same (fun _ => rfl) (steady_activateJoin work join _).toContinues
  exact (begun.branches parent _ targets).endFiber parent.id

theorem Shapely.watchOver (shapely : work.Shapely) {host : Fiber} (boundary : NodeKey)
    (duration : Nat) (interrupting : Bool) (target : Address)
    (found : work.fiber? host.id = some host) (unwatched : host.watch = none) :
    (work.watchOver host boundary duration interrupting target).Shapely := by
  let fresh : FiberId := ⟨work.supply.next⟩
  let guard := work.guardOf host boundary duration interrupting target
  let armed (asked : FiberId) := if asked = fresh then some guard else work.fiber? asked
  have older : host.id ≠ fresh := WellFormed.ne_fresh shapely found
  have shapely' : WellFormed armed work.record.id (work.record.nextSequence + 1)
      (work.supply.next + 1) := by
    refine WellFormed.add shapely (if_pos rfl) (fun other different => if_neg different)
      rfl rfl rfl rfl (fun watch watches => ?_)
    cases watches
    exact ⟨older, _, rfl⟩
  rw [Shapely, record_watchOver, supply_watchOver]
  refine WellFormed.revise shapely' ((if_neg older).trans found)
    ((fiber?_watchOver work host.id host boundary duration interrupting target older).trans
      ((if_pos rfl).trans (congrArg _ found))) ?_ rfl rfl rfl ?_ (.inl rfl) ?_
  · intro other different
    rw [fiber?_watchOver _ _ _ _ _ _ _ older, if_neg different]
  · intro watchdog knows
    cases knows
    refine ⟨Nat.lt_succ_self _, fun guard' guards => ?_⟩
    cases (if_pos rfl).symm.trans guards
    exact ⟨_, rfl, rfl⟩
  · intro watch watches
    cases unwatched.symm.trans watches

theorem Shapely.forget (shapely : work.Shapely) (host : FiberId) :
    (work.updateFiber host (fun fiber => { fiber with watchdog := none })).Shapely :=
  shapely.updateFiber (fun _ _ => ⟨rfl, rfl, rfl, .inr rfl, rfl, .inr rfl⟩)

theorem Shapely.dropWatchdog (shapely : work.Shapely) (fiber : Fiber) :
    (work.dropWatchdog fiber).Shapely :=
  @dropWatchdog_keeps work Shapely (fun id shapely => Shapely.endFiber shapely id) fiber
    (shapely.forget fiber.id)

theorem Shapely.halt (shapely : work.Shapely) (incident : Incident)
    (unwatched : ∀ fiber, work.fiber? incident.fiber = some fiber -> fiber.watch = none) :
    (work.halt incident).Shapely := by
  have parked := (shapely.emit (.incidentRaised incident.id incident.kind)).park incident.address
    (.incident incident.id) unwatched
  exact parked.of_same (fun _ => rfl) (steady_putIncident _ incident).toContinues

theorem Shapely.raise (shapely : work.Shapely) (symbols : SymbolTable) {id : FiberId}
    (address : Address) (kind : FaultClass) (message : String)
    (unwatched : ∀ fiber, work.fiber? id = some fiber -> fiber.watch = none) :
    (work.raise symbols id address kind message).Shapely := by
  have drawn : Shapely { work with supply := ⟨work.supply.next + 1⟩ } :=
    shapely.of_same (fun _ => rfl) (steady_draw work).toContinues
  exact drawn.halt _ unwatched

theorem Shapely.restart (shapely : work.Shapely) (program : Program) (incident : Incident) :
    (work.restart program incident).2.Shapely := by
  rw [UnitOfWork.restart]
  split
  · exact shapely
  · rename_i fiber found
    split
    · rename_i waits
      refine shapely.wake _ (fun other found' => ?_)
      rw [found] at found'
      cases found'
      exact WellFormed.unwatched shapely found (by rw [waits]; rintro _ ⟨⟩)
    · exact shapely

theorem Shapely.close (shapely : work.Shapely) {status : InstanceStatus} {event : RuntimeEvent}
    {next : UnitOfWork} (closes : work.close status event = .ok next) : next.Shapely := by
  refine @close_keeps work Shapely (fun {work} fiber shapely => ?_)
    (fun {work} status event shapely => ?_) shapely _ _ _ closes
  · exact Shapely.endFiber (shapely.of_same (fiber?_cancelAwaitedJob work · fiber)
      (confined_cancelAwaitedJob work fiber).toContinues) fiber.id
  · exact shapely.of_same (fun _ => rfl) (steady_conclude work status event).toContinues

theorem Shapely.retire (shapely : work.Shapely) (id : FiberId) : (work.retire id).Shapely :=
  @retire_keeps work Shapely (fun id shapely => Shapely.endFiber shapely id) shapely id

theorem Shapely.completeIfIdle (shapely : work.Shapely) : work.completeIfIdle.Shapely :=
  shapely.of_same (fiber?_completeIfIdle work) (steady_completeIfIdle work).toContinues

theorem Shapely.arriveAt (shapely : work.Shapely) {join : NodeKey} {next : UnitOfWork}
    (arrives : work.arriveAt fiber join = .ok next) : next.Shapely := by
  have begun : ∀ {ticket arrival} {reached : UnitOfWork},
      work.arrive ticket = .ok (arrival, reached) -> reached.Shapely := fun counted =>
    shapely.of_same (fun id => fiber?_arrive work id counted) (steady_arrive counted).toContinues
  cases arrivesAt arrives with
  | stray => exact (shapely.retire fiber.id).completeIfIdle
  | satisfied holds counted =>
    exact (begun counted).updateFiber (fun fiber found => ⟨rfl, rfl, rfl, .inl rfl, rfl, .inr rfl⟩)
  | waiting holds counted => exact (begun counted).retire fiber.id
  | stale holds counted => exact ((begun counted).retire fiber.id).completeIfIdle

theorem Shapely.interrupt (shapely : work.Shapely) (host : FiberId) :
    (work.interrupt host).2.Shapely := by
  rw [UnitOfWork.interrupt]
  split
  · exact shapely
  · rename_i fiber _
    exact Shapely.endFiber (shapely.of_same (fiber?_cancelAwaitedJob work · fiber)
      (confined_cancelAwaitedJob work fiber).toContinues) host

/-- An interrupted host is gone and every other fiber is as before. -/
theorem fiber?_interrupt (work : UnitOfWork) (host asked : FiberId) :
    (work.interrupt host).2.fiber? asked = if asked = host then none else work.fiber? asked := by
  rw [UnitOfWork.interrupt]
  split
  · rename_i absent
    split
    · rename_i same
      rw [same, absent]
    · rfl
  · rw [fiber?_endFiber, fiber?_cancelAwaitedJob]

/-- A watchdog that nothing points at may become a fiber like any other. -/
theorem Shapely.release (shapely : work.Shapely) (watchdog : FiberId) (tickets : List JoinTicket)
    (pc : Address)
    (unknown : ∀ other host, work.fiber? other = some host -> host.watchdog ≠ some watchdog) :
    ((work.updateFiber watchdog (fun fiber =>
      { fiber with watch := none, tickets := tickets })).wake watchdog pc).Shapely := by
  have released : (work.updateFiber watchdog (fun fiber =>
      { fiber with watch := none, tickets := tickets })).Shapely := by
    rw [UnitOfWork.updateFiber]
    split
    · rename_i guard found
      refine WellFormed.revise shapely found ((fiber?_putFiber _ _ _ _).trans (if_pos rfl)) ?_
        rfl rfl rfl ?_ (.inr ⟨rfl, unknown⟩) ?_
      · intro other different
        exact (fiber?_putFiber _ _ _ _).trans (if_neg different)
      · intro other knows
        exact ⟨WellFormed.taken shapely found knows,
          fun guard guards => WellFormed.watched shapely found knows guards⟩
      · intro watch watches
        cases watches
    · exact shapely
  refine released.wake pc (fun fiber found => ?_)
  rw [fiber?_updateFiber, if_pos rfl] at found
  obtain ⟨guard, -, rfl⟩ := Option.map_eq_some_iff.1 found
  rfl

/-- When a watchdog fires, its host ends or forgets it; then nothing points at it. -/
theorem Shapely.fire (shapely : work.Shapely) {watchdog : FiberId} {guard : Fiber} {watch : Watch}
    (found : work.fiber? watchdog = some guard) (watches : guard.watch = some watch) :
    (work.fire watchdog watch).Shapely := by
  have hosted : ∀ other host, work.fiber? other = some host -> other ≠ watch.host ->
      host.watchdog ≠ some watchdog := by
    intro other host listed different knows
    obtain ⟨watch', watches', same⟩ := WellFormed.watched shapely listed knows found
    cases watches.symm.trans watches'
    exact different same.symm
  have logged := shapely.emit (.boundaryFired watch.boundary watch.interrupting)
  rw [UnitOfWork.fire]
  dsimp only
  split
  · refine (logged.interrupt watch.host).release watchdog _ _ (fun other host listed => ?_)
    rw [fiber?_interrupt] at listed
    split at listed
    · cases listed
    · exact hosted other host listed ‹_›
  · refine (logged.forget watch.host).release watchdog _ _ (fun other host listed => ?_)
    rw [fiber?_updateFiber] at listed
    split at listed
    · obtain ⟨host, -, rfl⟩ := Option.map_eq_some_iff.1 listed
      rintro ⟨⟩
    · exact hosted other host listed ‹_›

theorem Shapely.accept (shapely : work.Shapely) (flags : Flags) (payload : Option Json) :
    (work.updateRecord (fun record => record.accept flags payload)).Shapely :=
  shapely.of_same (fun _ => rfl) (steady_accept work flags payload).toContinues

/-- A signal is answered by a fiber that waits for something. -/
theorem resumption_ok {signal : WakeSignal} {how : Resumption}
    (answered : work.resumption signal = .ok how) :
    work.record.isRunning = true ∧ ∃ fiber, work.fiber? signal.fiber = some fiber ∧
      fiber.epoch = signal.epoch ∧ fiber.Answered how := by
  rw [resumption] at answered
  split at answered
  · cases answered
  · rename_i running
    split at answered
    · cases answered
    · rename_i fiber found
      split at answered
      · rename_i current
        exact ⟨by simpa using running, fiber, found, current, Fiber.answered answered⟩
      · cases answered

theorem Shapely.resume (shapely : work.Shapely) {id : FiberId} {how : Resumption}
    (found : work.fiber? id = some fiber) (answered : fiber.Answered how) :
    (work.resume id how).Shapely := by
  have awake : ∀ pc, fiber.watch = none -> (work.wake id pc).Shapely := by
    intro pc free
    refine shapely.wake pc (fun other found' => ?_)
    cases found.symm.trans found'
    exact free
  cases answered with
  | fire waits watches => exact shapely.fire found watches
  | timer waits free => exact awake _ free
  | message waits => exact awake _ (WellFormed.unwatched shapely found (by simp [waits]))
  | human waits => exact awake _ (WellFormed.unwatched shapely found (by simp [waits]))
  | race waits leads =>
    rename_i node arms winner losers
    have free := WellFormed.unwatched shapely found (by simp [waits])
    rw [UnitOfWork.resume]
    have logged : ∀ (targets : List Address) (start : UnitOfWork), start.Shapely ->
        start.fiber? id = some fiber ->
        ((targets.foldl (fun (work : UnitOfWork) target =>
          work.emit (.raceArmCancelled node target)) start).wake id winner).Shapely := by
      intro targets
      induction targets with
      | nil =>
        intro start shapely found
        refine shapely.wake winner (fun other found' => ?_)
        cases found.symm.trans found'
        exact free
      | cons target rest ih => exact fun start shapely found => ih _ (shapely.emit _) found
    exact logged losers _ (shapely.emit _) found

theorem Shapely.deliver (shapely : work.Shapely) (signal : WakeSignal) :
    (work.deliver signal).2.Shapely := by
  rw [UnitOfWork.deliver]
  split
  · exact shapely.emit _
  · rename_i how answered
    obtain ⟨-, fiber, found, -, answers⟩ := resumption_ok answered
    exact (shapely.accept signal.flags signal.payload).resume found answers

/-! ## Turns keep the shape -/

theorem Shapely.prepared (shapely : work.Shapely) (found : work.fiber? fiber.id = some fiber)
    {before : UnitOfWork} (prepared : work.Prepared fiber before) : before.Shapely := by
  cases prepared with
  | same => exact shapely
  | changed computes stays => exact shapely.putFiber found computes.revises

/-- A turn of a fiber that can run keeps the shape. -/
theorem Shapely.turned (shapely : work.Shapely) {program : Program} {next : UnitOfWork}
    (found : work.fiber? fiber.id = some fiber) (ready : fiber.wait = .ready)
    (turned : Turned program fiber work next) : next.Shapely := by
  have free : fiber.watch = none := WellFormed.unwatched shapely found (by simp [ready])
  have free' : ∀ other, work.fiber? fiber.id = some other -> other.watch = none := by
    intro other found'
    cases found.symm.trans found'
    exact free
  have suspends : ∀ wait, (work.suspend fiber wait).Shapely :=
    fun wait => shapely.park fiber.pc wait free'
  cases turned with
  | compute reached computes lands => exact shapely.putFiber found computes.revises
  | storeFlag reached computes lands => exact shapely.putFiber found computes.revises
  | count reached computes lands => exact shapely.putFiber found computes.revises
  | handOut reached named =>
    exact (show (work.dispatch _).Shapely from shapely).park fiber.pc _ free'
  | sleep reached => exact suspends _
  | listen reached => exact suspends _
  | consult reached => exact suspends _
  | race reached leads => exact suspends _
  | watch reached => exact shapely.watchOver _ _ _ _ found free
  | unwatch reached computes lands =>
    exact (shapely.putFiber found computes.revises).dropWatchdog fiber
  | fork reached named branches => exact shapely.fork fiber _ _
  | forkInclusive reached named branches chosen prepared =>
    exact (shapely.prepared found prepared).fork fiber _ _
  | join reached named arrives => exact shapely.arriveAt arrives
  | finish reached => exact (shapely.retire fiber.id).completeIfIdle
  | terminate reached closes => exact shapely.close closes
  | halt prepared =>
    refine (shapely.prepared found prepared).raise _ _ _ _ (fun other found' => ?_)
    cases prepared with
    | same => exact free' other found'
    | changed computes stays =>
      rw [fiber?_putFiber, if_pos rfl] at found'
      cases found'
      rw [computes.watch, free]

end UnitOfWork

end ProcessEngine
