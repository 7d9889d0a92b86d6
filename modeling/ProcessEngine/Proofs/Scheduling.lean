import ProcessEngine.Proofs.FiberShape

/-!
# Whose turn it is

A fiber keeps the turn as long as it goes on, and while it does no fiber that was made before it
can run: it is still the first of those that can (`UnitOfWork.foremost_play`). So a run that looks
for the first fiber at every turn takes the same turns (`UnitOfWork.takeTurns_succ`).

A slice makes a change and then lets fibers take turns. What the change and every turn keep is
kept by the slice (`UnitOfWork.Ran.preserves`), whatever the bound on the number of turns.
-/

namespace ProcessEngine

namespace UnitOfWork

variable {program : Program} {work : UnitOfWork} {fiber : Fiber} {id : FiberId} {α : Type}

/-- A fiber of a running instance can run, and those that were made before it cannot. -/
structure Foremost (id : FiberId) (work : UnitOfWork) : Prop where
  running : work.record.isRunning = true
  leads : ∃ fiber, work.fiber? id = some fiber ∧ fiber.wait = .ready ∧
    ∀ other rival, work.fiber? other = some rival -> rival.wait = .ready ->
      fiber.sequence ≤ rival.sequence

/-! ## The first fiber that can run -/

theorem isReady_iff {wait : Wait} : wait.isReady = true ↔ wait = .ready := by
  cases wait <;> simp [Wait.isReady]

/-- A fiber can run if it is among those that can. -/
theorem mem_ready_iff (shapely : work.Shapely) :
    fiber ∈ work.state.fibersInOrder.filter (fun fiber => fiber.wait.isReady) ↔
      work.fiber? fiber.id = some fiber ∧ fiber.wait = .ready := by
  rw [List.mem_filter, isReady_iff]
  refine and_congr_left (fun _ => mem_sortOn.trans ((OrderedMap.mem_values_iff _ _).trans ?_))
  constructor
  · rintro ⟨key, found⟩
    have same : fiber.id = key := WellFormed.keyed shapely found
    exact same ▸ found
  · exact fun found => ⟨fiber.id, found⟩

theorem pairwise_ready (work : UnitOfWork) :
    (work.state.fibersInOrder.filter (fun fiber => fiber.wait.isReady)).Pairwise
      (fun earlier later => earlier.sequence ≤ later.sequence) := by
  have sorted : work.state.fibersInOrder.Pairwise (fun earlier later =>
      (compare earlier.sequence later.sequence).isLE = true) := by
    refine pairwise_sortBy ?_ ?_ _
    · simp only [Nat.isLE_compare]
      exact fun _ _ _ => Nat.le_trans
    · simp only [Nat.isLE_compare]
      exact fun _ _ => Nat.le_total _ _
  exact (sorted.imp Nat.isLE_compare.1).filter _

/-- The next turn is that of the foremost fiber. -/
theorem nextFiber?_eq_some_iff (shapely : work.Shapely) :
    work.nextFiber? = some id ↔ work.Foremost id := by
  have listed := fun fiber => @mem_ready_iff work fiber shapely
  have sorted := pairwise_ready work
  rw [nextFiber?, InstanceState.readyFibers, List.head?_map]
  generalize work.state.fibersInOrder.filter (fun fiber => fiber.wait.isReady) = ready at *
  constructor
  · intro next
    split at next
    · rename_i running
      obtain ⟨fiber, first, rfl⟩ := Option.map_eq_some_iff.1 next
      obtain ⟨rest, rfl⟩ := List.head?_eq_some_iff.1 first
      obtain ⟨found, waits⟩ := (listed fiber).1 List.mem_cons_self
      refine ⟨running, fiber, found, waits, fun other rival found' waits' => ?_⟩
      have same : rival.id = other := WellFormed.keyed shapely found'
      rcases List.mem_cons.1 ((listed rival).2 ⟨same ▸ found', waits'⟩) with rfl | behind
      · exact Nat.le_refl _
      · exact (List.pairwise_cons.1 sorted).1 rival behind
    · cases next
  · rintro ⟨running, fiber, found, waits, leads⟩
    have same : fiber.id = id := WellFormed.keyed shapely found
    have able := (listed fiber).2 ⟨same ▸ found, waits⟩
    rw [if_pos running]
    cases ready with
    | nil => cases able
    | cons head rest =>
      obtain ⟨found', waits'⟩ := (listed head).1 List.mem_cons_self
      have before : head.sequence ≤ fiber.sequence := by
        rcases List.mem_cons.1 able with rfl | behind
        · exact Nat.le_refl _
        · exact (List.pairwise_cons.1 sorted).1 fiber behind
      exact congrArg some (WellFormed.distinct shapely found' found
        (Nat.le_antisymm before (leads _ _ found' waits')))

/-! ## A fiber that goes on stays foremost -/

namespace Foremost

/-- A fiber that goes on stays foremost if no other one begins to run. -/
theorem keep {next : UnitOfWork} (foremost : work.Foremost id)
    (running : next.record.isRunning = work.record.isRunning)
    (goes : ∀ fiber, work.fiber? id = some fiber -> fiber.wait = .ready ->
      ∃ changed, next.fiber? id = some changed ∧ changed.wait = .ready ∧
        changed.sequence = fiber.sequence)
    (others : ∀ other rival, other ≠ id -> next.fiber? other = some rival ->
      rival.wait = .ready -> work.fiber? other = some rival) : next.Foremost id := by
  obtain ⟨able, fiber, found, waits, leads⟩ := foremost
  obtain ⟨changed, found', waits', same⟩ := goes fiber found waits
  refine ⟨running.trans able, changed, found', waits', fun other rival found'' ready => ?_⟩
  by_cases own : other = id
  · subst own
    cases found'.symm.trans found''
    exact Nat.le_refl _
  · exact same ▸ leads other rival (others other rival own found'' ready) ready

theorem of_same {next : UnitOfWork} (foremost : work.Foremost id)
    (running : next.record.isRunning = work.record.isRunning)
    (fibers : ∀ asked, next.fiber? asked = work.fiber? asked) : next.Foremost id :=
  foremost.keep running
    (fun fiber found waits => ⟨fiber, (fibers id).trans found, waits, rfl⟩)
    (fun other _ _ found _ => (fibers other).symm.trans found)

theorem updateFiber {change : Fiber -> Fiber} (foremost : work.Foremost id)
    (waits : ∀ fiber, (change fiber).wait = fiber.wait)
    (same : ∀ fiber, (change fiber).sequence = fiber.sequence) :
    (work.updateFiber id change).Foremost id := by
  refine foremost.keep (by rw [record_updateFiber]) (fun fiber found ready => ?_) ?_
  · refine ⟨change fiber, ?_, (waits fiber).trans ready, same fiber⟩
    rw [fiber?_updateFiber, if_pos rfl, found]
    rfl
  · intro other rival different found _
    rwa [fiber?_updateFiber, if_neg different] at found

/-- A host stays foremost when it gets a watchdog, which waits. -/
theorem watchOver {host : Fiber} (foremost : work.Foremost host.id)
    (drawn : host.id.number < work.supply.next) (boundary : NodeKey) (duration : Nat)
    (interrupting : Bool) (target : Address) :
    (work.watchOver host boundary duration interrupting target).Foremost host.id := by
  have older : host.id ≠ ⟨work.supply.next⟩ := by
    intro same
    rw [same] at drawn
    exact Nat.lt_irrefl _ drawn
  refine foremost.keep (by rw [record_watchOver]; rfl) (fun fiber found ready => ?_) ?_
  · rw [fiber?_watchOver _ _ _ _ _ _ _ older, if_pos rfl, found]
    exact ⟨_, rfl, ready, rfl⟩
  · intro other rival different found ready
    rw [fiber?_watchOver _ _ _ _ _ _ _ older, if_neg different] at found
    split at found
    · cases found
      cases ready
    · exact found

theorem dropWatchdog {host : Fiber} (foremost : work.Foremost host.id)
    (other : host.watchdog ≠ some host.id) : (work.dropWatchdog host).Foremost host.id := by
  refine foremost.keep (by rw [record_dropWatchdog]) (fun fiber found ready => ?_) ?_
  · rw [fiber?_dropWatchdog, if_neg other, found]
    exact ⟨_, rfl, by simpa using ready, by simp⟩
  · intro asked rival different found _
    rw [fiber?_dropWatchdog] at found
    split at found
    · cases found
    · simpa [different] using found

end Foremost

end UnitOfWork

/-! ## Instructions after which a fiber goes on -/

namespace Fiber

/-- The changed fiber waits as before and was made when it was. -/
def Abides (fiber changed : Fiber) : Prop :=
  changed.wait = fiber.wait ∧ changed.sequence = fiber.sequence

theorem Abides.trans (first middle last : Fiber) (earlier : first.Abides middle)
    (later : middle.Abides last) : first.Abides last :=
  ⟨later.1.trans earlier.1, later.2.trans earlier.2⟩

end Fiber

namespace FiberWork

open Fiber

variable {α : Type}

theorem abides_of_rearranges {work : FiberWork α} (moves : Moves Rearranges work) :
    Moves Abides work := by
  intro fiber
  obtain ⟨_, _, same⟩ := moves fiber
  rw [same]
  exact ⟨rfl, rfl⟩

theorem abides_advance : Moves Abides advance := fun _ => ⟨rfl, rfl⟩

theorem abides_jump (target : Address) : Moves Abides (jump target) := fun _ => ⟨rfl, rfl⟩

theorem abides_branch (wanted : Bool) (target : Address) : Moves Abides (branch wanted target) := by
  refine .bind Abides.trans (abides_of_rearranges moves_pop) (fun value => ?_)
  split
  · exact abides_jump target
  · exact abides_advance

end FiberWork

namespace Execution

open UnitOfWork FiberWork

variable {program : Program} {fiber : Fiber} {id : FiberId} {α : Type}

/-- A fiber that was foremost before still is. -/
def Retains (id : FiberId) (work next : UnitOfWork) : Prop :=
  work.Foremost id -> id.number < work.supply.next ->
    next.Foremost id ∧ id.number < next.supply.next

theorem Retains.refl (work : UnitOfWork) : Retains id work work := fun foremost drawn =>
  ⟨foremost, drawn⟩

theorem Retains.trans (first middle last : UnitOfWork) (earlier : Retains id first middle)
    (later : Retains id middle last) : Retains id first last := by
  intro foremost drawn
  obtain ⟨foremost, drawn⟩ := earlier foremost drawn
  exact later foremost drawn

theorem retains_symbol (reference : SymbolReference) :
    Moves (Retains id) (symbol program reference) := by
  rw [symbol]
  split
  · exact .pure Retains.refl _
  · exact .throw Retains.refl _

theorem retains_node (index : Nat) : Moves (Retains id) (node program index) := by
  rw [node]
  split
  · exact .pure Retains.refl _
  · exact .throw Retains.refl _

theorem retains_onFiber {fiberWork : FiberWork α} (abides : Moves Fiber.Abides fiberWork) :
    Moves (Retains id) (onFiber id fiberWork) := by
  intro work foremost drawn
  rw [onFiber, outcome_bind_ok (outcome_getThe work)]
  cases found : work.fiber? id with
  | none => exact ⟨foremost, drawn⟩
  | some fiber =>
    change Foremost id (outcome (do set _; liftExcept _) work).2 ∧ _ <
      (outcome (do set _; liftExcept _) work).2.supply.next
    rw [outcome_bind_ok (outcome_set _ work), outcome_liftExcept]
    obtain ⟨waits, same⟩ := abides fiber
    refine ⟨foremost.keep rfl (fun former found' ready => ?_) ?_, drawn⟩
    · cases found.symm.trans found'
      exact ⟨_, (fiber?_putFiber _ _ _ _).trans (if_pos rfl), waits.trans ready, same⟩
    · intro other rival different found' _
      rwa [fiber?_putFiber, if_neg different] at found'

/-- A change of the record keeps what can run if it keeps the status. -/
theorem retains_updateRecord {change : UnitOfWork -> ProcessInstance -> ProcessInstance}
    (same : ∀ work record, (change work record).status = record.status) :
    Moves (Retains id) (modify (fun work => work.updateRecord (change work)) : Execution Unit) := by
  intro work foremost drawn
  have running : (work.updateRecord (change work)).record.isRunning = work.record.isRunning := by
    exact congrArg (· == InstanceStatus.running) (same work work.record)
  exact ⟨foremost.of_same running (fun _ => rfl), drawn⟩

/-- An instruction after which a fiber goes on leaves it foremost. -/
theorem retains_execute (program : Program) {instruction : Instruction Address}
    (goes : instruction.goesOn = true) (different : ∀ node, instruction ≠ .join node)
    (unguarded : fiber.watchdog ≠ some fiber.id) :
    Moves (Retains fiber.id) (execute program fiber instruction) := by
  have popped {β : Type} {next : Value -> FiberWork β}
      (abides : ∀ value, Moves Fiber.Abides (next value)) :
      Moves Fiber.Abides (pop >>= next) :=
    .bind Fiber.Abides.trans (abides_of_rearranges moves_pop) abides
  have pushed (value : Value) : Moves Fiber.Abides (do push value; advance) :=
    .bind Fiber.Abides.trans (abides_of_rearranges (moves_push value)) (fun _ => abides_advance)
  have named {β : Type} {reference : SymbolReference} {next : String -> Execution β}
      (retains : ∀ name, Moves (Retains fiber.id) (next name)) :
      Moves (Retains fiber.id) (symbol program reference >>= next) :=
    .bind Retains.trans (retains_symbol reference) retains
  have looked {β : Type} {next : UnitOfWork -> Execution β}
      (retains : ∀ found, Moves (Retains fiber.id) (next found)) :
      Moves (Retains fiber.id) (getThe UnitOfWork >>= next) :=
    .bind Retains.trans (fun work => .refl work) retains
  cases instruction with
  | push value =>
    rw [execute]
    exact retains_onFiber (pushed value)
  | pop =>
    rw [execute]
    exact retains_onFiber (popped (fun _ => abides_advance))
  | loadFlag flag =>
    rw [execute]
    exact named (fun _ => looked (fun _ => retains_onFiber (pushed _)))
  | storeFlag flag =>
    rw [execute]
    refine named (fun name => .bind Retains.trans (retains_onFiber (popped (fun value => ?_)))
      (fun value => retains_updateRecord (fun _ _ => rfl)))
    exact .bind Fiber.Abides.trans abides_advance (fun _ => .pure (fun _ => ⟨rfl, rfl⟩) value)
  | loadRegister index =>
    rw [execute]
    exact retains_onFiber (.bind Fiber.Abides.trans (abides_of_rearranges (moves_register index))
      pushed)
  | storeRegister index =>
    rw [execute]
    refine retains_onFiber (popped (fun value => ?_))
    exact .bind Fiber.Abides.trans (abides_of_rearranges (moves_setRegister index value))
      (fun _ => abides_advance)
  | loadCounter counter =>
    rw [execute]
    exact named (fun _ => looked (fun _ => retains_onFiber (pushed _)))
  | incrementCounter counter =>
    rw [execute]
    refine named (fun name => .bind Retains.trans (retains_onFiber ?_) (fun _ => ?_))
    · exact .bind Fiber.Abides.trans (fun _ => ⟨rfl, rfl⟩) (fun _ => abides_advance)
    · intro work foremost drawn
      exact ⟨foremost.of_same rfl (fun _ => rfl), drawn⟩
  | equal =>
    rw [execute]
    exact retains_onFiber (popped (fun _ => popped (fun _ => pushed _)))
  | less =>
    rw [execute]
    have number := abides_of_rearranges moves_popNumber
    exact retains_onFiber (.bind Fiber.Abides.trans number (fun _ =>
      .bind Fiber.Abides.trans number (fun _ => pushed _)))
  | negate =>
    rw [execute]
    exact retains_onFiber (popped (fun _ => pushed _))
  | conjoin =>
    rw [execute]
    exact retains_onFiber (popped (fun _ => popped (fun _ => pushed _)))
  | disjoin =>
    rw [execute]
    exact retains_onFiber (popped (fun _ => popped (fun _ => pushed _)))
  | jump target =>
    rw [execute]
    exact retains_onFiber (abides_jump target)
  | branchIf target =>
    rw [execute]
    exact retains_onFiber (abides_branch true target)
  | branchIfNot target =>
    rw [execute]
    exact retains_onFiber (abides_branch false target)
  | watch boundary duration interrupting target =>
    rw [execute]
    refine .bind Retains.trans (retains_node boundary) (fun key work foremost drawn => ?_)
    refine ⟨foremost.watchOver drawn key duration interrupting target, ?_⟩
    exact Nat.lt_of_lt_of_le drawn (steady_watchOver work fiber _ _ _ _).supply
  | unwatch boundary =>
    rw [execute]
    refine .bind Retains.trans (retains_onFiber abides_advance) (fun _ work foremost drawn => ?_)
    refine ⟨foremost.dropWatchdog unguarded, ?_⟩
    exact Nat.lt_of_lt_of_le drawn (steady_dropWatchdog work fiber).supply
  | join node => exact absurd rfl (different node)
  | _ => cases goes

end Execution

namespace UnitOfWork

variable {program : Program} {work : UnitOfWork} {fiber : Fiber} {id : FiberId}

theorem isRunning_arrive {next : UnitOfWork} {ticket : JoinTicket} {arrival : Arrival}
    (arrives : work.arrive ticket = .ok (arrival, next)) :
    next.record.isRunning = work.record.isRunning := by
  rw [arrive] at arrives
  cases counted : work.state.arrive ticket with
  | error error =>
    rw [counted] at arrives
    cases arrives
  | ok result =>
    obtain ⟨found, state⟩ := result
    rw [counted] at arrives
    cases arrives
    change state.record.isRunning = work.state.record.isRunning
    rcases arrive_cases counted with ⟨-, -, rfl⟩ | ⟨_, _, -, -, -, -, ⟨-, -, same⟩ | ⟨-, -, same⟩⟩
    · rfl
    · rw [same]
      rfl
    · rw [same]

/-- The last fiber to arrive at a join stays foremost. -/
theorem Foremost.arriveAt (foremost : work.Foremost fiber.id) {join : NodeKey}
    (final : work.satisfies fiber join = true) {next : UnitOfWork}
    (arrives : work.arriveAt fiber join = .ok next) : next.Foremost fiber.id := by
  rw [UnitOfWork.arriveAt] at arrives
  rw [satisfies] at final
  cases ticket : fiber.tickets.find? (isFor join) with
  | none =>
    rw [ticket] at final
    cases final
  | some ticket' =>
    rw [ticket] at arrives final
    dsimp only [Option.map] at arrives final
    cases counted : work.arrive ticket' with
    | error error =>
      rw [counted] at final
      cases final
    | ok result =>
      obtain ⟨arrival, reached⟩ := result
      rw [counted] at arrives final
      cases arrival with
      | satisfied activation =>
        cases arrives
        exact (foremost.of_same (isRunning_arrive counted)
          (fun asked => fiber?_arrive work asked counted)).updateFiber (fun _ => rfl) (fun _ => rfl)
      | waiting arrived expected => cases final
      | stale => cases final

/-- The fiber whose turn it is can run, and so can its instance. -/
theorem nextFiber_some (shapely : work.Shapely) (next : work.nextFiber? = some id) :
    work.record.isRunning = true ∧ ∃ fiber, fiber.id = id ∧
      work.fiber? fiber.id = some fiber ∧ fiber.wait = .ready := by
  obtain ⟨running, fiber, found, ready, -⟩ := (nextFiber?_eq_some_iff shapely).1 next
  have same : fiber.id = id := WellFormed.keyed shapely found
  exact ⟨running, fiber, same, same ▸ found, ready⟩

/-- A join that lets its fiber go on leaves it foremost. -/
theorem Foremost.join (foremost : work.Foremost fiber.id) {node : Nat}
    (final : (program.symbols.node? node).any (work.satisfies fiber) = true) {after : UnitOfWork}
    (done : outcome (Execution.execute program fiber (.join node)) work = (.ok (), after)) :
    after.Foremost fiber.id := by
  rw [Execution.execute, outcome_bind, Execution.node] at done
  cases named : program.symbols.node? node with
  | none =>
    rw [named] at final
    cases final
  | some key =>
    rw [named] at done final
    dsimp only [outcome_pure] at done
    rw [outcome_bind_ok (outcome_getThe work)] at done
    cases arrives : work.arriveAt fiber key with
    | error error =>
      rw [arrives] at done
      cases done
    | ok next =>
      rw [arrives] at done
      cases done
      exact foremost.arriveAt final arrives

/-- A fiber that keeps the turn has executed an instruction after which it is still foremost. -/
theorem Foremost.step (shapely : work.Shapely) (foremost : work.Foremost fiber.id)
    (found : work.fiber? fiber.id = some fiber) (keeps : keepsTurn program fiber.id work = true)
    {after : UnitOfWork} (done : outcome (Execution.step program fiber.id) work = (.ok (), after)) :
    after.Foremost fiber.id := by
  rw [keepsTurn, found, Option.any] at keeps
  rw [Execution.step, outcome_bind_ok (outcome_getThe work), found] at done
  dsimp only at done keeps
  generalize program.instruction? fiber.pc = reached at done keeps
  split at keeps
  · exact foremost.join keeps done
  · rename_i instruction different
    have retains := Execution.retains_execute program keeps
      different (WellFormed.unguarded shapely found)
      work foremost (WellFormed.drawn shapely found)
    dsimp only at done
    rw [done] at retains
    exact retains.1
  · cases keeps

/-- A fiber that keeps the turn is still the first one that can run. -/
theorem nextFiber_play (shapely : work.Shapely) (next : work.nextFiber? = some id)
    {holder : FiberId} (keeps : (play program id work).1 = some holder) :
    (play program id work).2.nextFiber? = some holder := by
  have foremost := (nextFiber?_eq_some_iff shapely).1 next
  obtain ⟨-, fiber, rfl, found, ready⟩ := nextFiber_some shapely next
  have after : (turn program fiber.id work).Shapely :=
    shapely.turned found ready (turn_cases program found rfl)
  refine (nextFiber?_eq_some_iff after).2 ?_
  rw [turn]
  rw [play_eq] at keeps ⊢
  rcases done : outcome (Execution.step program fiber.id) work with ⟨error | ⟨⟨⟩⟩, reached⟩
  · rw [done] at keeps
    cases keeps
  · rw [done] at keeps
    dsimp only at keeps ⊢
    split at keeps
    · rename_i holds
      cases keeps
      exact foremost.step shapely found holds done
    · cases keeps

/-! ## Runs -/

/-- The fiber that has the turn, if there is one, is the first one that can run. -/
def Leads (holder : Option FiberId) (work : UnitOfWork) : Prop :=
  holder.or work.nextFiber? = work.nextFiber?

theorem leads_none (work : UnitOfWork) : Leads none work := Option.none_or

/-- Whoever goes on with the next turn would be chosen for it. -/
theorem leads_play (program : Program) (shapely : work.Shapely)
    (next : work.nextFiber? = some id) :
    Leads (play program id work).1 (turn program id work) := by
  rw [Leads, turn]
  cases keeps : (play program id work).1 with
  | none => exact Option.none_or
  | some holder => exact (nextFiber_play shapely next keeps).symm

/-- A run may choose among the fibers where one has the turn. -/
theorem takeTurnsFrom_of_leads {holder : Option FiberId} (leads : Leads holder work)
    (program : Program) (remaining taken : Nat) :
    takeTurnsFrom program remaining taken holder work = takeTurns program remaining taken work := by
  cases remaining with
  | zero => rw [takeTurns, takeTurnsFrom, takeTurnsFrom, leads, Option.none_or]
  | succ remaining => rw [takeTurns, takeTurnsFrom, takeTurnsFrom, leads, Option.none_or]

/-- Turns may be taken one at a time by whichever fiber is first then. -/
theorem takeTurns_succ (program : Program) (shapely : work.Shapely) (remaining taken : Nat) :
    takeTurns program (remaining + 1) taken work =
      match work.nextFiber? with
      | none => (⟨taken, false⟩, work)
      | some id => takeTurns program remaining (taken + 1) (turn program id work) := by
  rw [takeTurns, takeTurnsFrom, Option.none_or]
  cases next : work.nextFiber? with
  | none => rfl
  | some id => exact takeTurnsFrom_of_leads (leads_play program shapely next) program _ _

end UnitOfWork

/-! ## Slices -/

namespace UnitOfWork

variable {program : Program} {first middle last work : UnitOfWork} {fiber : Fiber}

/-- A turn touches no jobs unless it hands out a job or terminates the instance. -/
theorem Turned.reaches {next : UnitOfWork} (turned : Turned program fiber work next) :
    work.Steady next ∨
      (∃ key name node retries, next = work.handOut fiber
        (.first work.record fiber key name retries work.time) ∧
        ∃ taskType routes, program.instruction? fiber.pc =
          some (.dispatch taskType node retries routes)) ∨
      ∃ node, work.close .terminated (.instanceTerminated node) = .ok next := by
  have prepares : ∀ {before}, work.Prepared fiber before -> work.Steady before := by
    rintro before (_ | ⟨computes, stays⟩)
    · exact .refl work
    · exact steady_putFiber work _ _
  cases turned with
  | compute reached computes lands => exact .inl (steady_putFiber work _ _)
  | storeFlag reached computes lands =>
    exact .inl ((steady_putFiber work _ _).trans (steady_updateRecord _ rfl rfl (Nat.le_refl _)))
  | count reached computes lands =>
    exact .inl (((steady_putFiber work _ _).trans
      (steady_updateRecord _ rfl rfl (Nat.le_refl _))).trans (steady_emit _ _))
  | handOut reached named => exact .inr (.inl ⟨_, _, _, _, rfl, _, _, reached⟩)
  | sleep reached => exact .inl (steady_park work _ _ _)
  | listen reached => exact .inl (steady_park work _ _ _)
  | consult reached => exact .inl (steady_park work _ _ _)
  | race reached leads => exact .inl (steady_park work _ _ _)
  | watch reached => exact .inl (steady_watchOver work _ _ _ _ _)
  | unwatch reached computes lands =>
    exact .inl ((steady_putFiber work _ _).trans (steady_dropWatchdog _ _))
  | fork reached named branches => exact .inl (steady_fork work _ _ _)
  | forkInclusive reached named branches chosen prepared =>
    exact .inl ((prepares prepared).trans (steady_fork _ _ _ _))
  | join reached named arrives => exact .inl (steady_arriveAt arrives)
  | finish reached => exact .inl ((steady_retire work _).trans (steady_completeIfIdle _))
  | terminate reached closes => exact .inr (.inr ⟨_, closes⟩)
  | halt prepared => exact .inl ((prepares prepared).trans (steady_raise _ _ _ _ _ _))

/-- What a turn may touch: no completion and no dead letter. -/
theorem Turned.confined {next : UnitOfWork} (turned : Turned program fiber work next) :
    work.Confined next := by
  rcases turned.reaches with steady | ⟨key, name, node, retries, rfl, -⟩ | ⟨node, closes⟩
  · exact steady.toConfined
  · exact confined_handOut work _ _
  · exact confined_close closes

/-- A finite sequence of turns of fibers that can run. -/
inductive Ran (program : Program) (first : UnitOfWork) : UnitOfWork -> Prop where
  | refl : Ran program first first
  | step {middle fiber next} (prior : Ran program first middle)
      (running : middle.record.isRunning = true)
      (found : middle.fiber? fiber.id = some fiber) (ready : fiber.wait = .ready)
      (turned : Turned program fiber middle next) : Ran program first next

namespace Ran

/-- What every turn keeps is kept by sequences of turns. -/
theorem preserves {Invariant : UnitOfWork -> Prop}
    (step : ∀ {middle fiber next}, middle.record.isRunning = true ->
      middle.fiber? fiber.id = some fiber -> fiber.wait = .ready ->
      Turned program fiber middle next -> Invariant middle -> Invariant next)
    (ran : Ran program first last) (holds : Invariant first) : Invariant last := by
  induction ran with
  | refl => exact holds
  | step _ running found ready turned ih => exact step running found ready turned ih

theorem confined (ran : Ran program first last) : first.Confined last := by
  induction ran with
  | refl => exact .refl first
  | step _ running found ready turned ih => exact ih.trans turned.confined

theorem shapely (ran : Ran program first last) (begun : first.Shapely) : last.Shapely :=
  ran.preserves (fun _ found ready turned shapely => shapely.turned found ready turned) begun

end Ran

/-- Taking turns is a sequence of turns. -/
theorem ran_takeTurns (shapely : work.Shapely) (remaining taken : Nat) :
    Ran program work (takeTurns program remaining taken work).2 := by
  suffices ∀ remaining taken reached, Ran program work reached ->
      Ran program work (takeTurns program remaining taken reached).2 from
    this remaining taken work .refl
  intro remaining
  induction remaining with
  | zero => exact fun taken reached ran => ran
  | succ remaining ih =>
    intro taken reached ran
    rw [takeTurns_succ program (ran.shapely shapely)]
    cases next : reached.nextFiber? with
    | none => exact ran
    | some id =>
      obtain ⟨running, fiber, rfl, found, ready⟩ := nextFiber_some (ran.shapely shapely) next
      exact ih _ _ (.step ran running found ready (turn_cases program found rfl))

/-- The parts of a slice: the change, and the turns that follow it. -/
structure SliceParts {Result : Type} (change : Change Result) (program : Program)
    (work : UnitOfWork) (result : Result) (changed done : UnitOfWork) : Prop where
  made : change program work = .ok (result, changed)
  own : changed.record.program = program.hash
  ran : changed.Shapely -> Ran program changed done
  took : ∃ steps, done = (takeTurns program steps 0 changed).2

theorem slice_parts {Result : Type} {change : Change Result} {maximumSteps : Nat}
    {result : Result} {report : RunReport} {done : UnitOfWork}
    (sliced : change.slice program maximumSteps work = .ok (result, report, done)) :
    ∃ changed, SliceParts change program work result changed done := by
  rw [Change.slice] at sliced
  cases made : change program work with
  | error error =>
    rw [made] at sliced
    cases sliced
  | ok found =>
    obtain ⟨answer, changed⟩ := found
    rw [made] at sliced
    simp only [bind, Except.bind, run] at sliced
    by_cases own : changed.record.program = program.hash
    · rw [if_pos own] at sliced
      cases sliced
      exact ⟨changed, made, own, fun shapely => ran_takeTurns shapely _ _, _, rfl⟩
    · rw [if_neg own] at sliced
      cases sliced

end UnitOfWork

end ProcessEngine
