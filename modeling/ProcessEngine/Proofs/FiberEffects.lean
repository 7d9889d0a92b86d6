import ProcessEngine.Proofs.Continuations

/-!
# Effects on fibers

What each operation of a unit of work does to the fiber of an identifier, and how a fiber that
waits may answer a signal.
-/

namespace ProcessEngine

namespace UnitOfWork

/-! ## Effects on the fiber of an identifier -/

variable (work : UnitOfWork) (id asked : FiberId)

@[simp] theorem fiber?_emit (event : RuntimeEvent) :
    (work.emit event).fiber? asked = work.fiber? asked := rfl

@[simp] theorem fiber?_updateRecord (change : ProcessInstance -> ProcessInstance) :
    (work.updateRecord change).fiber? asked = work.fiber? asked := rfl

@[simp] theorem fiber?_putIncident (incident : Incident) :
    (work.putIncident incident).fiber? asked = work.fiber? asked := rfl

@[simp] theorem fiber?_activateJoin (join : NodeKey) (expected : Nat) :
    (work.activateJoin join expected).2.fiber? asked = work.fiber? asked := rfl

@[simp] theorem fiber?_dispatch (job : Job) :
    (work.dispatch job).fiber? asked = work.fiber? asked := rfl

@[simp] theorem fiber?_updateJob (job : Job) :
    (work.updateJob job).fiber? asked = work.fiber? asked := rfl

@[simp] theorem fiber?_cancelJob (key : JobKey) :
    (work.cancelJob key).fiber? asked = work.fiber? asked := rfl

@[simp] theorem fiber?_putDeadLetter (letter : DeadLetter) :
    (work.putDeadLetter letter).fiber? asked = work.fiber? asked := rfl

@[simp] theorem fiber?_removeDeadLetter (place : DeadLetterKey) :
    (work.removeDeadLetter place).fiber? asked = work.fiber? asked := rfl

@[simp] theorem fiber?_conclude (status : InstanceStatus) (event : RuntimeEvent) :
    (work.conclude status event).fiber? asked = work.fiber? asked := rfl

@[simp] theorem fiber?_cancelAwaitedJob (fiber : Fiber) :
    (work.cancelAwaitedJob fiber).fiber? asked = work.fiber? asked := by
  rw [cancelAwaitedJob]
  split
  · rfl
  · rfl

@[simp] theorem fiber?_completeIfIdle : work.completeIfIdle.fiber? asked = work.fiber? asked := by
  rw [completeIfIdle]
  split
  · rfl
  · rfl

@[simp] theorem fiber?_putFiber (fiber : Fiber) :
    (work.putFiber id fiber).fiber? asked =
      if asked = id then some fiber else work.fiber? asked :=
  OrderedMap.get?_insert _ _ _ _

@[simp] theorem fiber?_updateFiber (change : Fiber -> Fiber) :
    (work.updateFiber id change).fiber? asked =
      if asked = id then (work.fiber? asked).map change else work.fiber? asked := by
  rw [updateFiber]
  split
  · rename_i fiber found
    rw [fiber?_putFiber]
    by_cases same : asked = id
    · subst same
      simp [found]
    · simp [same]
  · rename_i absent
    by_cases same : asked = id
    · subst same
      simp [absent]
    · simp [same]

@[simp] theorem fiber?_endFiber :
    (work.endFiber id).fiber? asked = if asked = id then none else work.fiber? asked := by
  rw [endFiber]
  split
  · rename_i absent
    by_cases same : asked = id
    · subst same
      simp [absent]
    · simp [same]
  · exact OrderedMap.get?_erase _ _ _

@[simp] theorem fiber?_park (pc : Address) (wait : Wait) :
    (work.park id pc wait).fiber? asked =
      if asked = id then
        (work.fiber? asked).map (fun fiber => { fiber with pc := pc, wait := wait })
      else work.fiber? asked :=
  fiber?_updateFiber work id asked _

@[simp] theorem fiber?_wake (pc : Address) :
    (work.wake id pc).fiber? asked =
      if asked = id then (work.fiber? asked).map (fun fiber => fiber.wake pc)
      else work.fiber? asked := by
  rw [wake]
  split
  · rename_i absent
    by_cases same : asked = id
    · subst same
      simp [absent]
    · simp [same]
  · rename_i fiber found
    rw [fiber?_emit, fiber?_putFiber]
    by_cases same : asked = id
    · subst same
      simp [found]
    · simp [same]

/-- A fiber forgets its watchdog, which ends. -/
theorem fiber?_dropWatchdog (fiber : Fiber) :
    (work.dropWatchdog fiber).fiber? asked =
      if fiber.watchdog = some asked then none
      else (work.fiber? asked).map (fun found =>
        if asked = fiber.id then { found with watchdog := none } else found) := by
  have freed : (work.updateFiber fiber.id (fun fiber => { fiber with watchdog := none })).fiber?
      asked = (work.fiber? asked).map (fun found =>
        if asked = fiber.id then { found with watchdog := none } else found) := by
    rw [fiber?_updateFiber]
    by_cases same : asked = fiber.id
    · simp [same]
    · simp [same]
  rw [dropWatchdog]
  cases fiber.watchdog with
  | none => simpa using freed
  | some watchdog =>
    rw [Option.elim, fiber?_endFiber, freed]
    simp only [Option.some.injEq, eq_comm]

@[simp] theorem fiber?_spawn (pc : Address) (parent : Option FiberId) :
    (work.spawn pc parent).2.fiber? asked =
      if asked = ⟨work.supply.next⟩ then
        some (.create ⟨work.supply.next⟩ work.record.id work.record.nextSequence pc)
      else work.fiber? asked :=
  OrderedMap.get?_insert _ _ _ _

/-- The fiber of one branch begins with a ticket in front of those of the fiber it came from. -/
@[simp] theorem fiber?_branch (parent : Fiber) (ticket : JoinTicket) (target : Address) :
    (branch parent ticket work target).fiber? asked =
      if asked = ⟨work.supply.next⟩ then
        some { Fiber.create ⟨work.supply.next⟩ work.record.id work.record.nextSequence target with
          tickets := ticket :: parent.tickets
          epoch := parent.epoch }
      else work.fiber? asked := by
  change ((work.spawn target (some parent.id)).2.updateFiber ⟨work.supply.next⟩ _).fiber? asked = _
  rw [fiber?_updateFiber, fiber?_spawn]
  split
  · rfl
  · rfl

/-- The watchdog that a host gets. -/
def guardOf (host : Fiber) (boundary : NodeKey) (duration : Nat) (interrupting : Bool)
    (target : Address) : Fiber :=
  { Fiber.create ⟨work.supply.next⟩ work.record.id work.record.nextSequence host.pc with
    wait := .timer (work.time.after duration)
    watch := some ⟨host.id, boundary, interrupting, target⟩ }

/-- A host that existed before goes on and knows its new watchdog. -/
theorem fiber?_watchOver (host : Fiber) (boundary : NodeKey) (duration : Nat)
    (interrupting : Bool) (target : Address) (older : host.id ≠ ⟨work.supply.next⟩) :
    (work.watchOver host boundary duration interrupting target).fiber? asked =
      if asked = host.id then
        (work.fiber? asked).map (fun fiber =>
          { fiber with watchdog := some ⟨work.supply.next⟩, pc := fiber.pc + 1 })
      else if asked = ⟨work.supply.next⟩ then
        some (work.guardOf host boundary duration interrupting target)
      else work.fiber? asked := by
  change (((work.spawn host.pc (some host.id)).2.updateFiber ⟨work.supply.next⟩ _).updateFiber
    host.id _).fiber? asked = _
  rw [fiber?_updateFiber, fiber?_updateFiber, fiber?_spawn]
  split
  · rename_i same
    rw [if_neg (same ▸ older), if_neg (same ▸ older)]
  · split
    · rfl
    · rfl

@[simp] theorem record_updateFiber (change : Fiber -> Fiber) :
    (work.updateFiber id change).record = work.record := by
  rw [updateFiber]
  split
  · rfl
  · rfl

@[simp] theorem supply_updateFiber (change : Fiber -> Fiber) :
    (work.updateFiber id change).supply = work.supply := by
  rw [updateFiber]
  split
  · rfl
  · rfl

@[simp] theorem record_endFiber : (work.endFiber id).record = work.record := by
  rw [endFiber]
  split
  · rfl
  · rfl

theorem record_dropWatchdog (host : Fiber) : (work.dropWatchdog host).record = work.record :=
  @dropWatchdog_keeps work (fun reached => reached.record = work.record)
    (fun _ same => (record_endFiber _ _).trans same) host (record_updateFiber work _ _)

theorem record_watchOver (host : Fiber) (boundary : NodeKey) (duration : Nat)
    (interrupting : Bool) (target : Address) :
    (work.watchOver host boundary duration interrupting target).record =
      work.record.takeSequence.2 := by
  change (((work.spawn host.pc (some host.id)).2.updateFiber ⟨work.supply.next⟩ _).updateFiber
    host.id _).record = _
  rw [record_updateFiber, record_updateFiber]
  rfl

theorem supply_watchOver (host : Fiber) (boundary : NodeKey) (duration : Nat)
    (interrupting : Bool) (target : Address) :
    (work.watchOver host boundary duration interrupting target).supply =
      ⟨work.supply.next + 1⟩ := by
  change (((work.spawn host.pc (some host.id)).2.updateFiber ⟨work.supply.next⟩ _).updateFiber
    host.id _).supply = _
  rw [supply_updateFiber, supply_updateFiber]
  rfl

theorem record_branch (parent : Fiber) (ticket : JoinTicket) (target : Address) :
    (branch parent ticket work target).record = work.record.takeSequence.2 :=
  record_updateFiber (work.spawn target (some parent.id)).2 ⟨work.supply.next⟩ _

theorem supply_branch (parent : Fiber) (ticket : JoinTicket) (target : Address) :
    (branch parent ticket work target).supply = ⟨work.supply.next + 1⟩ :=
  supply_updateFiber (work.spawn target (some parent.id)).2 ⟨work.supply.next⟩ _

theorem fiber?_arrive {next : UnitOfWork} {ticket : JoinTicket} {arrival : Arrival}
    (arrives : work.arrive ticket = .ok (arrival, next)) :
    next.fiber? asked = work.fiber? asked := by
  rw [arrive] at arrives
  cases counted : work.state.arrive ticket with
  | error error =>
    rw [counted] at arrives
    cases arrives
  | ok result =>
    obtain ⟨found, state⟩ := result
    rw [counted] at arrives
    cases arrives
    have same : state.fibers = work.state.fibers := by
      rcases arrive_cases counted with ⟨-, -, rfl⟩ | ⟨_, _, -, -, fibers, -⟩
      · rfl
      · exact fibers
    change state.fibers.get? asked = _
    rw [same]
    rfl

end UnitOfWork

/-! ## Answers to signals -/

/-- How a fiber that waits for a signal may go on. -/
inductive Fiber.Answered (fiber : Fiber) : Resumption -> Prop where
  | fire {due watch} (waits : fiber.wait = .timer due) (watches : fiber.watch = some watch) :
    Answered fiber (.fire watch)
  | timer {due} (waits : fiber.wait = .timer due) (free : fiber.watch = none) :
    Answered fiber (.goOn (fiber.pc + 1))
  | message {name correlation} (waits : fiber.wait = .message name correlation) :
    Answered fiber (.goOn (fiber.pc + 1))
  | human {task} (waits : fiber.wait = .human task) : Answered fiber (.goOn (fiber.pc + 1))
  | race {node arms winner losers} (waits : fiber.wait = .race node arms)
      (leads : winner ∈ arms.map ArmWait.target) : Answered fiber (.win node winner losers)

/-- The arm that is due first is one of the arms. -/
theorem ArmWait.firstDue_mem {now : Instant} {arms : List ArmWait} {due : Instant}
    {target : Address} (first : ArmWait.firstDue? now arms = some (due, target)) :
    target ∈ arms.map ArmWait.target := by
  induction arms generalizing due target with
  | nil => cases first
  | cons arm rest ih =>
    rw [ArmWait.firstDue?] at first
    rw [List.map_cons]
    split at first
    · exact List.mem_cons_of_mem _ (ih first)
    · split at first
      · exact List.mem_cons_of_mem _ (ih first)
      · split at first
        · cases first
          exact List.mem_cons_self
        · rename_i other target' later
          split at first
          · cases first
            exact List.mem_cons_of_mem _ (ih later)
          · cases first
            exact List.mem_cons_self

theorem ArmWait.winner_mem {arms : List ArmWait} {now : Instant} {kind : WakeKind}
    {winner : Address} (wins : ArmWait.winner? arms now kind = some winner) :
    winner ∈ arms.map ArmWait.target := by
  cases kind with
  | timer =>
    obtain ⟨⟨due, target⟩, first, rfl⟩ := Option.map_eq_some_iff.1 wins
    exact ArmWait.firstDue_mem first
  | message name correlation =>
    obtain ⟨arm, found, rfl⟩ := Option.map_eq_some_iff.1 wins
    exact List.mem_map_of_mem (List.mem_of_find?_eq_some found)
  | human task => cases wins

/-- A signal ends only a wait for signals. -/
theorem Fiber.answered {fiber : Fiber} {now : Instant} {kind : WakeKind} {how : Resumption}
    (answers : fiber.answer now kind = .ok how) : fiber.Answered how := by
  unfold Fiber.answer at answers
  dsimp only at answers
  split at answers
  · rename_i due _ waits
    split at answers
    · cases watch : fiber.watch with
      | none =>
        rw [watch] at answers
        cases answers
        exact .timer waits watch
      | some watch' =>
        rw [watch] at answers
        cases answers
        exact .fire waits watch
    · cases answers
  · rename_i waits
    split at answers
    · cases answers
      exact .message waits
    · cases answers
  · rename_i waits
    split at answers
    · cases answers
      exact .human waits
    · cases answers
  · rename_i waits
    split at answers
    · cases answers
    · rename_i winner wins
      cases answers
      exact .race waits (ArmWait.winner_mem wins)
  · cases answers

end ProcessEngine
