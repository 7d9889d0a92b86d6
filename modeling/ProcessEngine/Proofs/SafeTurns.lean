import ProcessEngine.Proofs.SafeWork

/-!
# Turns without faults

In safe work on a checked program the fiber whose turn it is executes its instruction, and the work
stays safe (`UnitOfWork.Safe.executes`). So all turns of a run succeed, however many there are
(`UnitOfWork.Safe.takes`).
-/

namespace ProcessEngine

open UnitOfWork Instruction FiberWork Execution

namespace UnitOfWork

variable {work : UnitOfWork} {program : Program} {table : OrderedMap IncidentId Incident}
  {fiber : Fiber} {slots next : List Slot} {instruction : Instruction Address}
  {rest : List (Instruction Address)}

/-- A fiber that has computed goes on at the next instruction. -/
theorem Safe.goesOn (safe : work.Safe program table) (ready : fiber.wait = .ready)
    (stands : program.HasCode fiber.pc (instruction :: rest)) (after : Checks next rest)
    {changed : Fiber} (carries : changed.Carries next) (place : changed.pc = fiber.pc + 1)
    (wait : changed.wait = fiber.wait) : (work.putFiber fiber.id changed).Safe program table := by
  refine safe.putFiber ?_
  rw [Program.Suits, wait, ready]
  exact .ready (place ▸ stands.tail) after carries

/-- Computation on the stack keeps work safe. -/
theorem Safe.computes (safe : work.Safe program table)
    (found : work.fiber? fiber.id = some fiber) (ready : fiber.wait = .ready)
    (stands : program.HasCode fiber.pc (instruction :: rest)) (carries : fiber.Carries slots)
    (after : Checks next rest) {fiberWork : FiberWork Unit}
    (advances : Advances fiberWork slots next) :
    Achieves (onFiber fiber.id fiberWork) work (fun _ next => next.Safe program table) := by
  refine achieves_onFiber found ((advances fiber carries).mono ?_)
  rintro _ changed ⟨carries, place, wait⟩
  exact safe.goesOn ready stands after carries place wait

/-- A branch goes on where code is checked. -/
theorem Safe.branches (checked : program.Checked) (safe : work.Safe program table)
    (found : work.fiber? fiber.id = some fiber) (ready : fiber.wait = .ready)
    (stands : program.HasCode fiber.pc (instruction :: rest)) {slot : Slot}
    (carries : fiber.Carries [slot]) (after : Checks [] rest) {target : Address}
    (listed : target ∈ instruction.targets) (wanted : Bool) :
    Achieves (onFiber fiber.id (FiberWork.branch wanted target)) work
      (fun _ next => next.Safe program table) := by
  refine achieves_onFiber found ((achieves_branch carries wanted target).mono ?_)
  rintro _ changed ⟨carries, rfl | place, wait⟩
  · exact safe.putFiber (Program.suits_of_accepts (wait.trans ready) carries
      (checked.targets stands.mem _ listed))
  · exact safe.goesOn ready stands after carries place wait

/-- A fiber whose stack is empty may wait where it is. -/
theorem Safe.suspend (safe : work.Safe program table)
    (found : work.fiber? fiber.id = some fiber) {wait : Wait}
    (continues : program.Continues (work.incidentsOver table) fiber wait) :
    (work.suspend fiber wait).Safe program table := by
  refine safe.park (fun other found' => ?_)
  cases found.symm.trans found'
  exact continues.of_same rfl rfl rfl rfl

/-- A fiber that stops on purpose waits for an incident that is excused. -/
theorem Safe.stops (checked : program.Checked) (safe : work.Safe program table)
    {before : UnitOfWork} (resembles : work.Resembles fiber.id before)
    (empty : ∀ other, before.fiber? fiber.id = some other -> other.Carries [])
    (stands : program.HasCode fiber.pc (instruction :: rest)) {reason : RoutingFault}
    (refuses : instruction.refusal? = some reason) :
    (before.raise program.symbols fiber.id fiber.pc .noRoute
      (reason.message program.symbols)).Safe program table := by
  have excused : program.Excuses { Incident.raise ⟨before.supply.next⟩ before.record.id fiber.id
      fiber.pc .noRoute (reason.message program.symbols) before.time with
        node := program.symbols.nodeContaining? fiber.pc } :=
    ⟨by simp [Incident.raise], fun _ => ⟨rfl, checked.accepts_restart rfl⟩,
      fun _ => ⟨rfl, rfl, instruction, reason, stands.head, refuses, rfl⟩⟩
  have fresh : (⟨before.supply.next⟩ : IncidentId) = ⟨work.supply.next⟩ := by
    rw [resembles.supply]
  exact safe.halt resembles (congrArg ProcessInstance.id resembles.record) fresh excused empty
    (fun about => absurd rfl about)

/-- An instance that runs may be terminated. -/
theorem Safe.terminates (safe : work.Safe program table) (running : work.record.isRunning = true)
    (event : RuntimeEvent) :
    ∃ next, work.close .terminated event = .ok next ∧ next.Safe program table := by
  have changes : work.record.status.change .terminated = .ok () := by
    rw [eq_of_beq running]
    rfl
  have closes : ∃ next, work.close .terminated event = .ok next := by
    rw [UnitOfWork.close, changes]
    exact ⟨_, rfl⟩
  obtain ⟨next, closes⟩ := closes
  exact ⟨next, closes, safe.close closes⟩

/-- What is checked to go on at the next instruction does so, or begins to wait, or goes where it is
sent to. -/
theorem Safe.passes (checked : program.Checked) (safe : work.Safe program table)
    (shapely : work.Shapely) (found : work.fiber? fiber.id = some fiber)
    (ready : fiber.wait = .ready) (stands : program.HasCode fiber.pc (instruction :: rest))
    (carries : fiber.Carries slots) (passes : instruction.Passes slots next)
    (after : Checks next rest) :
    Achieves (execute program fiber instruction) work (fun _ next => next.Safe program table) := by
  have known := fun reference => checked.known stands.mem reference
  have accepts (nothing : next = []) : program.Accepts (fiber.pc + 1) :=
    ⟨rest, stands.tail, nothing ▸ after⟩
  cases passes with
  | push value =>
    rw [execute]
    exact safe.computes found ready stands carries after
      ((turns_push (Slot.holds_ofValue value)).advances (fun _ _ => advances_advance))
  | pop =>
    rw [execute]
    exact safe.computes found ready stands carries after
      (turns_pop.advances (fun _ _ => advances_advance))
  | loadFlag =>
    rw [execute]
    refine .bind (achieves_symbol (known _ List.mem_cons_self) (fun name => .bind (.get ?_)))
    exact safe.computes found ready stands carries after
      ((turns_push_any _).advances (fun _ _ => advances_advance))
  | @storeFlag slot =>
    rw [execute]
    refine .bind (achieves_symbol (known _ List.mem_cons_self) (fun name => .bind ?_))
    have advances : Advances (do let value <- pop; advance; return value) (slot :: next) next :=
      turns_pop.advances (fun value _ => advances_advance.answer value)
    refine achieves_onFiber found ((advances fiber carries).mono ?_)
    rintro value changed ⟨carries, place, wait⟩
    exact .modify ((safe.goesOn ready stands after carries place wait).updateRecord rfl rfl)
  | loadRegister free =>
    rw [execute]
    exact safe.computes found ready stands carries after ((turns_register free).advances
      (fun _ _ => (turns_push_any _).advances (fun _ _ => advances_advance)))
  | storeRegister free =>
    rw [execute]
    exact safe.computes found ready stands carries after (turns_pop.advances
      (fun value _ => (turns_setRegister free value).advances (fun _ _ => advances_advance)))
  | loadCounter =>
    rw [execute]
    refine .bind (achieves_symbol (known _ List.mem_cons_self) (fun name => .bind (.get ?_)))
    have holds (number : Int64) : Slot.number.Holds (.int number) := ⟨number, rfl⟩
    exact safe.computes found ready stands carries after
      ((turns_push (holds _)).advances (fun _ _ => advances_advance))
  | incrementCounter =>
    rw [execute]
    refine .bind (achieves_symbol (known _ List.mem_cons_self) (fun name => .bind ?_))
    refine achieves_onFiber found (.bind (.modify (.modify (.modify ?_))))
    have counted :
        Fiber.Carries { fiber with epoch := fiber.epoch + 1, pc := fiber.pc + 1 } slots :=
      ⟨carries.stack, carries.registers⟩
    exact ((safe.goesOn ready stands after counted rfl rfl).updateRecord rfl rfl).emit _
  | equal =>
    rw [execute]
    exact safe.computes found ready stands carries after (advances_binary _)
  | less =>
    rw [execute]
    exact safe.computes found ready stands carries after (turns_popNumber.advances (fun _ _ =>
      turns_popNumber.advances (fun _ _ => (turns_push_any _).advances
        (fun _ _ => advances_advance))))
  | negate =>
    rw [execute]
    exact safe.computes found ready stands carries after (turns_pop.advances (fun _ _ =>
      (turns_push_any _).advances (fun _ _ => advances_advance)))
  | conjoin =>
    rw [execute]
    exact safe.computes found ready stands carries after (advances_binary _)
  | disjoin =>
    rw [execute]
    exact safe.computes found ready stands carries after (advances_binary _)
  | branchIf =>
    rw [execute]
    exact safe.branches checked found ready stands carries after List.mem_cons_self true
  | branchIfNot =>
    rw [execute]
    exact safe.branches checked found ready stands carries after List.mem_cons_self false
  | dispatch =>
    rw [execute]
    refine .bind (achieves_symbol (known _ List.mem_cons_self) (fun name => .bind
      (achieves_node (known _ (List.mem_cons_of_mem _ List.mem_cons_self))
        (fun key _ => .modify ?_))))
    have noted (job : Job) : (work.dispatch job).Safe program table :=
      safe.of_same (Nat.le_refl _) rfl rfl rfl rfl safe.fibers
    exact (noted _).suspend found (.job carries (accepts rfl))
  | waitTimer =>
    rw [execute]
    have free : fiber.watch = none := WellFormed.unwatched shapely found (by simp [ready])
    refine .modify (safe.suspend found (.timer carries ?_))
    rw [free]
    exact accepts rfl
  | waitMessage free =>
    rw [execute]
    refine .bind (achieves_symbol (known _ List.mem_cons_self) (fun name => .bind (.get ?_)))
    obtain ⟨correlation, resolved⟩ := resolve_ok free carries work.record
    exact .bind (.lift resolved (.set (safe.suspend found (.message carries (accepts rfl)))))
  | waitHuman =>
    rw [execute]
    refine .bind (achieves_symbol (known _ List.mem_cons_self) (fun name => .modify ?_))
    exact safe.suspend found (.human carries (accepts rfl))
  | watch =>
    rw [execute]
    refine .bind (achieves_node (known _ List.mem_cons_self) (fun key _ => .modify ?_))
    refine safe.watchOver _ _ _ (WellFormed.ne_fresh shapely found) found
      (checked.targets stands.mem _ List.mem_cons_self) (fun watchdog => ?_)
    rw [Program.Suits, ready]
    exact .ready stands.tail after ⟨carries.stack, carries.registers⟩
  | unwatch =>
    rw [execute]
    refine .bind (achieves_onFiber found (.modify (.modify ?_)))
    have advanced : Fiber.Carries { fiber with pc := fiber.pc + 1 } slots :=
      ⟨carries.stack, carries.registers⟩
    exact (safe.goesOn ready stands after advanced rfl rfl).dropWatchdog fiber
  | join =>
    rw [execute]
    refine .bind (achieves_node (known _ List.mem_cons_self) (fun key _ => .bind (.get ?_)))
    obtain ⟨last, arrives, safe⟩ := safe.arriveAt found (fun tickets => by
      rw [Program.Suits, ready]
      exact .ready stands.tail after ⟨carries.stack, carries.registers⟩) key
    rw [arrives]
    exact .set safe

/-- Branches that are chosen are among those that control may be sent to. -/
theorem chosen_accepts {join gateway : Nat} {others : List Address} {fallback : Option Address}
    (targets : ∀ target ∈ (Instruction.forkInclusive join others fallback gateway).targets,
      program.Accepts target) (answers : List Bool) :
    ∀ target ∈ (if (((others.zip answers).filter Prod.snd).map Prod.fst).isEmpty then
      fallback.toList else ((others.zip answers).filter Prod.snd).map Prod.fst),
        program.Accepts target := by
  intro target listed
  refine targets target (List.mem_append.2 ?_)
  split at listed
  · exact .inr listed
  · exact .inl ((chosen_sublist others answers).subset listed)

/-- What is checked to leave goes where it is sent to, or ends or waits. -/
theorem Safe.leaves (checked : program.Checked) (safe : work.Safe program table)
    (running : work.record.isRunning = true) (found : work.fiber? fiber.id = some fiber)
    (ready : fiber.wait = .ready) (stands : program.HasCode fiber.pc (instruction :: rest))
    (carries : fiber.Carries slots) (leaves : instruction.Leaves slots) :
    Achieves (execute program fiber instruction) work (fun _ next => next.Safe program table) := by
  have known := fun reference => checked.known stands.mem reference
  have targets := checked.targets stands.mem
  cases leaves with
  | jump =>
    rw [execute]
    refine achieves_onFiber found (.modify (safe.putFiber ?_))
    exact Program.suits_of_accepts ready ⟨carries.stack, carries.registers⟩
      (targets _ List.mem_cons_self)
  | @race node arms free =>
    rw [execute]
    refine .bind (achieves_node (known _ List.mem_cons_self) (fun key _ => .bind ?_))
    have each : ∀ arm ∈ arms, Achieves (armWait program fiber arm) work (fun wait after =>
        after = work ∧ wait.target = arm.target) := by
      intro arm listed
      refine achieves_armWait (free arm listed) carries (fun name source is => ?_)
      refine known ⟨.message, name⟩
        (List.mem_cons_of_mem _ (List.mem_filterMap.2 ⟨arm, listed, ?_⟩))
      rw [is]
    refine (Achieves.mapM each).mono ?_
    rintro waits _ ⟨rfl, related⟩
    refine .modify (safe.suspend found (.race carries ?_))
    intro target listed
    refine targets target ?_
    obtain ⟨wait, among, rfl⟩ := List.mem_map.1 listed
    have leads : ∀ wait ∈ waits, wait.target ∈ arms.map ArmCode.target :=
      References.forall_of_forall₂ related (fun arm listed wait same =>
        same ▸ List.mem_map_of_mem listed)
    exact leads wait among
  | fork branches =>
    rw [execute]
    split
    · rename_i none
      exact absurd (List.isEmpty_iff.1 none) branches
    · refine .bind (achieves_node (known _ List.mem_cons_self) (fun key named => .modify ?_))
      exact safe.fork (.refl work fiber.id) ⟨_, stands.mem, _, rfl, named⟩ branches targets
  | @forkInclusive _ join others fallback gateway choices =>
    rw [execute]
    have popped := turns_popChoices fiber carries
    rw [choices] at popped
    refine .bind (achieves_onFiber found (popped.mono ?_))
    rintro answers changed ⟨empty, -⟩
    have resembles := resembles_putFiber work fiber.id changed
    have accepts := chosen_accepts targets answers
    have stays : (if ((others.zip answers).filter Prod.snd |>.map Prod.fst).isEmpty = true then
        fallback.toList else ((others.zip answers).filter Prod.snd).map Prod.fst).isEmpty = true ->
        fallback = none := by
      intro nothing
      split at nothing
      · simpa using nothing
      · contradiction
    dsimp only
    generalize (if ((others.zip answers).filter Prod.snd |>.map Prod.fst).isEmpty = true then
      fallback.toList else ((others.zip answers).filter Prod.snd).map Prod.fst) = selected
      at accepts stays ⊢
    split
    · rename_i nothing
      refine .modify (safe.stops checked resembles (fun other there => ?_) stands ?_)
      · rw [fiber?_putFiber, if_pos rfl] at there
        cases there
        exact empty
      · rw [stays nothing]
        rfl
    · rename_i some
      refine .bind (achieves_node (known _ List.mem_cons_self) (fun key named => .modify ?_))
      exact safe.fork resembles ⟨_, stands.mem, _, rfl, named⟩ (by simpa using some) accepts
  | finish =>
    rw [execute]
    exact .modify (safe.retire fiber.id).completeIfIdle
  | terminate =>
    rw [execute]
    obtain ⟨last, closes, safe⟩ := safe.terminates running
      (.instanceTerminated (program.symbols.nodeContaining? fiber.pc))
    refine .bind (.get ?_)
    rw [closes]
    exact .set safe
  | fault =>
    rw [execute]
    refine .modify (safe.stops checked (.refl work fiber.id) (fun other found' => ?_) stands rfl)
    cases found.symm.trans found'
    exact carries

/-- The instruction that a fiber has reached can be executed. -/
theorem Safe.executes (checked : program.Checked) (safe : work.Safe program table)
    (shapely : work.Shapely) (running : work.record.isRunning = true)
    (found : work.fiber? fiber.id = some fiber) (ready : fiber.wait = .ready) :
    Achieves (step program fiber.id) work (fun _ next => next.Safe program table) := by
  have suits := safe.fibers found
  rw [Program.Suits, ready] at suits
  cases suits with
  | ready stands checks carries =>
    refine .bind (.get ?_)
    rw [found]
    cases checks with
    | passes passes after =>
      dsimp only
      rw [stands.head]
      exact safe.passes checked shapely found ready stands carries passes after
    | leaves leaves =>
      dsimp only
      rw [stands.head]
      exact safe.leaves checked running found ready stands carries leaves

/-! ## Runs -/

/-- No turn of a run fails, however many are taken. -/
def NeverFaults (program : Program) (work : UnitOfWork) : Prop :=
  ∀ steps id, (takeTurns program steps 0 work).2.nextFiber? = some id ->
    (outcome (step program id) (takeTurns program steps 0 work).2).1 = .ok ()

/-- A turn succeeds and keeps work safe. -/
theorem Safe.turn (checked : program.Checked) (safe : work.Safe program table)
    (shapely : work.Shapely) {id : FiberId} (next : work.nextFiber? = some id) :
    (outcome (step program id) work).1 = .ok () ∧
      (UnitOfWork.turn program id work).Safe program table := by
  obtain ⟨running, fiber, rfl, found, ready⟩ := nextFiber_some shapely next
  obtain ⟨_, after, succeeds, safe⟩ := safe.executes checked shapely running found ready
  refine ⟨congrArg Prod.fst succeeds, ?_⟩
  rw [UnitOfWork.turn, play_eq, succeeds]
  exact safe

/-- However many turns are taken, work stays safe. -/
theorem Safe.takes (checked : program.Checked) (safe : work.Safe program table)
    (shapely : work.Shapely) (remaining taken : Nat) :
    (takeTurns program remaining taken work).2.Safe program table := by
  induction remaining generalizing work taken with
  | zero => exact safe
  | succ remaining ih =>
    rw [takeTurns_succ program shapely]
    cases next : work.nextFiber? with
    | none => exact safe
    | some id =>
      obtain ⟨running, fiber, rfl, found, ready⟩ := nextFiber_some shapely next
      exact ih (safe.turn checked shapely next).2
        (shapely.turned found ready (turn_cases program found rfl)) _

theorem Safe.neverFaults (checked : program.Checked) (safe : work.Safe program table)
    (shapely : work.Shapely) : NeverFaults program work := by
  intro steps id next
  exact ((safe.takes checked shapely steps 0).turn checked
    ((ran_takeTurns shapely steps 0).shapely shapely) next).1

end UnitOfWork

end ProcessEngine
