import ProcessEngine.Machine.Run
import ProcessEngine.Proofs.Outcomes

/-!
# What a turn does

A fiber that takes a turn computes, begins to wait, changes the fibers of its instance, ends
or is halted. `UnitOfWork.turn_cases` lists these effects with the instructions that have
them, so that a property of turns is proved by one case for each effect.
-/

namespace ProcessEngine

/-! ## Computation on one fiber -/

namespace Fiber

/-- Only values of the fiber differ. -/
def Rearranges (fiber changed : Fiber) : Prop :=
  ∃ stack registers, changed = { fiber with stack := stack, registers := registers }

/-- Only values, address and epoch of the fiber differ, and its epoch has not fallen. -/
structure Computes (fiber changed : Fiber) : Prop where
  id : changed.id = fiber.id
  owner : changed.owner = fiber.owner
  sequence : changed.sequence = fiber.sequence
  wait : changed.wait = fiber.wait
  tickets : changed.tickets = fiber.tickets
  watchdog : changed.watchdog = fiber.watchdog
  watch : changed.watch = fiber.watch
  epoch : fiber.epoch ≤ changed.epoch

theorem Rearranges.refl (fiber : Fiber) : fiber.Rearranges fiber := ⟨_, _, rfl⟩

theorem Rearranges.trans (first middle last : Fiber) (earlier : first.Rearranges middle)
    (later : middle.Rearranges last) : first.Rearranges last := by
  obtain ⟨_, _, rfl⟩ := earlier
  obtain ⟨stack, registers, rfl⟩ := later
  exact ⟨stack, registers, rfl⟩

theorem Computes.refl (fiber : Fiber) : fiber.Computes fiber :=
  ⟨rfl, rfl, rfl, rfl, rfl, rfl, rfl, Nat.le_refl _⟩

/-- Rearranging values before a computation is part of the computation. -/
theorem Rearranges.computes {first middle last : Fiber} (earlier : first.Rearranges middle)
    (later : middle.Computes last) : first.Computes last := by
  obtain ⟨_, _, rfl⟩ := earlier
  exact ⟨later.id, later.owner, later.sequence, later.wait, later.tickets, later.watchdog,
    later.watch, later.epoch⟩

end Fiber

namespace FiberWork

open Fiber

variable {α β : Type}

theorem moves_push (value : Value) : Moves Rearranges (push value) :=
  fun _ => ⟨_, _, rfl⟩

theorem moves_pop : Moves Rearranges pop := by
  intro fiber
  rw [pop, outcome_bind_ok (outcome_get fiber)]
  split
  · exact .refl fiber
  · exact ⟨_, _, rfl⟩

theorem moves_popNumber : Moves Rearranges popNumber := by
  apply Moves.bind Rearranges.trans moves_pop
  intro value
  split
  · exact Moves.pure Rearranges.refl _
  · exact fun fiber => .refl fiber

theorem moves_popChoices (count : Nat) : Moves Rearranges (popChoices count) := by
  rw [popChoices]
  generalize List.range count = places
  generalize ([] : List Bool) = choices
  induction places generalizing choices with
  | nil => exact Moves.pure Rearranges.refl _
  | cons head rest ih =>
    rw [List.foldlM_cons]
    refine Moves.bind Rearranges.trans ?_ (fun _ => ih _)
    exact Moves.bind Rearranges.trans moves_pop
      (fun _ => Moves.pure Rearranges.refl _)

theorem moves_register (index : Nat) : Moves Rearranges (register index) := by
  intro fiber
  rw [register, outcome_bind_ok (outcome_get fiber)]
  split
  · exact .refl fiber
  · exact .refl fiber

theorem moves_setRegister (index : Nat) (value : Value) :
    Moves Rearranges (setRegister index value) := by
  intro fiber
  rw [setRegister, outcome_bind_ok (outcome_get fiber)]
  split
  · exact ⟨_, _, rfl⟩
  · exact .refl fiber

/-- What work that only computes comes to: it goes on at one of the given addresses, or fails
where it is. -/
inductive Lands (fiber : Fiber) (next : List Address) : Except MachineError α × Fiber -> Prop where
  | ahead {value changed} (computes : fiber.Computes changed) (lands : changed.pc ∈ next) :
    Lands fiber next (.ok value, changed)
  | failed {error changed} (computes : fiber.Computes changed) (stays : changed.pc = fiber.pc) :
    Lands fiber next (.error error, changed)

/-- Work that only computes. -/
def Computation (work : FiberWork α) (next : Address -> List Address) : Prop :=
  ∀ fiber, Lands fiber (next fiber.pc) (outcome work fiber)

theorem computation_advance : Computation advance (fun pc => [pc + 1]) :=
  fun _ => .ahead ⟨rfl, rfl, rfl, rfl, rfl, rfl, rfl, Nat.le_refl _⟩ (List.mem_singleton.2 rfl)

theorem computation_jump (target : Address) : Computation (jump target) (fun _ => [target]) :=
  fun _ => .ahead ⟨rfl, rfl, rfl, rfl, rfl, rfl, rfl, Nat.le_refl _⟩ (List.mem_singleton.2 rfl)

/-- Values may be rearranged before a computation goes on. -/
theorem Computation.after {first : FiberWork α} {second : α -> FiberWork β}
    {next : Address -> List Address} (moves : Moves Rearranges first)
    (computes : ∀ value, Computation (second value) next) :
    Computation (first >>= second) next := by
  intro fiber
  have begun := moves fiber
  rw [outcome_bind]
  rcases found : outcome first fiber with ⟨result, after⟩
  rw [found] at begun
  have same : after.pc = fiber.pc := by
    obtain ⟨_, _, rfl⟩ := begun
    rfl
  cases result with
  | error error => exact .failed (begun.computes (.refl after)) same
  | ok value =>
    have goes := computes value after
    rw [same] at goes
    dsimp only
    generalize outcome (second value) after = reached at goes ⊢
    cases goes with
    | ahead computes lands => exact .ahead (begun.computes computes) lands
    | failed computes stays => exact .failed (begun.computes computes) (stays.trans same)

/-- A computation may answer with a value that was found before. -/
theorem Computation.answer {first : FiberWork α} {next : Address -> List Address}
    (computes : Computation first next) (value : β) :
    Computation (do let _ <- first; return value) next := by
  intro fiber
  have goes := computes fiber
  rw [outcome_bind]
  generalize outcome first fiber = reached at goes ⊢
  cases goes with
  | ahead computes lands => exact .ahead computes lands
  | failed computes stays => exact .failed computes stays

theorem computation_branch (wanted : Bool) (target : Address) :
    Computation (branch wanted target) (fun pc => [target, pc + 1]) := by
  refine .after moves_pop (fun value fiber => ?_)
  split
  · cases computation_jump target fiber with
    | ahead computes lands => exact .ahead computes (by simp_all)
  · cases computation_advance fiber with
    | ahead computes lands => exact .ahead computes (by simp_all)

end FiberWork

/-! ## Effects of a turn -/

/-- Where a fiber may go on after an instruction without having waited. -/
def Instruction.onward (pc : Address) : Instruction Address -> List Address
  | .jump target => [target]
  | .branchIf target => [target, pc + 1]
  | .branchIfNot target => [target, pc + 1]
  | .dispatch _ _ _ _ => []
  | .waitTimer _ => []
  | .waitMessage _ _ => []
  | .waitHuman _ => []
  | .race _ _ => []
  | .fork _ _ => []
  | .forkInclusive _ _ _ _ => []
  | .finish => []
  | .terminate => []
  | .fault _ => []
  | _ => [pc + 1]

namespace UnitOfWork

/-- The unit of work as an instruction that has not finished leaves it: as it was, or with
values of the fiber rearranged. -/
inductive Prepared (work : UnitOfWork) (fiber : Fiber) : UnitOfWork -> Prop where
  | same : Prepared work fiber work
  | changed {changed : Fiber} (computes : fiber.Computes changed) (stays : changed.pc = fiber.pc) :
    Prepared work fiber (work.putFiber fiber.id changed)

/-- What a turn of a fiber makes of a unit of work. -/
inductive Turned (program : Program) (fiber : Fiber) (work : UnitOfWork) : UnitOfWork -> Prop where
  | compute {instruction changed} (reached : program.instruction? fiber.pc = some instruction)
      (computes : fiber.Computes changed) (lands : changed.pc ∈ instruction.onward fiber.pc) :
    Turned program fiber work (work.putFiber fiber.id changed)
  | storeFlag {flag changed name value}
      (reached : program.instruction? fiber.pc = some (.storeFlag flag))
      (computes : fiber.Computes changed) (lands : changed.pc = fiber.pc + 1) :
    Turned program fiber work ((work.putFiber fiber.id changed).updateRecord (fun record =>
      { record with flags := record.flags.insert name value }))
  | count {counter changed name value}
      (reached : program.instruction? fiber.pc = some (.incrementCounter counter))
      (computes : fiber.Computes changed) (lands : changed.pc = fiber.pc + 1) :
    Turned program fiber work (((work.putFiber fiber.id changed).updateRecord (fun record =>
      { record with counters := record.counters.insert name value })).emit
        (.counterIncremented name value))
  | handOut {taskType node retries routes key name}
      (reached : program.instruction? fiber.pc = some (.dispatch taskType node retries routes))
      (named : program.symbols.node? node = some key) :
    Turned program fiber work
      (work.handOut fiber (.first work.record fiber key name retries work.time))
  | sleep {duration} (reached : program.instruction? fiber.pc = some (.waitTimer duration)) :
    Turned program fiber work (work.suspend fiber (.timer (work.time.after duration)))
  | listen {message source name correlation}
      (reached : program.instruction? fiber.pc = some (.waitMessage message source)) :
    Turned program fiber work (work.suspend fiber (.message name correlation))
  | consult {task name} (reached : program.instruction? fiber.pc = some (.waitHuman task)) :
    Turned program fiber work (work.suspend fiber (.human name))
  | race {node arms key} {waits : List ArmWait}
      (reached : program.instruction? fiber.pc = some (.race node arms))
      (leads : waits.map ArmWait.target = arms.map ArmCode.target) :
    Turned program fiber work (work.suspend fiber (.race key waits))
  | watch {boundary duration interrupting target key}
      (reached : program.instruction? fiber.pc =
        some (.watch boundary duration interrupting target)) :
    Turned program fiber work (work.watchOver fiber key duration interrupting target)
  | unwatch {boundary changed} (reached : program.instruction? fiber.pc = some (.unwatch boundary))
      (computes : fiber.Computes changed) (lands : changed.pc = fiber.pc + 1) :
    Turned program fiber work ((work.putFiber fiber.id changed).dropWatchdog fiber)
  | fork {join targets key} (reached : program.instruction? fiber.pc = some (.fork join targets))
      (named : program.symbols.node? join = some key) (branches : targets ≠ []) :
    Turned program fiber work (work.fork fiber key targets)
  | forkInclusive {join targets fallback gateway key selected before}
      (reached : program.instruction? fiber.pc =
        some (.forkInclusive join targets fallback gateway))
      (named : program.symbols.node? join = some key) (branches : selected ≠ [])
      (chosen : selected.Sublist targets ∨ selected = fallback.toList)
      (prepared : work.Prepared fiber before) :
    Turned program fiber work (before.fork fiber key selected)
  | join {node key next} (reached : program.instruction? fiber.pc = some (.join node))
      (named : program.symbols.node? node = some key)
      (arrives : work.arriveAt fiber key = .ok next) : Turned program fiber work next
  | finish (reached : program.instruction? fiber.pc = some .finish) :
    Turned program fiber work (work.retire fiber.id).completeIfIdle
  | terminate {node next} (reached : program.instruction? fiber.pc = some .terminate)
      (closes : work.close .terminated (.instanceTerminated node) = .ok next) :
    Turned program fiber work next
  /-- The instruction cannot be executed, or is there to stop the fiber. -/
  | halt {kind message before} (prepared : work.Prepared fiber before)
      (cause : kind = .machineFault ∨ kind = .noRoute) :
    Turned program fiber work (before.raise program.symbols fiber.id fiber.pc kind message)

end UnitOfWork

/-! ## Every instruction has one of these effects -/

namespace Execution

open UnitOfWork FiberWork

variable {program : Program} {fiber : Fiber} {work : UnitOfWork} {α : Type}

/-- What executing an instruction comes to. -/
inductive Executed (program : Program) (fiber : Fiber) (work : UnitOfWork) :
    Except MachineError Unit × UnitOfWork -> Prop where
  | done {after} (turned : Turned program fiber work after) :
    Executed program fiber work (.ok (), after)
  | failed {error after} (prepared : work.Prepared fiber after) :
    Executed program fiber work (.error error, after)

/-- Work on a fiber that exists replaces that fiber. -/
theorem outcome_onFiber (found : work.fiber? fiber.id = some fiber) (fiberWork : FiberWork α) :
    outcome (onFiber fiber.id fiberWork) work =
      ((outcome fiberWork fiber).1, work.putFiber fiber.id (outcome fiberWork fiber).2) := by
  rw [onFiber, outcome_bind_ok (outcome_getThe work), found]
  change outcome (do set _; liftExcept _) work = _
  rw [outcome_bind_ok (outcome_set _ work), outcome_liftExcept]
  rfl

/-- A name that is missing stops the instruction before it does anything. -/
theorem executed_symbol {reference : SymbolReference} {next : String -> Execution Unit}
    (goes : ∀ name, Executed program fiber work (outcome (next name) work)) :
    Executed program fiber work (outcome (symbol program reference >>= next) work) := by
  rw [outcome_bind, symbol]
  cases program.symbols.name? reference with
  | some name => exact goes name
  | none => exact .failed .same

theorem executed_node {index : Nat} {next : NodeKey -> Execution Unit}
    (goes : ∀ key, program.symbols.node? index = some key ->
      Executed program fiber work (outcome (next key) work)) :
    Executed program fiber work (outcome (node program index >>= next) work) := by
  rw [outcome_bind, node]
  cases named : program.symbols.node? index with
  | some key => exact goes key named
  | none => exact .failed .same

/-- A computation leads where its instruction may go on. -/
theorem executed_computation {instruction : Instruction Address}
    (found : work.fiber? fiber.id = some fiber)
    (reached : program.instruction? fiber.pc = some instruction) {fiberWork : FiberWork Unit}
    {next : Address -> List Address} (computes : Computation fiberWork next)
    (onward : next fiber.pc = instruction.onward fiber.pc) :
    Executed program fiber work (outcome (onFiber fiber.id fiberWork) work) := by
  have goes := computes fiber
  rw [onward] at goes
  rw [outcome_onFiber found]
  generalize outcome fiberWork fiber = result at goes ⊢
  cases goes with
  | ahead computes lands => exact .done (.compute reached computes lands)
  | failed computes stays => exact .failed (.changed computes stays)

/-- A computation that goes on at the next instruction may be followed by more work. -/
theorem executed_advance {fiberWork : FiberWork α} {second : α -> Execution Unit}
    (found : work.fiber? fiber.id = some fiber)
    (computes : Computation fiberWork (fun pc => [pc + 1]))
    (goes : ∀ value changed, fiber.Computes changed -> changed.pc = fiber.pc + 1 ->
      Executed program fiber work (outcome (second value) (work.putFiber fiber.id changed))) :
    Executed program fiber work (outcome (onFiber fiber.id fiberWork >>= second) work) := by
  have lands := computes fiber
  rw [outcome_bind, outcome_onFiber found]
  generalize outcome fiberWork fiber = result at lands ⊢
  cases lands with
  | ahead computes lands => exact goes _ _ computes (List.mem_singleton.1 lands)
  | failed computes stays => exact .failed (.changed computes stays)

/-- Waits for the arms of a race lead where the arms lead. -/
theorem armWait_leads (arm : ArmCode Address) :
    ∃ result, outcome (armWait program fiber arm) work = (result, work) ∧
      ∀ wait, result = .ok wait -> wait.target = arm.target := by
  rw [armWait, outcome_bind_ok (outcome_getThe work)]
  cases arm.trigger with
  | timer duration =>
    refine ⟨_, rfl, ?_⟩
    rintro _ ⟨⟩
    rfl
  | message name correlation =>
    dsimp only
    rw [outcome_bind, symbol]
    cases program.symbols.name? ⟨.message, name⟩ with
    | none => exact ⟨_, rfl, by rintro _ ⟨⟩⟩
    | some name =>
      dsimp only [outcome_pure]
      rw [outcome_bind, outcome_liftExcept]
      cases correlation.resolve work.record fiber with
      | error error => exact ⟨_, rfl, by rintro _ ⟨⟩⟩
      | ok correlation =>
        refine ⟨_, rfl, ?_⟩
        rintro _ ⟨⟩
        rfl

theorem armWaits_lead (arms : List (ArmCode Address)) :
    ∃ result, outcome (arms.mapM (armWait program fiber)) work = (result, work) ∧
      ∀ waits, result = .ok waits -> waits.map ArmWait.target = arms.map ArmCode.target := by
  induction arms with
  | nil =>
    refine ⟨_, rfl, ?_⟩
    rintro _ ⟨⟩
    rfl
  | cons arm rest ih =>
    obtain ⟨first, begun, leads⟩ := @armWait_leads program fiber work arm
    obtain ⟨second, goes, lead⟩ := ih
    rw [List.mapM_cons, outcome_bind, begun]
    cases first with
    | error error => exact ⟨_, rfl, by rintro _ ⟨⟩⟩
    | ok wait =>
      dsimp only
      rw [outcome_bind, goes]
      cases second with
      | error error => exact ⟨_, rfl, by rintro _ ⟨⟩⟩
      | ok waits =>
        refine ⟨_, rfl, ?_⟩
        rintro _ ⟨⟩
        rw [List.map_cons, List.map_cons, leads wait rfl, lead waits rfl]

/-- A binary operation pops its operands first. -/
theorem computation_binary (operation : Value -> Value -> Value) :
    Computation (do
      let right <- pop
      let left <- pop
      push (operation left right)
      advance) (fun pc => [pc + 1]) :=
  .after moves_pop (fun _ => .after moves_pop (fun _ => .after (moves_push _) (fun _ =>
    computation_advance)))

/-- The branches whose conditions hold are some of the branches, in their order. -/
theorem chosen_sublist (targets : List Address) (choices : List Bool) :
    (((targets.zip choices).filter Prod.snd).map Prod.fst).Sublist targets := by
  induction targets generalizing choices with
  | nil => exact .slnil
  | cons target rest ih =>
    cases choices with
    | nil => exact List.nil_sublist _
    | cons choice choices =>
      cases choice with
      | true => exact (ih choices).cons_cons target
      | false => exact (ih choices).cons target

/-- A fiber that exists and reaches an instruction has one of the effects of turns. -/
theorem executed_execute {instruction : Instruction Address}
    (found : work.fiber? fiber.id = some fiber)
    (reached : program.instruction? fiber.pc = some instruction) :
    Executed program fiber work (outcome (execute program fiber instruction) work) := by
  cases instruction with
  | push value =>
    rw [execute]
    exact executed_computation found reached
      (.after (moves_push value) (fun _ => computation_advance)) rfl
  | pop =>
    rw [execute]
    exact executed_computation found reached
      (.after moves_pop (fun _ => computation_advance)) rfl
  | loadFlag flag =>
    rw [execute]
    refine executed_symbol (fun name => ?_)
    rw [outcome_bind_ok (outcome_getThe work)]
    exact executed_computation found reached
      (.after (moves_push _) (fun _ => computation_advance)) rfl
  | storeFlag flag =>
    rw [execute]
    refine executed_symbol (fun name => executed_advance found
      (.after moves_pop (fun value => computation_advance.answer value))
      (fun value changed computes lands => .done (.storeFlag reached computes lands)))
  | loadRegister index =>
    rw [execute]
    exact executed_computation found reached (.after (moves_register index) (fun value =>
      .after (moves_push value) (fun _ => computation_advance))) rfl
  | storeRegister index =>
    rw [execute]
    exact executed_computation found reached (.after moves_pop (fun value =>
      .after (moves_setRegister index value) (fun _ => computation_advance))) rfl
  | loadCounter counter =>
    rw [execute]
    refine executed_symbol (fun name => ?_)
    rw [outcome_bind_ok (outcome_getThe work)]
    exact executed_computation found reached
      (.after (moves_push _) (fun _ => computation_advance)) rfl
  | incrementCounter counter =>
    rw [execute]
    refine executed_symbol (fun name => executed_advance found ?_
      (fun value changed computes lands => .done (.count reached computes lands)))
    exact fun fiber => .ahead ⟨rfl, rfl, rfl, rfl, rfl, rfl, rfl, Nat.le_succ _⟩
      (List.mem_singleton.2 rfl)
  | equal =>
    rw [execute]
    exact executed_computation found reached (computation_binary _) rfl
  | less =>
    rw [execute]
    exact executed_computation found reached (.after moves_popNumber (fun _ =>
      .after moves_popNumber (fun _ => .after (moves_push _) (fun _ => computation_advance)))) rfl
  | negate =>
    rw [execute]
    exact executed_computation found reached (.after moves_pop (fun _ =>
      .after (moves_push _) (fun _ => computation_advance))) rfl
  | conjoin =>
    rw [execute]
    exact executed_computation found reached (computation_binary _) rfl
  | disjoin =>
    rw [execute]
    exact executed_computation found reached (computation_binary _) rfl
  | jump target =>
    rw [execute]
    exact executed_computation found reached (computation_jump target) rfl
  | branchIf target =>
    rw [execute]
    exact executed_computation found reached (computation_branch true target) rfl
  | branchIfNot target =>
    rw [execute]
    exact executed_computation found reached (computation_branch false target) rfl
  | dispatch taskType node retries routes =>
    rw [execute]
    exact executed_symbol (fun name => executed_node (fun key named =>
      .done (.handOut reached named)))
  | waitTimer duration =>
    rw [execute]
    exact .done (.sleep reached)
  | waitMessage name correlation =>
    rw [execute]
    refine executed_symbol (fun name => ?_)
    rw [outcome_bind_ok (outcome_getThe work), outcome_bind, outcome_liftExcept]
    cases correlation.resolve work.record fiber with
    | error error => exact .failed .same
    | ok correlation => exact .done (.listen reached)
  | waitHuman task =>
    rw [execute]
    exact executed_symbol (fun name => .done (.consult reached))
  | race node arms =>
    rw [execute]
    refine executed_node (fun key named => ?_)
    obtain ⟨result, goes, lead⟩ := @armWaits_lead program fiber work arms
    rw [outcome_bind, goes]
    cases result with
    | error error => exact .failed .same
    | ok waits => exact .done (.race reached (lead waits rfl))
  | watch boundary duration interrupting target =>
    rw [execute]
    exact executed_node (fun key named => .done (.watch reached))
  | unwatch boundary =>
    rw [execute]
    exact executed_advance found computation_advance
      (fun value changed computes lands => .done (.unwatch reached computes lands))
  | fork join targets =>
    rw [execute]
    split
    · exact .failed .same
    · rename_i branches
      exact executed_node (fun key named => .done (.fork reached named (by simpa using branches)))
  | forkInclusive join targets fallback gateway =>
    rw [execute, outcome_bind, outcome_onFiber found]
    have begun := moves_popChoices targets.length fiber
    have same : (outcome (popChoices targets.length) fiber).2.pc = fiber.pc := by
      obtain ⟨_, _, equal⟩ := begun
      rw [equal]
    have prepared : work.Prepared fiber
        (work.putFiber fiber.id (outcome (popChoices targets.length) fiber).2) :=
      .changed (begun.computes (.refl _)) same
    generalize (outcome (popChoices targets.length) fiber).2 = changed at prepared
    cases (outcome (popChoices targets.length) fiber).1 with
    | error error => exact .failed prepared
    | ok choices =>
      dsimp only
      have part := chosen_sublist targets choices
      generalize ((targets.zip choices).filter Prod.snd).map Prod.fst = chosen at part ⊢
      have selected : (if chosen.isEmpty then fallback.toList else chosen).Sublist targets ∨
          (if chosen.isEmpty then fallback.toList else chosen) = fallback.toList := by
        split
        · exact .inr rfl
        · exact .inl part
      generalize (if chosen.isEmpty then fallback.toList else chosen) = selection at selected ⊢
      split
      · exact .done (.halt prepared (.inr rfl))
      · rename_i branches
        rw [outcome_bind, node]
        cases named : program.symbols.node? join with
        | none => exact .failed prepared
        | some key =>
          exact .done (.forkInclusive reached named (by simpa using branches) selected prepared)
  | join node =>
    rw [execute]
    refine executed_node (fun key named => ?_)
    rw [outcome_bind_ok (outcome_getThe work)]
    cases arrives : work.arriveAt fiber key with
    | error error => exact .failed .same
    | ok next => exact .done (.join reached named arrives)
  | finish =>
    rw [execute]
    exact .done (.finish reached)
  | terminate =>
    rw [execute, outcome_bind_ok (outcome_getThe work)]
    cases closes : work.close .terminated
        (.instanceTerminated (program.symbols.nodeContaining? fiber.pc)) with
    | error error => exact .failed .same
    | ok next => exact .done (.terminate reached closes)
  | fault reason =>
    rw [execute]
    exact .done (.halt .same (.inr rfl))

end Execution

namespace UnitOfWork

/-- A turn executes an instruction; if that fails, its fiber is halted. -/
theorem play_eq (program : Program) (id : FiberId) (work : UnitOfWork) :
    play program id work = match outcome (Execution.step program id) work with
      | (.ok (), after) => (if keepsTurn program id work then some id else none, after)
      | (.error error, after) => (none, after.raise program.symbols id
        ((after.fiber? id).elim 0 Fiber.pc) .machineFault error.message) := rfl

/-- A turn of a fiber has one of the effects above. -/
theorem turn_cases {work : UnitOfWork} {id : FiberId} {fiber : Fiber} (program : Program)
    (found : work.fiber? id = some fiber) (named : fiber.id = id) :
    Turned program fiber work (turn program id work) := by
  subst named
  have executed : Execution.Executed program fiber work
      (outcome (Execution.step program fiber.id) work) := by
    rw [Execution.step, outcome_bind_ok (outcome_getThe work), found]
    dsimp only
    cases reached : program.instruction? fiber.pc with
    | none => exact .failed .same
    | some instruction => exact Execution.executed_execute found reached
  rw [turn, play_eq]
  generalize outcome (Execution.step program fiber.id) work = result at executed ⊢
  cases executed with
  | done turned => exact turned
  | failed prepared =>
    have same : ∀ after, work.Prepared fiber after ->
        (after.fiber? fiber.id).elim 0 Fiber.pc = fiber.pc := by
      rintro after (_ | ⟨computes, stays⟩)
      · rw [found]
        rfl
      · rw [fiber?, InstanceState.fiber?, putFiber, OrderedMap.get?_insert_self]
        exact stays
    dsimp only
    rw [same _ prepared]
    exact .halt prepared (.inl rfl)

end UnitOfWork

end ProcessEngine
