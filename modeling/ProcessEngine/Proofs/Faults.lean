import ProcessEngine.Proofs.FiberEffects
import ProcessEngine.Proofs.ProgramParts

/-!
# How instructions fail

An instruction looks up its names, and takes its operands from the stack, before it does anything
else. So where it fails it has done nothing but take values from the stack of its fiber, and it
fails for one of a few reasons: `UnitOfWork.Faulted` lists them, and each failure of a step is one
of them (`Execution.faulted_step`). This is the counterpart of `UnitOfWork.Turned`, which lists what
instructions do that can be executed.

Where an instruction cannot be executed, only its fiber is concerned: it is halted on a new incident
that says at which address and why, and it may lack values that the instruction had taken from its
stack. The rest of the instance is as it was before the instruction (`UnitOfWork.Contained`). A run
goes on with the other fibers, and it never fails itself (`UnitOfWork.run_contains_faults`). Nothing
is assumed of the instructions or of the symbol table.
-/

namespace ProcessEngine

/-- An instruction found neither the values nor the register that it needs. -/
def MachineError.concernsValues : MachineError -> Bool
  | .stackUnderflow _ => true
  | .typeMismatch _ _ => true
  | .registerOutOfRange _ _ => true
  | _ => false

/-! ## Failures of work on one fiber -/

namespace Fiber

/-- Only values from the top of the stack are missing. -/
def Spends (fiber changed : Fiber) : Prop :=
  ∃ left, left <:+ fiber.stack ∧ changed = { fiber with stack := left }

theorem Spends.refl (fiber : Fiber) : fiber.Spends fiber := ⟨_, List.suffix_refl _, rfl⟩

theorem Spends.trans (first middle last : Fiber) (earlier : first.Spends middle)
    (later : middle.Spends last) : first.Spends last := by
  obtain ⟨_, part, rfl⟩ := earlier
  obtain ⟨left, part', rfl⟩ := later
  exact ⟨left, part'.trans part, rfl⟩

end Fiber

namespace FiberWork

open Fiber

variable {α β : Type}

/-- Work that does nothing but take values from the stack, and fails only for want of values. -/
structure Drains (work : FiberWork α) : Prop where
  spends : Moves Spends work
  wants : ∀ fiber error changed, outcome work fiber = (.error error, changed) ->
    error.concernsValues = true

/-- Work that has only taken values from the stack where it fails, and fails only for want of
values. -/
def Careful (work : FiberWork α) : Prop :=
  ∀ fiber error changed, outcome work fiber = (.error error, changed) ->
    fiber.Spends changed ∧ error.concernsValues = true

/-- Work that never fails. -/
def Sure (work : FiberWork α) : Prop :=
  ∀ fiber, ∃ value changed, outcome work fiber = (.ok value, changed)

theorem Drains.pure (value : α) : Drains (pure value : FiberWork α) :=
  ⟨.pure Spends.refl value, by rintro _ _ _ ⟨⟩⟩

theorem Drains.bind {first : FiberWork α} {next : α -> FiberWork β} (drains : Drains first)
    (drains' : ∀ value, Drains (next value)) : Drains (first >>= next) := by
  refine ⟨.bind Spends.trans drains.spends (fun value => (drains' value).spends), ?_⟩
  intro fiber error changed fails
  rw [outcome_bind] at fails
  rcases found : outcome first fiber with ⟨result, after⟩
  rw [found] at fails
  cases result with
  | ok value => exact (drains' value).wants after error changed fails
  | error error' =>
    cases fails
    exact drains.wants fiber error changed found

theorem Drains.careful {work : FiberWork α} (drains : Drains work) : Careful work := by
  intro fiber error changed fails
  have spends := drains.spends fiber
  rw [fails] at spends
  exact ⟨spends, drains.wants fiber error changed fails⟩

theorem Sure.bind {first : FiberWork α} {next : α -> FiberWork β} (sure : Sure first)
    (sure' : ∀ value, Sure (next value)) : Sure (first >>= next) := by
  intro fiber
  obtain ⟨value, after, succeeds⟩ := sure fiber
  rw [outcome_bind_ok succeeds]
  exact sure' value after

theorem Sure.careful {work : FiberWork α} (sure : Sure work) : Careful work := by
  intro fiber error changed fails
  obtain ⟨value, after, succeeds⟩ := sure fiber
  cases succeeds.symm.trans fails

/-- Values may be taken from the stack before careful work. -/
theorem Careful.after {first : FiberWork α} {next : α -> FiberWork β} (drains : Drains first)
    (careful : ∀ value, Careful (next value)) : Careful (first >>= next) := by
  intro fiber error changed fails
  rw [outcome_bind] at fails
  have spends := drains.spends fiber
  rcases found : outcome first fiber with ⟨result, after⟩
  rw [found] at fails spends
  cases result with
  | ok value =>
    obtain ⟨spends', wants⟩ := careful value after error changed fails
    exact ⟨.trans _ _ _ spends spends', wants⟩
  | error error' =>
    cases fails
    exact ⟨spends, drains.wants fiber error changed found⟩

/-- Whatever never fails may be done after careful work. -/
theorem Careful.before {first : FiberWork α} {next : α -> FiberWork β} (careful : Careful first)
    (sure : ∀ value, Sure (next value)) : Careful (first >>= next) := by
  intro fiber error changed fails
  rw [outcome_bind] at fails
  rcases found : outcome first fiber with ⟨result, after⟩
  rw [found] at fails
  cases result with
  | ok value =>
    obtain ⟨_, _, succeeds⟩ := sure value after
    cases succeeds.symm.trans fails
  | error error' =>
    cases fails
    exact careful fiber error changed found

theorem drains_pop : Drains pop := by
  constructor
  · intro fiber
    rw [pop, outcome_bind_ok (outcome_get fiber)]
    split
    · exact .refl fiber
    · rename_i value rest stack
      exact ⟨rest, stack ▸ List.suffix_cons value rest, rfl⟩
  · intro fiber error changed fails
    rw [pop, outcome_bind_ok (outcome_get fiber)] at fails
    split at fails
    · cases fails
      rfl
    · cases fails

theorem drains_popNumber : Drains popNumber := by
  refine drains_pop.bind (fun value => ?_)
  split
  · exact .pure _
  · refine ⟨fun fiber => .refl fiber, ?_⟩
    rintro fiber error changed ⟨⟩
    rfl

theorem drains_popChoices (count : Nat) : Drains (popChoices count) := by
  rw [popChoices]
  generalize List.range count = places
  generalize ([] : List Bool) = choices
  induction places generalizing choices with
  | nil => exact .pure _
  | cons head rest ih =>
    rw [List.foldlM_cons]
    exact (drains_pop.bind (fun _ => .pure _)).bind (fun _ => ih _)

theorem drains_register (index : Nat) : Drains (register index) := by
  constructor
  · intro fiber
    rw [register, outcome_bind_ok (outcome_get fiber)]
    split
    · exact .refl fiber
    · exact .refl fiber
  · intro fiber error changed fails
    rw [register, outcome_bind_ok (outcome_get fiber)] at fails
    split at fails
    · cases fails
    · cases fails
      rfl

theorem careful_setRegister (index : Nat) (value : Value) : Careful (setRegister index value) := by
  intro fiber error changed fails
  rw [setRegister, outcome_bind_ok (outcome_get fiber)] at fails
  split at fails
  · cases fails
  · cases fails
    exact ⟨.refl fiber, rfl⟩

theorem sure_advance : Sure advance := fun _ => ⟨_, _, rfl⟩

theorem sure_jump (target : Address) : Sure (jump target) := fun _ => ⟨_, _, rfl⟩

theorem sure_push (value : Value) : Sure (do push value; advance) := fun _ => ⟨_, _, rfl⟩

theorem careful_branch (wanted : Bool) (target : Address) : Careful (branch wanted target) := by
  refine .after drains_pop (fun value => Sure.careful ?_)
  split
  · exact sure_jump target
  · exact sure_advance

/-- A binary operation pops its operands first. -/
theorem careful_binary (operation : Value -> Value -> Value) :
    Careful (do
      let right <- pop
      let left <- pop
      push (operation left right)
      advance) :=
  .after drains_pop (fun _ => .after drains_pop (fun _ => (sure_push _).careful))

end FiberWork

/-! ## Failures of instructions -/

namespace UnitOfWork

/-- The unit of work differs at most by values from the top of the fiber's stack. -/
inductive Spent (work : UnitOfWork) (fiber : Fiber) : UnitOfWork -> Prop where
  | same : Spent work fiber work
  | popped {changed : Fiber} (spends : fiber.Spends changed) :
    Spent work fiber (work.putFiber fiber.id changed)

/-- Why the instruction that a fiber has reached cannot be executed, and what is left behind. -/
inductive Faulted (program : Program) (fiber : Fiber) (work : UnitOfWork) :
    MachineError -> UnitOfWork -> Prop where
  | beyond (absent : program.instruction? fiber.pc = none) :
    Faulted program fiber work (.addressOutOfRange fiber.pc) work
  | values {error after} (wants : error.concernsValues = true) (spent : work.Spent fiber after) :
    Faulted program fiber work error after
  | unknown {instruction reference after}
      (reached : program.instruction? fiber.pc = some instruction)
      (refers : reference ∈ instruction.symbols) (absent : program.symbols.name? reference = none)
      (spent : work.Spent fiber after) :
    Faulted program fiber work (.program (.unknownSymbol reference)) after
  | unsplit {join} (reached : program.instruction? fiber.pc = some (.fork join [])) :
    Faulted program fiber work (.emptyFork fiber.pc) work
  | overrun {node key error} (reached : program.instruction? fiber.pc = some (.join node))
      (named : program.symbols.node? node = some key)
      (refused : work.arriveAt fiber key = .error error) :
    Faulted program fiber work (.lifecycle error) work
  | closed {event error} (reached : program.instruction? fiber.pc = some .terminate)
      (refused : work.close .terminated event = .error error) :
    Faulted program fiber work (.lifecycle error) work

variable {program : Program} {fiber : Fiber} {work after : UnitOfWork} {error : MachineError}

/-- Where an instruction fails, it has only taken values from the stack of its fiber. -/
theorem Faulted.spent (faulted : Faulted program fiber work error after) :
    work.Spent fiber after := by
  cases faulted with
  | beyond absent => exact .same
  | values wants spent => exact spent
  | unknown reached refers absent spent => exact spent
  | unsplit reached => exact .same
  | overrun reached named refused => exact .same
  | closed reached refused => exact .same

end UnitOfWork

namespace Execution

open UnitOfWork FiberWork

variable {program : Program} {fiber : Fiber} {work : UnitOfWork} {α β : Type}

/-- Work on an instance fails in one of the listed ways if at all. -/
def Faults (program : Program) (fiber : Fiber) (work : UnitOfWork) (action : Execution α) : Prop :=
  ∀ error after, outcome action work = (.error error, after) ->
    Faulted program fiber work error after

theorem faults_modify (change : UnitOfWork -> UnitOfWork) :
    Faults program fiber work (modify change : Execution Unit) := by
  rintro error after ⟨⟩

/-- What is looked up costs nothing. -/
theorem faults_getThe {next : UnitOfWork -> Execution α}
    (faults : Faults program fiber work (next work)) :
    Faults program fiber work (getThe UnitOfWork >>= next) := by
  rw [Faults, outcome_bind_ok (outcome_getThe work)]
  exact faults

/-- A name of a program that is missing stops the instruction before it does anything. -/
theorem faults_symbol {instruction : Instruction Address} {reference : SymbolReference}
    {next : String -> Execution α} (reached : program.instruction? fiber.pc = some instruction)
    (refers : reference ∈ instruction.symbols)
    (faults : ∀ name, Faults program fiber work (next name)) :
    Faults program fiber work (symbol program reference >>= next) := by
  intro error after fails
  rw [outcome_bind, symbol] at fails
  cases named : program.symbols.name? reference with
  | some name =>
    rw [named] at fails
    exact faults name error after fails
  | none =>
    rw [named] at fails
    cases fails
    exact .unknown reached refers named .same

theorem name?_of_node? {symbols : SymbolTable} {index : Nat} (absent : symbols.node? index = none) :
    symbols.name? ⟨.node, index⟩ = none := by
  rw [SymbolTable.node?] at absent
  simp [SymbolTable.name?, SymbolTable.names, absent]

theorem faults_node {instruction : Instruction Address} {index : Nat}
    {next : NodeKey -> Execution α} (reached : program.instruction? fiber.pc = some instruction)
    (refers : ⟨.node, index⟩ ∈ instruction.symbols)
    (faults : ∀ key, program.symbols.node? index = some key ->
      Faults program fiber work (next key)) :
    Faults program fiber work (node program index >>= next) := by
  intro error after fails
  rw [outcome_bind, node] at fails
  cases named : program.symbols.node? index with
  | some key =>
    rw [named] at fails
    exact faults key named error after fails
  | none =>
    rw [named] at fails
    cases fails
    exact .unknown reached refers (name?_of_node? named) .same

/-- Careful work on a fiber may be followed by whatever never fails. -/
theorem faults_onFiber_bind (found : work.fiber? fiber.id = some fiber) {fiberWork : FiberWork α}
    (careful : Careful fiberWork) {next : α -> Execution β}
    (sure : ∀ value before, ∃ result after, outcome (next value) before = (.ok result, after)) :
    Faults program fiber work (onFiber fiber.id fiberWork >>= next) := by
  intro error after fails
  rw [outcome_bind, outcome_onFiber found] at fails
  rcases worked : outcome fiberWork fiber with ⟨result, changed⟩
  rw [worked] at fails
  cases result with
  | ok value =>
    obtain ⟨_, _, succeeds⟩ := sure value (work.putFiber fiber.id changed)
    cases succeeds.symm.trans fails
  | error error' =>
    cases fails
    obtain ⟨spends, wants⟩ := careful fiber error changed worked
    exact .values wants (.popped spends)

theorem faults_onFiber (found : work.fiber? fiber.id = some fiber) {fiberWork : FiberWork Unit}
    (careful : Careful fiberWork) : Faults program fiber work (onFiber fiber.id fiberWork) := by
  have same : onFiber fiber.id fiberWork = onFiber fiber.id fiberWork >>= pure := (bind_pure _).symm
  rw [same]
  exact faults_onFiber_bind found careful (fun _ _ => ⟨_, _, rfl⟩)

/-- The correlation of a message is missing if it is in a register that the fiber does not have. -/
theorem concernsValues_of_resolve {record : ProcessInstance} {source : CorrelationSource}
    {error : MachineError} (missing : source.resolve record fiber = .error error) :
    error.concernsValues = true := by
  cases source with
  | processInstance => cases missing
  | register index =>
    rw [CorrelationSource.resolve] at missing
    split at missing
    · cases missing
    · cases missing
      rfl

theorem faults_armWait {race : Nat} {arms : List (ArmCode Address)} {arm : ArmCode Address}
    (reached : program.instruction? fiber.pc = some (.race race arms)) (listed : arm ∈ arms) :
    Faults program fiber work (armWait program fiber arm) := by
  refine faults_getThe ?_
  cases trigger : arm.trigger with
  | timer duration => rintro error after ⟨⟩
  | message name correlation =>
    have refers : (⟨.message, name⟩ : SymbolReference) ∈
        (Instruction.race race arms : Instruction Address).symbols :=
      List.mem_cons_of_mem _ (List.mem_filterMap.2 ⟨arm, listed, by rw [trigger]⟩)
    refine faults_symbol reached refers (fun name' error after fails => ?_)
    rw [outcome_bind, outcome_liftExcept] at fails
    cases resolved : correlation.resolve work.record fiber with
    | error error' =>
      rw [resolved] at fails
      cases fails
      exact .values (concernsValues_of_resolve resolved) .same
    | ok correlation' =>
      rw [resolved] at fails
      cases fails

/-- What the arms of a race wait for is looked up one arm after the other. -/
theorem faults_armWaits {race : Nat} {arms further : List (ArmCode Address)}
    (reached : program.instruction? fiber.pc = some (.race race arms)) (part : further ⊆ arms) :
    Faults program fiber work (further.mapM (armWait program fiber)) := by
  induction further with
  | nil => rintro error after ⟨⟩
  | cons arm rest ih =>
    obtain ⟨listed, part⟩ := List.cons_subset.1 part
    obtain ⟨first, begun, -⟩ := @armWait_leads program fiber work arm
    intro error after fails
    rw [List.mapM_cons, outcome_bind, begun] at fails
    cases first with
    | error error' =>
      cases fails
      exact faults_armWait reached listed error work begun
    | ok wait =>
      dsimp only at fails
      rw [outcome_bind] at fails
      rcases goes : outcome (rest.mapM (armWait program fiber)) work with ⟨second, after'⟩
      rw [goes] at fails
      cases second with
      | error error' =>
        cases fails
        exact ih part error after goes
      | ok waits => cases fails

/-- An instruction that a fiber has reached fails in one of the listed ways if at all. -/
theorem faults_execute {instruction : Instruction Address}
    (found : work.fiber? fiber.id = some fiber)
    (reached : program.instruction? fiber.pc = some instruction) :
    Faults program fiber work (execute program fiber instruction) := by
  have careful {fiberWork : FiberWork Unit} (careful : Careful fiberWork) :
      Faults program fiber work (onFiber fiber.id fiberWork) := faults_onFiber found careful
  have alone {reference : SymbolReference} : reference ∈ [reference] := List.mem_singleton_self _
  cases instruction with
  | push value =>
    rw [execute]
    exact careful (sure_push value).careful
  | pop =>
    rw [execute]
    exact careful (.after drains_pop (fun _ => sure_advance.careful))
  | loadFlag flag =>
    rw [execute]
    exact faults_symbol reached alone (fun name => faults_getThe (careful (sure_push _).careful))
  | storeFlag flag =>
    rw [execute]
    refine faults_symbol reached alone (fun name => faults_onFiber_bind found
      (.after drains_pop (fun value => Sure.careful ?_)) (fun _ _ => ⟨_, _, rfl⟩))
    exact fun _ => ⟨_, _, rfl⟩
  | loadRegister index =>
    rw [execute]
    exact careful (.after (drains_register index) (fun value => (sure_push value).careful))
  | storeRegister index =>
    rw [execute]
    exact careful (.after drains_pop (fun value =>
      (careful_setRegister index value).before (fun _ => sure_advance)))
  | loadCounter counter =>
    rw [execute]
    exact faults_symbol reached alone (fun name => faults_getThe (careful (sure_push _).careful))
  | incrementCounter counter =>
    rw [execute]
    refine faults_symbol reached alone (fun name => faults_onFiber_bind found (Sure.careful ?_)
      (fun _ _ => ⟨_, _, rfl⟩))
    exact fun _ => ⟨_, _, rfl⟩
  | equal =>
    rw [execute]
    exact careful (careful_binary _)
  | less =>
    rw [execute]
    exact careful (.after drains_popNumber (fun _ => .after drains_popNumber (fun _ =>
      (sure_push _).careful)))
  | negate =>
    rw [execute]
    exact careful (.after drains_pop (fun _ => (sure_push _).careful))
  | conjoin =>
    rw [execute]
    exact careful (careful_binary _)
  | disjoin =>
    rw [execute]
    exact careful (careful_binary _)
  | jump target =>
    rw [execute]
    exact careful (sure_jump target).careful
  | branchIf target =>
    rw [execute]
    exact careful (careful_branch true target)
  | branchIfNot target =>
    rw [execute]
    exact careful (careful_branch false target)
  | dispatch taskType node retries routes =>
    rw [execute]
    exact faults_symbol reached List.mem_cons_self (fun name =>
      faults_node reached (List.mem_cons_of_mem _ alone) (fun key named => faults_modify _))
  | waitTimer duration =>
    rw [execute]
    exact faults_modify _
  | waitMessage name correlation =>
    rw [execute]
    refine faults_symbol reached alone (fun name' => faults_getThe (fun error after fails => ?_))
    rw [outcome_bind, outcome_liftExcept] at fails
    cases resolved : correlation.resolve work.record fiber with
    | error error' =>
      rw [resolved] at fails
      cases fails
      exact .values (concernsValues_of_resolve resolved) .same
    | ok correlation' =>
      rw [resolved] at fails
      cases fails
  | waitHuman task =>
    rw [execute]
    exact faults_symbol reached alone (fun name => faults_modify _)
  | race node arms =>
    rw [execute]
    refine faults_node reached List.mem_cons_self (fun key named error after fails => ?_)
    obtain ⟨result, goes, -⟩ := @armWaits_lead program fiber work arms
    rw [outcome_bind, goes] at fails
    cases result with
    | error error' =>
      cases fails
      exact faults_armWaits reached (List.Subset.refl arms) error work goes
    | ok waits => cases fails
  | watch boundary duration interrupting target =>
    rw [execute]
    exact faults_node reached alone (fun key named => faults_modify _)
  | unwatch boundary =>
    rw [execute]
    exact faults_onFiber_bind found sure_advance.careful (fun _ _ => ⟨_, _, rfl⟩)
  | fork join targets =>
    rw [execute]
    split
    · rename_i none
      rw [List.isEmpty_iff.1 none] at reached
      rintro error after ⟨⟩
      exact .unsplit reached
    · exact faults_node reached alone (fun key named => faults_modify _)
  | forkInclusive join targets fallback gateway =>
    rw [execute]
    intro error after fails
    rw [outcome_bind, outcome_onFiber found] at fails
    have spends := (drains_popChoices targets.length).spends fiber
    rcases popped : outcome (popChoices targets.length) fiber with ⟨result, changed⟩
    rw [popped] at fails spends
    cases result with
    | error error' =>
      cases fails
      exact .values ((drains_popChoices _).wants fiber error changed popped) (.popped spends)
    | ok choices =>
      dsimp only at fails
      -- Whichever branches are chosen, only their join may be missing.
      generalize (if (((targets.zip choices).filter Prod.snd).map Prod.fst).isEmpty then
        fallback.toList else ((targets.zip choices).filter Prod.snd).map Prod.fst) = selected
        at fails
      split at fails
      · cases fails
      · rw [outcome_bind, node] at fails
        cases named : program.symbols.node? join with
        | some key =>
          rw [named] at fails
          cases fails
        | none =>
          rw [named] at fails
          cases fails
          exact .unknown reached List.mem_cons_self (name?_of_node? named) (.popped spends)
  | join node =>
    rw [execute]
    refine faults_node reached alone (fun key named => faults_getThe (fun error after fails => ?_))
    cases arrives : work.arriveAt fiber key with
    | ok next =>
      rw [arrives] at fails
      cases fails
    | error error' =>
      rw [arrives] at fails
      cases fails
      exact .overrun reached named arrives
  | finish =>
    rw [execute]
    exact faults_modify _
  | terminate =>
    rw [execute]
    refine faults_getThe (fun error after fails => ?_)
    cases closes : work.close .terminated
        (.instanceTerminated (program.symbols.nodeContaining? fiber.pc)) with
    | ok next =>
      rw [closes] at fails
      cases fails
    | error error' =>
      rw [closes] at fails
      cases fails
      exact .closed reached closes
  | fault reason =>
    rw [execute]
    exact faults_modify _

/-- A step of a fiber fails in one of the listed ways if at all. -/
theorem faulted_step {error : MachineError} {after : UnitOfWork}
    (found : work.fiber? fiber.id = some fiber)
    (fails : outcome (step program fiber.id) work = (.error error, after)) :
    Faulted program fiber work error after := by
  rw [step, outcome_bind_ok (outcome_getThe work), found] at fails
  dsimp only at fails
  cases reached : program.instruction? fiber.pc with
  | none =>
    rw [reached] at fails
    cases fails
    exact .beyond reached
  | some instruction =>
    rw [reached] at fails
    exact faults_execute found reached error after fails

end Execution

/-! ## Faults are contained -/

namespace UnitOfWork

variable {program : Program} {fiber : Fiber} {error : MachineError} {holder : Option FiberId}
variable {first work before after next : UnitOfWork} {taken maximumSteps : Nat}

/-- A fiber is halted where its instruction cannot be executed, and nothing else differs. -/
structure Contained (program : Program) (fiber : Fiber) (error : MachineError)
    (work next : UnitOfWork) : Prop where
  /-- Flags, counters, the expectations of joins, the status and the number of the next fiber. -/
  record : next.record = work.record
  barriers : next.state.barriers = work.state.barriers
  others : ∀ id, id ≠ fiber.id -> next.fiber? id = work.fiber? id
  /-- One incident is recorded, and the fiber waits for its resolution where it is. -/
  halted : ∃ incident left, next.incidents = work.incidents ++ [incident] ∧
    left <:+ fiber.stack ∧
    next.fiber? fiber.id = some { fiber with stack := left, wait := .incident incident.id } ∧
    incident = { Incident.raise ⟨work.supply.next⟩ work.record.id fiber.id fiber.pc .machineFault
      error.message work.time with node := program.symbols.nodeContaining? fiber.pc } ∧
    next.events = work.events ++ [.incidentRaised incident.id .machineFault,
      .fiberParked fiber.id (Wait.incident incident.id).label fiber.pc]
  /-- The incident is new. -/
  drawn : next.supply.next = work.supply.next + 1
  time : next.time = work.time
  ended : next.endedFibers = work.endedFibers
  joins : next.joins = work.joins
  jobs : next.jobs = work.jobs
  cancelledJobs : next.cancelledJobs = work.cancelledJobs
  completions : next.completions = work.completions
  deadLetters : next.deadLetters = work.deadLetters
  removedDeadLetters : next.removedDeadLetters = work.removedDeadLetters

/-- What halting a fiber that exists comes to. -/
theorem raise_of_found {id : FiberId} (found : work.fiber? id = some fiber) (symbols : SymbolTable)
    (address : Address) (kind : FaultClass) (message : String) :
    work.raise symbols id address kind message =
      let incident := { Incident.raise ⟨work.supply.next⟩ work.record.id id address kind message
        work.time with node := symbols.nodeContaining? address }
      { work.putFiber id { fiber with pc := address, wait := .incident incident.id } with
        supply := ⟨work.supply.next + 1⟩
        incidents := work.incidents ++ [incident]
        events := work.events ++ [.incidentRaised incident.id kind] ++
          [.fiberParked id (Wait.incident incident.id).label address] } := by
  have same : ({ work with supply := ⟨work.supply.next + 1⟩ }.emit
      (.incidentRaised ⟨work.supply.next⟩ kind)).fiber? id = some fiber := found
  change (((({ work with supply := ⟨work.supply.next + 1⟩ } : UnitOfWork).emit
    (.incidentRaised ⟨work.supply.next⟩ kind)).updateFiber id _).emit _).putIncident _ = _
  rw [updateFiber, same]
  rfl

/-- A fiber that lacks at most values from its stack is halted, and nothing else differs. -/
theorem Spent.contained (spent : work.Spent fiber after)
    (found : work.fiber? fiber.id = some fiber) :
    Contained program fiber error work
      (after.raise program.symbols fiber.id fiber.pc .machineFault error.message) := by
  cases spent with
  | same =>
    rw [raise_of_found found]
    refine ⟨rfl, rfl, fun id other => ?_, ?_, rfl, rfl, rfl, rfl, rfl, rfl, rfl, rfl, rfl⟩
    · exact OrderedMap.get?_insert_of_ne _ _ other
    · refine ⟨_, fiber.stack, rfl, List.suffix_refl _, ?_, rfl, List.append_assoc _ _ _⟩
      exact OrderedMap.get?_insert_self _ _ _
  | @popped changed spends =>
    have found' : (work.putFiber fiber.id changed).fiber? fiber.id = some changed :=
      OrderedMap.get?_insert_self _ _ _
    obtain ⟨left, part, rfl⟩ := spends
    rw [raise_of_found found']
    refine ⟨rfl, rfl, fun id other => ?_, ?_, rfl, rfl, rfl, rfl, rfl, rfl, rfl, rfl, rfl⟩
    · exact (OrderedMap.get?_insert_of_ne _ _ other).trans (OrderedMap.get?_insert_of_ne _ _ other)
    · refine ⟨_, left, rfl, part, ?_, rfl, List.append_assoc _ _ _⟩
      exact OrderedMap.get?_insert_self _ _ _

/-- The turn of a fiber whose instruction cannot be executed halts this fiber and changes nothing
else. No fiber keeps the turn. -/
theorem play_of_fails (found : work.fiber? fiber.id = some fiber)
    (fails : outcome (Execution.step program fiber.id) work = (.error error, after)) :
    (play program fiber.id work).1 = none ∧
      Contained program fiber error work (play program fiber.id work).2 := by
  have spent := (Execution.faulted_step found fails).spent
  have stays : (after.fiber? fiber.id).elim 0 Fiber.pc = fiber.pc := by
    cases spent with
    | same =>
      rw [found]
      rfl
    | popped spends =>
      obtain ⟨left, -, rfl⟩ := spends
      rw [fiber?, InstanceState.fiber?, putFiber, OrderedMap.get?_insert_self]
      rfl
  rw [play_eq, fails]
  dsimp only
  rw [stays]
  exact ⟨rfl, spent.contained found⟩

/-! ## Runs -/

/-- A run comes to a unit of work after some turns; a fiber may keep the turn there. -/
inductive Comes (program : Program) (first : UnitOfWork) :
    Nat -> Option FiberId -> UnitOfWork -> Prop where
  | begin : Comes program first 0 none first
  | turn {taken holder work id} (prior : Comes program first taken holder work)
      (next : holder.or work.nextFiber? = some id) :
    Comes program first (taken + 1) (play program id work).1 (play program id work).2

/-- From where a run comes to, it takes the turns that it has left. -/
theorem Comes.takeTurnsFrom_add (comes : Comes program first taken holder work) (more : Nat) :
    takeTurnsFrom program (taken + more) 0 none first =
      takeTurnsFrom program more taken holder work := by
  induction comes generalizing more with
  | begin => rw [Nat.zero_add]
  | @turn taken holder work id prior next ih =>
    rw [Nat.add_right_comm, Nat.add_assoc, ih (more + 1), takeTurnsFrom, next]

/-- A run of an instance of the program goes on from wherever it comes to. -/
theorem Comes.run_eq (comes : Comes program first taken holder work)
    (own : first.record.program = program.hash) (bounded : taken ≤ max 1 maximumSteps) :
    first.run program maximumSteps =
      .ok (takeTurnsFrom program (max 1 maximumSteps - taken) taken holder work) := by
  rw [run, if_pos own, takeTurns, ← comes.takeTurnsFrom_add, Nat.add_sub_of_le bounded]

/-- Faults are contained. A run of an instance of the program does not fail, and wherever it lets a
fiber take a turn whose instruction cannot be executed, that fiber is halted on a new incident with
nothing else of the instance changed, and from there the run goes on with whichever fiber is
next. -/
theorem run_contains_faults (own : first.record.program = program.hash) :
    (∃ report last, first.run program maximumSteps = .ok (report, last)) ∧
    ∀ taken holder work fiber error after, Comes program first taken holder work ->
      taken < max 1 maximumSteps -> holder.or work.nextFiber? = some fiber.id ->
      work.fiber? fiber.id = some fiber ->
      outcome (Execution.step program fiber.id) work = (.error error, after) ->
      ∃ next, Contained program fiber error work next ∧
        Comes program first (taken + 1) none next ∧
        first.run program maximumSteps = .ok
          (takeTurnsFrom program (max 1 maximumSteps - (taken + 1)) (taken + 1) none next) := by
  refine ⟨⟨_, _, Comes.begin.run_eq own (Nat.zero_le _)⟩, ?_⟩
  intro taken holder work fiber error after comes bounded turn found fails
  obtain ⟨yields, contained⟩ := play_of_fails found fails
  have onward : Comes program first (taken + 1) none (play program fiber.id work).2 :=
    yields ▸ comes.turn turn
  exact ⟨_, contained, onward, onward.run_eq own bounded⟩

end UnitOfWork

namespace ShortageRun

open UnitOfWork

/-- A program that compares two numbers but provides only one of them. -/
def program : Program where
  instructions := [.push (.int 1), .less]
  symbols := {}
  hash := ⟨String.ofList (List.replicate 64 '0'), by decide +kernel⟩

/-- The fiber of the instance. -/
def fiber : Fiber := .create ⟨1⟩ ⟨0⟩ 0 0

/-- An instance of the program begins. -/
def first : UnitOfWork :=
  (UnitOfWork.create (.create ⟨0⟩ program.hash .null "" default) default ⟨1⟩).start.2

/-- The comparison takes the only value there is and halts its fiber. -/
theorem run_contains_faults_of_shortage :
    first.record.program = program.hash ∧
      outcome (Execution.step program ⟨1⟩) (play program ⟨1⟩ first).2 =
        (.error (.stackUnderflow 1), (outcome (Execution.step program ⟨1⟩)
          (play program ⟨1⟩ first).2).2) ∧
      ∃ next, Contained program { fiber with pc := 1, stack := [.int 1] } (.stackUnderflow 1)
          (play program ⟨1⟩ first).2 next ∧
        first.run program 5 = .ok (takeTurnsFrom program 3 2 none next) := by
  have fails : outcome (Execution.step program ⟨1⟩) (play program ⟨1⟩ first).2 =
      (.error (.stackUnderflow 1), (outcome (Execution.step program ⟨1⟩)
        (play program ⟨1⟩ first).2).2) := rfl
  have next : first.nextFiber? = some ⟨1⟩ := by decide +kernel
  have comes : Comes program first 1 (some ⟨1⟩) (play program ⟨1⟩ first).2 := .turn .begin next
  obtain ⟨-, contains⟩ := @run_contains_faults program first 5 rfl
  obtain ⟨next, contained, -, ran⟩ := contains 1 (some ⟨1⟩) _
    { fiber with pc := 1, stack := [.int 1] } (.stackUnderflow 1) _ comes (by decide) rfl rfl fails
  exact ⟨rfl, fails, next, contained, ran⟩

end ShortageRun

end ProcessEngine
