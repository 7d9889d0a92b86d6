import ProcessEngine.Proofs.CheckedCode
import ProcessEngine.Proofs.Turns

/-!
# Work that succeeds

An action achieves what is wanted if it succeeds and both its answer and the state it leaves behind
are as wanted (`Achieves`). Work on a fiber of whose stack enough is known succeeds, and so much is
known of the stack that it leaves behind (`FiberWork.Turns`, `FiberWork.Advances`).
-/

namespace ProcessEngine

section Laws

variable {ε σ α β : Type}

/-- The action succeeds, and its answer and the state it leaves behind are as wanted. -/
def Achieves (action : ExceptT ε (StateM σ) α) (state : σ) (Wanted : α -> σ -> Prop) : Prop :=
  ∃ value after, outcome action state = (.ok value, after) ∧ Wanted value after

namespace Achieves

variable {state : σ} {Wanted : α -> σ -> Prop}

theorem pure {value : α} (wanted : Wanted value state) :
    Achieves (pure value : ExceptT ε (StateM σ) α) state Wanted := ⟨value, state, rfl, wanted⟩

theorem bind {first : ExceptT ε (StateM σ) β} {next : β -> ExceptT ε (StateM σ) α}
    (achieves : Achieves first state (fun value after => Achieves (next value) after Wanted)) :
    Achieves (first >>= next) state Wanted := by
  obtain ⟨value, after, succeeds, achieves⟩ := achieves
  rw [Achieves, outcome_bind_ok succeeds]
  exact achieves

theorem mono {action : ExceptT ε (StateM σ) α} {Wanted' : α -> σ -> Prop}
    (achieves : Achieves action state Wanted)
    (implies : ∀ value after, Wanted value after -> Wanted' value after) :
    Achieves action state Wanted' := by
  obtain ⟨value, after, succeeds, wanted⟩ := achieves
  exact ⟨value, after, succeeds, implies _ _ wanted⟩

theorem get {Wanted : σ -> σ -> Prop} (wanted : Wanted state state) :
    Achieves (getThe σ : ExceptT ε (StateM σ) σ) state Wanted := ⟨state, state, rfl, wanted⟩

theorem set {Wanted : PUnit -> σ -> Prop} {next : σ} (wanted : Wanted ⟨⟩ next) :
    Achieves (set next : ExceptT ε (StateM σ) PUnit) state Wanted := ⟨_, next, rfl, wanted⟩

theorem modify {Wanted : PUnit -> σ -> Prop} {change : σ -> σ} (wanted : Wanted ⟨⟩ (change state)) :
    Achieves (modify change : ExceptT ε (StateM σ) PUnit) state Wanted := ⟨_, _, rfl, wanted⟩

theorem lift {result : Except ε α} {value : α} (succeeds : result = .ok value)
    (wanted : Wanted value state) :
    Achieves (liftExcept result : ExceptT ε (StateM σ) α) state Wanted :=
  ⟨value, state, by rw [outcome_liftExcept, succeeds], wanted⟩

/-- What is achieved for each element is achieved for a list, if it leaves the state as it is. -/
theorem mapM {action : α -> ExceptT ε (StateM σ) β} {items : List α} {Related : α -> β -> Prop}
    (each : ∀ item ∈ items,
      Achieves (action item) state (fun value after => after = state ∧ Related item value)) :
    Achieves (items.mapM action) state
      (fun values after => after = state ∧ List.Forall₂ Related items values) := by
  induction items with
  | nil => exact .pure ⟨rfl, .nil⟩
  | cons item rest ih =>
    obtain ⟨first, each⟩ := List.forall_mem_cons.1 each
    rw [List.mapM_cons]
    refine .bind (first.mono ?_)
    rintro value _ ⟨rfl, related⟩
    refine .bind ((ih each).mono ?_)
    rintro values _ ⟨rfl, others⟩
    exact .pure ⟨rfl, .cons related others⟩

end Achieves

end Laws

/-- So much is known of the stack of a fiber, and it has all registers. -/
structure Fiber.Carries (fiber : Fiber) (slots : List Slot) : Prop where
  stack : List.Forall₂ Slot.Holds slots fiber.stack
  registers : fiber.registers.length = registerCount

namespace FiberWork

variable {α β : Type} {slots middle later : List Slot} {slot : Slot}

/-- Work that rearranges values and of whose stack so much is known before and afterwards. -/
def Turns (work : FiberWork α) (slots later : List Slot) (Answer : α -> Prop) : Prop :=
  ∀ fiber, fiber.Carries slots -> Achieves work fiber (fun value changed =>
    changed.Carries later ∧ changed.pc = fiber.pc ∧ changed.wait = fiber.wait ∧ Answer value)

/-- Work that goes on at the next instruction. -/
def Advances (work : FiberWork α) (slots later : List Slot) : Prop :=
  ∀ fiber, fiber.Carries slots -> Achieves work fiber (fun _ changed =>
    changed.Carries later ∧ changed.pc = fiber.pc + 1 ∧ changed.wait = fiber.wait)

theorem Turns.pure {Answer : α -> Prop} {value : α} (answers : Answer value) :
    Turns (Pure.pure value) slots slots Answer :=
  fun _ carries => .pure ⟨carries, rfl, rfl, answers⟩

theorem Turns.bind {first : FiberWork β} {next : β -> FiberWork α} {Answer : β -> Prop}
    {Answer' : α -> Prop} (turns : Turns first slots middle Answer)
    (goesOn : ∀ value, Answer value -> Turns (next value) middle later Answer') :
    Turns (first >>= next) slots later Answer' := by
  intro fiber carries
  refine .bind ((turns fiber carries).mono ?_)
  rintro value changed ⟨carries, place, wait, answers⟩
  refine (goesOn value answers changed carries).mono ?_
  rintro value last ⟨carries, place', wait', answers⟩
  exact ⟨carries, place'.trans place, wait'.trans wait, answers⟩

/-- Values may be rearranged before control goes on. -/
theorem Turns.advances {first : FiberWork β} {next : β -> FiberWork α} {Answer : β -> Prop}
    (turns : Turns first slots middle Answer)
    (goesOn : ∀ value, Answer value -> Advances (next value) middle later) :
    Advances (first >>= next) slots later := by
  intro fiber carries
  refine .bind ((turns fiber carries).mono ?_)
  rintro value changed ⟨carries, place, wait, answers⟩
  refine (goesOn value answers changed carries).mono ?_
  rintro value last ⟨carries, place', wait'⟩
  exact ⟨carries, by rw [place', place], wait'.trans wait⟩

theorem turns_push {value : Value} (holds : slot.Holds value) :
    Turns (push value) slots (slot :: slots) (fun _ => True) :=
  fun _ carries => .modify ⟨⟨.cons holds carries.stack, carries.registers⟩, rfl, rfl, trivial⟩

/-- Nothing need be known of a value. -/
theorem turns_push_any (value : Value) :
    Turns (push value) slots (.any :: slots) (fun _ => True) := turns_push trivial

theorem turns_pop : Turns pop (slot :: slots) slots slot.Holds := by
  intro fiber carries
  obtain ⟨value, rest, holds, others, same⟩ := List.forall₂_cons_left_iff.1 carries.stack
  refine .bind (.get ?_)
  simp only [same]
  exact .bind (.set (.pure ⟨⟨others, carries.registers⟩, rfl, rfl, holds⟩))

theorem turns_popNumber : Turns popNumber (.number :: slots) slots (fun _ => True) := by
  refine turns_pop.bind ?_
  rintro value ⟨number, is⟩
  simp only [is]
  exact .pure trivial

theorem turns_register {index : Nat} (free : index < registerCount) :
    Turns (register index) slots slots (fun _ => True) := by
  intro fiber carries
  refine .bind (.get ?_)
  rw [List.getElem?_eq_getElem (by rw [carries.registers]; exact free)]
  exact .pure ⟨carries, rfl, rfl, trivial⟩

theorem turns_setRegister {index : Nat} (free : index < registerCount) (value : Value) :
    Turns (setRegister index value) slots slots (fun _ => True) := by
  intro fiber carries
  refine .bind (.get ?_)
  rw [if_pos (by rw [carries.registers]; exact free)]
  refine .set ⟨⟨carries.stack, ?_⟩, rfl, rfl, trivial⟩
  rw [List.length_set, carries.registers]

/-- As many choices as there are values leave the stack empty. -/
theorem turns_popChoices : Turns (popChoices slots.length) slots [] (fun _ => True) := by
  rw [popChoices]
  -- Each place stands for one value that is still on the stack.
  suffices ∀ (places : List Nat) (choices : List Bool) (slots : List Slot),
      slots.length = places.length ->
        Turns (places.foldlM (fun choices _ => do return (<- pop).isTruthy :: choices) choices)
          slots [] (fun _ => True) from this _ _ _ List.length_range.symm
  intro places
  induction places with
  | nil =>
    intro choices slots counted
    cases List.length_eq_zero_iff.1 counted
    exact .pure trivial
  | cons place rest ih =>
    intro choices slots counted
    cases slots with
    | nil => cases counted
    | cons slot slots =>
      rw [List.foldlM_cons]
      have pops : Turns (do return (<- pop).isTruthy :: choices) (slot :: slots) slots
          (fun _ => True) := .bind turns_pop (fun _ _ => .pure trivial)
      exact pops.bind (fun choices _ => ih choices slots (Nat.succ.inj counted))

theorem advances_advance : Advances advance slots slots :=
  fun _ carries => .modify ⟨⟨carries.stack, carries.registers⟩, rfl, rfl⟩

theorem Advances.answer {work : FiberWork α} (advances : Advances work slots later) (value : β) :
    Advances (do let _ <- work; return value) slots later :=
  fun fiber carries => .bind ((advances fiber carries).mono (fun _ _ wanted => .pure wanted))

/-- A binary operation replaces two values by one. -/
theorem advances_binary {right left : Slot} (operation : Value -> Value -> Value) :
    Advances (do
      let right <- pop
      let left <- pop
      push (operation left right)
      advance) (right :: left :: slots) (.any :: slots) :=
  turns_pop.advances (fun _ _ => turns_pop.advances (fun _ _ =>
    (turns_push_any _).advances (fun _ _ => advances_advance)))

/-- After a branch the stack has one value less, wherever control goes on. -/
theorem achieves_branch {fiber : Fiber} (carries : fiber.Carries (slot :: slots)) (wanted : Bool)
    (target : Address) : Achieves (branch wanted target) fiber (fun _ changed =>
      changed.Carries slots ∧ (changed.pc = target ∨ changed.pc = fiber.pc + 1) ∧
        changed.wait = fiber.wait) := by
  refine .bind ((turns_pop fiber carries).mono ?_)
  rintro value changed ⟨carries, place, wait, -⟩
  split
  · exact .modify ⟨⟨carries.stack, carries.registers⟩, .inl rfl, wait⟩
  · exact .modify ⟨⟨carries.stack, carries.registers⟩, .inr (congrArg (· + 1) place), wait⟩

end FiberWork

namespace Execution

variable {program : Program} {fiber : Fiber} {work : UnitOfWork} {α : Type}

theorem achieves_onFiber {fiberWork : FiberWork α} {Wanted : α -> UnitOfWork -> Prop}
    (found : work.fiber? fiber.id = some fiber)
    (achieves : Achieves fiberWork fiber (fun value changed =>
      Wanted value (work.putFiber fiber.id changed))) :
    Achieves (onFiber fiber.id fiberWork) work Wanted := by
  obtain ⟨value, changed, succeeds, wanted⟩ := achieves
  refine ⟨value, _, ?_, wanted⟩
  rw [outcome_onFiber found, succeeds]

theorem achieves_symbol {reference : SymbolReference} {Wanted : String -> UnitOfWork -> Prop}
    (known : (program.symbols.name? reference).isSome = true) (wanted : ∀ name, Wanted name work) :
    Achieves (symbol program reference) work Wanted := by
  obtain ⟨name, named⟩ := Option.isSome_iff_exists.1 known
  rw [symbol, named]
  exact .pure (wanted name)

theorem achieves_node {index : Nat} {Wanted : NodeKey -> UnitOfWork -> Prop}
    (known : (program.symbols.name? ⟨.node, index⟩).isSome = true)
    (wanted : ∀ key, program.symbols.node? index = some key -> Wanted key work) :
    Achieves (node program index) work Wanted := by
  have listed : (program.symbols.node? index).isSome = true := by
    simpa [SymbolTable.name?, SymbolTable.names, SymbolTable.node?] using known
  obtain ⟨key, named⟩ := Option.isSome_iff_exists.1 listed
  rw [node, named]
  exact .pure (wanted key named)

/-- A correlation is found if its register exists. -/
theorem resolve_ok {source : CorrelationSource} (free : source.Exists) {slots : List Slot}
    (carries : fiber.Carries slots) (record : ProcessInstance) :
    ∃ correlation, source.resolve record fiber = .ok correlation := by
  cases source with
  | processInstance => exact ⟨_, rfl⟩
  | register index =>
    rw [CorrelationSource.resolve,
      List.getElem?_eq_getElem (by rw [carries.registers]; exact free)]
    exact ⟨_, rfl⟩

theorem achieves_armWait {arm : ArmCode Address} (free : arm.trigger.Exists) {slots : List Slot}
    (carries : fiber.Carries slots)
    (known : ∀ name source, arm.trigger = .message name source ->
      (program.symbols.name? ⟨.message, name⟩).isSome = true) :
    Achieves (armWait program fiber arm) work (fun wait after =>
      after = work ∧ wait.target = arm.target) := by
  refine .bind (.get ?_)
  obtain ⟨trigger, target⟩ := arm
  cases trigger with
  | timer duration => exact .pure ⟨rfl, rfl⟩
  | message name source =>
    refine .bind (achieves_symbol (known name source rfl) (fun name => ?_))
    obtain ⟨correlation, found⟩ := resolve_ok free carries work.record
    exact .bind (.lift found (.pure ⟨rfl, rfl⟩))

end Execution

end ProcessEngine
