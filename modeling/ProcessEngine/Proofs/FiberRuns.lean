import ProcessEngine.Proofs.AssembledCode
import ProcessEngine.Proofs.FiberEffects
import ProcessEngine.Proofs.Turns

/-!
# What a fiber computes

A fiber that computes takes one turn after the other (`UnitOfWork.Plays`), and nothing but the
fiber changes. So code is described by what it makes of a fiber (`UnitOfWork.Goes`): the code of a
condition leaves one value on its stack, which counts as true if and only if the condition holds
(`UnitOfWork.tests_go`).
-/

namespace ProcessEngine

namespace UnitOfWork

/-! ## Turns of one fiber -/

/-- What a fiber comes to by turns that it takes one after the other; its last turn may end it, or
leave it waiting. -/
inductive Plays (program : Program) (id : FiberId) :
    Nat -> UnitOfWork -> Option FiberId × UnitOfWork -> Prop where
  | rest {work} : Plays program id 0 work (some id, work)
  | turn {steps work after result} (plays : play program id work = (some id, after))
      (others : Plays program id steps after result) : Plays program id (steps + 1) work result
  | stop {work after} (plays : play program id work = (none, after)) :
      Plays program id 1 work (none, after)

variable {program : Program} {id : FiberId} {work current after last : UnitOfWork}
variable {holder : Option FiberId} {fiber changed : Fiber} {steps : Nat}

theorem Plays.trans {more : Nat} {result : Option FiberId × UnitOfWork}
    (plays : Plays program id steps work (some id, after))
    (others : Plays program id more after result) :
    Plays program id (steps + more) work result := by
  generalize reached : (some id, after) = middle at plays
  induction plays with
  | rest =>
    cases reached
    rwa [Nat.zero_add]
  | turn plays _ ih =>
    rw [Nat.add_right_comm]
    exact .turn plays (ih reached)
  | stop => cases reached

/-- A run in which the fiber has the first turn begins with these turns, if it may be long
enough. -/
theorem Plays.takeTurnsFrom (plays : Plays program id steps work (holder, last))
    (remaining taken : Nat) :
    takeTurnsFrom program (steps + remaining) taken (some id) work =
      takeTurnsFrom program remaining (taken + steps) holder last := by
  generalize reached : (holder, last) = result at plays
  induction plays generalizing taken with
  | rest =>
    cases reached
    rw [Nat.zero_add]
    rfl
  | @turn steps work after result turn _ ih =>
    rw [Nat.add_right_comm, UnitOfWork.takeTurnsFrom, Option.some_or]
    simp only [turn]
    refine (ih (taken + 1) reached).trans ?_
    rw [Nat.add_assoc, Nat.add_comm 1]
  | stop turn =>
    cases reached
    rw [Nat.add_comm, UnitOfWork.takeTurnsFrom, Option.some_or]
    simp only [turn]

/-! ## Computation -/

/-- The unit of work with a fiber as it is now. -/
inductive With (work : UnitOfWork) (fiber : Fiber) : UnitOfWork -> Prop where
  | same (found : work.fiber? fiber.id = some fiber) : With work fiber work
  | changed : With work fiber (work.putFiber fiber.id fiber)

theorem putFiber_putFiber (work : UnitOfWork) (id : FiberId) (fiber changed : Fiber) :
    (work.putFiber id fiber).putFiber id changed = work.putFiber id changed := by
  have table : (work.state.fibers.insert id fiber).insert id changed =
      work.state.fibers.insert id changed := by
    refine OrderedMap.ext_get? (fun asked => ?_)
    simp only [OrderedMap.get?_insert]
    split <;> rfl
  have listed : (work.touched.insert id).insert id = work.touched.insert id :=
    List.insert_of_mem List.mem_insert_self
  simp only [putFiber, table, listed]

theorem With.fiber? (holds : work.With fiber current) : current.fiber? fiber.id = some fiber := by
  cases holds with
  | same found => exact found
  | changed => simp

theorem With.record (holds : work.With fiber current) : current.record = work.record := by
  cases holds <;> rfl

theorem With.putFiber (holds : work.With fiber current) (changed : Fiber) :
    current.putFiber fiber.id changed = work.putFiber fiber.id changed := by
  cases holds with
  | same => rfl
  | changed => exact putFiber_putFiber work _ _ _

/-- A turn of a fiber changes nothing but the fiber, which takes the next turn too. -/
structure Goes (program : Program) (work : UnitOfWork) (fiber changed : Fiber) : Prop where
  same : changed.id = fiber.id
  plays : ∀ current, work.With fiber current ->
    play program fiber.id current = (some fiber.id, work.putFiber fiber.id changed)

/-- So many turns change nothing but the fiber. -/
abbrev GoesTo (program : Program) (work : UnitOfWork) : Fiber -> Fiber -> Prop :=
  Relation.ReflTransGen (work.Goes program)

theorem GoesTo.plays (goes : work.GoesTo program fiber changed) (holds : work.With fiber current) :
    changed.id = fiber.id ∧ ∃ steps last, work.With changed last ∧
      Plays program fiber.id steps current (some fiber.id, last) := by
  induction goes with
  | refl => exact ⟨rfl, 0, current, holds, .rest⟩
  | @tail middle changed _ turn ih =>
    obtain ⟨same, steps, last, holds, plays⟩ := ih
    have goes := turn.plays last holds
    rw [same] at goes
    refine ⟨turn.same.trans same, steps + 1, _, ?_, plays.trans (.turn goes .rest)⟩
    rw [← same, ← turn.same]
    exact .changed

/-- After some turn nothing is left of how the fiber was before. -/
theorem plays_of_goes (goes : Relation.TransGen (work.Goes program) fiber changed)
    (holds : work.With fiber current) : ∃ steps, Plays program fiber.id steps current
      (some fiber.id, work.putFiber fiber.id changed) := by
  obtain ⟨middle, goes, turn⟩ := Relation.TransGen.tail'_iff.1 goes
  obtain ⟨same, steps, last, holds, plays⟩ := GoesTo.plays goes holds
  have goes := turn.plays last holds
  rw [same] at goes
  exact ⟨steps + 1, plays.trans (.turn goes .rest)⟩

/-! ## Instructions that compute -/

open Execution

variable {instruction : Instruction Address} {stack : List Value} {value left right : Value}

/-- A turn executes the instruction that its fiber has reached. -/
theorem play_eq_of_reached (found : work.fiber? fiber.id = some fiber)
    (reached : program.instruction? fiber.pc = some instruction) :
    play program fiber.id work = match outcome (execute program fiber instruction) work with
      | (.ok (), after) =>
        (if keepsTurn program fiber.id work then some fiber.id else none, after)
      | (.error error, after) => (none, after.raise program.symbols fiber.id
        ((after.fiber? fiber.id).elim 0 Fiber.pc) .machineFault error.message) := by
  have executed : outcome (step program fiber.id) work =
      outcome (execute program fiber instruction) work := by
    rw [step, outcome_bind_ok (outcome_getThe work), found]
    dsimp only
    rw [reached]
  have played := play_eq program fiber.id work
  rw [executed] at played
  exact played

theorem outcome_symbol {reference : SymbolReference} {name : String}
    (named : program.symbols.name? reference = some name) (work : UnitOfWork) :
    outcome (symbol program reference) work = (.ok name, work) := by
  rw [symbol, named]
  rfl

theorem outcome_node {index : Nat} {key : NodeKey}
    (named : program.symbols.node? index = some key) (work : UnitOfWork) :
    outcome (Execution.node program index) work = (.ok key, work) := by
  rw [Execution.node, named]
  rfl

/-- An instruction that goes on and is executed by work on the fiber. -/
theorem goes_of_executes (reached : program.instruction? fiber.pc = some instruction)
    (goesOn : instruction.goesOn = true) (plain : ∀ node, instruction ≠ .join node)
    (same : changed.id = fiber.id)
    (executes : ∀ current, current.fiber? fiber.id = some fiber -> current.record = work.record ->
      outcome (execute program fiber instruction) current =
        (.ok (), current.putFiber fiber.id changed)) : work.Goes program fiber changed := by
  refine ⟨same, fun current holds => ?_⟩
  have keeps : keepsTurn program fiber.id current = true := by
    rw [keepsTurn, holds.fiber?, Option.any_some, reached]
    cases instruction with
    | join node => exact absurd rfl (plain node)
    | _ => exact goesOn
  rw [play_eq_of_reached holds.fiber? reached, executes current holds.fiber? holds.record]
  simp only [keeps, if_true, holds.putFiber]

theorem goes_push (reached : program.instruction? fiber.pc = some (.push value)) :
    work.Goes program fiber { fiber with pc := fiber.pc + 1, stack := value :: fiber.stack } := by
  refine goes_of_executes reached rfl (fun _ => nofun) rfl (fun current found _ => ?_)
  rw [execute, outcome_onFiber found]
  rfl

theorem goes_loadFlag {flag : Nat} {name : String}
    (reached : program.instruction? fiber.pc = some (.loadFlag flag))
    (named : program.symbols.name? ⟨.flag, flag⟩ = some name) :
    work.Goes program fiber
      { fiber with pc := fiber.pc + 1, stack := work.record.flag name :: fiber.stack } := by
  refine goes_of_executes reached rfl (fun _ => nofun) rfl (fun current found same => ?_)
  rw [execute, outcome_bind_ok (outcome_symbol named current),
    outcome_bind_ok (outcome_getThe current), outcome_onFiber found, ← same]
  rfl

theorem goes_loadCounter {counter : Nat} {name : String}
    (reached : program.instruction? fiber.pc = some (.loadCounter counter))
    (named : program.symbols.name? ⟨.counter, counter⟩ = some name) :
    work.Goes program fiber
      { fiber with
        pc := fiber.pc + 1
        stack := .int (work.record.counter name) :: fiber.stack } := by
  refine goes_of_executes reached rfl (fun _ => nofun) rfl (fun current found same => ?_)
  rw [execute, outcome_bind_ok (outcome_symbol named current),
    outcome_bind_ok (outcome_getThe current), outcome_onFiber found, ← same]
  rfl

theorem goes_jump {target : Address}
    (reached : program.instruction? fiber.pc = some (.jump target)) :
    work.Goes program fiber { fiber with pc := target } := by
  refine goes_of_executes reached rfl (fun _ => nofun) rfl (fun current found _ => ?_)
  rw [execute, outcome_onFiber found]
  rfl

theorem outcome_pop (fiber : Fiber) (value : Value) (stack : List Value) :
    outcome FiberWork.pop { fiber with stack := value :: stack } =
      (.ok value, { fiber with stack := stack }) := rfl

/-- Work on a fiber that has some values on its stack. -/
theorem outcome_onFiber_of_stack (found : work.fiber? fiber.id = some fiber)
    (holds : fiber.stack = stack) {α : Type} (fiberWork : FiberWork α)
    {result : Except MachineError α}
    (does : outcome fiberWork { fiber with stack := stack } = (result, changed)) :
    outcome (onFiber fiber.id fiberWork) work = (result, work.putFiber fiber.id changed) := by
  subst holds
  rw [outcome_onFiber found]
  rw [show ({ fiber with stack := fiber.stack } : Fiber) = fiber from rfl] at does
  rw [does]

theorem goes_equal (reached : program.instruction? fiber.pc = some .equal)
    (holds : fiber.stack = right :: left :: stack) :
    work.Goes program fiber
      { fiber with pc := fiber.pc + 1, stack := .bool (left == right) :: stack } := by
  refine goes_of_executes reached rfl (fun _ => nofun) rfl (fun current found _ => ?_)
  rw [execute]
  exact outcome_onFiber_of_stack found holds _ rfl

theorem goes_less {left right : Int64} (reached : program.instruction? fiber.pc = some .less)
    (holds : fiber.stack = .int right :: .int left :: stack) :
    work.Goes program fiber
      { fiber with pc := fiber.pc + 1, stack := .bool (decide (left < right)) :: stack } := by
  refine goes_of_executes reached rfl (fun _ => nofun) rfl (fun current found _ => ?_)
  rw [execute]
  exact outcome_onFiber_of_stack found holds _ rfl

theorem goes_negate (reached : program.instruction? fiber.pc = some .negate)
    (holds : fiber.stack = value :: stack) :
    work.Goes program fiber
      { fiber with pc := fiber.pc + 1, stack := .bool (!value.isTruthy) :: stack } := by
  refine goes_of_executes reached rfl (fun _ => nofun) rfl (fun current found _ => ?_)
  rw [execute]
  exact outcome_onFiber_of_stack found holds _ rfl

/-- An instruction that combines the truth of two values. -/
def Connects (instruction : Instruction Address) (connect : Bool -> Bool -> Bool) : Prop :=
  instruction = .conjoin ∧ connect = and ∨ instruction = .disjoin ∧ connect = or

theorem goes_connect {connect : Bool -> Bool -> Bool} (connects : Connects instruction connect)
    (reached : program.instruction? fiber.pc = some instruction)
    (holds : fiber.stack = right :: left :: stack) :
    work.Goes program fiber
      { fiber with
        pc := fiber.pc + 1
        stack := .bool (connect left.isTruthy right.isTruthy) :: stack } := by
  rcases connects with ⟨rfl, rfl⟩ | ⟨rfl, rfl⟩
  · refine goes_of_executes reached rfl (by rintro _ ⟨⟩) rfl (fun current found _ => ?_)
    rw [execute]
    exact outcome_onFiber_of_stack found holds _ rfl
  · refine goes_of_executes reached rfl (by rintro _ ⟨⟩) rfl (fun current found _ => ?_)
    rw [execute]
    exact outcome_onFiber_of_stack found holds _ rfl

theorem goes_branchIf {target : Address}
    (reached : program.instruction? fiber.pc = some (.branchIf target))
    (holds : fiber.stack = value :: stack) (truth : value.isTruthy = true) :
    work.Goes program fiber { fiber with pc := target, stack := stack } := by
  refine goes_of_executes reached rfl (fun _ => nofun) rfl (fun current found _ => ?_)
  rw [execute]
  refine outcome_onFiber_of_stack found holds _ ?_
  rw [FiberWork.branch, outcome_bind_ok (outcome_pop fiber value stack), truth]
  rfl

theorem passes_branchIf {target : Address}
    (reached : program.instruction? fiber.pc = some (.branchIf target))
    (holds : fiber.stack = value :: stack) (untrue : value.isTruthy = false) :
    work.Goes program fiber { fiber with pc := fiber.pc + 1, stack := stack } := by
  refine goes_of_executes reached rfl (fun _ => nofun) rfl (fun current found _ => ?_)
  rw [execute]
  refine outcome_onFiber_of_stack found holds _ ?_
  rw [FiberWork.branch, outcome_bind_ok (outcome_pop fiber value stack), untrue]
  rfl

/-! ## The code of conditions -/

section Conditions

variable (work) {layout : Layout}

/-- Truth values are combined one after the other. -/
def combined (connect : Bool -> Bool -> Bool) (truth : Bool)
    (conditions : List Condition) : Bool :=
  conditions.foldl (fun truth condition =>
    connect truth (condition.evaluate work.record.flags work.record.counters)) truth

theorem combined_and (truth : Bool) (conditions : List Condition) :
    work.combined and truth conditions =
      (truth && Condition.evaluateAll work.record.flags work.record.counters conditions) := by
  induction conditions generalizing truth with
  | nil => simp [combined, Condition.evaluateAll]
  | cons condition rest ih =>
    rw [Condition.evaluateAll, ← Bool.and_assoc]
    exact ih _

theorem combined_or (truth : Bool) (conditions : List Condition) :
    work.combined or truth conditions =
      (truth || Condition.evaluateAny work.record.flags work.record.counters conditions) := by
  induction conditions generalizing truth with
  | nil => simp [combined, Condition.evaluateAny]
  | cons condition rest ih =>
    rw [Condition.evaluateAny, ← Bool.or_assoc]
    exact ih _

/-- Some computation comes to an address with a value on top of the stack, and the value counts as
true if and only if it should. -/
def Pushes (program : Program) (fiber : Fiber) (address : Address)
    (stack : List Value) (truth : Bool) : Prop :=
  ∃ value : Value, value.isTruthy = truth ∧
    work.GoesTo program fiber { fiber with pc := address, stack := value :: stack }

mutual

/-- The code of a condition pushes a value for whether the condition holds. -/
theorem tests_go : (condition : Condition) -> {code : List (Instruction Address)} ->
    {fiber : Fiber} -> (program.references layout).Tests condition code ->
    program.HasCode fiber.pc code ->
    work.Pushes program fiber (fiber.pc + code.length) fiber.stack
      (condition.evaluate work.record.flags work.record.counters)
  | .flag name, code, fiber, tests, stands => by
    rw [References.Tests] at tests
    obtain ⟨flag, named, rfl⟩ := tests
    exact ⟨_, rfl, .single (goes_loadFlag stands.head named)⟩
  | .equals name value, code, fiber, tests, stands => by
    rw [References.Tests] at tests
    obtain ⟨flag, named, rfl⟩ := tests
    have loads := @goes_loadFlag program work fiber flag name stands.head named
    exact ⟨.bool (work.record.flag name == value), rfl, .tail (.tail (.single loads)
      (goes_push stands.tail.head)) (goes_equal stands.tail.tail.head rfl)⟩
  | .counterBelow name limit, code, fiber, tests, stands => by
    rw [References.Tests] at tests
    obtain ⟨counter, named, rfl⟩ := tests
    have loads := @goes_loadCounter program work fiber counter name stands.head named
    exact ⟨.bool (decide (work.record.counter name < limit)), rfl, .tail (.tail (.single loads)
      (goes_push stands.tail.head)) (goes_less stands.tail.tail.head rfl)⟩
  | .negation condition, code, fiber, tests, stands => by
    rw [References.Tests] at tests
    obtain ⟨test, tests, rfl⟩ := tests
    obtain ⟨value, truth, goes⟩ := tests_go condition tests stands.left
    rw [List.length_append, Condition.evaluate, ← truth]
    exact ⟨.bool (!value.isTruthy), rfl, goes.tail (goes_negate stands.right.head rfl)⟩
  | .all [], code, fiber, tests, stands => by
    rw [References.Tests] at tests
    subst tests
    exact ⟨.bool true, rfl, .single (goes_push stands.head)⟩
  | .any [], code, fiber, tests, stands => by
    rw [References.Tests] at tests
    subst tests
    exact ⟨.bool false, rfl, .single (goes_push stands.head)⟩
  | .all (first :: rest), code, fiber, tests, stands => by
    rw [References.Tests] at tests
    obtain ⟨test, others, tests, combines, rfl⟩ := tests
    obtain ⟨value, truth, goes⟩ := tests_go first tests stands.left
    obtain ⟨value', truth', goes'⟩ := combines_go rest
      { fiber with pc := fiber.pc + test.length, stack := value :: fiber.stack }
      (.inl ⟨rfl, rfl⟩) combines stands.right rfl
    rw [combined_and, truth] at truth'
    rw [List.length_append, ← Nat.add_assoc]
    exact ⟨value', truth', goes.trans goes'⟩
  | .any (first :: rest), code, fiber, tests, stands => by
    rw [References.Tests] at tests
    obtain ⟨test, others, tests, combines, rfl⟩ := tests
    obtain ⟨value, truth, goes⟩ := tests_go first tests stands.left
    obtain ⟨value', truth', goes'⟩ := combines_go rest
      { fiber with pc := fiber.pc + test.length, stack := value :: fiber.stack }
      (.inr ⟨rfl, rfl⟩) combines stands.right rfl
    rw [combined_or, truth] at truth'
    rw [List.length_append, ← Nat.add_assoc]
    exact ⟨value', truth', goes.trans goes'⟩

theorem combines_go : (conditions : List Condition) -> {code : List (Instruction Address)} ->
    (fiber : Fiber) -> {instruction : Instruction Address} -> {connect : Bool -> Bool -> Bool} ->
    {value : Value} -> {stack : List Value} -> Connects instruction connect ->
    (program.references layout).Combines instruction conditions code ->
    program.HasCode fiber.pc code -> fiber.stack = value :: stack ->
    work.Pushes program fiber (fiber.pc + code.length) stack
      (work.combined connect value.isTruthy conditions)
  | [], code, fiber, _, _, value, stack, _, combines, stands, holds => by
    rw [References.Combines] at combines
    subst combines
    refine ⟨value, rfl, ?_⟩
    rw [← holds]
    exact .refl
  | condition :: rest, _, fiber, _, connect, value, stack, connects, combines, stands, holds => by
    rw [References.Combines] at combines
    obtain ⟨test, others, tests, combines, rfl⟩ := combines
    obtain ⟨value', truth, goes⟩ := tests_go condition tests stands.left
    have connected := goes.tail
      (goes_connect connects stands.right.head (congrArg (List.cons value') holds))
    obtain ⟨last, truth', goes'⟩ := combines_go rest
      { fiber with
        pc := fiber.pc + test.length + 1
        stack := .bool (connect value.isTruthy value'.isTruthy) :: stack }
      connects combines stands.right.tail rfl
    rw [List.length_append, List.length_cons, ← Nat.add_assoc, ← Nat.succ_add_eq_add_succ]
    refine ⟨last, ?_, connected.trans goes'⟩
    rw [truth', truth]
    rfl

end

end Conditions

end UnitOfWork

end ProcessEngine
