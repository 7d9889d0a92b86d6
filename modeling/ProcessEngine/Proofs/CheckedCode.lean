import ProcessEngine.Proofs.AssembledCode

/-!
# Code that suits its stack

Code is checked by following it once with what is known of the values on the stack
(`Instruction.Checks`): every instruction finds the values that it pops, registers exist, fibers
wait and begin elsewhere with an empty stack, and control does not run off the end of the code. A
program is checked if all code that control may be sent to is checked (`Program.Checked`). What a
graph is lowered to always is (`Program.Carries.checked`), because conditions leave one value on the
stack each and everything else begins and ends without any.
-/

namespace ProcessEngine

/-- What is known of a value on a stack. -/
inductive Slot where
  | any
  | number
deriving DecidableEq

namespace Slot

/-- What is known of a value. -/
def ofValue : Value -> Slot
  | .int _ => number
  | _ => any

/-- The value is as it is known to be. -/
def Holds : Slot -> Value -> Prop
  | any, _ => True
  | number, value => ∃ found, value.asInt? = some found

theorem holds_ofValue (value : Value) : (ofValue value).Holds value := by
  cases value with
  | int number => exact ⟨number, rfl⟩
  | bool _ => trivial
  | text _ => trivial

end Slot

/-- The register that a correlation is taken from exists. -/
def CorrelationSource.Exists : CorrelationSource -> Prop
  | .processInstance => True
  | .register index => index < registerCount

/-- The register that the correlation of an arm is taken from exists. -/
def ArmTrigger.Exists : ArmTrigger -> Prop
  | .timer _ => True
  | .message _ source => source.Exists

namespace Instruction

variable {Target : Type}

/-- Control may go on at the next instruction, with other values on the stack. Where it is sent to
instead, and while the fiber waits, the stack is empty. -/
inductive Passes : Instruction Target -> List Slot -> List Slot -> Prop where
  | push {slots} (value : Value) : Passes (.push value) slots (.ofValue value :: slots)
  | pop {slot slots} : Passes .pop (slot :: slots) slots
  | loadFlag {slots flag} : Passes (.loadFlag flag) slots (.any :: slots)
  | storeFlag {slot slots flag} : Passes (.storeFlag flag) (slot :: slots) slots
  | loadRegister {slots index} (free : index < registerCount) :
    Passes (.loadRegister index) slots (.any :: slots)
  | storeRegister {slot slots index} (free : index < registerCount) :
    Passes (.storeRegister index) (slot :: slots) slots
  | loadCounter {slots counter} : Passes (.loadCounter counter) slots (.number :: slots)
  | incrementCounter {slots counter} : Passes (.incrementCounter counter) slots slots
  | equal {right left slots} : Passes .equal (right :: left :: slots) (.any :: slots)
  | less {slots} : Passes .less (.number :: .number :: slots) (.any :: slots)
  | negate {slot slots} : Passes .negate (slot :: slots) (.any :: slots)
  | conjoin {right left slots} : Passes .conjoin (right :: left :: slots) (.any :: slots)
  | disjoin {right left slots} : Passes .disjoin (right :: left :: slots) (.any :: slots)
  | branchIf {slot target} : Passes (.branchIf target) [slot] []
  | branchIfNot {slot target} : Passes (.branchIfNot target) [slot] []
  | dispatch {taskType node retries routes} : Passes (.dispatch taskType node retries routes) [] []
  | waitTimer {duration} : Passes (.waitTimer duration) [] []
  | waitMessage {name source} (free : source.Exists) : Passes (.waitMessage name source) [] []
  | waitHuman {task} : Passes (.waitHuman task) [] []
  | watch {slots boundary duration interrupting target} :
    Passes (.watch boundary duration interrupting target) slots slots
  | unwatch {slots boundary} : Passes (.unwatch boundary) slots slots
  | join {slots node} : Passes (.join node) slots slots

/-- Control never goes on at the next instruction. -/
inductive Leaves : Instruction Target -> List Slot -> Prop where
  | jump {target} : Leaves (.jump target) []
  | race {node arms} (free : ∀ arm ∈ arms, arm.trigger.Exists) : Leaves (.race node arms) []
  | fork {slots join targets} (branches : targets ≠ []) : Leaves (.fork join targets) slots
  | forkInclusive {slots join targets fallback gateway} (choices : slots.length = targets.length) :
    Leaves (.forkInclusive join targets fallback gateway) slots
  | finish {slots} : Leaves .finish slots
  | terminate {slots} : Leaves .terminate slots
  | fault {reason} : Leaves (.fault reason) []

/-- Code that can be executed with a stack of which so much is known. -/
inductive Checks : List Slot -> List (Instruction Target) -> Prop where
  | passes {slots next instruction rest} (passes : instruction.Passes slots next)
    (after : Checks next rest) : Checks slots (instruction :: rest)
  | leaves {slots instruction rest} (leaves : instruction.Leaves slots) :
    Checks slots (instruction :: rest)

end Instruction

open Instruction

/-! ## The code of nodes is checked -/

namespace References

variable {Target : Type} {references : References Target}

mutual

/-- The code of a condition leaves one value on the stack. -/
theorem Tests.checks : (condition : Condition) -> {code rest : List (Instruction Target)} ->
    {slots : List Slot} -> references.Tests condition code -> Checks (.any :: slots) rest ->
    Checks slots (code ++ rest)
  | .flag name, code, rest, slots, tests, after => by
    rw [Tests] at tests
    obtain ⟨flag, -, rfl⟩ := tests
    exact .passes .loadFlag after
  | .equals name value, code, rest, slots, tests, after => by
    rw [Tests] at tests
    obtain ⟨flag, -, rfl⟩ := tests
    exact .passes .loadFlag (.passes (.push value) (.passes .equal after))
  | .counterBelow name limit, code, rest, slots, tests, after => by
    rw [Tests] at tests
    obtain ⟨counter, -, rfl⟩ := tests
    exact .passes .loadCounter (.passes (.push (.int limit)) (.passes .less after))
  | .negation condition, code, rest, slots, tests, after => by
    rw [Tests] at tests
    obtain ⟨test, tests, rfl⟩ := tests
    rw [List.append_assoc]
    exact Tests.checks condition tests (.passes .negate after)
  | .all [], code, rest, slots, tests, after => by
    rw [Tests] at tests
    subst tests
    exact .passes (.push (.bool true)) after
  | .any [], code, rest, slots, tests, after => by
    rw [Tests] at tests
    subst tests
    exact .passes (.push (.bool false)) after
  | .all (first :: others), code, rest, slots, tests, after => by
    rw [Tests] at tests
    obtain ⟨test, tests, holds, folds, rfl⟩ := tests
    rw [List.append_assoc]
    exact Tests.checks first holds (Combines.checks .conjoin others folds after)
  | .any (first :: others), code, rest, slots, tests, after => by
    rw [Tests] at tests
    obtain ⟨test, tests, holds, folds, rfl⟩ := tests
    rw [List.append_assoc]
    exact Tests.checks first holds (Combines.checks .disjoin others folds after)

/-- Combining a value with those of further conditions leaves one value on the stack. -/
theorem Combines.checks {combine : Instruction Target}
    (combines : ∀ {right left slots}, combine.Passes (right :: left :: slots) (.any :: slots)) :
    (conditions : List Condition) -> {code rest : List (Instruction Target)} ->
    {slots : List Slot} -> references.Combines combine conditions code ->
    Checks (.any :: slots) rest -> Checks (.any :: slots) (code ++ rest)
  | [], code, rest, slots, folds, after => by
    rw [Combines] at folds
    subst folds
    exact after
  | condition :: others, code, rest, slots, folds, after => by
    rw [Combines] at folds
    obtain ⟨test, tests, holds, folds, rfl⟩ := folds
    rw [List.append_assoc]
    exact Tests.checks condition holds
      (.passes combines (Combines.checks combines others folds after))

end

variable {verified : VerifiedGraph} {key : NodeKey} {code rest : List (Instruction Target)}
  {slots : List Slot}

theorem Correlates.exists {register : Nat} {flag : Option String} {source : CorrelationSource}
    (correlates : references.Correlates register flag source code) : source.Exists := by
  cases correlates with
  | ofInstance => trivial
  | ofFlag _ free => exact free

theorem Correlates.checks {register : Nat} {flag : Option String} {source : CorrelationSource}
    (correlates : references.Correlates register flag source code) (after : Checks slots rest) :
    Checks slots (code ++ rest) := by
  cases correlates with
  | ofInstance => exact after
  | ofFlag _ free => exact .passes .loadFlag (.passes (.storeRegister free) after)

theorem Onward.checks (onward : references.Onward verified key code) : Checks [] code := by
  cases onward with
  | jump => exact .leaves .jump

theorem Guarded.checks {wait : List (Instruction Target)}
    (checks : ∀ {rest}, Checks [] rest -> Checks [] (wait ++ rest))
    (guarded : references.Guarded verified key wait code) (after : Checks [] rest) :
    Checks [] (code ++ rest) := by
  cases guarded with
  | alone => exact checks after
  | watched =>
    rw [List.cons_append, List.cons_append, List.append_assoc]
    exact .passes .watch (checks (.passes .unwatch after))

theorem Branch.checks {place : Flow × Nat} (branch : references.Branch key place code)
    (after : Checks [] rest) : Checks [] (code ++ rest) := by
  cases branch with
  | always => exact .leaves .jump
  | tested _ tests _ =>
    rw [List.append_assoc]
    exact Tests.checks _ tests (.passes .branchIf after)

theorem checks_branches {places : List (Flow × Nat)} {branches : List (List (Instruction Target))}
    (each : List.Forall₂ (references.Branch key) places branches) (after : Checks [] rest) :
    Checks [] (branches.flatten ++ rest) := by
  induction each with
  | nil => exact after
  | cons branch _ ih =>
    rw [List.flatten_cons, List.append_assoc]
    exact branch.checks ih

theorem Choice.checks {place : Flow × Nat} (choice : references.Choice place code)
    (after : Checks (.any :: slots) rest) : Checks slots (code ++ rest) := by
  cases choice with
  | always => exact .passes (.push (.bool true)) after
  | tested _ tests => exact Tests.checks _ tests after

/-- Each choice leaves one value on the stack. -/
theorem checks_choices {places : List (Flow × Nat)} {choices : List (List (Instruction Target))}
    (each : List.Forall₂ references.Choice places choices)
    (after : ∀ later : List Slot, later.length = slots.length + places.length ->
      Checks later rest) : Checks slots (choices.flatten ++ rest) := by
  induction each generalizing slots with
  | nil => exact after slots rfl
  | cons choice _ ih =>
    rw [List.flatten_cons, List.append_assoc]
    refine choice.checks (ih (fun later counted => after later ?_))
    rw [List.length_cons] at counted ⊢
    omega

theorem Arms.exists {register : Nat} {arms : List RaceArm} {codes : List (ArmCode Target)}
    (each : references.Arms verified key register arms code codes) :
    ∀ arm ∈ codes, arm.trigger.Exists := by
  induction each with
  | none => simp
  | timer _ _ _ _ ih => exact List.forall_mem_cons.2 ⟨trivial, ih⟩
  | message _ _ _ _ correlates _ ih => exact List.forall_mem_cons.2 ⟨correlates.exists, ih⟩

theorem Arms.checks {register : Nat} {arms : List RaceArm} {codes : List (ArmCode Target)}
    (each : references.Arms verified key register arms code codes) (after : Checks slots rest) :
    Checks slots (code ++ rest) := by
  induction each with
  | none => exact after
  | timer _ _ _ _ ih => exact ih
  | message _ _ _ _ correlates _ ih =>
    rw [List.append_assoc]
    exact correlates.checks ih

/-- The code of a node of a verified graph is checked. -/
theorem NodeCode.checks {node : Node} (found : verified.graph.node? key = some node)
    (shaped : references.NodeCode verified key node.kind code) : Checks [] code := by
  obtain ⟨name, kind⟩ := node
  cases shaped with
  | start onward => exact onward.checks
  | boundaryTimer onward => exact onward.checks
  | finish => exact .leaves .finish
  | terminate => exact .leaves .terminate
  | serviceTask _ _ _ guarded onward => exact guarded.checks (.passes .dispatch) onward.checks
  | exclusive each _ => exact checks_branches each (.leaves .jump)
  | exclusiveOrFault each _ _ => exact checks_branches each (.leaves .fault)
  | parallel _ _ each =>
    refine .leaves (.fork ?_)
    rintro rfl
    cases flows : Lowering.flowsOf verified key with
    | nil => exact (VerifiedGraph.chooses found trivial).1 flows
    | cons =>
      rw [flows] at each
      cases each
  | inclusive _ _ _ chosen each _ =>
    refine checks_choices chosen (fun later counted => .leaves (.forkInclusive ?_))
    rw [counted, ← each.length_eq, List.length_nil, Nat.zero_add]
  | join _ onward => exact .passes .join onward.checks
  | timerWait onward => exact .passes .waitTimer onward.checks
  | messageWait _ correlates guarded onward =>
    refine guarded.checks (fun after => ?_) onward.checks
    rw [List.append_assoc]
    exact correlates.checks (.passes (.waitMessage correlates.exists) after)
  | humanWait _ guarded onward => exact guarded.checks (.passes .waitHuman) onward.checks
  | race _ each => exact each.checks (.leaves (.race each.exists))

end References

/-! ## Programs are checked -/

namespace Program

variable (program : Program)

/-- A fiber with an empty stack may go on at the address. -/
def Accepts (address : Address) : Prop := ∃ code, program.HasCode address code ∧ Checks [] code

/-- All code that control may be sent to is checked, and all names exist. -/
structure Checked : Prop where
  start : program.Accepts 0
  targets : ∀ {instruction}, instruction ∈ program.instructions ->
    ∀ target ∈ instruction.targets, program.Accepts target
  entries : ∀ {key entry}, program.entry? key = some entry -> program.Accepts entry
  /-- Some node begins where the program does. -/
  first : ∃ key, program.entry? key = some 0
  known : ∀ {instruction}, instruction ∈ program.instructions ->
    ∀ reference ∈ instruction.symbols, (program.symbols.name? reference).isSome = true

variable {program}

theorem HasCode.mem {address : Address} {instruction : Instruction Address}
    {rest : List (Instruction Address)} (stands : program.HasCode address (instruction :: rest)) :
    instruction ∈ program.instructions := List.mem_of_getElem? stands.head

namespace Carries

variable {verified : VerifiedGraph} {blocks : List (NodeKey × List (Instruction Address))}
  {stubs : List (List (Instruction Address))} (carries : program.Carries verified blocks stubs)

include carries

theorem accepts_entry {key : NodeKey} {entry : Address} (found : program.entry? key = some entry) :
    program.Accepts entry := by
  obtain ⟨node, present⟩ := Option.isSome_iff_exists.1
    ((OrderedMap.contains_eq_isSome verified.graph.table key).symm.trans
      ((carries.entries key).1 (Option.isSome_iff_exists.2 ⟨entry, found⟩)))
  obtain ⟨_, code, found', stands, shaped⟩ := carries.block_of_node present
  cases found.symm.trans found'
  exact ⟨code, stands, shaped.checks present⟩

theorem knowsAccepted (key : NodeKey) : (program.references verified.layout).KnowsTargets
    program.Accepts (fun _ => True) verified key where
  joins _ _ _ _ := trivial
  begins _ _ _ found := carries.accepts_entry found
  leads place _ address leads := by
    simp only [references] at leads
    split at leads
    · obtain ⟨counter, entry, -, -, stands⟩ := leads
      exact ⟨_, stands, .passes .incrementCounter (.leaves .jump)⟩
    · exact carries.accepts_entry leads

theorem exists_first : ∃ key, program.entry? key = some 0 := by
  have listed := verified.mem_order_iff.2 verified.contains_start
  rw [← carries.order] at listed
  cases blocks with
  | nil => cases listed
  | cons block rest => exact ⟨block.1, carries.placed [] block rest rfl⟩

/-- A program that carries the flows of a verified graph is checked. -/
theorem checked : program.Checked := by
  obtain ⟨first, begins⟩ := carries.exists_first
  refine ⟨carries.accepts_entry begins, fun {instruction} listed => ?_, carries.accepts_entry,
    ⟨first, begins⟩, fun {instruction} listed =>
      ((problem?_eq_none_iff.1 carries.problem?_eq_none).2.1 instruction listed).2⟩
  rw [carries.instructions] at listed
  rcases List.mem_append.1 listed with inBlock | inStub
  · obtain ⟨block, among, within⟩ := List.mem_flatMap.1 inBlock
    obtain ⟨node, -, shaped⟩ := carries.shaped block among
    exact (shaped.refers (carries.knowsAccepted block.1) instruction within).1
  · obtain ⟨stub, among, within⟩ := List.mem_flatten.1 inStub
    obtain ⟨target, counter, entry, -, -, found, rfl⟩ := carries.counted stub among
    rcases List.mem_cons.1 within with rfl | last
    · simp [Instruction.targets]
    · cases List.mem_singleton.1 last
      simpa [Instruction.targets] using carries.accepts_entry found

end Carries

end Program

/-- What a graph is compiled to is checked. -/
theorem ProcessGraph.checked_of_compile {graph : ProcessGraph} {program : Program}
    (compiled : graph.compile = .ok program) : program.Checked := by
  obtain ⟨verified, -, blocks, stubs, carries⟩ := VerifiedGraph.carries_of_compile compiled
  exact carries.checked

end ProcessEngine
