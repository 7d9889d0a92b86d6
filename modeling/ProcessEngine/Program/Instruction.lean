import ProcessEngine.Value

/-!
# Instructions

The instructions of the machine that executes processes. Names are given by their
place in the symbol tables of the program. The type of jump targets is left open:
while code is assembled they are labels, in a finished program they are addresses.
-/

namespace ProcessEngine

/-- The place of an instruction in a program. -/
abbrev Address := Nat

/-- Where the wait for a message takes its correlation from. -/
inductive CorrelationSource where
  /-- The correlation of the instance. -/
  | processInstance
  /-- A register of the fiber. -/
  | register (index : Nat)
deriving DecidableEq, Repr

/-- Where a task goes on when it fails with a business error. -/
structure ErrorRoute (Target : Type) where
  code : String
  target : Target
deriving DecidableEq, Repr

/-- What wakes one arm of a race. -/
inductive ArmTrigger where
  | timer (duration : Nat)
  | message (name : Nat) (correlation : CorrelationSource)
deriving DecidableEq, Repr

/-- One arm of a race and where it leads. -/
structure ArmCode (Target : Type) where
  trigger : ArmTrigger
  target : Target
deriving DecidableEq, Repr

/-- Why code stops a fiber on purpose. -/
inductive RoutingFault where
  /-- No condition of a gateway that takes one flow holds. -/
  | noRoute (gateway : Nat)
  /-- No condition of a gateway that takes several flows holds. -/
  | noBranch (gateway : Nat)
deriving DecidableEq, Repr

/-- The gateway at which code stopped. -/
def RoutingFault.gateway : RoutingFault -> Nat
  | .noRoute gateway => gateway
  | .noBranch gateway => gateway

/-- An instruction of the machine. -/
inductive Instruction (Target : Type) where
  | push (value : Value)
  | pop
  | loadFlag (flag : Nat)
  | storeFlag (flag : Nat)
  | loadRegister (index : Nat)
  | storeRegister (index : Nat)
  | loadCounter (counter : Nat)
  /-- Counts a turn of a loop and begins a new epoch of the fiber. -/
  | incrementCounter (counter : Nat)
  | equal
  | less
  | negate
  | conjoin
  | disjoin
  | jump (target : Target)
  | branchIf (target : Target)
  | branchIfNot (target : Target)
  /-- Hands out a job and waits for its result. -/
  | dispatch (taskType node retries : Nat) (routes : List (ErrorRoute Target))
  | waitTimer (duration : Nat)
  | waitMessage (name : Nat) (correlation : CorrelationSource)
  | waitHuman (task : Nat)
  /-- Waits for the first of several triggers. -/
  | race (node : Nat) (arms : List (ArmCode Target))
  /-- Sets a timer that watches over the fiber. -/
  | watch (boundary duration : Nat) (interrupting : Bool) (target : Target)
  /-- Takes the timer away if it has not fired. -/
  | unwatch (boundary : Nat)
  /-- Splits the fiber into one for each target, which are expected at a join. -/
  | fork (join : Nat) (targets : List Target)
  /-- Splits the fiber into one for each target whose condition holds, or one for the default. -/
  | forkInclusive (join : Nat) (targets : List Target) (fallback : Option Target) (gateway : Nat)
  /-- Arrives at a join; the last fiber to arrive goes on. -/
  | join (node : Nat)
  /-- Ends the fiber. -/
  | finish
  /-- Ends the instance. -/
  | terminate
  /-- Stops the fiber on an incident. -/
  | fault (reason : RoutingFault)
deriving DecidableEq, Repr

/-- How many registers a fiber has. -/
def registerCount : Nat := 8

namespace Instruction

variable {Target : Type}

/-- The short name of an instruction. -/
def mnemonic : Instruction Target -> String
  | .push _ => "push"
  | .pop => "pop"
  | .loadFlag _ => "load_flag"
  | .storeFlag _ => "store_flag"
  | .loadRegister _ => "load_reg"
  | .storeRegister _ => "store_reg"
  | .loadCounter _ => "load_counter"
  | .incrementCounter _ => "inc_counter"
  | .equal => "eq"
  | .less => "lt"
  | .negate => "not"
  | .conjoin => "and"
  | .disjoin => "or"
  | .jump _ => "jump"
  | .branchIf _ => "br_if"
  | .branchIfNot _ => "br_if_not"
  | .dispatch _ _ _ _ => "dispatch"
  | .waitTimer _ => "wait_timer"
  | .waitMessage _ _ => "wait_message"
  | .waitHuman _ => "wait_human"
  | .race _ _ => "race"
  | .watch _ _ _ _ => "watch"
  | .unwatch _ => "unwatch"
  | .fork _ _ => "fork"
  | .forkInclusive _ _ _ _ => "fork_inclusive"
  | .join _ => "join"
  | .finish => "end"
  | .terminate => "end_terminate"
  | .fault _ => "fault"

/-- The targets that control may be sent to, besides the next instruction. -/
def targets : Instruction Target -> List Target
  | .jump target => [target]
  | .branchIf target => [target]
  | .branchIfNot target => [target]
  | .dispatch _ _ _ routes => routes.map ErrorRoute.target
  | .race _ arms => arms.map ArmCode.target
  | .watch _ _ _ target => [target]
  | .fork _ targets => targets
  | .forkInclusive _ targets fallback _ => targets ++ fallback.toList
  | _ => []

/-- The same instruction with every target replaced. -/
def mapTargets {Image : Type} (change : Target -> Image) : Instruction Target -> Instruction Image
  | .push value => .push value
  | .pop => .pop
  | .loadFlag flag => .loadFlag flag
  | .storeFlag flag => .storeFlag flag
  | .loadRegister index => .loadRegister index
  | .storeRegister index => .storeRegister index
  | .loadCounter counter => .loadCounter counter
  | .incrementCounter counter => .incrementCounter counter
  | .equal => .equal
  | .less => .less
  | .negate => .negate
  | .conjoin => .conjoin
  | .disjoin => .disjoin
  | .jump target => .jump (change target)
  | .branchIf target => .branchIf (change target)
  | .branchIfNot target => .branchIfNot (change target)
  | .dispatch taskType node retries routes =>
    .dispatch taskType node retries (routes.map (fun route => ⟨route.code, change route.target⟩))
  | .waitTimer duration => .waitTimer duration
  | .waitMessage name correlation => .waitMessage name correlation
  | .waitHuman task => .waitHuman task
  | .race node arms => .race node (arms.map (fun arm => ⟨arm.trigger, change arm.target⟩))
  | .watch boundary duration interrupting target =>
    .watch boundary duration interrupting (change target)
  | .unwatch boundary => .unwatch boundary
  | .fork partner targets => .fork partner (targets.map change)
  | .forkInclusive partner targets fallback gateway =>
    .forkInclusive partner (targets.map change) (fallback.map change) gateway
  | .join node => .join node
  | .finish => .finish
  | .terminate => .terminate
  | .fault reason => .fault reason

/-- Replacing targets replaces the targets that control may be sent to. -/
theorem targets_mapTargets {Image : Type} (change : Target -> Image)
    (instruction : Instruction Target) :
    (instruction.mapTargets change).targets = instruction.targets.map change := by
  cases instruction <;> simp [mapTargets, targets]
  case forkInclusive fallback _ => cases fallback <;> simp

/-- Whether the fiber waits after the instruction. -/
def suspends : Instruction Target -> Bool
  | .dispatch _ _ _ _ => true
  | .waitTimer _ => true
  | .waitMessage _ _ => true
  | .waitHuman _ => true
  | .race _ _ => true
  | _ => false

end Instruction

end ProcessEngine
