import ProcessEngine.Machine.Error
import ProcessEngine.Machine.Forking
import ProcessEngine.Machine.Halting
import ProcessEngine.Machine.Waiting

/-!
# Steps of the machine

What each instruction does. Computation on stack and registers is work on one fiber
(`FiberWork`); everything else is work on the instance (`Execution`). Work that fails
keeps what it has changed before.
-/

namespace ProcessEngine

/-- Work on one fiber, which may fail. -/
abbrev FiberWork := ExceptT MachineError (StateM Fiber)

namespace FiberWork

/-- Pushes a value. -/
def push (value : Value) : FiberWork Unit :=
  modify (fun fiber => { fiber with stack := value :: fiber.stack })

/-- Pops a value. -/
def pop : FiberWork Value := do
  let fiber <- get
  match fiber.stack with
  | [] => throw (.stackUnderflow fiber.pc)
  | value :: rest =>
    set { fiber with stack := rest }
    return value

/-- Pops a value that must be a number. -/
def popNumber : FiberWork Int64 := do
  let value <- pop
  match value.asInt? with
  | some number => return number
  | none => throw (.typeMismatch (<- get).pc value)

/-- Pops a value for each element of a list and tells which of them count as true; the topmost
value is the last element's. -/
def popChoices (count : Nat) : FiberWork (List Bool) :=
  (List.range count).foldlM (fun choices _ => do return (<- pop).isTruthy :: choices) []

/-- The value of a register. -/
def register (index : Nat) : FiberWork Value := do
  let fiber <- get
  match fiber.registers[index]? with
  | some value => return value
  | none => throw (.registerOutOfRange fiber.pc index)

/-- Sets a register. -/
def setRegister (index : Nat) (value : Value) : FiberWork Unit := do
  let fiber <- get
  if index < fiber.registers.length then
    set { fiber with registers := fiber.registers.set index value }
  else throw (.registerOutOfRange fiber.pc index)

/-- Goes on at an address. -/
def jump (target : Address) : FiberWork Unit := modify (fun fiber => { fiber with pc := target })

/-- Goes on at the next instruction. -/
def advance : FiberWork Unit := modify (fun fiber => { fiber with pc := fiber.pc + 1 })

/-- Pops a value and goes on at an address if it counts as wanted, else at the next
instruction. -/
def branch (wanted : Bool) (target : Address) : FiberWork Unit := do
  let value <- pop
  if value.isTruthy == wanted then jump target else advance

end FiberWork

/-- Work on an instance, which may fail. -/
abbrev Execution := ExceptT MachineError (StateM UnitOfWork)

namespace Execution

/-- Does work on one fiber. -/
def onFiber {α : Type} (id : FiberId) (fiberWork : FiberWork α) : Execution α := do
  let work <- getThe UnitOfWork
  match work.fiber? id with
  | none => throw (.missingFiber id)
  | some fiber =>
    let (result, changed) := fiberWork.run fiber
    set (work.putFiber id changed)
    liftExcept result

/-- The name that a reference of a program stands for. -/
def symbol (program : Program) (reference : SymbolReference) : Execution String :=
  match program.symbols.name? reference with
  | some name => return name
  | none => throw (.program (.unknownSymbol reference))

/-- The node of a number. -/
def node (program : Program) (index : Nat) : Execution NodeKey :=
  match program.symbols.node? index with
  | some key => return key
  | none => throw (.program (.unknownSymbol ⟨.node, index⟩))

/-- Replaces the unit of work by one that may fail to come about. -/
def replace (result : Except LifecycleError UnitOfWork) : Execution Unit :=
  match result with
  | .ok work => set work
  | .error error => throw (.lifecycle error)

/-- What a fiber waits for at one arm of a race. -/
def armWait (program : Program) (fiber : Fiber) (arm : ArmCode Address) : Execution ArmWait := do
  let work <- getThe UnitOfWork
  match arm.trigger with
  | .timer duration => return ⟨.timer (work.time.after duration), arm.target⟩
  | .message name correlation =>
    let name <- symbol program ⟨.message, name⟩
    let correlation <- liftExcept (correlation.resolve work.record fiber)
    return ⟨.message name correlation, arm.target⟩

open FiberWork in
/-- Executes an instruction that a fiber has reached. -/
def execute (program : Program) (fiber : Fiber) : Instruction Address -> Execution Unit
  | .push value => onFiber fiber.id (do push value; advance)
  | .pop => onFiber fiber.id (do let _ <- pop; advance)
  | .loadFlag flag => do
    let name <- symbol program ⟨.flag, flag⟩
    let value := (<- getThe UnitOfWork).record.flag name
    onFiber fiber.id (do push value; advance)
  | .storeFlag flag => do
    let name <- symbol program ⟨.flag, flag⟩
    let value <- onFiber fiber.id (do let value <- pop; advance; return value)
    modify (fun work => work.updateRecord (fun record =>
      { record with flags := record.flags.insert name value }))
  | .loadRegister index => onFiber fiber.id (do push (<- register index); advance)
  | .storeRegister index => onFiber fiber.id (do setRegister index (<- pop); advance)
  | .loadCounter counter => do
    let name <- symbol program ⟨.counter, counter⟩
    let value := (<- getThe UnitOfWork).record.counter name
    onFiber fiber.id (do push (.int value); advance)
  | .incrementCounter counter => do
    let name <- symbol program ⟨.counter, counter⟩
    onFiber fiber.id (do modify (fun fiber => { fiber with epoch := fiber.epoch + 1 }); advance)
    modify (fun work =>
      let value := work.record.counter name + 1
      (work.updateRecord (fun record =>
        { record with counters := record.counters.insert name value })).emit
          (.counterIncremented name value))
  | .equal => onFiber fiber.id (do
    let right <- pop
    let left <- pop
    push (.bool (left == right))
    advance)
  | .less => onFiber fiber.id (do
    let right <- popNumber
    let left <- popNumber
    push (.bool (decide (left < right)))
    advance)
  | .negate => onFiber fiber.id (do
    let value <- pop
    push (.bool (!value.isTruthy))
    advance)
  | .conjoin => onFiber fiber.id (do
    let right <- pop
    let left <- pop
    push (.bool (left.isTruthy && right.isTruthy))
    advance)
  | .disjoin => onFiber fiber.id (do
    let right <- pop
    let left <- pop
    push (.bool (left.isTruthy || right.isTruthy))
    advance)
  | .jump target => onFiber fiber.id (FiberWork.jump target)
  | .branchIf target => onFiber fiber.id (branch true target)
  | .branchIfNot target => onFiber fiber.id (branch false target)
  | .dispatch taskType node retries _ => do
    let taskType <- symbol program ⟨.taskType, taskType⟩
    let key <- Execution.node program node
    modify (fun work =>
      work.handOut fiber (.first work.record fiber key taskType retries work.time))
  | .waitTimer duration =>
    modify (fun work => work.suspend fiber (.timer (work.time.after duration)))
  | .waitMessage name correlation => do
    let name <- symbol program ⟨.message, name⟩
    let work <- getThe UnitOfWork
    let correlation <- liftExcept (correlation.resolve work.record fiber)
    set (work.suspend fiber (.message name correlation))
  | .waitHuman task => do
    let task <- symbol program ⟨.humanTask, task⟩
    modify (fun work => work.suspend fiber (.human task))
  | .race node arms => do
    let key <- Execution.node program node
    let arms <- arms.mapM (armWait program fiber)
    modify (fun work => work.suspend fiber (.race key arms))
  | .watch boundary duration interrupting target => do
    let key <- Execution.node program boundary
    modify (fun work => work.watchOver fiber key duration interrupting target)
  | .unwatch _ => do
    onFiber fiber.id advance
    modify (fun work => work.dropWatchdog fiber)
  | .fork join targets => do
    if targets.isEmpty then throw (.emptyFork fiber.pc)
    let key <- Execution.node program join
    modify (fun work => work.fork fiber key targets)
  | .forkInclusive join targets fallback gateway => do
    let choices <- onFiber fiber.id (popChoices targets.length)
    let chosen := ((targets.zip choices).filter Prod.snd).map Prod.fst
    let selected := if chosen.isEmpty then fallback.toList else chosen
    if selected.isEmpty then
      modify (fun work => work.raise program.symbols fiber.id fiber.pc .noRoute
        ((RoutingFault.noBranch gateway).message program.symbols))
    else do
      let key <- Execution.node program join
      modify (fun work => work.fork fiber key selected)
  | .join node => do
    let key <- Execution.node program node
    replace ((<- getThe UnitOfWork).arriveAt fiber key)
  | .finish => modify (fun work => (work.retire fiber.id).completeIfIdle)
  | .terminate => do
    let work <- getThe UnitOfWork
    replace (work.close .terminated
      (.instanceTerminated (program.symbols.nodeContaining? fiber.pc)))
  | .fault reason =>
    modify (fun work => work.raise program.symbols fiber.id fiber.pc .noRoute
      (reason.message program.symbols))

/-- Executes the instruction that a fiber has reached. -/
def step (program : Program) (id : FiberId) : Execution Unit := do
  match (<- getThe UnitOfWork).fiber? id with
  | none => throw (.missingFiber id)
  | some fiber =>
    match program.instruction? fiber.pc with
    | none => throw (.addressOutOfRange fiber.pc)
    | some instruction => execute program fiber instruction

end Execution

end ProcessEngine
