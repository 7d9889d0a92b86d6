import ProcessEngine.Machine.Step

/-!
# Runs of the machine

A run takes turns: the fiber that was made first among those that can run executes
instructions until it waits, splits or ends, then the next one does, until none can run, the
instance has ended or a given number of turns was taken. An instruction that cannot be
executed halts its fiber on an incident, so a run fails only when the instance belongs to
another program.
-/

namespace ProcessEngine

/-- Whether a fiber that executes the instruction goes on with its next one. -/
def Instruction.goesOn : Instruction Address -> Bool
  | .dispatch _ _ _ _ => false
  | .waitTimer _ => false
  | .waitMessage _ _ => false
  | .waitHuman _ => false
  | .race _ _ => false
  | .fork _ _ => false
  | .forkInclusive _ _ _ _ => false
  | .finish => false
  | .terminate => false
  | .fault _ => false
  | _ => true

/-- What came of a run. -/
structure RunReport where
  /-- How many instructions were executed. -/
  steps : Nat
  /-- Whether fibers could still run when the run ended. -/
  exhausted : Bool
deriving DecidableEq, Repr

namespace UnitOfWork

/-- Makes the first fiber of an instance. -/
def start (work : UnitOfWork) : FiberId × UnitOfWork := work.spawn 0 none

/-- The fiber whose turn it is. -/
def nextFiber? (work : UnitOfWork) : Option FiberId :=
  if work.record.isRunning then work.state.readyFibers.head? else none

/-- Whether a fiber would be the last one to arrive at a join. -/
def satisfies (work : UnitOfWork) (fiber : Fiber) (join : NodeKey) : Bool :=
  match (fiber.tickets.find? (isFor join)).map work.arrive with
  | some (.ok (.satisfied _, _)) => true
  | _ => false

/-- Whether a fiber goes on after the instruction that it has reached, if that can be executed; at
a join only the last fiber to arrive does. -/
def keepsTurn (program : Program) (id : FiberId) (work : UnitOfWork) : Bool :=
  (work.fiber? id).any (fun fiber =>
    match program.instruction? fiber.pc with
    | some (.join node) => (program.symbols.node? node).any (work.satisfies fiber)
    | some instruction => instruction.goesOn
    | none => false)

/-- Lets a fiber take a turn; yields the fiber if the next turn is its own. -/
def play (program : Program) (id : FiberId) (work : UnitOfWork) : Option FiberId × UnitOfWork :=
  match (Execution.step program id).run work with
  | (.ok (), after) => (if keepsTurn program id work then some id else none, after)
  | (.error error, after) => (none,
    after.raise program.symbols id ((after.fiber? id).elim 0 Fiber.pc) .machineFault error.message)

/-- Lets a fiber take a turn. -/
def turn (program : Program) (id : FiberId) (work : UnitOfWork) : UnitOfWork :=
  (play program id work).2

/-- Takes turns, at most the given number; some were taken before. The first one is the given
fiber's, if there is one. -/
def takeTurnsFrom (program : Program) :
    Nat -> Nat -> Option FiberId -> UnitOfWork -> RunReport × UnitOfWork
  | 0, taken, holder, work => (⟨taken, (holder.or work.nextFiber?).isSome⟩, work)
  | remaining + 1, taken, holder, work =>
    match holder.or work.nextFiber? with
    | none => (⟨taken, false⟩, work)
    | some id =>
      let (holder, after) := play program id work
      takeTurnsFrom program remaining (taken + 1) holder after

/-- Takes turns, at most the given number; some were taken before. -/
def takeTurns (program : Program) (remaining taken : Nat) (work : UnitOfWork) :
    RunReport × UnitOfWork :=
  takeTurnsFrom program remaining taken none work

/-- Executes at most the given number of instructions, but at least one if a fiber can run. -/
def run (work : UnitOfWork) (program : Program) (maximumSteps : Nat) :
    Except MachineError (RunReport × UnitOfWork) :=
  if work.record.program = program.hash then .ok (takeTurns program (max 1 maximumSteps) 0 work)
  else .error (.programMismatch work.record.program program.hash)

end UnitOfWork

end ProcessEngine
