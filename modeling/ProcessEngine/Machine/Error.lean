import ProcessEngine.Identifier
import ProcessEngine.Lifecycle
import ProcessEngine.Program.Listing

/-!
# Errors of the machine

Why an instruction cannot be executed. Except for a program that is not the instance's
own, these stop one fiber on an incident and not the machine.
-/

namespace ProcessEngine

/-- Why the machine cannot go on with a fiber. -/
inductive MachineError where
  /-- The instance executes another program than the machine. -/
  | programMismatch (expected found : ProgramHash)
  | addressOutOfRange (pc : Address)
  | stackUnderflow (pc : Address)
  /-- A number was needed. -/
  | typeMismatch (pc : Address) (found : Value)
  | registerOutOfRange (pc : Address) (index : Nat)
  | emptyFork (pc : Address)
  | missingFiber (id : FiberId)
  | program (error : ProgramError)
  | lifecycle (error : LifecycleError)
deriving DecidableEq

namespace MachineError

/-- The name of a kind of error. -/
def name : MachineError -> String
  | .programMismatch _ _ => "ProgramMismatch"
  | .addressOutOfRange _ => "PcOutOfRange"
  | .stackUnderflow _ => "StackUnderflow"
  | .typeMismatch _ _ => "TypeMismatch"
  | .registerOutOfRange _ _ => "BadRegister"
  | .emptyFork _ => "EmptyFork"
  | .missingFiber _ => "MissingFiber"
  | .program error => error.name
  | .lifecycle error => error.name

/-- The message for an instruction that cannot be executed. -/
def message : MachineError -> String
  | .programMismatch expected found =>
    "instance runs program " ++ expected.text ++ ", machine loaded " ++ found.text
  | .addressOutOfRange pc => "no instruction at " ++ Program.addressText pc
  | .stackUnderflow pc => "stack underflow at " ++ Program.addressText pc
  | .typeMismatch pc found => "type mismatch at " ++ Program.addressText pc ++
    ": expected int, found " ++ found.kindName
  | .registerOutOfRange pc index =>
    "register r" ++ toString index ++ " out of range at " ++ Program.addressText pc
  | .emptyFork pc => "fork without branches at " ++ Program.addressText pc
  | .missingFiber id => "fiber " ++ id.render ++ " not found"
  | .program error => error.message
  | .lifecycle error => error.message

end MachineError

end ProcessEngine
