import ProcessEngine.DeadLetter
import ProcessEngine.Instance.Status
import ProcessEngine.Lowering.Error
import ProcessEngine.Machine.Error
import ProcessEngine.Store.Error

/-!
# Errors of the engine

Mistakes of those who call the engine, and failures of its store. What goes wrong inside
a process is no error of the engine: it becomes an incident of the fiber.
-/

namespace ProcessEngine

/-- Why the engine cannot do what it is asked. -/
inductive EngineError where
  | unknownInstance (id : InstanceId)
  | unknownProgram (hash : ProgramHash)
  | unknownJob (key : JobKey)
  | unknownIncident (id : IncidentId)
  | unknownDeadLetter (place : DeadLetterKey)
  /-- Only a running instance can be changed like this. -/
  | notRunning (id : InstanceId) (status : InstanceStatus)
  | alreadyResolved (id : IncidentId)
  /-- The fiber of a dead letter does not wait for an operator. -/
  | orphanedDeadLetter (key : JobKey)
  /-- Others changed the instance during every attempt. -/
  | contention (id : InstanceId) (attempts : Nat)
  | compile (error : CompileError)
  | program (error : ProgramError)
  | machine (error : MachineError)
  | lifecycle (error : LifecycleError)
  | store (error : StoreError)
deriving DecidableEq

namespace EngineError

/-- The name of a kind of error. -/
def name : EngineError -> String
  | .unknownInstance _ => "UnknownInstance"
  | .unknownProgram _ => "UnknownProgram"
  | .unknownJob _ => "UnknownJob"
  | .unknownIncident _ => "UnknownIncident"
  | .unknownDeadLetter _ => "UnknownDeadLetter"
  | .notRunning _ _ => "NotRunning"
  | .alreadyResolved _ => "AlreadyResolved"
  | .orphanedDeadLetter _ => "OrphanedDeadLetter"
  | .contention _ _ => "Contention"
  | .compile _ => "Compile"
  | .program error => error.name
  | .machine error => error.name
  | .lifecycle error => error.name
  | .store error => error.name

/-- The message for a request that cannot be met. -/
def message : EngineError -> String
  | .unknownInstance id => "instance not found: " ++ id.render
  | .unknownProgram hash => "program not found: " ++ hash.text
  | .unknownJob key => "job not found: " ++ key.text
  | .unknownIncident id => "incident not found: " ++ id.render
  | .unknownDeadLetter place =>
    "dead letter not found: " ++ place.taskType ++ "/" ++ place.job.text
  | .notRunning id status => "instance " ++ id.render ++ " is " ++ status.name
  | .alreadyResolved id => "incident " ++ id.render ++ " is already resolved"
  | .orphanedDeadLetter key => "fiber of dead-lettered job " ++ key.text ++ " is gone"
  | .contention id attempts => "instance " ++ id.render ++ " still conflicting after " ++
    toString attempts ++ " attempts"
  | .compile error => error.message
  | .program error => error.message
  | .machine error => error.message
  | .lifecycle error => error.message
  | .store error => error.message

/-- Whether another attempt on the present state may succeed. -/
def isConflict : EngineError -> Bool
  | .store error => error.isConflict
  | _ => false

end EngineError

end ProcessEngine
