import ProcessEngine.Json.Decode
import ProcessEngine.Lifecycle

/-!
# Status of an instance

An instance runs until its last path ends, an end node terminates it or an operator
cancels it. What has ended stays as it is.
-/

namespace ProcessEngine

/-- The status of a process instance. -/
inductive InstanceStatus where
  | running
  | completed
  | terminated
  | cancelled
deriving DecidableEq, Repr, Inhabited

namespace InstanceStatus

/-- The name of a status. -/
def name : InstanceStatus -> String
  | .running => "running"
  | .completed => "completed"
  | .terminated => "terminated"
  | .cancelled => "cancelled"

/-- The status of a name. -/
def ofName? : String -> Option InstanceStatus
  | "running" => some .running
  | "completed" => some .completed
  | "terminated" => some .terminated
  | "cancelled" => some .cancelled
  | _ => none

/-- The status of a name, or the message for a name of none. -/
def ofText (name : String) : Except String InstanceStatus :=
  match ofName? name with
  | some status => .ok status
  | none => .error ("unknown instance status: " ++ name)

/-- Whether the instance has ended. -/
def isTerminal : InstanceStatus -> Bool
  | .running => false
  | _ => true

/-- Whether the instance has ended at its own end nodes. -/
def isSuccess : InstanceStatus -> Bool
  | .completed => true
  | .terminated => true
  | _ => false

/-- Whether an instance of a status may take another: a running one may end in any way. -/
def canBecome (source target : InstanceStatus) : Bool := !source.isTerminal && target.isTerminal

/-- Checks that an instance of a status may take another. -/
def change (source target : InstanceStatus) : Except LifecycleError Unit :=
  if source.canBecome target then .ok ()
  else .error (.invalidTransition source.name target.name)

instance : JsonCodec InstanceStatus := ⟨fun status => .text status.name, Decode.choice ofName?⟩

end InstanceStatus

end ProcessEngine
