import ProcessEngine.Json.Decode
import ProcessEngine.Lifecycle

/-!
# Status of a job

A job is pending until a worker claims it; a claim that expires is claimed again, and
a failure makes the job pending again. It ends completed or cancelled, and a job that
was set aside as a dead letter may be put back or cancelled.
-/

namespace ProcessEngine

/-- The status of a job. -/
inductive JobStatus where
  | pending
  | claimed
  | completed
  | deadLettered
  | cancelled
deriving DecidableEq, Repr

namespace JobStatus

/-- The name of a status. -/
def name : JobStatus -> String
  | .pending => "pending"
  | .claimed => "claimed"
  | .completed => "completed"
  | .deadLettered => "dead_lettered"
  | .cancelled => "cancelled"

/-- The status of a name. -/
def ofName? : String -> Option JobStatus
  | "pending" => some .pending
  | "claimed" => some .claimed
  | "completed" => some .completed
  | "dead_lettered" => some .deadLettered
  | "cancelled" => some .cancelled
  | _ => none

/-- Whether a result of the job is still wanted. -/
def isOpen : JobStatus -> Bool
  | .pending => true
  | .claimed => true
  | _ => false

/-- Whether a job of a status may take another. -/
def canBecome : JobStatus -> JobStatus -> Bool
  | .pending, _ => true
  | .claimed, _ => true
  | .deadLettered, .pending => true
  | .deadLettered, .cancelled => true
  | _, _ => false

/-- Checks that a job of a status may take another. -/
def change (source target : JobStatus) : Except LifecycleError Unit :=
  if source.canBecome target then .ok ()
  else .error (.invalidTransition source.name target.name)

instance : JsonCodec JobStatus := ⟨fun status => .text status.name, Decode.choice ofName?⟩

end JobStatus

end ProcessEngine
