import ProcessEngine.Job.Key
import ProcessEngine.Program.Instruction

/-!
# Waits

What a fiber that does not run is waiting for: a time, a message, a person, a job, the
first of several of these, or an operator who looks into an incident.
-/

namespace ProcessEngine

/-- What ends one arm of a race. -/
inductive ArmWaitTrigger where
  | timer (due : Instant)
  | message (name correlation : String)
deriving DecidableEq

/-- One arm of a race that a fiber waits for. -/
structure ArmWait where
  trigger : ArmWaitTrigger
  /-- Where the fiber goes on if the arm wins. -/
  target : Address
deriving DecidableEq

/-- What a fiber waits for. -/
inductive Wait where
  /-- Nothing: the fiber can run. -/
  | ready
  | timer (due : Instant)
  | message (name correlation : String)
  | human (task : String)
  | job (key : JobKey)
  | race (node : NodeKey) (arms : List ArmWait)
  | incident (id : IncidentId)
deriving DecidableEq

namespace ArmWait

/-- When the arm comes due by itself. -/
def due? (arm : ArmWait) : Option Instant :=
  match arm.trigger with
  | .timer due => some due
  | .message _ _ => none

/-- Whether a message ends the arm. -/
def awaits (arm : ArmWait) (name correlation : String) : Bool :=
  arm.trigger == .message name correlation

end ArmWait

namespace Wait

/-- Whether the fiber can run. -/
def isReady : Wait -> Bool
  | .ready => true
  | _ => false

/-- The short name of a wait. -/
def label : Wait -> String
  | .ready => "ready"
  | .timer _ => "timer"
  | .message _ _ => "message"
  | .human _ => "human"
  | .job _ => "job"
  | .race _ _ => "race"
  | .incident _ => "incident"

/-- The earlier of two instants. -/
def earlier (first second : Instant) : Instant := if second < first then second else first

/-- The first instant of a list to come. -/
def earliest? : List Instant -> Option Instant
  | [] => none
  | first :: rest => some (rest.foldl earlier first)

/-- When the wait ends by itself at the latest. -/
def due? : Wait -> Option Instant
  | .timer due => some due
  | .race _ arms => earliest? (arms.filterMap ArmWait.due?)
  | _ => none

/-- Whether a message ends the wait. -/
def awaits (wait : Wait) (name correlation : String) : Bool :=
  match wait with
  | .message name' correlation' => name' == name && correlation' == correlation
  | .race _ arms => arms.any (fun arm => arm.awaits name correlation)
  | _ => false

end Wait

instance : JsonCodec ArmWaitTrigger where
  encode
    | .timer due => Encode.tagged "kind" "timer" [("due_at", encode due)]
    | .message name correlation =>
      Encode.tagged "kind" "message" [("name", .text name), ("correlation", .text correlation)]
  reader := Decode.tagged "kind" [
    ("timer", do return .timer (<- Decode.field "due_at" reader)),
    ("message", do
      return .message (<- Decode.field "name" reader) (<- Decode.field "correlation" reader))]

instance : JsonCodec ArmWait where
  encode arm := .object [("trigger", encode arm.trigger), ("target", Encode.nat arm.target)]
  reader := Decode.record do
    return ⟨<- Decode.field "trigger" reader, <- Decode.field "target" Decode.nat32⟩

instance : JsonCodec Wait where
  encode wait := Encode.tagged "state" wait.label (match wait with
    | .ready => []
    | .timer due => [("due_at", encode due)]
    | .message name correlation => [("name", .text name), ("correlation", .text correlation)]
    | .human task => [("task", .text task)]
    | .job key => [("job_key", encode key)]
    | .race node arms => [("race", encode node), ("arms", Encode.list encode arms)]
    | .incident id => [("incident", encode id)])
  reader := Decode.tagged "state" [
    ("ready", return .ready),
    ("timer", do return .timer (<- Decode.field "due_at" reader)),
    ("message", do
      return .message (<- Decode.field "name" reader) (<- Decode.field "correlation" reader)),
    ("human", do return .human (<- Decode.field "task" reader)),
    ("job", do return .job (<- Decode.field "job_key" reader)),
    ("race", do
      return .race (<- Decode.field "race" reader) (<- Decode.field "arms" (Decode.list reader))),
    ("incident", do return .incident (<- Decode.field "incident" reader))]

end ProcessEngine
