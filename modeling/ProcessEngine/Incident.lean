import ProcessEngine.Job.Key
import ProcessEngine.Program.Instruction

/-!
# Incidents

A lasting record of something that stopped a fiber: a job that failed too often or was
refused, a gateway with nowhere to go, or code that does not fit the state. It is open
until an operator resolves it, and it is resolved once.
-/

namespace ProcessEngine

/-- What an incident is about. -/
inductive FaultClass where
  | retryExhausted
  | unroutedBusinessError (code : String)
  | noRoute
  | machineFault
deriving DecidableEq, Repr

namespace FaultClass

/-- The short text of a class. -/
def text : FaultClass -> String
  | .retryExhausted => "retry_exhausted"
  | .unroutedBusinessError code => "unrouted_business_error(" ++ code ++ ")"
  | .noRoute => "no_route"
  | .machineFault => "vm_fault"

instance : JsonCodec FaultClass where
  encode
    | .retryExhausted => Encode.tagged "class" "retry_exhausted" []
    | .unroutedBusinessError code =>
      Encode.tagged "class" "unrouted_business_error" [("code", .text code)]
    | .noRoute => Encode.tagged "class" "no_route" []
    | .machineFault => Encode.tagged "class" "vm_fault" []
  reader := Decode.tagged "class" [
    ("retry_exhausted", return .retryExhausted),
    ("unrouted_business_error", do
      return .unroutedBusinessError (<- Decode.field "code" reader)),
    ("no_route", return .noRoute),
    ("vm_fault", return .machineFault)]

end FaultClass

/-- Whether an operator has dealt with an incident. -/
inductive IncidentStatus where
  | pending
  | resolved (resolution : String) (time : Instant)
deriving DecidableEq

instance : JsonCodec IncidentStatus where
  encode
    | .pending => Encode.tagged "status" "open" []
    | .resolved resolution time =>
      Encode.tagged "status" "resolved"
        [("resolution", .text resolution), ("resolved_at", encode time)]
  reader := Decode.tagged "status" [
    ("open", return .pending),
    ("resolved", do
      return .resolved (<- Decode.field "resolution" reader)
        (<- Decode.field "resolved_at" reader))]

/-- Something that stopped a fiber. -/
structure Incident where
  id : IncidentId
  owner : InstanceId
  fiber : FiberId
  /-- The address of the instruction at which the fiber stopped. -/
  address : Address
  /-- The node whose code holds the address. -/
  node : Option NodeKey
  kind : FaultClass
  message : String
  /-- The number of attempts that were made before. -/
  attempts : Nat
  jobKey : Option JobKey
  status : IncidentStatus
  raisedAt : Instant
deriving DecidableEq

namespace Incident

/-- An open incident. -/
def raise (id : IncidentId) (owner : InstanceId) (fiber : FiberId) (address : Address)
    (kind : FaultClass) (message : String) (now : Instant) : Incident where
  id := id
  owner := owner
  fiber := fiber
  address := address
  node := none
  kind := kind
  message := message
  attempts := 0
  jobKey := none
  status := .pending
  raisedAt := now

/-- Whether an operator has still to deal with the incident. -/
def isOpen (incident : Incident) : Bool := incident.status == .pending

/-- Resolves an open incident. -/
def resolve (incident : Incident) (resolution : String) (now : Instant) :
    Except LifecycleError Incident :=
  if incident.isOpen then .ok { incident with status := .resolved resolution now }
  else .error (.invalidTransition "resolved" "resolved")

instance : JsonCodec Incident where
  encode incident := .object [("id", encode incident.id), ("instance", encode incident.owner),
    ("fiber", encode incident.fiber), ("addr", Encode.nat incident.address),
    ("node", Encode.nullable encode incident.node), ("class", encode incident.kind),
    ("message", .text incident.message), ("retry_count", Encode.nat incident.attempts),
    ("job_key", Encode.nullable encode incident.jobKey), ("status", encode incident.status),
    ("raised_at", encode incident.raisedAt)]
  reader := Decode.record do
    return ⟨<- Decode.field "id" reader, <- Decode.field "instance" reader,
      <- Decode.field "fiber" reader, <- Decode.field "addr" Decode.nat32,
      <- Decode.optional "node" reader, <- Decode.field "class" reader,
      <- Decode.field "message" reader, <- Decode.field "retry_count" Decode.nat32,
      <- Decode.optional "job_key" reader, <- Decode.field "status" reader,
      <- Decode.field "raised_at" reader⟩

end Incident

end ProcessEngine
