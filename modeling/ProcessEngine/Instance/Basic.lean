import ProcessEngine.Digest.Sha256
import ProcessEngine.Instance.Status
import ProcessEngine.Program.Basic
import ProcessEngine.Identifier
import ProcessEngine.Time.Rfc3339

/-!
# Process instances

The record of one execution of a program: what it works on, the flags and counters
that route it, the joins that expect fibers, and a version that every change of the
stored state raises.
-/

namespace ProcessEngine

/-- The digest of a JSON value. -/
def Json.digest (value : Json) : String := Sha256.hex value.render

/-- Reads a free-form value, which is kept in canonical form. -/
def Decode.payload : Decode.Reader Json := fun _ json => some json.canonical

/-- One execution of a program. -/
structure ProcessInstance where
  id : InstanceId
  /-- The program that the instance executes from start to end. -/
  program : ProgramHash
  /-- What the instance works on. -/
  payload : Json
  /-- The digest of the payload. -/
  payloadDigest : String
  flags : Flags
  counters : Counters
  /-- How many fibers each join expects, for the joins that expect any. -/
  expected : OrderedMap NodeKey Nat
  /-- The name under which others know the instance. -/
  correlation : String
  /-- The number of the next fiber. -/
  nextSequence : Nat
  status : InstanceStatus
  /-- The version of the stored state. -/
  version : Nat
  createdAt : Instant
  updatedAt : Instant
  /-- When the instance ended. -/
  endedAt : Option Instant
deriving DecidableEq

namespace ProcessInstance

/-- A running instance in its first version. -/
def create (id : InstanceId) (program : ProgramHash) (payload : Json) (correlation : String)
    (now : Instant) : ProcessInstance where
  id := id
  program := program
  payload := payload
  payloadDigest := payload.digest
  flags := .empty
  counters := .empty
  expected := .empty
  correlation := correlation
  nextSequence := 0
  status := .running
  version := 0
  createdAt := now
  updatedAt := now
  endedAt := none

/-- Replaces the payload. -/
def setPayload (record : ProcessInstance) (payload : Json) : ProcessInstance :=
  { record with payload := payload, payloadDigest := payload.digest }

/-- Sets flags; other flags stay. -/
def mergeFlags (record : ProcessInstance) (flags : Flags) : ProcessInstance :=
  { record with flags := record.flags.merge flags }

/-- The value of a flag; a missing one is false. -/
def flag (record : ProcessInstance) (name : String) : Value := record.flags.getD name default

/-- The value of a counter; a missing one is zero. -/
def counter (record : ProcessInstance) (name : String) : Int64 := record.counters.getD name 0

/-- The number of the next fiber, and the instance after it is taken. -/
def takeSequence (record : ProcessInstance) : Nat × ProcessInstance :=
  (record.nextSequence, { record with nextSequence := record.nextSequence + 1 })

/-- Whether the instance still runs. -/
def isRunning (record : ProcessInstance) : Bool := record.status == .running

instance : JsonCodec ProcessInstance where
  encode record := .object [("id", encode record.id), ("program", encode record.program),
    ("payload", record.payload), ("payload_hash", .text record.payloadDigest),
    ("flags", record.flags.encode), ("counters", record.counters.encode),
    ("join_expected", Encode.map NodeKey.text Encode.nat record.expected),
    ("correlation_id", .text record.correlation),
    ("next_fiber_seq", Encode.nat record.nextSequence), ("status", encode record.status),
    ("version", Encode.nat record.version), ("created_at", encode record.createdAt),
    ("updated_at", encode record.updatedAt), ("ended_at", Encode.nullable encode record.endedAt)]
  reader := Decode.record do
    return ⟨<- Decode.field "id" reader, <- Decode.field "program" reader,
      <- Decode.field "payload" Decode.payload, <- Decode.field "payload_hash" reader,
      <- Decode.field "flags" Flags.reader, <- Decode.field "counters" Counters.reader,
      <- Decode.field "join_expected" (Decode.map NodeKey.ofText? Decode.nat32),
      <- Decode.field "correlation_id" reader, <- Decode.field "next_fiber_seq" Decode.nat64,
      <- Decode.field "status" reader, <- Decode.field "version" Decode.nat64,
      <- Decode.field "created_at" reader, <- Decode.field "updated_at" reader,
      <- Decode.optional "ended_at" reader⟩

end ProcessInstance

end ProcessEngine
