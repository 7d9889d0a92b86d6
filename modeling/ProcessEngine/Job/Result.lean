import ProcessEngine.Job.Basic

/-!
# Results of jobs

What a worker reports: a completion with flags and perhaps a new payload, or a failure
that is either passing or has a business error code. The first completion that is
reported for a job is recorded, applied or not.
-/

namespace ProcessEngine

/-- The result of a job that was done. -/
structure JobCompletion where
  /-- Flags to set. -/
  flags : Flags := .empty
  /-- What the instance works on from then on, if it changes. -/
  payload : Option Json := none
deriving DecidableEq, Inhabited

/-- Why a job was not done. -/
inductive FailureKind where
  /-- Another attempt may succeed. -/
  | transient
  /-- The work was refused for a reason that error routes know. -/
  | business (code : String)
deriving DecidableEq, Repr

/-- The result of a job that was not done. -/
structure JobFailure where
  kind : FailureKind
  message : String
deriving DecidableEq, Repr

/-- The first completion that was reported for a job. -/
structure CompletionRecord where
  key : JobKey
  completion : JobCompletion
  /-- Whether the completion had an effect. -/
  applied : Bool
  recordedAt : Instant
deriving DecidableEq

instance : JsonCodec JobCompletion where
  encode completion := .object [("flags", completion.flags.encode),
    ("payload", Encode.nullable id completion.payload)]
  reader := Decode.record do
    return ⟨<- Decode.fieldOr "flags" .empty Flags.reader,
      <- Decode.optional "payload" Decode.payload⟩

instance : JsonCodec FailureKind where
  encode
    | .transient => Encode.tagged "kind" "transient" []
    | .business code => Encode.tagged "kind" "business" [("code", .text code)]
  reader := Decode.tagged "kind" [
    ("transient", return .transient),
    ("business", do return .business (<- Decode.field "code" reader))]

instance : JsonCodec JobFailure where
  encode problem := .object [("kind", encode problem.kind), ("message", .text problem.message)]
  reader := Decode.record do
    return ⟨<- Decode.field "kind" reader, <- Decode.field "message" reader⟩

instance : JsonCodec CompletionRecord where
  encode record := .object [("job_key", encode record.key),
    ("completion", encode record.completion), ("applied", .bool record.applied),
    ("recorded_at", encode record.recordedAt)]
  reader := Decode.record do
    return ⟨<- Decode.field "job_key" reader, <- Decode.field "completion" reader,
      <- Decode.field "applied" reader, <- Decode.field "recorded_at" reader⟩

end ProcessEngine
