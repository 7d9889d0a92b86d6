import ProcessEngine.Job.Basic

/-!
# Dead letters

Jobs that were set aside for an operator, by task type and job key. They may be
dropped some time later.
-/

namespace ProcessEngine

/-- The place of a dead letter. -/
structure DeadLetterKey where
  taskType : String
  job : JobKey
deriving DecidableEq, Repr

namespace DeadLetterKey

/-- Dead letters are ordered by task type, and by job key within a type. -/
def compare : DeadLetterKey -> DeadLetterKey -> Ordering :=
  compareLex (compareOn taskType) (compareOn job)

instance : Ord DeadLetterKey := ⟨compare⟩
instance : Std.TransOrd DeadLetterKey := inferInstanceAs (Std.TransCmp (compareLex _ _))
instance : Std.LawfulEqOrd DeadLetterKey where
  compare_self := Std.ReflOrd.compare_self (α := DeadLetterKey)
  eq_of_compare := by
    intro left right same
    have parts := compareLex_eq_eq.1 same
    cases left
    cases right
    simp_all [compareOn]

instance : JsonCodec DeadLetterKey where
  encode place := .list [.text place.taskType, encode place.job]
  reader place json :=
    (Decode.pair reader reader place json).map (fun (taskType, job) => ⟨taskType, job⟩)

end DeadLetterKey

/-- A job set aside for an operator. -/
structure DeadLetter where
  taskType : String
  key : JobKey
  /-- The job as it was when it was set aside. -/
  job : Job
  reason : String
  incident : Option IncidentId
  deadLetteredAt : Instant
  /-- When the entry may be dropped. -/
  expiresAt : Instant
deriving DecidableEq

namespace DeadLetter

/-- The place of the entry. -/
def place (letter : DeadLetter) : DeadLetterKey := ⟨letter.taskType, letter.key⟩

/-- Whether the entry may be dropped. -/
def isExpired (letter : DeadLetter) (now : Instant) : Bool := decide (letter.expiresAt ≤ now)

instance : JsonCodec DeadLetter where
  encode letter := .object [("task_type", .text letter.taskType), ("job_key", encode letter.key),
    ("job", encode letter.job), ("reason", .text letter.reason),
    ("incident", Encode.nullable encode letter.incident),
    ("dead_lettered_at", encode letter.deadLetteredAt), ("expires_at", encode letter.expiresAt)]
  reader := Decode.record do
    return ⟨<- Decode.field "task_type" reader, <- Decode.field "job_key" reader,
      <- Decode.field "job" reader, <- Decode.field "reason" reader,
      <- Decode.optional "incident" reader, <- Decode.field "dead_lettered_at" reader,
      <- Decode.field "expires_at" reader⟩

end DeadLetter

end ProcessEngine
