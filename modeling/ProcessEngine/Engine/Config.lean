import ProcessEngine.Number.Fraction
import ProcessEngine.Retry
import ProcessEngine.Text.Blank

/-!
# Configuration of an engine

How much an engine does at a time and how long things last, with a default for every
setting. Settings are read from an object or from named texts, of which the ones that
cannot be read are ignored.
-/

namespace ProcessEngine

/-- The settings of an engine. Durations are in milliseconds. -/
structure EngineConfig where
  workers : Nat := 4
  /-- How many instructions are executed before the state is stored. -/
  maximumSteps : Nat := 10000
  /-- How long a claimed job is not handed to another worker. -/
  claimLease : Nat := 30000
  /-- How long a dead letter is kept. -/
  deadLetterLifetime : Nat := 604800000
  retry : RetryPolicy := default
  /-- How often a change is tried when others change the same instance. -/
  commitAttempts : Nat := 5
  queueCapacity : Nat := 1024
  tick : Nat := 1000
  /-- Whether the workers fire timers. -/
  sweepTimers : Bool := false
deriving Inhabited

namespace EngineConfig

/-- Replaces a setting by a text that can be read. -/
def override {α : Type} (read? : String -> Option α) (given : Option String) (current : α) : α :=
  ((given >>= fun text => read? (Text.trim text))).getD current

/-- Reads a truth value. -/
def truth? : String -> Option Bool
  | "true" => some true
  | "false" => some false
  | _ => none

/-- The configuration of named texts. -/
def ofLookup (lookup : String -> Option String) : EngineConfig :=
  let number := override (Text.unsigned? UInt64.size)
  let standard : EngineConfig := {}
  { standard with
    workers := max 1 (number (lookup "WEFT_WORKERS") standard.workers)
    claimLease := number (lookup "WEFT_CLAIM_LEASE_MS") standard.claimLease
    deadLetterLifetime := number (lookup "WEFT_DEAD_LETTER_TTL_MS") standard.deadLetterLifetime
    retry := {
      initialDelay := number (lookup "WEFT_RETRY_INITIAL_MS") standard.retry.initialDelay
      maximumDelay := number (lookup "WEFT_RETRY_MAX_MS") standard.retry.maximumDelay
      multiplier :=
        override Fraction.parse? (lookup "WEFT_RETRY_MULTIPLIER") standard.retry.multiplier }
    sweepTimers := override truth? (lookup "WEFT_SWEEP_TIMERS") standard.sweepTimers }

/-- Sets the number of workers, of which there is one at least. -/
def withWorkers (config : EngineConfig) (workers : Nat) : EngineConfig :=
  { config with workers := max 1 workers }

/-- Sets the number of instructions at a time, of which there is one at least. -/
def withMaximumSteps (config : EngineConfig) (steps : Nat) : EngineConfig :=
  { config with maximumSteps := max 1 steps }

/-- The lease of a claim as a signed number of 64 bits. -/
def lease (config : EngineConfig) : Int := (Int64.ofNat config.claimLease).toInt

/-- The time between sweeps, of at least a millisecond. -/
def sweepInterval (config : EngineConfig) : Nat := max 1 config.tick

instance : JsonCodec EngineConfig where
  encode config := .object [("workers", Encode.nat config.workers),
    ("max_steps_per_slice", Encode.nat config.maximumSteps),
    ("claim_lease_ms", Encode.nat config.claimLease),
    ("dead_letter_ttl_ms", Encode.nat config.deadLetterLifetime), ("retry", encode config.retry),
    ("commit_attempts", Encode.nat config.commitAttempts),
    ("queue_capacity", Encode.nat config.queueCapacity), ("tick_ms", Encode.nat config.tick),
    ("sweep_timers", .bool config.sweepTimers)]
  reader := Decode.record do
    let standard : EngineConfig := {}
    return ⟨<- Decode.fieldOr "workers" standard.workers Decode.nat64,
      <- Decode.fieldOr "max_steps_per_slice" standard.maximumSteps Decode.nat64,
      <- Decode.fieldOr "claim_lease_ms" standard.claimLease Decode.nat64,
      <- Decode.fieldOr "dead_letter_ttl_ms" standard.deadLetterLifetime Decode.nat64,
      <- Decode.fieldOr "retry" standard.retry reader,
      <- Decode.fieldOr "commit_attempts" standard.commitAttempts Decode.nat32,
      <- Decode.fieldOr "queue_capacity" standard.queueCapacity Decode.nat64,
      <- Decode.fieldOr "tick_ms" standard.tick Decode.nat64,
      <- Decode.fieldOr "sweep_timers" standard.sweepTimers reader⟩

end EngineConfig

end ProcessEngine
