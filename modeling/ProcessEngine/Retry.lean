import ProcessEngine.Json.Decode

/-!
# Retry delays

How long a failed job waits before its next attempt: a first delay that grows by a
factor with every attempt, up to a greatest delay. The growth is computed with binary
fractions.
-/

namespace ProcessEngine

/-- How the delay between attempts grows. Delays are in milliseconds. -/
structure RetryPolicy where
  initialDelay : Nat
  maximumDelay : Nat
  multiplier : Float

namespace RetryPolicy

/-- The same delay before every attempt. -/
def fixed (delay : Nat) : RetryPolicy := ⟨delay, delay, 1.0⟩

/-- A delay that doubles with every attempt. -/
def exponential (initial maximum : Nat) : RetryPolicy := ⟨initial, maximum, 2.0⟩

instance : Inhabited RetryPolicy := ⟨exponential 1000 60000⟩

/-- Multiplies a result by the power of a base whose exponent has at most as many binary digits
as given: the base is squared for each digit, and the result takes it where the digit is one. -/
def multiplyPower : Nat -> Float -> Float -> Nat -> Float
  | 0, result, _, _ => result
  | digits + 1, result, base, exponent =>
    let result := if exponent % 2 = 1 then result * base else result
    if exponent / 2 = 0 then result
    else multiplyPower digits result (base * base) (exponent / 2)

/-- A base to the power of a number of 32 bits. -/
def power (base : Float) (exponent : Nat) : Float := multiplyPower 32 1.0 base exponent

/-- The greatest exponent that the delay grows with. -/
def exponentLimit : Nat := 2147483647

/-- The smaller of two fractions; a bound is taken for what is no number. -/
def atMost (value bound : Float) : Float :=
  if value.isNaN then bound else if value < bound then value else bound

/-- The delay before an attempt, counted from zero. -/
def delay (policy : RetryPolicy) (attempt : Nat) : Nat :=
  let grown := (UInt64.ofNat policy.initialDelay).toFloat *
    power policy.multiplier (min attempt exponentLimit)
  (atMost grown (UInt64.ofNat policy.maximumDelay).toFloat).toUInt64.toNat

instance : JsonCodec RetryPolicy where
  encode policy := .object [("initial_delay_ms", Encode.nat policy.initialDelay),
    ("max_delay_ms", Encode.nat policy.maximumDelay),
    ("backoff_multiplier", encode policy.multiplier)]
  reader := Decode.record do
    return ⟨<- Decode.field "initial_delay_ms" Decode.nat64,
      <- Decode.field "max_delay_ms" Decode.nat64, <- Decode.field "backoff_multiplier" reader⟩

end RetryPolicy

end ProcessEngine
