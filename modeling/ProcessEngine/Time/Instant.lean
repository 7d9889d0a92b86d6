import ProcessEngine.Time.Calendar

/-!
# Instants

An instant is a second of universal time and the nanoseconds that have passed in it.
A leap second has no number of its own: it prolongs the second before it, so its
instants have a thousand million nanoseconds and more. Moving an instant keeps it in
its leap second while it can. `le_after` says that time passes forward; the calendar
ends with the year 262142, and `Instant.after` never goes past its last second.
-/

namespace ProcessEngine

/-- A point in time. -/
structure Instant where
  /-- Seconds since the start of 1970, without the leap seconds. -/
  second : Int
  /-- Nanoseconds since the start of the second; a leap second goes on counting. -/
  nanosecond : Nat
deriving DecidableEq, Repr, Inhabited

namespace Instant

instance : LE Instant := ⟨fun left right =>
  left.second < right.second ∨ (left.second = right.second ∧ left.nanosecond ≤ right.nanosecond)⟩
instance : LT Instant := ⟨fun left right =>
  left.second < right.second ∨ (left.second = right.second ∧ left.nanosecond < right.nanosecond)⟩
instance (left right : Instant) : Decidable (left ≤ right) :=
  inferInstanceAs (Decidable (left.second < right.second ∨
    (left.second = right.second ∧ left.nanosecond ≤ right.nanosecond)))
instance (left right : Instant) : Decidable (left < right) :=
  inferInstanceAs (Decidable (left.second < right.second ∨
    (left.second = right.second ∧ left.nanosecond < right.nanosecond)))
instance : Ord Instant := ⟨fun left right =>
  (compare left.second right.second).then (compare left.nanosecond right.nanosecond)⟩

/-- Nanoseconds of a second. -/
def perSecond : Int := 1000000000

/-- Nanoseconds of a millisecond. -/
def perMillisecond : Int := 1000000

/-- Seconds of a day. -/
def secondsPerDay : Int := 86400

/-- The instant of a date, a number of seconds into its day, and nanoseconds. -/
def ofDate (date : CalendarDate) (second : Int) (nanosecond : Nat) : Instant :=
  ⟨date.dayNumber * secondsPerDay + second, nanosecond⟩

/-- The nanoseconds since the start of 1970; a leap second counts like the one after it. -/
def position (instant : Instant) : Int := instant.second * perSecond + instant.nanosecond

/-- The instant with a position, outside of leap seconds. -/
def ofPosition (position : Int) : Instant :=
  ⟨position.fdiv perSecond, (position.fmod perSecond).toNat⟩

/-- Whether the instant is in a leap second. -/
def isLeap (instant : Instant) : Bool := perSecond ≤ instant.nanosecond

/-- The first instant of the calendar. -/
def earliest : Instant := ofDate ⟨-262143, 1, 1⟩ 0 0

/-- The last instant of the calendar that is not in a leap second. -/
def latest : Instant := ofDate ⟨262142, 12, 31⟩ 86399 999999999

/-- The instant some nanoseconds later, or earlier for a negative number. A move that leaves
a leap second forward starts at the second that it prolongs, and one that goes back by a
second or more starts at the second after it. -/
def shifted (instant : Instant) (nanoseconds : Int) : Instant :=
  let target := instant.position + nanoseconds
  if instant.isLeap then
    if 2 * perSecond ≤ instant.nanosecond + nanoseconds then ofPosition (target - perSecond)
    else if nanoseconds ≤ -perSecond then ofPosition target
    else ⟨instant.second, (instant.nanosecond + nanoseconds).toNat⟩
  else ofPosition target

/-- The instant a number of milliseconds later, or the last one there is. -/
def after (instant : Instant) (milliseconds : Nat) : Instant :=
  let later := instant.shifted (milliseconds * perMillisecond)
  if latest.second < later.second then latest else later

/-- An instant of a known position is at or after every one that ends before it. -/
theorem le_ofPosition {instant : Instant} {position : Int}
    (bound : instant.position ≤ position) (ordinary : instant.nanosecond < perSecond) :
    instant ≤ ofPosition position := by
  have split := Int.mul_fdiv_add_fmod position perSecond
  have small := Int.fmod_lt_of_pos position (show 0 < perSecond by decide)
  have positive := Int.fmod_nonneg_of_pos position (show 0 < perSecond by decide)
  simp only [Instant.position, perSecond] at *
  show instant.second < _ ∨ (instant.second = _ ∧ instant.nanosecond ≤ _)
  simp only [ofPosition, perSecond]
  omega

/-- An instant is before every later second. -/
theorem le_ofPosition_of_second_lt {instant : Instant} {position : Int}
    (bound : (instant.second + 1) * perSecond ≤ position) : instant ≤ ofPosition position := by
  have split := Int.mul_fdiv_add_fmod position perSecond
  have small := Int.fmod_lt_of_pos position (show 0 < perSecond by decide)
  simp only [perSecond] at *
  show instant.second < _ ∨ (instant.second = _ ∧ instant.nanosecond ≤ _)
  simp only [ofPosition, perSecond]
  omega

/-- Moving an instant forward does not bring it back. -/
theorem le_shifted (instant : Instant) (nanoseconds : Int) (forward : 0 ≤ nanoseconds) :
    instant ≤ instant.shifted nanoseconds := by
  unfold shifted
  by_cases leap : perSecond ≤ (instant.nanosecond : Int)
  · simp only [isLeap, leap, decide_true, if_true]
    split
    · apply le_ofPosition_of_second_lt
      simp only [position, perSecond] at *
      omega
    · have ahead : ¬nanoseconds ≤ -perSecond := by simp only [perSecond]; omega
      rw [if_neg ahead]
      exact Or.inr ⟨rfl, show instant.nanosecond ≤ _ by dsimp only; omega⟩
  · simp only [isLeap, leap, decide_false, Bool.false_eq_true, if_false]
    exact le_ofPosition (by omega) (by omega)

/-- Time passes forward. -/
theorem le_after (instant : Instant) (milliseconds : Nat) (known : instant ≤ latest) :
    instant ≤ instant.after milliseconds := by
  unfold after
  by_cases ended : latest.second < (instant.shifted (milliseconds * perMillisecond)).second
  · simpa only [ended, if_true] using known
  · simp only [ended, if_false]
    exact le_shifted instant _ (by simp only [perMillisecond]; omega)

end Instant

end ProcessEngine
