import ProcessEngine.Json.Basic
import ProcessEngine.Text.Numeral

/-!
# Reading JSON numbers

A number without point and exponent that fits 64 bits is whole; every other one
is a binary fraction. A fraction is read as a 64-bit significand and a power of
ten: digits that the significand cannot hold only move the power. It is then one
multiplication or division by a rounded power of ten, so it can differ from the
nearest fraction in the last place.
-/

namespace ProcessEngine

namespace Json

/-- One past the largest significand. -/
def significandBound : Nat := UInt64.size

/-- The greatest exponent that can be written out. -/
def exponentBound : Nat := 2147483647

/-- Splits off the digits that text begins with. -/
def takeDigits : List Char -> List Nat × List Char
  | [] => ([], [])
  | character :: rest =>
    match Text.digitValue? character with
    | some digit =>
      let (digits, following) := takeDigits rest
      (digit :: digits, following)
    | none => ([], character :: rest)

/-- Digits gathered into a significand below a bound, with the digits that no longer fit. -/
def gather (bound : Nat) : Nat -> List Nat -> Nat × List Nat
  | significand, [] => (significand, [])
  | significand, digit :: rest =>
    if significand * 10 + digit < bound then gather bound (significand * 10 + digit) rest
    else (significand, digit :: rest)

/-- A power of ten as a binary fraction. -/
def powerOfTen (power : Nat) : Float := Float.ofScientific 1 false power

/-- Scales down by whole steps of `1e308` while the power of ten is below that. -/
def scaleDown : Nat -> Float -> Nat -> Float
  | 0, value, _ => value
  | fuel + 1, value, power =>
    if power ≤ 308 then value / powerOfTen power
    else if value == 0 then value
    else scaleDown fuel (value / powerOfTen 308) (power - 308)

/-- The binary fraction of a significand and a power of ten, unless it is too large. -/
def fraction? (negative : Bool) (significand : Nat) (power : Int) : Option Json :=
  let value := significand.toUInt64.toFloat
  let scaled : Option Float :=
    if 0 ≤ power then
      if power ≤ 308 then
        let product := value * powerOfTen power.toNat
        if product.isInf then none else some product
      else if significand = 0 then some value
      else none
    else some (scaleDown 8 value (-power).toNat)
  scaled.map (fun magnitude => .float (if negative then -magnitude else magnitude).toBits)

/-- Reads an exponent, after its letter, and makes the fraction. -/
def readExponent (negative : Bool) (significand : Nat) (power : Int) (source : List Char) :
    Option (Json × List Char) := do
  let (down, source) := match source with
    | '+' :: rest => (false, rest)
    | '-' :: rest => (true, rest)
    | _ => (false, source)
  let (digits, following) := takeDigits source
  if digits.isEmpty then none
  let (exponent, beyond) := gather (exponentBound + 1) 0 digits
  if beyond.isEmpty then
    let scale := if down then power - exponent else power + exponent
    let value <- fraction? negative significand scale
    return (value, following)
  else if significand ≠ 0 ∧ ¬ down then none
  else return (.float (if negative then (-0.0 : Float) else 0.0).toBits, following)

/-- Ends a number that has a point or too many digits: reads its exponent, if it has one. -/
def readPower (negative : Bool) (significand : Nat) (power : Int) (source : List Char) :
    Option (Json × List Char) :=
  match source with
  | 'e' :: rest => readExponent negative significand power rest
  | 'E' :: rest => readExponent negative significand power rest
  | _ => (fraction? negative significand power).map (·, source)

/-- Reads the digits after a point. -/
def readFraction (negative : Bool) (significand : Nat) (power : Int) (source : List Char) :
    Option (Json × List Char) :=
  let (digits, following) := takeDigits source
  if digits.isEmpty then none
  else
    let (significand, beyond) := gather significandBound significand digits
    readPower negative significand (power - (digits.length - beyond.length)) following

/-- The number without point and exponent: whole if it fits 64 bits. -/
def wholeNumber (negative : Bool) (significand : Nat) : Json :=
  if negative then
    if 0 < significand ∧ significand ≤ 9223372036854775808 then .int (-significand)
    else .float (-significand.toUInt64.toFloat).toBits
  else .int significand

/-- Reads the rest of a number after its sign. -/
def readMagnitude (negative : Bool) (source : List Char) : Option (Json × List Char) :=
  let (digits, following) := takeDigits source
  match digits with
  | [] => none
  | 0 :: _ :: _ => none
  | _ =>
    let (significand, beyond) := gather significandBound 0 digits
    let power : Int := beyond.length
    match following with
    | '.' :: rest => readFraction negative significand power rest
    | 'e' :: rest => readExponent negative significand power rest
    | 'E' :: rest => readExponent negative significand power rest
    | _ =>
      if beyond.isEmpty then some (wholeNumber negative significand, following)
      else (fraction? negative significand power).map (·, following)

/-- Reads a number. -/
def readNumber : List Char -> Option (Json × List Char)
  | '-' :: rest => readMagnitude true rest
  | source => readMagnitude false source

end Json

end ProcessEngine
