import ProcessEngine.Json.Printer
import ProcessEngine.Json.Number
import ProcessEngine.Store.Error
import ProcessEngine.Time.Rfc3339

/-!
# Columns

What a column of a database table keeps of a value. Texts must not hold the character
zero. Whole numbers have 63 bits and stop at the greatest. Times are kept to the
microsecond, without leap seconds. A document keeps a value with each of its numbers
exactly, but not the way the number was written, so a fraction that happens to be
whole comes back as a whole number if it was written with an exponent.
-/

namespace ProcessEngine

namespace Column

/-- Refuses a value. -/
def refuse {α : Type} : Except StoreError α := .error .refused

/-- Whether a text column can hold a text. -/
def holds (text : String) : Bool := !text.toList.contains (Char.ofNat 0)

/-- Checks a text. -/
def text (value : String) : Except StoreError Unit := if holds value then .ok () else refuse

/-- The greatest number that a column can hold. -/
def maximum : Nat := 9223372036854775807

/-- A number, or the greatest one. -/
def number (value : Nat) : Nat := min value maximum

/-- The instant that times are counted from. -/
def epoch : Instant := .ofDate ⟨2000, 1, 1⟩ 0 0

/-- The first instant that a column can hold: it begins the Julian day count. -/
def firstTime : Instant := .ofDate ⟨-4713, 11, 24⟩ 0 0

/-- A time to the microsecond; the rest is dropped, and a leap second becomes the next one. -/
def time (value : Instant) : Except StoreError Instant :=
  let microseconds := Int.tdiv (value.position - epoch.position) 1000
  let kept := Instant.ofPosition (epoch.position + microseconds * 1000)
  if kept < firstTime then refuse else .ok kept

/-- The decimal text of a binary fraction, without an exponent. -/
def decimalText (bits : UInt64) : List Char :=
  let decimal := (Binary64.ofBits bits).shortest
  let digits := Nat.toDigits 10 decimal.digits
  let leading := decimal.exponent + digits.length - 1
  if decimal.digits = 0 then ['0', '.', '0']
  else
    let magnitude :=
      if Json.fractionLayout.highest < leading then
        digits ++ List.replicate decimal.exponent.toNat '0'
      else DecimalLayout.write ⟨-400, Json.fractionLayout.highest⟩ decimal
    if Binary64.isNegative bits then '-' :: magnitude else magnitude

/-- A fraction as it is read from its decimal text. -/
def fraction (bits : UInt64) : Json :=
  ((Json.readNumber (decimalText bits)).map Prod.fst).getD (.float bits)

mutual

/-- What a document column keeps of a value. -/
def keep : Json -> Option Json
  | .float bits => some (fraction bits)
  | .text value => if holds value then some (.text value) else none
  | .list items => (keepItems items).map .list
  | .object members => (keepMembers members).map .object
  | other => some other

/-- What a document column keeps of the items of a list. -/
def keepItems : List Json -> Option (List Json)
  | [] => some []
  | item :: rest => do return (<- keep item) :: (<- keepItems rest)

/-- What a document column keeps of the members of an object. -/
def keepMembers : List (String × Json) -> Option (List (String × Json))
  | [] => some []
  | (name, value) :: rest => do
    if !holds name then none
    return (name, <- keep value) :: (<- keepMembers rest)

end

/-- A document that holds a value. -/
def document {α : Type} [JsonCodec α] (value : α) : Except StoreError Json :=
  match keep (encode value) with
  | some document => .ok document
  | none => refuse

/-- The value that a document holds. -/
def value {α : Type} [JsonCodec α] (document : Json) : Except StoreError α :=
  match decode document with
  | some value => .ok value
  | none => refuse

end Column

end ProcessEngine
