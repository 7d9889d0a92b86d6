/-!
# Numerals

Decimal numerals as settings give them: an unsigned numeral may have a plus sign
in front, and only the ten ASCII digits count. `isNumber` tells the texts that are
numbers with a fraction or an exponent from other texts.
-/

namespace ProcessEngine

namespace Text

/-- The value of an ASCII digit. -/
def digitValue? (character : Char) : Option Nat :=
  if '0' ≤ character ∧ character ≤ '9' then some (character.toNat - 48) else none

/-- The value of one or more digits. -/
def digits? (characters : List Char) : Option Nat :=
  if characters.isEmpty then none
  else characters.foldlM (fun value character => (digitValue? character).map (value * 10 + ·)) 0

/-- The unsigned number that a text names, if it is below the bound. -/
def unsigned? (bound : Nat) (text : String) : Option Nat := do
  let value <- match text.toList with
    | '+' :: rest => digits? rest
    | characters => digits? characters
  if value < bound then some value else none

/-- Whether characters are an exponent, or nothing. -/
def isExponent : List Char -> Bool
  | [] => true
  | mark :: rest =>
    let digits := match rest with
      | '+' :: digits => digits
      | '-' :: digits => digits
      | digits => digits
    mark.toLower == 'e' && !digits.isEmpty && digits.all Char.isDigit

/-- Whether characters are digits, perhaps with a point and an exponent. -/
def isDecimal (characters : List Char) : Bool :=
  let whole := characters.takeWhile Char.isDigit
  match characters.drop whole.length with
  | '.' :: rest =>
    let fraction := rest.takeWhile Char.isDigit
    !(whole ++ fraction).isEmpty && isExponent (rest.drop fraction.length)
  | rest => !whole.isEmpty && isExponent rest

/-- Whether a text is a number: a decimal, infinity or no number, perhaps with a sign. -/
def isNumber (text : String) : Bool :=
  let magnitude := match text.toList with
    | '+' :: rest => rest
    | '-' :: rest => rest
    | characters => characters
  isDecimal magnitude ||
    ["inf", "infinity", "nan"].contains (String.ofList (magnitude.map Char.toLower))

/-- A number in decimal with at least the given number of digits. -/
def padded (width value : Nat) : String :=
  let digits := Nat.toDigits 10 value
  String.ofList (List.replicate (width - digits.length) '0' ++ digits)

/-- The lower-case hexadecimal digits of a number, as many as asked for. -/
def hexadecimal : Nat -> Nat -> List Char
  | 0, _ => []
  | places + 1, value => hexadecimal places (value / 16) ++ [Nat.digitChar (value % 16)]

/-- The value of a hexadecimal digit of either case. -/
def hexadecimalValue? (character : Char) : Option Nat :=
  if '0' ≤ character ∧ character ≤ '9' then some (character.toNat - 48)
  else if 'a' ≤ character ∧ character ≤ 'f' then some (character.toNat - 87)
  else if 'A' ≤ character ∧ character ≤ 'F' then some (character.toNat - 55)
  else none

/-- The value of hexadecimal digits. -/
def hexadecimal? (characters : List Char) : Option Nat :=
  characters.foldlM (fun value character => (hexadecimalValue? character).map (value * 16 + ·)) 0

end Text

end ProcessEngine
