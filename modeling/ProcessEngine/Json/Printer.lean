import ProcessEngine.Json.Basic
import ProcessEngine.Number.Shortest

/-!
# Compact JSON text

`Json.render` writes a value without blanks. Text escapes the quote, the
backslash and the control characters below the space and nothing else. A
fraction is written with the fewest digits that read back; it is positional from
`1e-5` up to but not including `1e+16`, always with a point, and otherwise has an
exponent whose sign is written in both directions.
-/

namespace ProcessEngine

/-- The layout of a decimal number: where positional notation stops. -/
structure DecimalLayout where
  /-- The least power of ten of the first digit that is written positionally. -/
  lowest : Int
  /-- The greatest one. -/
  highest : Int

namespace DecimalLayout

/-- Writes the digits of a decimal with a point or an exponent. -/
def write (layout : DecimalLayout) (decimal : Decimal) : List Char :=
  let digits := (Nat.toDigits 10 decimal.digits)
  let length : Int := digits.length
  let leading := decimal.exponent + length - 1
  if layout.lowest ≤ leading ∧ leading ≤ layout.highest then
    if 0 ≤ decimal.exponent then
      digits ++ List.replicate decimal.exponent.toNat '0' ++ ['.', '0']
    else if 0 ≤ leading then
      digits.take (leading.toNat + 1) ++ '.' :: digits.drop (leading.toNat + 1)
    else
      '0' :: '.' :: List.replicate (-leading - 1).toNat '0' ++ digits
  else
    let fraction := digits.drop 1
    let mantissa := digits.take 1 ++ (if fraction.isEmpty then [] else '.' :: fraction)
    let exponent :=
      if 0 ≤ leading then '+' :: Nat.toDigits 10 leading.toNat
      else '-' :: Nat.toDigits 10 (-leading).toNat
    mantissa ++ 'e' :: exponent

end DecimalLayout

namespace Json

/-- Fractions are positional from `1e-5` up to but not including `1e+16`. -/
def fractionLayout : DecimalLayout := ⟨-5, 15⟩

/-- The text of a binary fraction; infinities and what is no number have none. -/
def writeFloat (bits : UInt64) : List Char :=
  if Binary64.isFinite bits then
    let decimal := (Binary64.ofBits bits).shortest
    let magnitude := if decimal.digits = 0 then ['0', '.', '0'] else fractionLayout.write decimal
    if Binary64.isNegative bits then '-' :: magnitude else magnitude
  else ['n', 'u', 'l', 'l']

/-- The text of a whole number. -/
def writeInt : Int -> List Char
  | .ofNat magnitude => Nat.toDigits 10 magnitude
  | .negSucc below => '-' :: Nat.toDigits 10 (below + 1)

/-- A lower-case hexadecimal digit. -/
def hexDigit (value : Nat) : Char := Nat.digitChar (value % 16)

/-- The written form of one character of a text. -/
def escape (character : Char) : List Char :=
  if character = '"' then ['\\', '"']
  else if character = '\\' then ['\\', '\\']
  else if character = '\n' then ['\\', 'n']
  else if character = '\r' then ['\\', 'r']
  else if character = '\t' then ['\\', 't']
  else if character.toNat = 8 then ['\\', 'b']
  else if character.toNat = 12 then ['\\', 'f']
  else if character.toNat < 32 then
    ['\\', 'u', '0', '0', hexDigit (character.toNat / 16), hexDigit character.toNat]
  else [character]

/-- Writes the characters of a text and the closing quote before what follows. -/
def writeCharacters (following : List Char) : List Char -> List Char
  | [] => '"' :: following
  | character :: rest => escape character ++ writeCharacters following rest

/-- Writes a text between quotes before what follows. -/
def writeText (text : String) (following : List Char) : List Char :=
  '"' :: writeCharacters following text.toList

mutual

/-- Writes a value before what follows. -/
def write : Json -> List Char -> List Char
  | .null, following => 'n' :: 'u' :: 'l' :: 'l' :: following
  | .bool true, following => 't' :: 'r' :: 'u' :: 'e' :: following
  | .bool false, following => 'f' :: 'a' :: 'l' :: 's' :: 'e' :: following
  | .int value, following => writeInt value ++ following
  | .float bits, following => writeFloat bits ++ following
  | .text value, following => writeText value following
  | .list [], following => '[' :: ']' :: following
  | .list (item :: rest), following => '[' :: write item (writeItems rest following)
  | .object [], following => '\x7b' :: '\x7d' :: following
  | .object ((name, value) :: rest), following =>
    '\x7b' :: writeText name (':' :: write value (writeMembers rest following))

/-- Writes the items after the first and the closing bracket. -/
def writeItems : List Json -> List Char -> List Char
  | [], following => ']' :: following
  | item :: rest, following => ',' :: write item (writeItems rest following)

/-- Writes the members after the first and the closing brace. -/
def writeMembers : List (String × Json) -> List Char -> List Char
  | [], following => '\x7d' :: following
  | (name, value) :: rest, following =>
    ',' :: writeText name (':' :: write value (writeMembers rest following))

end

/-- The compact text of a value. -/
def render (value : Json) : String := String.ofList (write value [])

end Json

end ProcessEngine
