import ProcessEngine.Text.Numeral

/-!
# Decimal fractions as settings give them

A fraction has a sign if it needs one, digits with a point anywhere among them and an
exponent if it needs one. Infinity and what is no number are written as words. The
nearest binary fraction is taken.
-/

namespace ProcessEngine

namespace Fraction

/-- The exponent beyond which a fraction is infinite or zero. -/
def exponentBound : Int := 400

/-- The fraction with some significant digits and a power of ten. -/
def ofDecimal (digits : List Char) (power : Int) : Option Float := do
  let significand <- Text.digits? digits
  let top := (Nat.toDigits 10 significand).length + power
  if significand = 0 ∨ top < -exponentBound then return 0.0
  if exponentBound < top then return 1.0 / 0.0
  match power with
  | .ofNat power => return Float.ofScientific significand false power
  | .negSucc power => return Float.ofScientific significand true (power + 1)

/-- The number that an exponent with an optional sign names. -/
def exponent? : List Char -> Option Int
  | '-' :: digits => (Text.digits? digits).map (fun value => -(value : Int))
  | '+' :: digits => (Text.digits? digits).map Int.ofNat
  | digits => (Text.digits? digits).map Int.ofNat

/-- The fraction that a text without sign names. -/
def magnitude? (characters : List Char) : Option Float := do
  let lower := characters.map Char.toLower
  if lower = "inf".toList ∨ lower = "infinity".toList then return 1.0 / 0.0
  if lower = "nan".toList then return 0.0 / 0.0
  let mantissa := lower.takeWhile (fun character => character != 'e')
  let exponent <- match lower.drop mantissa.length with
    | [] => some 0
    | _ :: digits => exponent? digits
  let whole := mantissa.takeWhile (fun character => character != '.')
  let places := (mantissa.drop whole.length).drop 1
  ofDecimal (whole ++ places) (exponent - places.length)

/-- The fraction that a text names. -/
def parse? (text : String) : Option Float :=
  match text.toList with
  | '-' :: rest => (magnitude? rest).map Neg.neg
  | '+' :: rest => magnitude? rest
  | characters => magnitude? characters

end Fraction

end ProcessEngine
