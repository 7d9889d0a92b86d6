/-!
# Blanks

The characters with the `White_Space` property, and the removal of blanks around
a text.
-/

namespace ProcessEngine

namespace Text

/-- Whether a character is white space. -/
def isBlank (character : Char) : Bool :=
  let code := character.toNat
  (9 <= code && code <= 13) || code == 0x20 || code == 0x85 || code == 0xa0 || code == 0x1680 ||
    (0x2000 <= code && code <= 0x200a) || code == 0x2028 || code == 0x2029 || code == 0x202f ||
    code == 0x205f || code == 0x3000

/-- Drops the blanks at both ends. -/
def trimList (characters : List Char) : List Char :=
  ((characters.dropWhile isBlank).reverse.dropWhile isBlank).reverse

/-- The text without the blanks at both ends. -/
def trim (text : String) : String := String.ofList (trimList text.toList)

/-- Every blank of the ASCII range is a blank here. -/
theorem isBlank_of_isWhitespace {character : Char} (blank : character.isWhitespace = true) :
    isBlank character = true := by
  simp only [Char.isWhitespace, Bool.or_eq_true, decide_eq_true_eq] at blank
  rcases blank with ((same | same) | same) | same <;> subst same <;> decide

end Text

end ProcessEngine
