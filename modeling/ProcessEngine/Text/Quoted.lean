import ProcessEngine.Text.Printable

/-!
# Quoted text

Messages show a text between quotes. The quote, the backslash and the common
controls have short escapes; every other character that is hidden or extends its
neighbour is shown by its code point, and the rest as it is.
-/

namespace ProcessEngine

namespace Text

/-- The escape that names a character by its code point. -/
def codePointEscape (character : Char) : List Char :=
  ['\\', 'u', '\x7b'] ++ Nat.toDigits 16 character.toNat ++ ['\x7d']

/-- How quoted text shows one character. -/
def quoteCharacter (character : Char) : List Char :=
  if character = '"' then ['\\', '"']
  else if character = '\\' then ['\\', '\\']
  else if character = '\n' then ['\\', 'n']
  else if character = '\r' then ['\\', 'r']
  else if character = '\t' then ['\\', 't']
  else if character.toNat = 0 then ['\\', '0']
  else if isExtending character || !isPrintable character then codePointEscape character
  else [character]

/-- A text between quotes, as messages show it. -/
def quoted (text : String) : String :=
  String.ofList ('"' :: text.toList.flatMap quoteCharacter ++ ['"'])

end Text

end ProcessEngine
