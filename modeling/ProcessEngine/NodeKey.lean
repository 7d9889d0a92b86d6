import ProcessEngine.Data.KeyOrder
import ProcessEngine.Json.Decode
import ProcessEngine.Text.Blank
import ProcessEngine.Text.Quoted

/-!
# Node keys

A node of a process is named by a key of 1 to 128 ASCII letters, digits, dashes,
underscores and points. Keys are case sensitive; only blanks around them are
dropped when they are read. The characters and the length are part of the type.
-/

namespace ProcessEngine

namespace NodeKey

/-- Whether a character may stand in a key. -/
def isAllowed (character : Char) : Bool :=
  character.isAlphanum || character == '_' || character == '-' || character == '.'

/-- The greatest length of a key. -/
def maximumLength : Nat := 128

/-- Whether a text is a key as it stands. -/
def isKey (text : String) : Bool :=
  !text.toList.isEmpty && text.toList.all isAllowed && text.toList.length <= maximumLength

end NodeKey

/-- The name of a node, unique in its process. -/
structure NodeKey where
  /-- The text of the key. -/
  text : String
  /-- Every character is allowed, there is one at least and there are not too many. -/
  valid : NodeKey.isKey text = true
deriving DecidableEq

/-- Why a text is no key. -/
inductive NodeKeyError where
  | empty
  | invalidCharacters (text : String)
  | tooLong
deriving DecidableEq, Repr

namespace NodeKeyError

/-- The name of a kind of error. -/
def name : NodeKeyError -> String
  | .empty => "Empty"
  | .invalidCharacters _ => "InvalidCharacters"
  | .tooLong => "TooLong"

/-- The message for a text that is no key. -/
def message : NodeKeyError -> String
  | .empty => "node key cannot be empty or whitespace"
  | .invalidCharacters text => "node key contains invalid characters: " ++ Text.quoted text
  | .tooLong => "node key exceeds maximum length of 128 characters"

end NodeKeyError

namespace NodeKey

instance : Ord NodeKey := ⟨compareOn NodeKey.text⟩
instance : Std.TransOrd NodeKey := inferInstanceAs (Std.TransCmp (compareOn NodeKey.text))
instance : Std.LawfulEqOrd NodeKey :=
  lawfulEqCmp_compareOn NodeKey.text (fun left right same => by
    cases left; cases right; cases same; rfl)

instance : ToString NodeKey := ⟨NodeKey.text⟩

/-- The key that a text names, without the blanks around it. -/
def ofText (raw : String) : Except NodeKeyError NodeKey :=
  let text := Text.trim raw
  if valid : isKey text = true then .ok ⟨text, valid⟩
  else if text.toList.isEmpty then .error .empty
  else if text.toList.all isAllowed then .error .tooLong
  else .error (.invalidCharacters text)

/-- The key that a text names, if it names one. -/
def ofText? (raw : String) : Option NodeKey := (ofText raw).toOption

/-- How a key is shown in the messages that list keys. -/
def quoted (key : NodeKey) : String := "NodeKey(" ++ Text.quoted key.text ++ ")"

instance : JsonCodec NodeKey where
  encode key := .text key.text
  reader := Decode.text ofText?

end NodeKey

end ProcessEngine
