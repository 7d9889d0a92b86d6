import ProcessEngine.Data.OrderedMap
import ProcessEngine.Json.Decode
import ProcessEngine.Text.Quoted

/-!
# Flag values

What a flag or a stack of an instance holds: a truth value, a whole number of 64
bits or a text. Values are ordered with truth values first and texts last.
-/

namespace ProcessEngine

/-- The value of a flag or of a place on a stack. -/
inductive Value where
  | bool (value : Bool)
  | int (value : Int64)
  | text (value : String)
deriving DecidableEq, Repr

/-- The flags of an instance by name. -/
abbrev Flags := OrderedMap String Value

/-- The loop counters of an instance by name. -/
abbrev Counters := OrderedMap String Int64

namespace Value

/-- An absent flag counts as false. -/
instance : Inhabited Value := ⟨.bool false⟩

/-- Whether a branch is taken on the value: a nonzero number and a text that is not empty
count as true. -/
def isTruthy : Value -> Bool
  | .bool value => value
  | .int value => value != 0
  | .text value => value != ""

/-- The number, if the value is one. -/
def asInt? : Value -> Option Int64
  | .int value => some value
  | _ => none

/-- The name of the kind of a value. -/
def kindName : Value -> String
  | .bool _ => "bool"
  | .int _ => "int"
  | .text _ => "text"

/-- The plain text of a value. -/
def display : Value -> String
  | .bool true => "true"
  | .bool false => "false"
  | .int value => toString value.toInt
  | .text value => value

/-- The text of a value together with its kind. -/
def quoted : Value -> String
  | .bool value => "Bool(" ++ display (.bool value) ++ ")"
  | .int value => "Int(" ++ display (.int value) ++ ")"
  | .text value => "Text(" ++ Text.quoted value ++ ")"

/-- The place of a kind of value in the order. -/
def rank : Value -> Nat
  | .bool _ => 0
  | .int _ => 1
  | .text _ => 2

/-- The truth value that a value holds. -/
def asBool : Value -> Bool
  | .bool value => value
  | _ => false

/-- The text that a value holds. -/
def asText : Value -> String
  | .text value => value
  | _ => ""

/-- Truth values come before numbers and numbers before texts. -/
def compare : Value -> Value -> Ordering :=
  compareLex (compareOn rank) (compareLex (compareOn asBool)
    (compareLex (compareOn (fun value => value.asInt?.getD 0)) (compareOn asText)))

instance : Ord Value := ⟨compare⟩
instance : Std.TransOrd Value := inferInstanceAs (Std.TransCmp (compareLex _ _))
instance : Std.LawfulEqOrd Value where
  compare_self := Std.ReflOrd.compare_self (α := Value)
  eq_of_compare := by
    intro left right same
    have parts := compareLex_eq_eq.1 same
    rw [compareLex_eq_eq, compareLex_eq_eq] at parts
    cases left <;> cases right <;> simp_all [compareOn, rank, asBool, asInt?, asText]

instance : JsonCodec Value where
  encode
    | .bool value => .bool value
    | .int value => .int value.toInt
    | .text value => .text value
  reader
    | _, .bool value => some (.bool value)
    | place, .int value => (reader place (.int value)).map Value.int
    | _, .text value => some (.text value)
    | _, _ => none

end Value

/-- Reads flags by name. -/
def Flags.reader : Decode.Reader Flags := Decode.map some JsonCodec.reader

/-- Writes flags by name. -/
def Flags.encode (flags : Flags) : Json := Encode.map id JsonCodec.encode flags

/-- Reads counters by name. -/
def Counters.reader : Decode.Reader Counters := Decode.map some JsonCodec.reader

/-- Writes counters by name. -/
def Counters.encode (counters : Counters) : Json := Encode.map id JsonCodec.encode counters

/-- Sets the flags of the second map over those of the first. -/
def Flags.merge (flags changes : Flags) : Flags := flags.union changes

end ProcessEngine
