import ProcessEngine.Json.Basic

/-!
# Domain values as JSON

`JsonCodec` pairs the writing of a domain type with its reading. A record is
written as an object with its fields in a fixed order and read from an object
with the fields in any order, unknown ones ignored, or from the list of its
fields. A variant is a record with one more field, the tag, that names it.
Reading a value of the wrong shape answers `none`.

What stands inside of a variant is read with more freedom than the same value
elsewhere: a variant may then be named by its number, and a bare name may be
written as an object that holds nothing under the name. A reader is therefore
told the place of the value that it reads.
-/

namespace ProcessEngine

namespace Decode

/-- Where a value stands. -/
inductive Place where
  /-- By itself, or in records and lists that are not part of a variant. -/
  | outside
  /-- Somewhere inside of a variant. -/
  | inside
deriving DecidableEq, Repr

/-- Reads the values of a type. -/
abbrev Reader (α : Type) := Place -> Json -> Option α

/-- Reads a value that stands by itself. -/
def run {α : Type} (reader : Reader α) (json : Json) : Option α := reader .outside json

end Decode

/-- The written form of a type. -/
class JsonCodec (α : Type) where
  /-- The JSON value that stands for a value. -/
  encode : α -> Json
  /-- Reads the value that a JSON value stands for, if it stands for one. -/
  reader : Decode.Reader α

export JsonCodec (encode reader)

/-- The value that a JSON value by itself stands for, if it stands for one. -/
def decode {α : Type} [JsonCodec α] (json : Json) : Option α := Decode.run reader json

instance : JsonCodec Json := ⟨id, fun _ => some⟩

instance : JsonCodec Bool where
  encode := .bool
  reader
    | _, .bool value => some value
    | _, _ => none

instance : JsonCodec String where
  encode := .text
  reader
    | _, .text value => some value
    | _, _ => none

instance : JsonCodec Int64 where
  encode value := .int value.toInt
  reader
    | _, .int value =>
      if Int64.minValue.toInt ≤ value ∧ value ≤ Int64.maxValue.toInt then some (Int64.ofInt value)
      else none
    | _, _ => none

instance : JsonCodec Float where
  encode value := .float value.toBits
  reader
    | _, .float bits => some (Float.ofBits bits)
    | _, .int value => some (Float.ofInt value)
    | _, _ => none

namespace Decode

/-- Reads a whole number from zero up to a bound. -/
def natBelow (bound : Nat) : Reader Nat
  | _, .int (.ofNat value) => if value < bound then some value else none
  | _, _ => none

/-- Reads a number of 32 bits. -/
def nat32 : Reader Nat := natBelow UInt32.size

/-- Reads a number of 64 bits. -/
def nat64 : Reader Nat := natBelow UInt64.size

/-- Reads a list. -/
def list {α : Type} (item : Reader α) : Reader (List α)
  | place, .list items => items.mapM (item place)
  | _, _ => none

/-- Reads a value or the absence of one. -/
def nullable {α : Type} (value : Reader α) : Reader (Option α)
  | _, .null => some none
  | place, json => (value place json).map some

/-- Reads a pair. -/
def pair {α : Type} {β : Type} (first : Reader α) (second : Reader β) : Reader (α × β)
  | place, .list [left, right] => do return (<- first place left, <- second place right)
  | _, _ => none

/-- Reads a value that is written as a text. -/
def text {α : Type} (ofText? : String -> Option α) : Reader α
  | _, .text text => ofText? text
  | _, _ => none

/-- Reads one of several names. -/
def choice {α : Type} (ofName? : String -> Option α) : Reader α
  | _, .text name => ofName? name
  | _, .object [(name, .null)] => ofName? name
  | .inside, .object [(name, .object [])] => ofName? name
  | _, _ => none

/-- Reads an object as a map; of several members of one name the last counts. -/
def map {Key : Type} {Value : Type} [Ord Key] [Std.TransOrd Key] [Std.LawfulEqOrd Key]
    (key : String -> Option Key) (value : Reader Value) : Reader (OrderedMap Key Value)
  | place, .object members => do
    let entries <- members.mapM (fun (name, json) => do return (<- key name, <- value place json))
    return .ofList entries
  | _, _ => none

/-- Reads a member of an object; other members do not matter. -/
def member {α : Type} (name : String) (value : Reader α) (json : Json) : Option α :=
  json.member? name >>= run value

/-- Reads a member of an object that may be left out or null. -/
def memberIfAny {α : Type} (name : String) (value : Reader α) (json : Json) :
    Option (Option α) :=
  match json.member? name with
  | none => some none
  | some present => run (nullable value) present

/-- Reads a member of an object that has a value of its own when it is left out or null. -/
def memberOr {α : Type} (name : String) (fallback : α) (value : Reader α) (json : Json) :
    Option α :=
  (memberIfAny name value json).map (fun given => given.getD fallback)

/-- The fields of a record that are still to be read. -/
inductive Record where
  /-- Fields given by name. -/
  | named (members : List (String × Json))
  /-- Fields given by their position. -/
  | positional (items : List Json)
deriving DecidableEq

/-- Reads the fields of a record in their declared order. -/
abbrev RecordReader (α : Type) := ReaderT Place (StateT Record Option) α

/-- The members of a name. -/
def membersOf (name : String) (members : List (String × Json)) : List Json :=
  (members.filter (fun member => member.1 == name)).map Prod.snd

/-- Reads a field, or takes its default if the field is left out: with `byName` when its name is
missing, with `byPosition` when the list of the fields ends before it. -/
def fieldWith {α : Type} (name : String) (byName byPosition : Option α) (value : Reader α) :
    RecordReader α := fun place record =>
  match record with
  | .named members =>
    match membersOf name members with
    | [] => byName.map (·, record)
    | [json] => (value place json).map (·, record)
    | _ => none
  | .positional (json :: rest) => (value place json).map (·, .positional rest)
  | .positional [] => byPosition.map (·, record)

/-- Reads a field that must be given. -/
def field {α : Type} (name : String) (value : Reader α) : RecordReader α :=
  fieldWith name none none value

/-- Reads a field that has a value of its own when it is left out. -/
def fieldOr {α : Type} (name : String) (fallback : α) (value : Reader α) : RecordReader α :=
  fieldWith name (some fallback) (some fallback) value

/-- Reads a field that may be left out or null. -/
def optional {α : Type} (name : String) (value : Reader α) : RecordReader (Option α) :=
  fieldOr name none (nullable value)

/-- Reads a field that may be null, or left out if fields are given by name. -/
def nullableField {α : Type} (name : String) (value : Reader α) : RecordReader (Option α) :=
  fieldWith name (some none) none (nullable value)

/-- Ends the reading of a record: fields without a name may not be left over. -/
def finish {α : Type} : α × Record -> Option α
  | (value, .named _) => some value
  | (value, .positional []) => some value
  | (_, .positional _) => none

/-- Reads all fields of a record. -/
def complete {α : Type} (reader : RecordReader α) (place : Place) (record : Record) : Option α :=
  reader place record >>= finish

/-- Reads a record. -/
def record {α : Type} (reader : RecordReader α) : Reader α
  | place, .object members => complete reader place (.named members)
  | place, .list items => complete reader place (.positional items)
  | _, _ => none

/-- The variant that a tag names. -/
def variant? {α : Type} (variants : List (String × α)) : Reader α
  | _, .text name => variants.lookup name
  | .inside, .int (.ofNat number) => variants[number]?.map Prod.snd
  | _, _ => none

/-- Reads a variant: the tag says which of the named records follows. -/
def tagged {α : Type} (tag : String) (variants : List (String × RecordReader α)) : Reader α
  | place, .object members =>
    match membersOf tag members with
    | [name] => do
      complete (<- variant? variants place name) .inside
        (.named (members.filter (fun member => member.1 != tag)))
    | _ => none
  | place, .list (name :: items) => do
    complete (<- variant? variants place name) .inside (.positional items)
  | _, _ => none

end Decode

namespace Encode

/-- A number. -/
def nat (value : Nat) : Json := .int value

/-- A value or null. -/
def nullable {α : Type} (value : α -> Json) : Option α -> Json
  | some present => value present
  | none => .null

/-- A list. -/
def list {α : Type} (item : α -> Json) (items : List α) : Json := .list (items.map item)

/-- A map as an object with its keys in order. -/
def map {Key : Type} {Value : Type} [Ord Key] (key : Key -> String) (value : Value -> Json)
    (entries : OrderedMap Key Value) : Json :=
  .object (entries.toList.map (fun (name, present) => (key name, value present)))

/-- A variant: its tag and then its fields. -/
def tagged (tag name : String) (fields : List (String × Json)) : Json :=
  .object ((tag, .text name) :: fields)

end Encode

end ProcessEngine
