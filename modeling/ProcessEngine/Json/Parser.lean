import ProcessEngine.Json.Number

/-!
# Reading JSON text

`Json.parse?` reads one value with blanks around it and nothing else. Text may
not hold bare control characters or halves of surrogate pairs, and lists and
objects may be nested at most `nestingLimit - 1` deep. The members of an object
are kept as they are written, repeated names included.
-/

namespace ProcessEngine

namespace Json

/-- How many levels of lists and objects are too many. -/
def nestingLimit : Nat := 128

/-- Drops leading blanks. -/
def skipBlanks : List Char -> List Char
  | ' ' :: rest => skipBlanks rest
  | '\n' :: rest => skipBlanks rest
  | '\t' :: rest => skipBlanks rest
  | '\r' :: rest => skipBlanks rest
  | source => source

/-- Reads four hexadecimal digits. -/
def readUnit : List Char -> Option (Nat × List Char)
  | first :: second :: third :: fourth :: rest => do
    let first <- Text.hexadecimalValue? first
    let second <- Text.hexadecimalValue? second
    let third <- Text.hexadecimalValue? third
    let fourth <- Text.hexadecimalValue? fourth
    return (((first * 16 + second) * 16 + third) * 16 + fourth, rest)
  | _ => none

/-- Reads what follows `\u`: one unit, or two that form a surrogate pair. -/
def readEscapedUnits (source : List Char) : Option (Char × List Char) := do
  let (unit, rest) <- readUnit source
  if 0xdc00 ≤ unit ∧ unit ≤ 0xdfff then none
  else if 0xd800 ≤ unit ∧ unit ≤ 0xdbff then
    match rest with
    | '\\' :: 'u' :: second =>
      let (low, following) <- readUnit second
      if 0xdc00 ≤ low ∧ low ≤ 0xdfff then
        return (Char.ofNat (0x10000 + (unit - 0xd800) * 0x400 + (low - 0xdc00)), following)
      else none
    | _ => none
  else return (Char.ofNat unit, rest)

/-- Reads what follows a backslash. -/
def readEscape : List Char -> Option (Char × List Char)
  | '"' :: rest => some ('"', rest)
  | '\\' :: rest => some ('\\', rest)
  | '/' :: rest => some ('/', rest)
  | 'b' :: rest => some ('\x08', rest)
  | 'f' :: rest => some ('\x0c', rest)
  | 'n' :: rest => some ('\n', rest)
  | 'r' :: rest => some ('\r', rest)
  | 't' :: rest => some ('\t', rest)
  | 'u' :: rest => readEscapedUnits rest
  | _ => none

/-- Reads the characters of a text up to its closing quote, adding them to those read, last
first. -/
def readCharacters : Nat -> List Char -> List Char -> Option (String × List Char)
  | 0, _, _ => none
  | _, _, [] => none
  | _, read, '"' :: rest => some (String.ofList read.reverse, rest)
  | fuel + 1, read, '\\' :: rest =>
    match readEscape rest with
    | some (character, rest) => readCharacters fuel (character :: read) rest
    | none => none
  | fuel + 1, read, character :: rest =>
    if character.toNat < 32 then none else readCharacters fuel (character :: read) rest

/-- Reads a text after its opening quote. -/
def readText (fuel : Nat) (source : List Char) : Option (String × List Char) :=
  readCharacters fuel [] source

mutual

/-- Reads a value; `depth` more levels may be opened. -/
def readValue : Nat -> Nat -> List Char -> Option (Json × List Char)
  | 0, _, _ => none
  | fuel + 1, depth, source =>
    match skipBlanks source with
    | 'n' :: 'u' :: 'l' :: 'l' :: rest => some (.null, rest)
    | 't' :: 'r' :: 'u' :: 'e' :: rest => some (.bool true, rest)
    | 'f' :: 'a' :: 'l' :: 's' :: 'e' :: rest => some (.bool false, rest)
    | '"' :: rest => (readText fuel rest).map (fun (value, rest) => (.text value, rest))
    | '[' :: rest =>
      match depth with
      | 0 => none
      | depth + 1 =>
        match skipBlanks rest with
        | ']' :: rest => some (.list [], rest)
        | rest => (readItems fuel depth [] rest).map (fun (items, rest) => (.list items, rest))
    | '\x7b' :: rest =>
      match depth with
      | 0 => none
      | depth + 1 =>
        match skipBlanks rest with
        | '\x7d' :: rest => some (.object [], rest)
        | rest =>
          (readMembers fuel depth [] rest).map (fun (members, rest) => (.object members, rest))
    | source => readNumber source

/-- Reads items up to the closing bracket, adding them to those read, last first. -/
def readItems : Nat -> Nat -> List Json -> List Char -> Option (List Json × List Char)
  | 0, _, _, _ => none
  | fuel + 1, depth, read, source =>
    match readValue fuel depth source with
    | none => none
    | some (item, rest) =>
      match skipBlanks rest with
      | ',' :: rest => readItems fuel depth (item :: read) rest
      | ']' :: rest => some ((item :: read).reverse, rest)
      | _ => none

/-- Reads members up to the closing brace, adding them to those read, last first. -/
def readMembers :
    Nat -> Nat -> List (String × Json) -> List Char -> Option (List (String × Json) × List Char)
  | 0, _, _, _ => none
  | fuel + 1, depth, read, source =>
    match skipBlanks source with
    | '"' :: rest =>
      match readText fuel rest with
      | none => none
      | some (name, rest) =>
        match skipBlanks rest with
        | ':' :: rest =>
          match readValue fuel depth rest with
          | none => none
          | some (value, rest) =>
            match skipBlanks rest with
            | ',' :: rest => readMembers fuel depth ((name, value) :: read) rest
            | '\x7d' :: rest => some (((name, value) :: read).reverse, rest)
            | _ => none
        | _ => none
    | _ => none

end

/-- Reads a text that is one JSON value. -/
def parse? (source : String) : Option Json :=
  let characters := source.toList
  match readValue (2 * characters.length + 2) (nestingLimit - 1) characters with
  | some (value, rest) => if (skipBlanks rest).isEmpty then some value else none
  | none => none

end Json

end ProcessEngine
