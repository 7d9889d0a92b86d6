import ProcessEngine.Text.Blank
import ProcessEngine.Text.Letter
import ProcessEngine.Text.Numeral

/-!
# Value patterns

A log directive may ask for a field with a value. What it asks for is a number or a
pattern, a regular expression; this module says which texts are patterns. A pattern
is written between braces, so whatever needs a closing brace is not one. There are no
tables of the properties of characters: shorthands for classes of characters, the
edges of words and the case of letters can only be used in the ASCII mode, in which
no part may stand for anything that is not a character.
-/

namespace ProcessEngine

namespace ValuePattern

/-- How the parts of a pattern are understood. -/
structure Mode where
  /-- Whether the case of letters does not matter. -/
  caseless : Bool := false
  /-- Whether all characters are meant; else those of ASCII. -/
  unicode : Bool := true
  /-- Whether blanks and comments may stand between the parts. -/
  spaced : Bool := false
deriving DecidableEq, Repr

/-- What a pattern asks for at one place. -/
inductive Atom where
  /-- A character, or the byte of its number. -/
  | character (value : Char) (isByte : Bool)
  /-- Any character. -/
  | any
  /-- A class of characters that has a letter, or what is not in it. -/
  | shorthand (isComplement : Bool)
  /-- The start or the end of a line or of the text. -/
  | edge
  /-- A place in relation to a word. -/
  | wordEdge
deriving DecidableEq, Repr

/-- How two sets of characters are combined. -/
inductive SetOperator where
  | intersection
  | difference
  | symmetricDifference
deriving DecidableEq, Repr

namespace Mode

/-- Whether an atom can be used by itself. -/
def permits (mode : Mode) : Atom -> Bool
  | .character value isByte =>
    if mode.unicode then !mode.caseless else !isByte || decide (value.toNat < 0x80)
  | .any => mode.unicode
  | .shorthand isComplement => !mode.unicode && !isComplement
  | .edge => true
  | .wordEdge => !mode.unicode

/-- Whether an atom can be used in a set. -/
def permitsInSet (mode : Mode) : Atom -> Bool
  | .character value _ => if mode.unicode then !mode.caseless else decide (value.toNat < 0x80)
  | .shorthand isComplement => !mode.unicode && !isComplement
  | _ => false

/-- Drops the blanks and comments in front, after the start of a comment if so given. -/
def dropSpace : Bool -> List Char -> List Char
  | _, [] => []
  | true, character :: rest => dropSpace (character != '\n') rest
  | false, character :: rest =>
    if Text.isBlank character then dropSpace false rest
    else if character = '#' then dropSpace true rest
    else character :: rest

/-- Drops what may stand between parts. -/
def skip (mode : Mode) (source : List Char) : List Char :=
  if mode.spaced then dropSpace false source else source

/-- The next character but for blanks and the mark of a comment. -/
def upcoming? (mode : Mode) (source : List Char) : Option Char :=
  if mode.spaced then
    match source.dropWhile Text.isBlank with
    | '#' :: rest => (rest.dropWhile Text.isBlank).head?
    | rest => rest.head?
  else source.head?

/-- The mode after flags are switched on or off. -/
def switch (mode : Mode) (flags : List (Char × Bool)) : Mode where
  caseless := (flags.lookup 'i').getD mode.caseless
  unicode := (flags.lookup 'u').getD mode.unicode
  spaced := (flags.lookup 'x').getD mode.spaced

end Mode

/-! ## Escapes -/

/-- The characters that mean something in a pattern. -/
def isMeta (character : Char) : Bool := "\\.+*?()|[]\x7b\x7d^$#&-~".toList.contains character

/-- Whether a backslash before a character only says that the character is meant. -/
def isEscapable (character : Char) : Bool :=
  isMeta character || (decide (character.toNat < 0x80) && !character.isAlphanum &&
    character != '<' && character != '>')

/-- The characters that have a letter after a backslash. -/
def namedCharacter? : Char -> Option Char
  | 'a' => some '\x07'
  | 'f' => some '\x0c'
  | 't' => some '\t'
  | 'n' => some '\n'
  | 'r' => some '\r'
  | 'v' => some '\x0b'
  | _ => none

/-- Reads a number of hexadecimal digits and what may stand around them. -/
def readHexadecimal (mode : Mode) : Nat -> Nat -> List Char -> Option (Nat × List Char)
  | 0, value, source => some (value, mode.skip source)
  | places + 1, value, source =>
    match mode.skip source with
    | [] => none
    | digit :: rest => do
      readHexadecimal mode places (value * 16 + (<- Text.hexadecimalValue? digit)) rest

/-- Reads a character that is given by its number. -/
def readCode (mode : Mode) (places : Nat) (source : List Char) : Option (Atom × List Char) := do
  let (value, rest) <- readHexadecimal mode places 0 source
  if value.isValidChar then return (.character (Char.ofNat value) (places == 2), rest) else none

/-- Reads what follows a backslash. -/
def readEscape (mode : Mode) : List Char -> Option (Atom × List Char)
  | [] => none
  | 'x' :: rest => readCode mode 2 rest
  | 'u' :: rest => readCode mode 4 rest
  | 'U' :: rest => readCode mode 8 rest
  | character :: rest =>
    if ['d', 's', 'w'].contains character then some (.shorthand false, rest)
    else if ['D', 'S', 'W'].contains character then some (.shorthand true, rest)
    else if ['A', 'z'].contains character then some (.edge, rest)
    else if ['b', 'B', '<', '>'].contains character then some (.wordEdge, rest)
    else if isEscapable character then some (.character character false, rest)
    else (namedCharacter? character).map (fun value => (.character value false, rest))

/-- Reads an atom. -/
def readAtom (mode : Mode) : List Char -> Option (Atom × List Char)
  | [] => none
  | '\\' :: rest => readEscape mode rest
  | '.' :: rest => some (.any, rest)
  | '^' :: rest => some (.edge, rest)
  | '$' :: rest => some (.edge, rest)
  | character :: rest => some (.character character false, rest)

/-! ## Sets -/

/-- A set of characters that is being read. Of what it holds only matters whether it holds
anything beyond ASCII. -/
structure SetReading where
  isComplement : Bool
  /-- Whether what was read since the last operator reaches beyond ASCII. -/
  reachesOut : Bool := false
  /-- The operator to apply, and whether the set before it reaches beyond ASCII. -/
  pending : Option (SetOperator × Bool) := none
deriving DecidableEq, Repr

namespace SetReading

/-- Whether all that was read reaches beyond ASCII. -/
def total (reading : SetReading) : Bool :=
  match reading.pending with
  | none => reading.reachesOut
  | some (.intersection, left) => left && reading.reachesOut
  | some (.difference, left) => left && !reading.reachesOut
  | some (.symmetricDifference, left) => left != reading.reachesOut

/-- The reading after an operator. -/
def operate (reading : SetReading) (operator : SetOperator) : SetReading :=
  { reading with reachesOut := false, pending := some (operator, reading.total) }

/-- Whether a finished set can be used. -/
def isUsable (reading : SetReading) (mode : Mode) : Bool :=
  mode.unicode || reading.total == reading.isComplement

end SetReading

/-- The names of classes of ASCII characters. -/
def classNames : List String :=
  ["alnum", "alpha", "ascii", "blank", "cntrl", "digit", "graph", "lower", "print", "punct",
    "space", "upper", "word", "xdigit"]

/-- Reads the rest of a named class after its first bracket, and whether it is the complement. -/
def readClass : List Char -> Option (Bool × List Char)
  | ':' :: source =>
    let (isComplement, source) := match source with
      | '^' :: rest => (true, rest)
      | _ => (false, source)
    match source.dropWhile (fun character => character != ':') with
    | ':' :: ']' :: rest =>
      if classNames.contains (String.ofList (source.takeWhile (fun character => character != ':')))
      then some (isComplement, rest)
      else none
    | _ => none
  | _ => none

/-- Reads the dashes at the start of a set, and whether there are any. -/
def readDashes (mode : Mode) : Nat -> List Char -> Bool × List Char
  | fuel + 1, '-' :: rest => (true, (readDashes mode fuel (mode.skip rest)).2)
  | _, source => (false, source)

/-- Reads the start of a set after its bracket. -/
def openSet (mode : Mode) (source : List Char) : Option (SetReading × List Char) :=
  let (isComplement, source) := match mode.skip source with
    | '^' :: rest => (true, mode.skip rest)
    | rest => (false, rest)
  let (found, source) := match readDashes mode source.length source with
    | (false, ']' :: rest) => (true, rest)
    | read => read
  if found && !mode.permitsInSet (.character '-' false) then none
  else some ({ isComplement := isComplement }, source)

/-- Reads an item of a set: a character, a range of characters or a shorthand. -/
def readItem (mode : Mode) (source : List Char) : Option (List Char) := do
  let one : List Char -> Option (Atom × List Char)
    | '\\' :: rest => readEscape mode rest
    | character :: rest => some (.character character false, rest)
    | [] => none
  let (first, rest) <- one source
  if !mode.permitsInSet first then none
  match mode.skip rest with
  | '-' :: rest =>
    if [some ']', some '-'].contains (mode.upcoming? rest) then return '-' :: rest
    let (last, rest) <- one (mode.skip rest)
    if !mode.permitsInSet last then none
    match first, last with
    | .character low _, .character high _ => if low ≤ high then return rest else none
    | _, _ => none
  | rest => return rest

/-- Reads the rest of a set, given the sets that it stands in. -/
def readSet (mode : Mode) : Nat -> SetReading -> List SetReading -> List Char ->
    Option (List Char)
  | 0, _, _, _ => none
  | fuel + 1, reading, outer, source =>
    match mode.skip source with
    | '[' :: rest =>
      match readClass rest with
      | some (isComplement, rest) =>
        if mode.permitsInSet (.character 'a' false) then
          let reachesOut := reading.reachesOut || isComplement
          readSet mode fuel { reading with reachesOut := reachesOut } outer rest
        else none
      | none => do
        let (inner, rest) <- openSet mode rest
        readSet mode fuel inner (reading :: outer) rest
    | ']' :: rest =>
      if reading.isUsable mode then
        match outer with
        | [] => some rest
        | next :: outer => readSet mode fuel next outer rest
      else none
    | '&' :: '&' :: rest => readSet mode fuel (reading.operate .intersection) outer rest
    | '-' :: '-' :: rest => readSet mode fuel (reading.operate .difference) outer rest
    | '~' :: '~' :: rest => readSet mode fuel (reading.operate .symmetricDifference) outer rest
    | rest => readItem mode rest >>= readSet mode fuel reading outer

/-! ## Groups -/

/-- Reads flags up to the mark that ends them: those that are switched, and the mark. -/
def readFlags : List (Char × Bool) -> Bool -> Bool -> List Char ->
    Option (List (Char × Bool) × Char × List Char)
  | _, _, _, [] => none
  | flags, isOn, dangles, character :: rest =>
    if character = ':' ∨ character = ')' then
      if dangles then none else some (flags, character, rest)
    else if character = '-' then
      if isOn then readFlags flags false true rest else none
    else if ['i', 'm', 's', 'U', 'u', 'R', 'x'].contains character ∧
        (flags.lookup character).isNone then
      readFlags ((character, isOn) :: flags) isOn false rest
    else none

/-- Reads the name of a group up to its closing bracket. -/
def readName (source : List Char) : Option (String × List Char) :=
  let name := source.takeWhile (fun character => character != '>')
  match name, source.drop name.length with
  | first :: others, _ :: rest =>
    if (first = '_' ∨ Text.isLetter first) ∧ others.all (fun character =>
        ['_', '.', '[', ']'].contains character || Text.isLetterOrNumeric character) then
      some (String.ofList name, rest)
    else none
  | _, _ => none

/-- A pattern of which a part has been read. -/
structure Reading where
  mode : Mode := {}
  /-- The modes to return to where the open groups end, the innermost first. -/
  outer : List Mode := []
  /-- Whether the part before can be repeated. -/
  isRepeatable : Bool := false
  /-- The names of groups. -/
  names : List String := []
deriving DecidableEq, Repr

namespace Reading

/-- The reading after the start of a group. -/
def enter (reading : Reading) (mode : Mode) : Reading :=
  { reading with mode := mode, outer := reading.mode :: reading.outer, isRepeatable := false }

/-- Reads the start of a group with a name. -/
def readNamed (reading : Reading) (source : List Char) : Option (Reading × List Char) := do
  let (name, rest) <- readName source
  if reading.names.contains name then none
  return ({ reading.enter reading.mode with names := name :: reading.names }, rest)

/-- Reads the start of a group after its bracket. -/
def readGroup (reading : Reading) (source : List Char) : Option (Reading × List Char) :=
  match reading.mode.skip source with
  | '?' :: 'P' :: '<' :: rest => reading.readNamed rest
  | '?' :: '<' :: rest => reading.readNamed rest
  | '?' :: rest => do
    let (flags, mark, rest) <- readFlags [] true false rest
    let mode := reading.mode.switch flags
    if mark = ':' then return (reading.enter mode, rest)
    else if flags.isEmpty then none
    else return ({ reading with mode := mode, isRepeatable := false }, rest)
  | rest => some (reading.enter reading.mode, rest)

/-- Reads a part of a pattern. -/
def readPart (reading : Reading) : List Char -> Option (Reading × List Char)
  | '(' :: rest => reading.readGroup rest
  | ')' :: rest =>
    match reading.outer with
    | [] => none
    | mode :: outer =>
      some ({ reading with mode := mode, outer := outer, isRepeatable := true }, rest)
  | '|' :: rest => some ({ reading with isRepeatable := false }, rest)
  | '[' :: rest => do
    let (set, rest) <- openSet reading.mode rest
    let rest <- readSet reading.mode (rest.length + 1) set [] rest
    return ({ reading with isRepeatable := true }, rest)
  | '\x7b' :: _ => none
  | source =>
    match source with
    | [] => none
    | character :: rest =>
      if ['?', '*', '+'].contains character then
        if reading.isRepeatable then
          some (reading, match rest with
            | '?' :: rest => rest
            | rest => rest)
        else none
      else do
        let (atom, rest) <- readAtom reading.mode source
        if reading.mode.permits atom then return ({ reading with isRepeatable := true }, rest)
        else none

/-- Whether the rest of a pattern can be read. -/
def accepts : Nat -> Reading -> List Char -> Bool
  | 0, _, _ => false
  | fuel + 1, reading, source =>
    match reading.mode.skip source with
    | [] => reading.outer.isEmpty
    | source =>
      match reading.readPart source with
      | some (reading, rest) => accepts fuel reading rest
      | none => false

end Reading

/-- Whether a text is a pattern. -/
def isReadable (text : String) : Bool :=
  Reading.accepts (text.length + 1) {} text.toList

end ValuePattern

end ProcessEngine
