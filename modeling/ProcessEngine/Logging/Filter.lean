import ProcessEngine.Logging.Pattern

/-!
# Log filters

A filter is a list of directives separated by commas. A directive gives a level for
all events or for those whose target begins with a text. It may also be limited to a
span or to a field with a value, and then it says nothing about plain events. If it is
limited to a field of any value it counts for plain events, of which the fields are not
known. Of the directives that match an event the one with the longest target decides;
of those for the same target the one with a field, and the last field of several; and
of the directives that differ in their levels only, the last one.
-/

namespace ProcessEngine

/-- How much is logged: nothing at 0, errors at 1 and everything at 5. -/
abbrev LogLevel := Nat

namespace LogFilter

/-- The level that logs everything. -/
def everything : LogLevel := 5

/-- The names of the levels in order. -/
def levelNames : List String := ["off", "error", "warn", "info", "debug", "trace"]

/-- The level that a text names, by number or by name in either case. -/
def level? (text : String) : Option LogLevel :=
  match Text.unsigned? UInt64.size text with
  | some number => if number ≤ everything then some number else none
  | none => levelNames.idxOf? (String.ofList (text.toList.map Char.toLower))

/-- Whether a character may begin a directive without a span. -/
def beginsDirective (character : Char) : Bool :=
  character == '-' || character == ':' || character == '_' || Text.isLetterOrNumeric character

/-- A level and the events it is for. -/
structure Directive where
  /-- What the targets of the events begin with. -/
  target : Option String
  /-- The field that the events have. -/
  field : Option String
  level : LogLevel
  /-- Whether the directive is for plain events. -/
  isPlain : Bool
deriving DecidableEq, Repr

/-- What has been read of a directive. Places are counted in bytes. -/
inductive ReadState where
  | start
  | levelOrTarget
  | span (place : Nat)
  | field (place : Nat)
  | fields
  | afterSpan
  | level (place : Nat)

/-- A directive of which a part has been read. -/
structure Reading where
  state : ReadState := .start
  target : Option String := none
  field : Option String := none
  isPlain : Bool := true

/-- The characters after a number of bytes. -/
def dropBytes : Nat -> List Char -> List Char
  | _, [] => []
  | 0, characters => characters
  | places, character :: rest => dropBytes (places - character.utf8Size) rest

/-- The characters within a number of bytes. -/
def takeBytes : Nat -> List Char -> List Char
  | _, [] => []
  | 0, _ => []
  | places, character :: rest => character :: takeBytes (places - character.utf8Size) rest

/-- The part of a text between two places. -/
def slice (text : List Char) (first last : Nat) : String :=
  String.ofList (takeBytes (last - first) (dropBytes first text))

/-- Reads a field and tells whether it is given with a value, a number or a pattern. -/
def readField (text : String) : Option (String × Bool) :=
  match text.splitOn "=" with
  | name :: value :: _ =>
    if Text.isNumber value || ValuePattern.isReadable value then some (name, true) else none
  | _ => some (text, false)

/-- Reads one more character of a directive, found at a place. -/
def readCharacter (text : List Char) (reading : Reading) (place : Nat) (character : Char) :
    Option Reading :=
  match reading.state with
  | .start =>
    if character = '[' then some { reading with state := .span (place + 1) }
    else if beginsDirective character then some { reading with state := .levelOrTarget }
    else none
  | .levelOrTarget =>
    if character = '=' then
      some { reading with target := some (slice text 0 place), state := .level (place + 1) }
    else if character = '[' then
      some { reading with target := some (slice text 0 place), state := .span (place + 1) }
    else some reading
  | .span first =>
    if character = ']' then some { reading with state := .afterSpan, isPlain := false }
    else if character = '\x7b' then
      some { reading with state := .field (place + 1), isPlain := first == place }
    else some reading
  | .field first =>
    if character = '}' then do
      if first = place then none
      let (name, hasValue) <- readField (slice text first place)
      return { reading with
        state := .fields, field := some name, isPlain := reading.isPlain && !hasValue }
    else some reading
  | .fields => if character = ']' then some { reading with state := .afterSpan } else none
  | .afterSpan =>
    if character = '=' then some { reading with state := .level (place + 1) } else none
  | .level _ => some reading

/-- Reads the rest of a directive from a place on. -/
def readCharacters (text : List Char) : List Char -> Nat -> Reading -> Option Reading
  | [], _, reading => some reading
  | character :: rest, place, reading =>
    readCharacter text reading place character >>=
      readCharacters text rest (place + character.utf8Size)

/-- Reads a directive. Its characters are those of the text without the blanks around it, but
their places are looked up in the text as it stands. -/
def readDirective (text : String) : Option Directive := do
  let characters := text.toList
  let reading <- readCharacters characters (Text.trimList characters) 0 {}
  match reading.state with
  | .levelOrTarget =>
    match level? text with
    | some level => return ⟨none, none, level, true⟩
    | none => return ⟨some text, none, everything, true⟩
  | .level first =>
    let name := String.ofList (dropBytes first characters)
    let level <- if name = "" then some everything else level? name
    return ⟨reading.target, reading.field, level, reading.isPlain⟩
  | .afterSpan => return ⟨reading.target, reading.field, everything, reading.isPlain⟩
  | _ => none

/-- The pieces between commas that are not empty. -/
def pieces (text : String) : List String :=
  (text.splitOn ",").filter (fun piece => piece != "")

end LogFilter

/-- The directives that say what is logged. -/
structure LogFilter where
  directives : List LogFilter.Directive
deriving DecidableEq, Repr

namespace LogFilter

/-- Reads a filter. -/
def parse? (text : String) : Option LogFilter := ((pieces text).mapM readDirective).map LogFilter.mk

/-- Whether a directive is for the plain events of a target. -/
def Directive.covers (directive : Directive) (target : String) : Bool :=
  directive.isPlain && (directive.target.getD "").toList.isPrefixOf target.toList

/-- Orders directives by how closely they name their events. -/
def Directive.compareCloseness (left right : Directive) : Ordering :=
  (compare (left.target.map String.utf8ByteSize) (right.target.map String.utf8ByteSize)).then
    (compare left.field right.field)

/-- The directive that decides about the plain events of a target. -/
def decisive? (filter : LogFilter) (target : String) : Option Directive :=
  (filter.directives.filter (fun directive => directive.covers target)).foldl
    (fun best directive =>
      match best with
      | none => some directive
      | some found =>
        if (found.compareCloseness directive).isGT then some found else some directive)
    none

/-- The level up to which plain events of a target are logged. -/
def levelOf (filter : LogFilter) (target : String) : LogLevel :=
  ((filter.decisive? target).map Directive.level).getD 0

end LogFilter

end ProcessEngine
