import ProcessEngine.Json.Decode
import ProcessEngine.Logging.Filter

/-!
# Configuration of logging

What is logged, in which format and to where, with setups for common situations.
Settings are read from an object or from named texts.
-/

namespace ProcessEngine

/-- How events are written. -/
inductive LogFormat where
  | pretty
  | compact
  | json
deriving DecidableEq, Repr

namespace LogFormat

/-- The name of a format. -/
def name : LogFormat -> String
  | .pretty => "pretty"
  | .compact => "compact"
  | .json => "json"

/-- The format of a name. -/
def ofName? : String -> Option LogFormat
  | "pretty" => some .pretty
  | "compact" => some .compact
  | "json" => some .json
  | _ => none

/-- A name in lower case without the blanks around it. -/
def normalize (raw : String) : String :=
  String.ofList ((Text.trim raw).toList.map Char.toLower)

/-- The format that a text names, or the message for one that names none. -/
def ofText (raw : String) : Except String LogFormat :=
  match ofName? (normalize raw) with
  | some format => .ok format
  | none => .error ("configuration error: unknown log format '" ++ normalize raw ++ "'")

instance : JsonCodec LogFormat := ⟨fun format => .text format.name, Decode.choice ofName?⟩

end LogFormat

/-- Where events are written to. -/
inductive LogWriter where
  | errorStream
  | outputStream
  | test
deriving DecidableEq, Repr

namespace LogWriter

/-- The name of a place. -/
def name : LogWriter -> String
  | .errorStream => "stderr"
  | .outputStream => "stdout"
  | .test => "test"

/-- The place of a name. -/
def ofName? : String -> Option LogWriter
  | "stderr" => some .errorStream
  | "stdout" => some .outputStream
  | "test" => some .test
  | _ => none

instance : JsonCodec LogWriter := ⟨fun writer => .text writer.name, Decode.choice ofName?⟩

end LogWriter

/-- What is shown of an event. -/
structure LogDisplay where
  colors : Bool := true
  target : Bool := true
  source : Bool := false
  threadIds : Bool := false
  threadNames : Bool := false
  /-- Whether the fields of an event stand beside its other members. -/
  flatten : Bool := false
  spanList : Bool := false
deriving DecidableEq, Repr

/-- The settings of logging. -/
structure LogConfig where
  /-- The filter that says what is logged. -/
  level : String := "info"
  format : LogFormat := .compact
  writer : LogWriter := .errorStream
  display : LogDisplay := {}
  /-- Whether the filter can be replaced later. -/
  reloadable : Bool := false
deriving DecidableEq, Repr

namespace LogConfig

/-- The setup for development. -/
def development : LogConfig :=
  { level := "debug", format := .pretty, display := { source := true } }

/-- The setup for production. -/
def production : LogConfig :=
  { format := .json, display := { colors := false, flatten := true } }

/-- The setup for tests. -/
def test : LogConfig :=
  { level := "debug", writer := .test, display := { colors := false } }

/-- The setup of a name. -/
def preset? : String -> Option LogConfig
  | "development" => some development
  | "production" => some production
  | "test" => some test
  | "default" => some {}
  | _ => none

/-- The configuration of named texts. -/
def ofLookup (lookup : String -> Option String) : LogConfig :=
  let standard : LogConfig := {}
  let level := ((lookup "WEFT_LOG").or (lookup "RUST_LOG")).getD standard.level
  let format := ((lookup "WEFT_LOG_FORMAT") >>= fun raw =>
    (LogFormat.ofText raw).toOption).getD standard.format
  { standard with level := level, format := format, display := { colors := format != .json } }

end LogConfig

instance : JsonCodec LogDisplay where
  encode display := .object [("colors", .bool display.colors), ("target", .bool display.target),
    ("source", .bool display.source), ("thread_ids", .bool display.threadIds),
    ("thread_names", .bool display.threadNames), ("flatten", .bool display.flatten),
    ("span_list", .bool display.spanList)]
  reader := Decode.record do
    let standard : LogDisplay := {}
    return ⟨<- Decode.fieldOr "colors" standard.colors reader,
      <- Decode.fieldOr "target" standard.target reader,
      <- Decode.fieldOr "source" standard.source reader,
      <- Decode.fieldOr "thread_ids" standard.threadIds reader,
      <- Decode.fieldOr "thread_names" standard.threadNames reader,
      <- Decode.fieldOr "flatten" standard.flatten reader,
      <- Decode.fieldOr "span_list" standard.spanList reader⟩

instance : JsonCodec LogConfig where
  encode config := .object [("level", .text config.level), ("format", encode config.format),
    ("writer", encode config.writer), ("display", encode config.display),
    ("reloadable", .bool config.reloadable)]
  reader := Decode.record do
    let standard : LogConfig := {}
    return ⟨<- Decode.fieldOr "level" standard.level reader,
      <- Decode.fieldOr "format" standard.format reader,
      <- Decode.fieldOr "writer" standard.writer reader,
      <- Decode.fieldOr "display" standard.display reader,
      <- Decode.fieldOr "reloadable" standard.reloadable reader⟩

end ProcessEngine
