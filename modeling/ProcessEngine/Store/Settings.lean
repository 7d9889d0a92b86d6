import ProcessEngine.Store.Error
import ProcessEngine.Json.Decode

/-!
# Settings of a database

In which schema of a database the tables are, and how they are reached.
-/

namespace ProcessEngine

/-- The settings of a store in database tables. -/
structure TableSettings where
  /-- The schema that holds the tables. -/
  schema : String := "public"
  /-- The greatest number of connections at a time. -/
  maximumConnections : Nat := 10
  /-- Whether missing tables are made on connection. -/
  runMigrations : Bool := true

namespace TableSettings

/-- Whether a character may stand in the name of a schema. -/
def isSchemaCharacter (character : Char) : Bool :=
  character.isLower || character.isDigit || character == '_'

/-- Whether a schema can have a name. -/
def isSchema (name : String) : Bool :=
  !name.toList.isEmpty && name.toList.all isSchemaCharacter &&
    !(name.toList.head?.any Char.isDigit)

/-- Checks the settings before a connection is made. -/
def check (settings : TableSettings) : Except StoreError Unit :=
  if isSchema settings.schema then .ok () else .error (.invalidSchema settings.schema)

/-- The written form of the settings. -/
def toJson (settings : TableSettings) : Json := .object [("schema", .text settings.schema),
  ("max_connections", Encode.nat settings.maximumConnections),
  ("run_migrations", .bool settings.runMigrations)]

end TableSettings

end ProcessEngine
