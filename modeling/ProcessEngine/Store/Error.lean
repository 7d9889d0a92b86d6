import ProcessEngine.Identifier
import ProcessEngine.Program.Error

/-!
# Errors of stores
-/

namespace ProcessEngine

/-- Why a store cannot do what it is asked. -/
inductive StoreError where
  /-- The stored version is not the one that the transition began with. -/
  | conflict (id : InstanceId) (expected found : Option Nat)
  | program (error : ProgramError)
  /-- A schema cannot have the name. -/
  | invalidSchema (name : String)
  /-- The database refuses a value or a statement. -/
  | refused
deriving DecidableEq

namespace StoreError

/-- The name of a kind of error. -/
def name : StoreError -> String
  | .conflict _ _ _ => "Conflict"
  | .program error => error.name
  | .invalidSchema _ => "Config"
  | .refused => "Database"

/-- How a version that may be missing is shown. -/
def versionText : Option Nat -> String
  | some version => "Some(" ++ toString version ++ ")"
  | none => "None"

/-- The message for a request that cannot be met. -/
def message : StoreError -> String
  | .conflict id expected found => "version conflict on instance " ++ id.render ++
    ": expected " ++ versionText expected ++ ", found " ++ versionText found
  | .program error => error.message
  | .invalidSchema name => "invalid store configuration: schema name " ++ Text.quoted name ++
    " must be lowercase ascii, digits or '_'"
  | .refused => "refused by the database"

/-- Whether another attempt on the present state may succeed. -/
def isConflict : StoreError -> Bool
  | .conflict _ _ _ => true
  | _ => false

end StoreError

end ProcessEngine
