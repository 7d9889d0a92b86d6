import ProcessEngine.Logging.Config
import ProcessEngine.Logging.Filter
import ProcessEngine.Text.Quoted

/-!
# Logging in use

A process logs in one way only, which is set up once. The filter may be replaced later; a
text that is no filter leaves the one in use as it is.
-/

namespace ProcessEngine

/-- Why logging cannot be set up or changed. -/
inductive LoggingError where
  /-- A text is no filter. -/
  | unreadableFilter (text : String)
  | alreadyInstalled
deriving DecidableEq, Repr

namespace LoggingError

/-- The name of a kind of error. -/
def name : LoggingError -> String
  | .unreadableFilter _ => "Filter"
  | .alreadyInstalled => "AlreadyInitialized"

/-- The message for a setup that cannot be made. -/
def message : LoggingError -> String
  | .unreadableFilter text => "invalid filter: " ++ Text.quoted text
  | .alreadyInstalled => "a global subscriber is already installed"

end LoggingError

namespace LogFilter

/-- Reads a filter or tells why it is none. -/
def ofText (text : String) : Except LoggingError LogFilter :=
  match parse? text with
  | some filter => .ok filter
  | none => .error (.unreadableFilter text)

end LogFilter

/-- Sets logging up in a process, in which it may be set up already. -/
def LogConfig.install (config : LogConfig) (isInstalled : Bool) :
    Except LoggingError LogFilter := do
  let filter <- LogFilter.ofText config.level
  if isInstalled then .error .alreadyInstalled else return filter

/-- A filter in use, with the text that it was read from. -/
structure LiveFilter where
  text : String := "off"
  filter : LogFilter := ⟨[⟨none, none, 0, true⟩]⟩
deriving DecidableEq, Repr

namespace LiveFilter

/-- Replaces the filter. -/
def reload (_ : LiveFilter) (text : String) : Except LoggingError LiveFilter := do
  return ⟨text, <- LogFilter.ofText text⟩

/-- The level up to which plain events of a target are logged. -/
def levelOf (live : LiveFilter) (target : String) : LogLevel := live.filter.levelOf target

end LiveFilter

end ProcessEngine
