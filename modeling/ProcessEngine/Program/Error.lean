import ProcessEngine.Program.Symbols

/-!
# Errors of programs
-/

namespace ProcessEngine

/-- Why a program cannot be used. -/
inductive ProgramError where
  | empty
  /-- An instruction, or the entry of a node, refers to an address past the end. -/
  | targetOutOfRange (source target : Address) (length : Nat)
  | unknownSymbol (reference : SymbolReference)
  /-- The program is stored under a hash that is not its own. -/
  | hashMismatch (stored computed : String)
  | invalidHash (text : String)
  /-- The text stands for no program. -/
  | unreadable
deriving DecidableEq, Repr

namespace ProgramError

/-- The name of a kind of error. -/
def name : ProgramError -> String
  | .empty => "Empty"
  | .targetOutOfRange _ _ _ => "TargetOutOfRange"
  | .unknownSymbol _ => "UnknownSymbol"
  | .hashMismatch _ _ => "HashMismatch"
  | .invalidHash _ => "InvalidHash"
  | .unreadable => "Decode"

/-- The message for a program that cannot be used. -/
def message : ProgramError -> String
  | .empty => "program has no instructions"
  | .targetOutOfRange source target length =>
    "instruction at " ++ toString source ++ " targets " ++ toString target ++
      ", past the end of the program (" ++ toString length ++ " instructions)"
  | .unknownSymbol reference =>
    "unknown " ++ reference.kind.text ++ " symbol #" ++ toString reference.index
  | .hashMismatch stored computed =>
    "program hash mismatch: stored " ++ stored ++ ", computed " ++ computed
  | .invalidHash text => "invalid program hash: " ++ Text.quoted text
  | .unreadable => "the text is not a program"

end ProgramError

end ProcessEngine
