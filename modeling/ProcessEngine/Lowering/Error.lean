import ProcessEngine.Program.Error
import ProcessEngine.Verification.Problem

/-!
# Errors of compilation
-/

namespace ProcessEngine

/-- Why a verified graph cannot be turned into code. -/
inductive LoweringError where
  | unpairedGateway (gateway : NodeKey)
  /-- Code refers to a node that has no code. -/
  | unplacedLabel (node : NodeKey)
  /-- Code refers to a loop that has no code. -/
  | unplacedLoop (number : Nat)
  | missingFlow (node : NodeKey)
  /-- A race waits for more messages with correlations of their own than there are registers. -/
  | tooManyArms (race : NodeKey) (needed available : Nat)
  | program (cause : ProgramError)
deriving DecidableEq

/-- The message for a graph that cannot be turned into code. -/
def LoweringError.message : LoweringError -> String
  | .unpairedGateway gateway => "gateway " ++ gateway.text ++ " has no paired join"
  | .unplacedLabel node => "label for node " ++ node.text ++ " was never placed"
  | .unplacedLoop number => "could not intern symbol " ++ Text.quoted ("stub " ++ toString number)
  | .missingFlow node => "node " ++ node.text ++ " has no outgoing flow"
  | .tooManyArms race needed available =>
    "race " ++ race.text ++ " needs " ++ toString needed ++ " correlation registers, only " ++
      toString available ++ " exist"
  | .program cause => cause.message

/-- Why a graph cannot be compiled. -/
inductive CompileError where
  | unsound (problems : List StructuralProblem)
  | lowering (cause : LoweringError)
deriving DecidableEq

namespace CompileError

/-- The stage at which compilation stopped. -/
def stage : CompileError -> String
  | .unsound _ => "verify"
  | .lowering _ => "lower"

/-- A message for each problem. -/
def messages : CompileError -> List String
  | .unsound problems => problems.map StructuralProblem.message
  | .lowering cause => [cause.message]

/-- The message for a graph that cannot be compiled. -/
def message (error : CompileError) : String :=
  error.stage ++ " failed: " ++ "; ".intercalate error.messages

end CompileError

end ProcessEngine
