import ProcessEngine.NodeKey

/-!
# Errors of state changes

A status moves only along the steps of its life cycle, and a join counts no more
arrivals than it expects.
-/

namespace ProcessEngine

/-- Why a state may not change as asked. -/
inductive LifecycleError where
  | invalidTransition (source target : String)
  | joinOverflow (join : NodeKey) (arrived expected : Nat)
deriving DecidableEq

namespace LifecycleError

/-- The name of a kind of error. -/
def name : LifecycleError -> String
  | .invalidTransition _ _ => "InvalidTransition"
  | .joinOverflow _ _ _ => "JoinOverflow"

/-- The message for a change that is not allowed. -/
def message : LifecycleError -> String
  | .invalidTransition source target => "invalid transition from " ++ source ++ " to " ++ target
  | .joinOverflow join arrived expected =>
    "join " ++ join.text ++ " over-arrived: " ++ toString arrived ++ " of " ++ toString expected

end LifecycleError

end ProcessEngine
