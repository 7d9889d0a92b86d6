import ProcessEngine.NodeKey

/-!
# Errors of assembling a graph
-/

namespace ProcessEngine

/-- Why nodes and flows make no graph. -/
inductive GraphError where
  | invalidKey (cause : NodeKeyError)
  | duplicateNode (key : NodeKey)
  /-- The first node refers to the second, which does not exist. -/
  | unknownNode (node missing : NodeKey)
  | selfLoop (key : NodeKey)
deriving DecidableEq

namespace GraphError

/-- The name of a kind of error. -/
def name : GraphError -> String
  | .invalidKey _ => "InvalidKey"
  | .duplicateNode _ => "DuplicateNode"
  | .unknownNode _ _ => "UnknownNode"
  | .selfLoop _ => "SelfLoop"

/-- The message for nodes and flows that make no graph. -/
def message : GraphError -> String
  | .invalidKey cause => "invalid node key: " ++ cause.message
  | .duplicateNode key => "duplicate node id: " ++ key.text
  | .unknownNode node missing => node.text ++ " references unknown node: " ++ missing.text
  | .selfLoop key => "self-loop detected on node: " ++ key.text

end GraphError

end ProcessEngine
