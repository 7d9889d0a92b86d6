import ProcessEngine.Condition
import ProcessEngine.NodeKey

/-!
# Flows

A flow leads from one node to another. The flows of a graph have one canonical
order, in which the plain flows of a node come before its default flow and that
before its error routes; nothing that is computed from a graph depends on the
order in which its flows were listed.
-/

namespace ProcessEngine

/-- A directed connection of two nodes. -/
structure Flow where
  source : NodeKey
  target : NodeKey
  /-- When a routing gateway takes the flow; always, if there is no condition. -/
  condition : Option Condition := none
  /-- Whether the flow is taken when no other flow of its gateway is. -/
  isDefault : Bool := false
  /-- The business error that a task sends along the flow. -/
  errorCode : Option String := none
deriving DecidableEq

namespace Flow

/-- Whether the flow is for a business error. -/
def isErrorRoute (flow : Flow) : Bool := flow.errorCode.isSome

/-- Whether the flow leads back to where it starts. -/
def isSelfLoop (flow : Flow) : Bool := flow.source == flow.target

/-- The short text of a flow. -/
def arrow (flow : Flow) : String := flow.source.text ++ "->" ++ flow.target.text

/-- The order of the flows of one node; an absent part comes before a present one. -/
def compareSiblings (left right : Flow) : Ordering :=
  (compare left.isErrorRoute right.isErrorRoute).then <|
  (compare left.isDefault right.isDefault).then <|
  (compare left.errorCode right.errorCode).then <|
  (compare left.condition right.condition).then <|
  compare left.target right.target

/-- The canonical order of flows: by the node they leave, then as its flows are ordered. -/
def compareFlows (left right : Flow) : Ordering :=
  (compare left.source right.source).then (compareSiblings left right)

instance : Ord Flow := ⟨compareFlows⟩

instance : JsonCodec Flow where
  encode flow := .object [("from", encode flow.source), ("to", encode flow.target),
    ("condition", Encode.nullable encode flow.condition), ("is_default", .bool flow.isDefault),
    ("error_code", Encode.nullable encode flow.errorCode)]
  reader := Decode.record do
    return ⟨<- Decode.field "from" reader, <- Decode.field "to" reader,
      <- Decode.optional "condition" reader, <- Decode.fieldOr "is_default" false reader,
      <- Decode.optional "error_code" reader⟩

end Flow

end ProcessEngine
