import ProcessEngine.Data.Sorting
import ProcessEngine.Fiber.Basic
import ProcessEngine.Instance.Basic

/-!
# State of an instance

The record of an instance with its live fibers and the barriers of its joins.
-/

namespace ProcessEngine

/-- The arrivals at a join. -/
structure JoinBarrier where
  join : NodeKey
  /-- How often the join was activated. -/
  activation : Nat
  /-- How many fibers arrived for the latest activation. -/
  arrived : Nat
deriving DecidableEq

instance : JsonCodec JoinBarrier where
  encode barrier := .object [("join", encode barrier.join),
    ("activation", Encode.nat barrier.activation), ("arrived", Encode.nat barrier.arrived)]
  reader := Decode.record do
    return ⟨<- Decode.field "join" reader, <- Decode.field "activation" Decode.nat64,
      <- Decode.field "arrived" Decode.nat32⟩

/-- An instance with its fibers and barriers. -/
structure InstanceState where
  record : ProcessInstance
  fibers : OrderedMap FiberId Fiber
  barriers : OrderedMap NodeKey JoinBarrier
deriving DecidableEq

namespace InstanceState

/-- An instance without fibers. -/
def ofRecord (record : ProcessInstance) : InstanceState := ⟨record, .empty, .empty⟩

/-- The fiber of an identifier. -/
def fiber? (state : InstanceState) (id : FiberId) : Option Fiber := state.fibers.get? id

/-- The fibers in the order in which they were made. -/
def fibersInOrder (state : InstanceState) : List Fiber :=
  sortOn Fiber.sequence state.fibers.values

/-- The fibers that can run, in the order in which they were made. -/
def readyFibers (state : InstanceState) : List FiberId :=
  (state.fibersInOrder.filter (fun fiber => fiber.wait.isReady)).map Fiber.id

/-- The written form of a state. -/
def toJson (state : InstanceState) : Json := .object [("instance", encode state.record),
  ("fibers", Encode.list encode state.fibersInOrder),
  ("barriers", Encode.map NodeKey.text encode state.barriers),
  ("ready", Encode.list encode state.readyFibers)]

/-- The short form of a fiber: where it is, what it waits for and in which epoch. -/
def fiberSummary (fiber : Fiber) : Json := .list [encode fiber.id, Encode.nat fiber.pc,
  .text fiber.wait.label, Encode.nat fiber.epoch]

/-- The short form of a state: what routes the instance, and its fibers. -/
def summary (state : InstanceState) : Json := .object [("status", encode state.record.status),
  ("version", Encode.nat state.record.version),
  ("fibers", .list (state.fibersInOrder.map fiberSummary)), ("flags", state.record.flags.encode),
  ("counters", state.record.counters.encode),
  ("join_expected", Encode.map NodeKey.text Encode.nat state.record.expected)]

end InstanceState

end ProcessEngine
