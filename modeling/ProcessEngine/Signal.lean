import ProcessEngine.Fiber.Basic

/-!
# Signals

A signal asks to end the wait of one fiber. It names the epoch that its sender has
seen, so that it has no effect on a later wait of the same fiber.
-/

namespace ProcessEngine

/-- What a signal answers to. -/
inductive WakeKind where
  | timer
  | message (name correlation : String)
  | human (task : String)
deriving DecidableEq

/-- A request to end the wait of a fiber. -/
structure WakeSignal where
  owner : InstanceId
  fiber : FiberId
  /-- The epoch of the fiber that the sender has seen. -/
  epoch : Nat
  kind : WakeKind
  /-- Flags to set if the wait ends. -/
  flags : Flags := .empty
  /-- What the instance works on from then on, if it changes. -/
  payload : Option Json := none
deriving DecidableEq

instance : JsonCodec WakeKind where
  encode
    | .timer => Encode.tagged "kind" "timer" []
    | .message name correlation =>
      Encode.tagged "kind" "message" [("name", .text name), ("correlation", .text correlation)]
    | .human task => Encode.tagged "kind" "human" [("task", .text task)]
  reader := Decode.tagged "kind" [
    ("timer", return .timer),
    ("message", do
      return .message (<- Decode.field "name" reader) (<- Decode.field "correlation" reader)),
    ("human", do return .human (<- Decode.field "task" reader))]

end ProcessEngine
