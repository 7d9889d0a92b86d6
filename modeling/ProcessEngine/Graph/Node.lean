import ProcessEngine.NodeKey

/-!
# Nodes

The elements of a process: where it starts and ends, the work it delegates, the
gateways where its control splits and joins, the waits where it pauses, and the
timers that watch over a wait.
-/

namespace ProcessEngine

/-- Whether a gateway splits control or joins it. -/
inductive GatewayDirection where
  | diverging
  | converging
deriving DecidableEq, Repr

/-- Which branches a splitting gateway takes: all of them, or those whose conditions hold. -/
inductive GatewayKind where
  | parallel
  | inclusive
deriving DecidableEq, Repr

/-- What can end a race. -/
inductive RaceTrigger where
  /-- A number of milliseconds passes. -/
  | timer (duration : Nat)
  /-- A message arrives whose correlation is the value of a flag, or the correlation of the
  instance if no flag is named. -/
  | message (name : String) (correlationFlag : Option String)
deriving DecidableEq, Repr

/-- One of the competing ways to leave a race. -/
structure RaceArm where
  trigger : RaceTrigger
  target : NodeKey
deriving DecidableEq

/-- What a node does. -/
inductive NodeKind where
  /-- The entry of the process. -/
  | start
  /-- An exit: of this path only, or of the whole instance. -/
  | finish (terminate : Bool)
  /-- Work handed out as a job and retried a number of times. -/
  | serviceTask (taskType : String) (retries : Nat)
  /-- Takes exactly one of its flows. -/
  | exclusiveGateway
  /-- Splits control into branches or joins them, with a declared partner if there is one. -/
  | gateway (kind : GatewayKind) (direction : GatewayDirection) (declaredJoin : Option NodeKey)
  /-- Waits for a number of milliseconds. -/
  | timerWait (duration : Nat)
  /-- Waits for a message with the value of a flag, or the correlation of the instance. -/
  | messageWait (name : String) (correlationFlag : Option String)
  /-- Waits for a person. -/
  | humanWait (task : String)
  /-- Waits for the first of several triggers. -/
  | raceWait (arms : List RaceArm)
  /-- A timer that runs while its host waits, and ends that wait if it interrupts. -/
  | boundaryTimer (host : NodeKey) (duration : Nat) (interrupting : Bool)
deriving DecidableEq

/-- An element of a process. -/
structure Node where
  key : NodeKey
  kind : NodeKind
deriving DecidableEq

namespace GatewayDirection

/-- The name of a direction. -/
def name : GatewayDirection -> String
  | .diverging => "diverging"
  | .converging => "converging"

/-- The direction of a name. -/
def ofName? : String -> Option GatewayDirection
  | "diverging" => some .diverging
  | "converging" => some .converging
  | _ => none

instance : JsonCodec GatewayDirection := ⟨fun direction => .text direction.name,
  Decode.choice ofName?⟩

end GatewayDirection

namespace GatewayKind

/-- The name of a kind of gateway. -/
def name : GatewayKind -> String
  | .parallel => "parallel"
  | .inclusive => "inclusive"

end GatewayKind

namespace RaceTrigger

instance : JsonCodec RaceTrigger where
  encode
    | .timer duration => Encode.tagged "type" "timer" [("duration_ms", Encode.nat duration)]
    | .message name flag =>
      Encode.tagged "type" "message"
        [("name", .text name), ("correlation_key", Encode.nullable encode flag)]
  reader := Decode.tagged "type" [
    ("timer", do return .timer (<- Decode.field "duration_ms" Decode.nat64)),
    ("message", do
      return .message (<- Decode.field "name" reader)
        (<- Decode.optional "correlation_key" reader))]

end RaceTrigger

instance : JsonCodec RaceArm where
  encode arm := .object [("trigger", encode arm.trigger), ("target", encode arm.target)]
  reader := Decode.record do
    return ⟨<- Decode.field "trigger" reader, <- Decode.field "target" reader⟩

namespace NodeKind

/-- A short name for what a node does. -/
def label : NodeKind -> String
  | .start => "start"
  | .finish false => "end"
  | .finish true => "terminate_end"
  | .serviceTask _ _ => "service_task"
  | .exclusiveGateway => "exclusive_gateway"
  | .gateway .parallel _ _ => "parallel_gateway"
  | .gateway .inclusive _ _ => "inclusive_gateway"
  | .timerWait _ => "timer_wait"
  | .messageWait _ _ => "message_wait"
  | .humanWait _ => "human_wait"
  | .raceWait _ => "race_wait"
  | .boundaryTimer _ _ _ => "boundary_timer"

/-- The fields that describe a node besides its key. -/
def fields : NodeKind -> List (String × Json)
  | .start => [("type", .text "start")]
  | .finish terminate => [("type", .text "end"), ("terminate", .bool terminate)]
  | .serviceTask taskType retries =>
    [("type", .text "service_task"), ("task_type", .text taskType), ("retries", Encode.nat retries)]
  | .exclusiveGateway => [("type", .text "exclusive_gateway")]
  | .gateway kind direction declared =>
    [("type", .text (kind.name ++ "_gateway")), ("direction", encode direction),
      ("join_ref", Encode.nullable encode declared)]
  | .timerWait duration => [("type", .text "timer_wait"), ("duration_ms", Encode.nat duration)]
  | .messageWait name flag =>
    [("type", .text "message_wait"), ("name", .text name),
      ("correlation_key", Encode.nullable encode flag)]
  | .humanWait task => [("type", .text "human_wait"), ("task", .text task)]
  | .raceWait arms => [("type", .text "race_wait"), ("arms", Encode.list encode arms)]
  | .boundaryTimer host duration interrupting =>
    [("type", .text "boundary_timer"), ("host", encode host), ("duration_ms", Encode.nat duration),
      ("interrupting", .bool interrupting)]

/-- Reads the direction and the declared partner of a gateway. -/
def readGateway (kind : GatewayKind) : Decode.RecordReader NodeKind := do
  return .gateway kind (<- Decode.field "direction" reader) (<- Decode.optional "join_ref" reader)

instance : JsonCodec NodeKind where
  encode kind := .object kind.fields
  reader := Decode.tagged "type" [
    ("start", return .start),
    ("end", do return .finish (<- Decode.fieldOr "terminate" false reader)),
    ("service_task", do
      return .serviceTask (<- Decode.field "task_type" reader)
        (<- Decode.fieldOr "retries" 0 Decode.nat32)),
    ("exclusive_gateway", return .exclusiveGateway),
    ("parallel_gateway", readGateway .parallel),
    ("inclusive_gateway", readGateway .inclusive),
    ("timer_wait", do return .timerWait (<- Decode.field "duration_ms" Decode.nat64)),
    ("message_wait", do
      return .messageWait (<- Decode.field "name" reader)
        (<- Decode.optional "correlation_key" reader)),
    ("human_wait", do return .humanWait (<- Decode.field "task" reader)),
    ("race_wait", do return .raceWait (<- Decode.field "arms" (Decode.list reader))),
    ("boundary_timer", do
      return .boundaryTimer (<- Decode.field "host" reader)
        (<- Decode.field "duration_ms" Decode.nat64)
        (<- Decode.fieldOr "interrupting" true reader))]

end NodeKind

namespace Node

/-- The kind and the direction of a gateway with several branches. -/
def gateway? (node : Node) : Option (GatewayKind × GatewayDirection) :=
  match node.kind with
  | .gateway kind direction _ => some (kind, direction)
  | _ => none

/-- Whether the node splits control in the given way. -/
def isSplit (node : Node) (kind : GatewayKind) : Bool := node.gateway? == some (kind, .diverging)

/-- Whether the node joins control that was split in the given way. -/
def isJoin (node : Node) (kind : GatewayKind) : Bool := node.gateway? == some (kind, .converging)

/-- Whether the flows that leave the node may have conditions, and one may be the default. -/
def routesConditionally (node : Node) : Bool :=
  match node.kind with
  | .exclusiveGateway => true
  | .gateway .inclusive .diverging _ => true
  | _ => false

/-- Whether a boundary timer may watch over the node. -/
def canHostBoundary (node : Node) : Bool :=
  match node.kind with
  | .serviceTask _ _ => true
  | .messageWait _ _ => true
  | .humanWait _ => true
  | _ => false

/-- Whether the node is where a process starts. -/
def isStart (node : Node) : Bool := node.kind == .start

/-- Whether the node is where a process, or a path of it, ends. -/
def isEnd (node : Node) : Bool :=
  match node.kind with
  | .finish _ => true
  | _ => false

/-- Whether the node is a timer that ends the wait it watches over. -/
def interrupts (node : Node) : Bool :=
  match node.kind with
  | .boundaryTimer _ _ interrupting => interrupting
  | _ => false

/-- Whether the node is a timer on the given host. -/
def isBoundaryOf (node : Node) (host : NodeKey) : Bool :=
  match node.kind with
  | .boundaryTimer watched _ _ => watched == host
  | _ => false

/-- The nodes that the arms of a race lead to, arm by arm. -/
def armTargets (node : Node) : List NodeKey :=
  match node.kind with
  | .raceWait arms => arms.map RaceArm.target
  | _ => []

instance : JsonCodec Node where
  encode node := .object (("id", encode node.key) :: node.kind.fields)
  reader
    | place, .object members => do
      let key <- Decode.complete (Decode.field "id" reader) place (.named members)
      let kind <- reader .inside (.object members)
      return ⟨key, kind⟩
    | _, _ => none

end Node

end ProcessEngine
