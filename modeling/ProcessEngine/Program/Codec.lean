import ProcessEngine.Json.Decode
import ProcessEngine.Program.Instruction

/-!
# The written form of instructions

An instruction of a finished program is an object whose member `op` holds its short
name, followed by its operands.
-/

namespace ProcessEngine

instance : JsonCodec CorrelationSource where
  encode
    | .processInstance => Encode.tagged "from" "instance" []
    | .register index => Encode.tagged "from" "register" [("reg", Encode.nat index)]
  reader := Decode.tagged "from" [
    ("instance", return .processInstance),
    ("register", do return .register (<- Decode.field "reg" (Decode.natBelow 256)))]

instance : JsonCodec (ErrorRoute Address) where
  encode route := .object [("code", .text route.code), ("target", Encode.nat route.target)]
  reader := Decode.record do
    return ⟨<- Decode.field "code" reader, <- Decode.field "target" Decode.nat32⟩

instance : JsonCodec ArmTrigger where
  encode
    | .timer duration => Encode.tagged "kind" "timer" [("ms", Encode.nat duration)]
    | .message name correlation =>
      Encode.tagged "kind" "message"
        [("message", Encode.nat name), ("correlation", encode correlation)]
  reader := Decode.tagged "kind" [
    ("timer", do return .timer (<- Decode.field "ms" Decode.nat64)),
    ("message", do
      return .message (<- Decode.field "message" Decode.nat32)
        (<- Decode.field "correlation" reader))]

instance : JsonCodec (ArmCode Address) where
  encode arm := .object [("trigger", encode arm.trigger), ("target", Encode.nat arm.target)]
  reader := Decode.record do
    return ⟨<- Decode.field "trigger" reader, <- Decode.field "target" Decode.nat32⟩

instance : JsonCodec RoutingFault where
  encode
    | .noRoute gateway => Encode.tagged "reason" "no_route" [("gateway", Encode.nat gateway)]
    | .noBranch gateway => Encode.tagged "reason" "no_branch" [("gateway", Encode.nat gateway)]
  reader := Decode.tagged "reason" [
    ("no_route", do return .noRoute (<- Decode.field "gateway" Decode.nat32)),
    ("no_branch", do return .noBranch (<- Decode.field "gateway" Decode.nat32))]

namespace Instruction

/-- The operands of an instruction by name. -/
def operands : Instruction Address -> List (String × Json)
  | .push value => [("value", encode value)]
  | .loadFlag flag => [("flag", Encode.nat flag)]
  | .storeFlag flag => [("flag", Encode.nat flag)]
  | .loadRegister index => [("reg", Encode.nat index)]
  | .storeRegister index => [("reg", Encode.nat index)]
  | .loadCounter counter => [("counter", Encode.nat counter)]
  | .incrementCounter counter => [("counter", Encode.nat counter)]
  | .jump target => [("target", Encode.nat target)]
  | .branchIf target => [("target", Encode.nat target)]
  | .branchIfNot target => [("target", Encode.nat target)]
  | .dispatch taskType node retries routes =>
    [("task_type", Encode.nat taskType), ("node", Encode.nat node),
      ("retries", Encode.nat retries), ("error_routes", Encode.list encode routes)]
  | .waitTimer duration => [("ms", Encode.nat duration)]
  | .waitMessage name correlation =>
    [("message", Encode.nat name), ("correlation", encode correlation)]
  | .waitHuman task => [("task", Encode.nat task)]
  | .race node arms => [("race", Encode.nat node), ("arms", Encode.list encode arms)]
  | .watch boundary duration interrupting target =>
    [("boundary", Encode.nat boundary), ("ms", Encode.nat duration),
      ("interrupting", .bool interrupting), ("target", Encode.nat target)]
  | .unwatch boundary => [("boundary", Encode.nat boundary)]
  | .fork partner targets =>
    [("join", Encode.nat partner), ("targets", Encode.list Encode.nat targets)]
  | .forkInclusive partner targets fallback gateway =>
    [("join", Encode.nat partner), ("targets", Encode.list Encode.nat targets),
      ("default", Encode.nullable Encode.nat fallback), ("gateway", Encode.nat gateway)]
  | .join node => [("join", Encode.nat node)]
  | .fault reason => [("reason", encode reason)]
  | _ => []

/-- Reads a number of 32 bits from a field. -/
def readNumber (name : String) : Decode.RecordReader Nat := Decode.field name Decode.nat32

/-- The short names of the instructions, each with the reader of its operands. -/
def variants : List (String × Decode.RecordReader (Instruction Address)) := [
  ("push", do return .push (<- Decode.field "value" reader)),
  ("pop", return .pop),
  ("load_flag", do return .loadFlag (<- readNumber "flag")),
  ("store_flag", do return .storeFlag (<- readNumber "flag")),
  ("load_reg", do return .loadRegister (<- Decode.field "reg" (Decode.natBelow 256))),
  ("store_reg", do return .storeRegister (<- Decode.field "reg" (Decode.natBelow 256))),
  ("load_counter", do return .loadCounter (<- readNumber "counter")),
  ("inc_counter", do return .incrementCounter (<- readNumber "counter")),
  ("eq", return .equal),
  ("lt", return .less),
  ("not", return .negate),
  ("and", return .conjoin),
  ("or", return .disjoin),
  ("jump", do return .jump (<- readNumber "target")),
  ("br_if", do return .branchIf (<- readNumber "target")),
  ("br_if_not", do return .branchIfNot (<- readNumber "target")),
  ("dispatch", do
    return .dispatch (<- readNumber "task_type") (<- readNumber "node") (<- readNumber "retries")
      (<- Decode.field "error_routes" (Decode.list reader))),
  ("wait_timer", do return .waitTimer (<- Decode.field "ms" Decode.nat64)),
  ("wait_message", do
    return .waitMessage (<- readNumber "message") (<- Decode.field "correlation" reader)),
  ("wait_human", do return .waitHuman (<- readNumber "task")),
  ("race", do
    return .race (<- readNumber "race") (<- Decode.field "arms" (Decode.list reader))),
  ("watch", do
    return .watch (<- readNumber "boundary") (<- Decode.field "ms" Decode.nat64)
      (<- Decode.field "interrupting" reader) (<- readNumber "target")),
  ("unwatch", do return .unwatch (<- readNumber "boundary")),
  ("fork", do
    return .fork (<- readNumber "join") (<- Decode.field "targets" (Decode.list Decode.nat32))),
  ("fork_inclusive", do
    return .forkInclusive (<- readNumber "join")
      (<- Decode.field "targets" (Decode.list Decode.nat32))
      (<- Decode.nullableField "default" Decode.nat32) (<- readNumber "gateway")),
  ("join", do return .join (<- readNumber "join")),
  ("end", return .finish),
  ("end_terminate", return .terminate),
  ("fault", do return .fault (<- Decode.field "reason" reader))]

instance : JsonCodec (Instruction Address) where
  encode instruction := Encode.tagged "op" instruction.mnemonic instruction.operands
  reader := Decode.tagged "op" variants

end Instruction

end ProcessEngine
