import ProcessEngine.NodeKey
import ProcessEngine.Program.Instruction

/-!
# Symbol tables

The names that instructions refer to by number, one table for each kind of name, and
the address where the code of each node begins. A name is listed once in its table.
-/

namespace ProcessEngine

/-- The kinds of names that instructions refer to. -/
inductive SymbolKind where
  | node
  | flag
  | counter
  | taskType
  | message
  | humanTask
deriving DecidableEq, Repr

namespace SymbolKind

/-- How a kind of name is called in messages. -/
def text : SymbolKind -> String
  | .node => "node"
  | .flag => "flag"
  | .counter => "counter"
  | .taskType => "task type"
  | .message => "message"
  | .humanTask => "human task"

/-- The kind of names that a word stands for. -/
def ofName? : String -> Option SymbolKind
  | "node" => some .node
  | "flag" => some .flag
  | "counter" => some .counter
  | "task_type" => some .taskType
  | "message" => some .message
  | "human_task" => some .humanTask
  | _ => none

end SymbolKind

/-- A name of a kind by its number. -/
structure SymbolReference where
  kind : SymbolKind
  index : Nat
deriving DecidableEq, Repr

/-- The names of a program. -/
structure SymbolTable where
  /-- Where the code of each node begins. -/
  entries : OrderedMap NodeKey Address := .empty
  nodes : List NodeKey := []
  flags : List String := []
  counters : List String := []
  taskTypes : List String := []
  messages : List String := []
  humanTasks : List String := []
deriving DecidableEq, Inhabited

namespace SymbolTable

/-- The number of a name in a list to which it is added if it is missing, and that list. -/
def intern {Name : Type} [BEq Name] (names : List Name) (name : Name) : Nat × List Name :=
  match names.idxOf? name with
  | some index => (index, names)
  | none => (names.length, names ++ [name])

/-- The number of a node. -/
def internNode (symbols : SymbolTable) (key : NodeKey) : Nat × SymbolTable :=
  let (index, nodes) := intern symbols.nodes key
  (index, { symbols with nodes := nodes })

/-- The number of a flag. -/
def internFlag (symbols : SymbolTable) (name : String) : Nat × SymbolTable :=
  let (index, flags) := intern symbols.flags name
  (index, { symbols with flags := flags })

/-- The number of a counter. -/
def internCounter (symbols : SymbolTable) (name : String) : Nat × SymbolTable :=
  let (index, counters) := intern symbols.counters name
  (index, { symbols with counters := counters })

/-- The number of a task type. -/
def internTaskType (symbols : SymbolTable) (name : String) : Nat × SymbolTable :=
  let (index, taskTypes) := intern symbols.taskTypes name
  (index, { symbols with taskTypes := taskTypes })

/-- The number of a message. -/
def internMessage (symbols : SymbolTable) (name : String) : Nat × SymbolTable :=
  let (index, messages) := intern symbols.messages name
  (index, { symbols with messages := messages })

/-- The number of a task for a person. -/
def internHumanTask (symbols : SymbolTable) (name : String) : Nat × SymbolTable :=
  let (index, humanTasks) := intern symbols.humanTasks name
  (index, { symbols with humanTasks := humanTasks })

/-- The number of a name of any kind but a node's, which is not plain text. -/
def internName (symbols : SymbolTable) : SymbolKind -> String -> Option (Nat × SymbolTable)
  | .node, _ => none
  | .flag, name => some (symbols.internFlag name)
  | .counter, name => some (symbols.internCounter name)
  | .taskType, name => some (symbols.internTaskType name)
  | .message, name => some (symbols.internMessage name)
  | .humanTask, name => some (symbols.internHumanTask name)

/-- The names of a kind in the order of their numbers. -/
def names (symbols : SymbolTable) : SymbolKind -> List String
  | .node => symbols.nodes.map NodeKey.text
  | .flag => symbols.flags
  | .counter => symbols.counters
  | .taskType => symbols.taskTypes
  | .message => symbols.messages
  | .humanTask => symbols.humanTasks

/-- The node of a number. -/
def node? (symbols : SymbolTable) (index : Nat) : Option NodeKey := symbols.nodes[index]?

/-- The name that a reference stands for. -/
def name? (symbols : SymbolTable) (reference : SymbolReference) : Option String :=
  (symbols.names reference.kind)[reference.index]?

/-- The first node by key whose code begins at an address. -/
def nodeAt? (symbols : SymbolTable) (address : Address) : Option NodeKey :=
  (symbols.entries.toList.find? (fun entry => entry.2 == address)).map Prod.fst

/-- The node whose code holds an address: of the nodes that begin there or before, the one that
begins last, and the last of these by key. -/
def nodeContaining? (symbols : SymbolTable) (address : Address) : Option NodeKey :=
  let before := symbols.entries.toList.filter (fun entry => entry.2 ≤ address)
  (before.foldl (fun (best : Option (NodeKey × Address)) entry =>
    match best with
    | none => some entry
    | some found => if found.2 ≤ entry.2 then some entry else some found) none).map Prod.fst

instance : JsonCodec SymbolTable where
  encode symbols := .object [
    ("node_addr", Encode.map NodeKey.text Encode.nat symbols.entries),
    ("nodes", Encode.list encode symbols.nodes), ("flags", Encode.list encode symbols.flags),
    ("counters", Encode.list encode symbols.counters),
    ("task_types", Encode.list encode symbols.taskTypes),
    ("messages", Encode.list encode symbols.messages),
    ("human_tasks", Encode.list encode symbols.humanTasks)]
  reader := Decode.record do
    return ⟨<- Decode.field "node_addr" (Decode.map NodeKey.ofText? Decode.nat32),
      <- Decode.field "nodes" (Decode.list reader), <- Decode.field "flags" (Decode.list reader),
      <- Decode.field "counters" (Decode.list reader),
      <- Decode.field "task_types" (Decode.list reader),
      <- Decode.field "messages" (Decode.list reader),
      <- Decode.field "human_tasks" (Decode.list reader)⟩

/-- Reads symbol tables of which some may be left out; these are empty. -/
def readPartial : Decode.Reader SymbolTable :=
  Decode.record do
    let names := Decode.list reader
    return ⟨<- Decode.fieldOr "node_addr" .empty (Decode.map NodeKey.ofText? Decode.nat32),
      <- Decode.fieldOr "nodes" [] (Decode.list reader), <- Decode.fieldOr "flags" [] names,
      <- Decode.fieldOr "counters" [] names, <- Decode.fieldOr "task_types" [] names,
      <- Decode.fieldOr "messages" [] names, <- Decode.fieldOr "human_tasks" [] names⟩

end SymbolTable

namespace Instruction

variable {Target : Type}

/-- The names that an instruction refers to. -/
def symbols : Instruction Target -> List SymbolReference
  | .loadFlag flag => [⟨.flag, flag⟩]
  | .storeFlag flag => [⟨.flag, flag⟩]
  | .loadCounter counter => [⟨.counter, counter⟩]
  | .incrementCounter counter => [⟨.counter, counter⟩]
  | .dispatch taskType node _ _ => [⟨.taskType, taskType⟩, ⟨.node, node⟩]
  | .waitMessage name _ => [⟨.message, name⟩]
  | .waitHuman task => [⟨.humanTask, task⟩]
  | .race node arms => ⟨.node, node⟩ :: arms.filterMap (fun arm =>
    match arm.trigger with
    | .timer _ => none
    | .message name _ => some ⟨.message, name⟩)
  | .watch boundary _ _ _ => [⟨.node, boundary⟩]
  | .unwatch boundary => [⟨.node, boundary⟩]
  | .fork partner _ => [⟨.node, partner⟩]
  | .forkInclusive partner _ _ gateway => [⟨.node, partner⟩, ⟨.node, gateway⟩]
  | .join node => [⟨.node, node⟩]
  | .fault reason => [⟨.node, reason.gateway⟩]
  | _ => []

end Instruction

end ProcessEngine
