import ProcessEngine.Graph.Draft

/-!
# Graphs as scripts

A graph can be written as a list of calls that add to a draft, each a list of the name
of the call and its arguments. A script with a call that does not exist, or has the wrong
arguments, is not run at all.
-/

namespace ProcessEngine

namespace GraphDraft

/-- Reads a call about a node of a given key. -/
def nodeCall? (name key : String) : List Json -> Option (GraphDraft -> GraphDraft)
  | [] =>
    match name with
    | "start" => some (fun draft => draft.node key .start)
    | "end" => some (fun draft => draft.node key (.finish false))
    | "terminate" => some (fun draft => draft.node key (.finish true))
    | "exclusive" => some (fun draft => draft.node key .exclusiveGateway)
    | "parallel_split" => some (fun draft => draft.node key (.gateway .parallel .diverging none))
    | "parallel_join" => some (fun draft => draft.node key (.gateway .parallel .converging none))
    | "inclusive_split" => some (fun draft => draft.node key (.gateway .inclusive .diverging none))
    | "inclusive_join" => some (fun draft => draft.node key (.gateway .inclusive .converging none))
    | _ => none
  | [argument] =>
    match name, argument with
    | "node", kind => do
      let kind : NodeKind <- decode kind
      return fun draft => draft.node key kind
    | "task", .text work => some (fun draft => draft.node key (.serviceTask work 0))
    | "timer", duration => do
      let duration <- Decode.run Decode.nat64 duration
      return fun draft => draft.node key (.timerWait duration)
    | "human", .text task => some (fun draft => draft.node key (.humanWait task))
    | "race", arms => do
      let arms <- Decode.run (Decode.list (Decode.pair reader reader)) arms
      return fun draft => draft.race key arms
    | _, _ => none
  | [.text first, second] =>
    match name with
    | "task" => do
      let retries <- Decode.run Decode.nat32 second
      return fun draft => draft.node key (.serviceTask first retries)
    | "message" => do
      let correlation : Option String <- Decode.run (Decode.nullable reader) second
      return fun draft => draft.node key (.messageWait first correlation)
    | _ => none
  | [.text host, duration, .bool interrupting] =>
    match name with
    | "boundary" => do
      let duration <- Decode.run Decode.nat64 duration
      return fun draft => draft.boundaryTimer key host duration interrupting
    | _ => none
  | _ => none

/-- Reads a call about a flow between nodes of given keys. -/
def flowCall? (name source target : String) : List Json -> Option (GraphDraft -> GraphDraft)
  | [] =>
    match name with
    | "flow" => some (fun draft => draft.connect source target id)
    | "default_flow" => some (fun draft =>
      draft.connect source target (fun flow => { flow with isDefault := true }))
    | _ => none
  | [argument] =>
    match name, argument with
    | "flow_when", condition => do
      let condition : Condition <- decode condition
      return fun draft =>
        draft.connect source target (fun flow => { flow with condition := some condition })
    | "error_flow", .text code => some (fun draft =>
      draft.connect source target (fun flow => { flow with errorCode := some code }))
    | _, _ => none
  | _ => none

/-- Reads a call. -/
def call : Decode.Reader (GraphDraft -> GraphDraft)
  | _, .list [.text "edge", flow] => do
    let flow : Flow <- decode flow
    return fun draft => draft.flow flow
  | _, .list (.text name :: .text key :: arguments) =>
    nodeCall? name key arguments <|> match arguments with
      | .text target :: rest => flowCall? name key target rest
      | _ => none
  | _, _ => none

/-- Reads a script. -/
def ofScript? (script : Json) : Option GraphDraft := do
  let calls <- Decode.run (Decode.list call) script
  return calls.foldl (fun draft call => call draft) {}

end GraphDraft

/-- Reads the graph of a script, or of the lists of its nodes and flows. -/
def ProcessGraph.read? (json : Json) : Option (Except GraphError ProcessGraph) :=
  match json.member? "build" with
  | some script => (GraphDraft.ofScript? script).map GraphDraft.assemble
  | none => do
    let nodes <- Decode.member "nodes" (Decode.list reader) json
    let flows <- Decode.member "edges" (Decode.list reader) json
    return ProcessGraph.ofParts nodes flows

end ProcessEngine
