import ProcessEngine.Graph.Basic

/-!
# Drafts of graphs

A draft gathers nodes and flows whose keys are given as plain text. A key that is
none is noted and its part left out; assembling the draft reports the first such
key, and only then looks at the parts.
-/

namespace ProcessEngine

/-- Parts of a graph in the order in which they were added. -/
structure GraphDraft where
  nodes : List Node := []
  flows : List Flow := []
  /-- The texts that are no keys. -/
  problems : List NodeKeyError := []

namespace GraphDraft

/-- Reads a key, noting a text that is none. -/
def key (draft : GraphDraft) (raw : String) : Option NodeKey × GraphDraft :=
  match NodeKey.ofText raw with
  | .ok key => (some key, draft)
  | .error problem => (none, { draft with problems := draft.problems ++ [problem] })

/-- Adds a node. -/
def node (draft : GraphDraft) (raw : String) (kind : NodeKind) : GraphDraft :=
  match draft.key raw with
  | (some key, draft) => { draft with nodes := draft.nodes ++ [⟨key, kind⟩] }
  | (none, draft) => draft

/-- Adds a flow between nodes whose keys are known. -/
def flow (draft : GraphDraft) (flow : Flow) : GraphDraft :=
  { draft with flows := draft.flows ++ [flow] }

/-- Adds a flow of a given shape. -/
def connect (draft : GraphDraft) (source target : String) (shape : Flow -> Flow) : GraphDraft :=
  let (source?, draft) := draft.key source
  let (target?, draft) := draft.key target
  match source?, target? with
  | some source, some target => draft.flow (shape { source := source, target := target })
  | _, _ => draft

/-- Adds a race; an arm whose target is no key is left out. -/
def race (draft : GraphDraft) (raw : String) (arms : List (RaceTrigger × String)) : GraphDraft :=
  let (resolved, draft) := arms.foldl (fun (resolved, draft) (trigger, target) =>
    match draft.key target with
    | (some target, draft) => (resolved ++ [⟨trigger, target⟩], draft)
    | (none, draft) => (resolved, draft)) (([] : List RaceArm), draft)
  draft.node raw (.raceWait resolved)

/-- Adds a timer on a host. -/
def boundaryTimer (draft : GraphDraft) (raw host : String) (duration : Nat)
    (interrupting : Bool) : GraphDraft :=
  match draft.key host with
  | (some host, draft) => draft.node raw (.boundaryTimer host duration interrupting)
  | (none, draft) => draft

/-- Assembles the graph. -/
def assemble (draft : GraphDraft) : Except GraphError ProcessGraph :=
  match draft.problems with
  | problem :: _ => .error (.invalidKey problem)
  | [] => ProcessGraph.ofParts draft.nodes draft.flows

end GraphDraft

end ProcessEngine
