import ProcessEngine.Lowering.Error
import ProcessEngine.Program.Basic

/-!
# Assembly

Code whose targets are labels: the code of a node, or a stub that counts a turn of a
loop before it goes back. The blocks of the nodes follow one another, then come the
stubs, and the sizes of what comes before give each label its address.
-/

namespace ProcessEngine

/-- A place in code that has no address yet. -/
inductive Label where
  /-- Where the code of a node begins. -/
  | node (key : NodeKey)
  /-- Where a stub begins. -/
  | stub (number : Nat)
deriving DecidableEq

/-- Code with labels for targets. -/
abbrev LabelledCode := List (Instruction Label)

/-- The code of one node. -/
structure Block where
  node : NodeKey
  code : LabelledCode

namespace Assembly

/-- Where each block begins if the first begins at an address. -/
def placeBlocks : Address -> List Block -> OrderedMap NodeKey Address -> OrderedMap NodeKey Address
  | _, [], entries => entries
  | address, block :: rest, entries =>
    placeBlocks (address + block.code.length) rest (entries.insert block.node address)

/-- Where each stub begins if the first begins at an address. -/
def placeStubs : Address -> List LabelledCode -> List Address
  | _, [] => []
  | address, stub :: rest => address :: placeStubs (address + stub.length) rest

/-- The address of a label. -/
def address? (entries : OrderedMap NodeKey Address) (stubs : List Address) :
    Label -> Except LoweringError Address
  | .node key =>
    match entries.get? key with
    | some address => .ok address
    | none => .error (.unplacedLabel key)
  | .stub number =>
    match stubs[number]? with
    | some address => .ok address
    | none => .error (.unplacedLoop number)

/-- Checks that the labels of some code have addresses. -/
def checkLabels (entries : OrderedMap NodeKey Address) (stubs : List Address)
    (code : LabelledCode) : Except LoweringError Unit :=
  (code.flatMap Instruction.targets).forM (fun label => do
    let _ <- address? entries stubs label)

/-- The address of a label, or zero if it has none. -/
def addressD (entries : OrderedMap NodeKey Address) (stubs : List Address) (label : Label) :
    Address :=
  (address? entries stubs label).toOption.getD 0

/-- The program of some blocks, followed by stubs, with the given names. -/
def assemble (symbols : SymbolTable) (blocks : List Block) (stubs : List LabelledCode) :
    Except LoweringError Program := do
  let body := blocks.flatMap Block.code
  let entries := placeBlocks 0 blocks .empty
  let places := placeStubs body.length stubs
  let code := body ++ stubs.flatten
  checkLabels entries places code
  let instructions := code.map (fun instruction =>
    instruction.mapTargets (addressD entries places))
  (Program.ofParts instructions { symbols with entries := entries }).mapError .program

end Assembly

end ProcessEngine
