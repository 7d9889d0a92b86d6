import ProcessEngine.Proofs.GraphCode
import ProcessEngine.Proofs.GraphParts
import ProcessEngine.Proofs.ProgramParts

/-!
# Assembled programs

Every label of the code of a graph has an address, so the code becomes a program in which blocks
and stubs keep their shapes (`Program.Carries`). A verified graph is therefore lowered to such a
program unless a race is refused (`VerifiedGraph.lower_cases`).
-/

namespace ProcessEngine

namespace Assembly

/-! ## Where blocks and stubs are placed -/

theorem get?_placeBlocks_of_notMem {blocks : List Block} {key : NodeKey}
    (absent : key ∉ blocks.map Block.node) (address : Address)
    (entries : OrderedMap NodeKey Address) :
    (placeBlocks address blocks entries).get? key = entries.get? key := by
  induction blocks generalizing address entries with
  | nil => rfl
  | cons block rest ih =>
    rw [List.map_cons, List.mem_cons, not_or] at absent
    rw [placeBlocks, ih absent.2, OrderedMap.get?_insert, if_neg absent.1]

/-- A block begins after all blocks before it. -/
theorem get?_placeBlocks {former latter : List Block} {block : Block}
    (different : ((former ++ block :: latter).map Block.node).Nodup) (address : Address)
    (entries : OrderedMap NodeKey Address) :
    (placeBlocks address (former ++ block :: latter) entries).get? block.node =
      some (address + (former.flatMap Block.code).length) := by
  induction former generalizing address entries with
  | nil =>
    have absent := (List.nodup_cons.1 different).1
    rw [List.nil_append, placeBlocks, get?_placeBlocks_of_notMem absent,
      OrderedMap.get?_insert_self]
    rfl
  | cons head rest ih =>
    rw [List.cons_append, placeBlocks, ih (List.nodup_cons.1 different).2, List.flatMap_cons,
      List.length_append, Nat.add_assoc]

/-- A stub begins after all stubs before it. -/
theorem getElem?_placeStubs (former : List LabelledCode) (stub : LabelledCode)
    (latter : List LabelledCode) (address : Address) :
    (placeStubs address (former ++ stub :: latter))[former.length]? =
      some (address + former.flatten.length) := by
  induction former generalizing address with
  | nil => rfl
  | cons head rest ih =>
    rw [List.cons_append, placeStubs, List.length_cons, List.getElem?_cons_succ, ih,
      List.flatten_cons, List.length_append, Nat.add_assoc]

/-- The addresses of the nodes of some blocks. -/
def entriesOf (blocks : List Block) : OrderedMap NodeKey Address := placeBlocks 0 blocks .empty

/-- The addresses of some stubs behind some blocks. -/
def placesOf (blocks : List Block) (stubs : List LabelledCode) : List Address :=
  placeStubs (blocks.flatMap Block.code).length stubs

/-- All code of some blocks and stubs. -/
def allCode (blocks : List Block) (stubs : List LabelledCode) : LabelledCode :=
  blocks.flatMap Block.code ++ stubs.flatten

/-- The address that a label stands for. -/
def resolve (blocks : List Block) (stubs : List LabelledCode) : Label -> Address :=
  addressD (entriesOf blocks) (placesOf blocks stubs)

theorem resolve_node {blocks : List Block} {key : NodeKey} {address : Address}
    (placed : (entriesOf blocks).get? key = some address) (stubs : List LabelledCode) :
    resolve blocks stubs (.node key) = address := by
  simp [resolve, addressD, address?, placed, Except.toOption]

theorem resolve_stub {blocks : List Block} {stubs : List LabelledCode} {number : Nat}
    {address : Address} (placed : (placesOf blocks stubs)[number]? = some address) :
    resolve blocks stubs (.stub number) = address := by
  simp [resolve, addressD, address?, placed, Except.toOption]

/-- Labels have addresses. -/
def Placed (blocks : List Block) (stubs : List LabelledCode) (label : Label) : Prop :=
  ∃ address, address? (entriesOf blocks) (placesOf blocks stubs) label = .ok address

theorem checkLabels_eq_ok {blocks : List Block} {stubs : List LabelledCode} {code : LabelledCode}
    (placed : ∀ instruction ∈ code, ∀ label ∈ instruction.targets, Placed blocks stubs label) :
    checkLabels (entriesOf blocks) (placesOf blocks stubs) code = .ok () := by
  rw [checkLabels]
  have placed : ∀ label ∈ code.flatMap Instruction.targets, Placed blocks stubs label := by
    intro label listed
    obtain ⟨instruction, among, within⟩ := List.mem_flatMap.1 listed
    exact placed instruction among label within
  generalize code.flatMap Instruction.targets = labels at placed
  induction labels with
  | nil => rfl
  | cons label rest ih =>
    obtain ⟨first, placed⟩ := List.forall_mem_cons.1 placed
    obtain ⟨address, found⟩ := first
    change Except.bind (Except.bind (address? _ _ label) _) _ = _
    rw [found]
    exact ih placed

/-- Code whose labels have addresses becomes a program if this has no problem. -/
theorem assemble_eq_ok {symbols : SymbolTable} {blocks : List Block} {stubs : List LabelledCode}
    (placed : ∀ instruction ∈ allCode blocks stubs, ∀ label ∈ instruction.targets,
      Placed blocks stubs label) {program : Program}
    (made : Program.ofParts
      ((allCode blocks stubs).map (Instruction.mapTargets (resolve blocks stubs)))
      { symbols with entries := entriesOf blocks } = .ok program) :
    assemble symbols blocks stubs = .ok program := by
  have checked := checkLabels_eq_ok placed
  rw [allCode, entriesOf, placesOf] at checked
  rw [assemble]
  simp only [checked, bind, Except.bind]
  exact mapError_eq_ok.2 made

end Assembly

namespace Program

variable (program : Program)

/-- At an address a turn is counted under the name of a node before its code is entered. -/
def CountsBack (address : Address) (target : NodeKey) : Prop :=
  ∃ counter entry, program.symbols.name? ⟨.counter, counter⟩ = some target.text ∧
    program.entry? target = some entry ∧
    program.HasCode address [.incrementCounter counter, .jump entry]

/-- What the numbers and the addresses in a program stand for. A flow leads to the code of its
target, or to a stub if it closes a loop. -/
def references (layout : Layout) : References Address where
  symbols := program.symbols
  Begins key address := program.entry? key = some address
  Leads source place address :=
    if ⟨source, place.2⟩ ∈ layout.loops then program.CountsBack address place.1.target
    else program.entry? place.1.target = some address

/-- A program consists of blocks, one for each node of a graph, and of stubs behind them. -/
structure Carries (verified : VerifiedGraph)
    (blocks : List (NodeKey × List (Instruction Address)))
    (stubs : List (List (Instruction Address))) : Prop where
  instructions : program.instructions = blocks.flatMap Prod.snd ++ stubs.flatten
  /-- The blocks follow the layout. -/
  order : blocks.map Prod.fst = verified.layout.order
  /-- The nodes of the graph and no others have entries. -/
  entries : ∀ key, (program.entry? key).isSome = true ↔ verified.graph.contains key = true
  /-- The code of a node begins where its block does. -/
  placed : ∀ former block latter, blocks = former ++ block :: latter ->
    program.entry? block.1 = some (former.flatMap Prod.snd).length
  shaped : ∀ block ∈ blocks, ∃ node, verified.graph.node? block.1 = some node ∧
    (program.references verified.layout).NodeCode verified block.1 node.kind block.2
  counted : ∀ stub ∈ stubs, ∃ target counter entry, verified.graph.contains target = true ∧
    program.symbols.name? ⟨.counter, counter⟩ = some target.text ∧
    program.entry? target = some entry ∧ stub = [.incrementCounter counter, .jump entry]

end Program

/-- There is no node without code. -/
theorem References.NodeCode.ne_nil {Target : Type} {references : References Target}
    {verified : VerifiedGraph} {key : NodeKey} {kind : NodeKind} {code : List (Instruction Target)}
    (shaped : references.NodeCode verified key kind code) : code ≠ [] := by
  have onward {code : List (Instruction Target)} (onward : references.Onward verified key code) :
      code ≠ [] := by
    cases onward
    simp
  cases shaped with
  | start next => exact onward next
  | boundaryTimer next => exact onward next
  | serviceTask _ _ _ _ next => simp [onward next]
  | messageWait _ _ _ next => simp [onward next]
  | humanWait _ _ next => simp [onward next]
  | _ => simp

namespace Lowering.Coded

open Assembly

variable {verified : VerifiedGraph} {blocks : List Block} {stubs : List LabelledCode}
  {gathered : Gathered} (coded : Coded verified blocks stubs gathered)

include coded

theorem nodes_eq : blocks.map Block.node = verified.layout.order := by
  have each := coded.blocks
  generalize verified.layout.order = order at each
  clear coded
  induction each with
  | nil => rfl
  | cons first _ ih => rw [List.map_cons, ih, first.1]

theorem nodup : (blocks.map Block.node).Nodup := coded.nodes_eq ▸ verified.traverses.nodup

theorem isBlock {block : Block} (listed : block ∈ blocks) :
    IsBlock verified gathered block.node block := by
  have each : ∀ block ∈ blocks, IsBlock verified gathered block.node block := by
    refine References.forall_of_forall₂ coded.blocks (fun key _ block isBlock => ?_)
    obtain ⟨rfl, shaped⟩ := isBlock
    exact ⟨rfl, shaped⟩
  exact each block listed

/-- A stub counts the turns of some node. -/
theorem exists_target {stub : LabelledCode} (listed : stub ∈ stubs) :
    ∃ target ∈ gathered.stubs, IsStub gathered target stub := by
  have each : ∀ stub ∈ stubs, ∃ target ∈ gathered.stubs, IsStub gathered target stub :=
    References.forall_of_forall₂ coded.stubs (fun target noted _ isStub => ⟨target, noted, isStub⟩)
  exact each stub listed

/-- A node of the graph has a block. -/
theorem exists_block {key : NodeKey} (inside : verified.graph.contains key = true) :
    ∃ former block latter, blocks = former ++ block :: latter ∧ block.node = key := by
  have listed : key ∈ blocks.map Block.node :=
    coded.nodes_eq ▸ verified.mem_order_iff.2 inside
  obtain ⟨block, among, same⟩ := List.mem_map.1 listed
  obtain ⟨former, latter, split⟩ := List.append_of_mem among
  exact ⟨former, block, latter, split, same⟩

theorem get?_entriesOf {former latter : List Block} {block : Block}
    (split : blocks = former ++ block :: latter) :
    (entriesOf blocks).get? block.node = some (former.flatMap Block.code).length := by
  have placed := get?_placeBlocks (split ▸ coded.nodup) 0 .empty
  rw [Nat.zero_add] at placed
  rw [entriesOf, split]
  exact placed

/-- A node has an entry if it belongs to the graph. -/
theorem isSome_entriesOf (key : NodeKey) :
    ((entriesOf blocks).get? key).isSome = true ↔ verified.graph.contains key = true := by
  constructor
  · intro present
    by_contra outside
    rw [entriesOf, get?_placeBlocks_of_notMem (by
      rw [coded.nodes_eq, verified.mem_order_iff]
      exact outside)] at present
    cases present
  · intro inside
    obtain ⟨former, block, latter, split, rfl⟩ := coded.exists_block inside
    rw [coded.get?_entriesOf split]
    rfl

/-- What is noted as a stub stands behind the blocks. -/
theorem exists_stub {number : Nat} {target : NodeKey}
    (noted : gathered.stubs[number]? = some target) :
    ∃ former stub latter, stubs = former ++ stub :: latter ∧ IsStub gathered target stub ∧
      (placesOf blocks stubs)[number]? =
        some (blocks.flatMap Block.code ++ former.flatten).length := by
  obtain ⟨bounded, same⟩ := List.getElem?_eq_some_iff.1 noted
  have bounded' : number < stubs.length := coded.stubs.length_eq ▸ bounded
  have isStub := coded.stubs.get bounded bounded'
  refine ⟨stubs.take number, stubs[number], stubs.drop (number + 1), ?_, ?_, ?_⟩
  · rw [List.getElem_cons_drop, List.take_append_drop]
  · simpa [same] using isStub
  · have placed := getElem?_placeStubs (stubs.take number) stubs[number] (stubs.drop (number + 1))
      (blocks.flatMap Block.code).length
    rw [List.getElem_cons_drop, List.take_append_drop, List.length_take,
      Nat.min_eq_left (Nat.le_of_lt bounded')] at placed
    rw [placesOf, placed, List.length_append]

theorem placed_node {key : NodeKey} (inside : verified.graph.contains key = true) :
    Placed blocks stubs (.node key) := by
  obtain ⟨address, placed⟩ := Option.isSome_iff_exists.1 ((coded.isSome_entriesOf key).2 inside)
  exact ⟨address, by rw [address?, placed]⟩

/-- All labels in the code of a graph have addresses. -/
theorem placed_labels : ∀ instruction ∈ allCode blocks stubs,
    ∀ label ∈ instruction.targets, Placed blocks stubs label := by
  intro instruction listed
  rcases List.mem_append.1 listed with inBlock | inStub
  · obtain ⟨block, among, within⟩ := List.mem_flatMap.1 inBlock
    obtain ⟨-, node, found, -, shaped⟩ := coded.isBlock among
    refine (@References.NodeCode.refers _ _ (Placed blocks stubs) (fun _ => True) _ _ _
      ⟨?_, ?_, ?_⟩ _ shaped instruction within).1
    · rintro boundary guards _ rfl
      obtain ⟨_, _, -, present⟩ := VerifiedGraph.boundary_eq guards
      exact coded.placed_node (VerifiedGraph.contains_of_node present)
    · intro place placed label leads
      simp only [labelReferences, LeadsTo] at leads
      split at leads
      · obtain ⟨number, rfl, noted⟩ := leads
        obtain ⟨_, _, _, -, -, placed⟩ := coded.exists_stub noted
        exact ⟨_, by rw [address?, placed]⟩
      · exact leads ▸ coded.placed_node (contains_of_place placed)
    · exact fun _ _ _ _ => trivial
  · obtain ⟨stub, among, within⟩ := List.mem_flatten.1 inStub
    obtain ⟨target, noted, isStub⟩ := coded.exists_target among
    obtain ⟨counter, -, rfl⟩ := isStub
    intro label targeted
    rcases List.mem_cons.1 within with rfl | last
    · cases targeted
    · cases List.mem_singleton.1 last
      cases List.mem_singleton.1 targeted
      exact coded.placed_node (coded.targets target noted)

/-! ## The program -/

section Made

variable {program : Program}
  (instructions : program.instructions =
    (allCode blocks stubs).map (Instruction.mapTargets (resolve blocks stubs)))
  (symbols : program.symbols = { gathered.symbols with entries := entriesOf blocks })

include symbols in
theorem entry?_eq {key : NodeKey} (inside : verified.graph.contains key = true) :
    program.entry? key = some (resolve blocks stubs (.node key)) := by
  obtain ⟨address, placed⟩ := Option.isSome_iff_exists.1 ((coded.isSome_entriesOf key).2 inside)
  rw [resolve_node placed, Program.entry?, symbols]
  exact placed

include instructions symbols

/-- Labels stand for the same as the addresses that they are resolved to. -/
theorem maps (key : NodeKey) :
    (labelReferences verified.layout gathered).Maps (program.references verified.layout) verified
      key (resolve blocks stubs) := by
  have entry {key : NodeKey} (inside : verified.graph.contains key = true) :=
    coded.entry?_eq symbols inside
  refine ⟨fun reference => ?_, fun index => ?_, ?_, fun place listed label leads => ?_⟩
  · simp only [Program.references, symbols]
    rfl
  · simp only [Program.references, symbols]
    rfl
  · rintro boundary guards _ rfl
    obtain ⟨_, _, -, present⟩ := VerifiedGraph.boundary_eq guards
    exact entry (VerifiedGraph.contains_of_node present)
  · simp only [labelReferences, LeadsTo] at leads
    simp only [Program.references]
    split at leads
    · rename_i closes
      rw [if_pos closes]
      obtain ⟨number, rfl, noted⟩ := leads
      obtain ⟨former, _, latter, split, ⟨counter, named, rfl⟩, placed⟩ := coded.exists_stub noted
      refine ⟨counter, _, ?_, entry (contains_of_place listed), ?_⟩
      · rw [symbols]
        exact named
      · rw [resolve_stub placed]
        have stands := @Program.hasCode_append program
          [.incrementCounter counter, .jump (resolve blocks stubs (.node place.1.target))]
          ((blocks.flatMap Block.code ++ former.flatten).map
            (Instruction.mapTargets (resolve blocks stubs)))
          (latter.flatten.map (Instruction.mapTargets (resolve blocks stubs)))
          (by rw [instructions, allCode, split]; simp [Instruction.mapTargets])
        rwa [List.length_map] at stands
    · rename_i onward
      rw [if_neg onward, leads]
      exact entry (contains_of_place listed)

/-- The assembled program consists of the blocks and the stubs. -/
theorem carries : program.Carries verified
    (blocks.map (fun block =>
      (block.node, block.code.map (Instruction.mapTargets (resolve blocks stubs)))))
    (stubs.map (List.map (Instruction.mapTargets (resolve blocks stubs)))) where
  instructions := by
    rw [instructions, allCode]
    simp [List.flatMap_map, List.map_flatMap, List.map_flatten]
  order := by
    rw [List.map_map]
    exact coded.nodes_eq
  entries key := by
    rw [Program.entry?, symbols]
    exact coded.isSome_entriesOf key
  placed former block latter split := by
    obtain ⟨former, rest, parts, rfl, tail⟩ := List.map_eq_append_iff.1 split
    obtain ⟨block, latter, rfl, rfl, rfl⟩ := List.map_eq_cons_iff.1 tail
    rw [Program.entry?, symbols]
    refine (coded.get?_entriesOf parts).trans ?_
    simp [List.flatMap_map]
  shaped block listed := by
    obtain ⟨block, among, rfl⟩ := List.mem_map.1 listed
    obtain ⟨-, node, found, -, shaped⟩ := coded.isBlock among
    exact ⟨node, found, shaped.map (coded.maps instructions symbols _)⟩
  counted stub listed := by
    obtain ⟨code, among, rfl⟩ := List.mem_map.1 listed
    obtain ⟨target, noted, counter, named, rfl⟩ := coded.exists_target among
    have inside := coded.targets target noted
    refine ⟨target, counter, _, inside, ?_, coded.entry?_eq symbols inside, rfl⟩
    rw [symbols]
    exact named

end Made

end Lowering.Coded

/-! ## Nothing is amiss with the program -/

namespace Program.Carries

variable {program : Program} {verified : VerifiedGraph}
  {blocks : List (NodeKey × List (Instruction Address))} {stubs : List (List (Instruction Address))}
  (carries : program.Carries verified blocks stubs)

include carries

/-- Every node has its block. -/
theorem split_of_node {key : NodeKey} {node : Node}
    (found : verified.graph.node? key = some node) :
    ∃ former code latter, blocks = former ++ (key, code) :: latter ∧
      (program.references verified.layout).NodeCode verified key node.kind code := by
  have listed : key ∈ blocks.map Prod.fst :=
    carries.order ▸ verified.mem_order_iff.2 (VerifiedGraph.contains_of_node found)
  obtain ⟨⟨_, code⟩, among, rfl⟩ := List.mem_map.1 listed
  obtain ⟨former, latter, split⟩ := List.append_of_mem among
  obtain ⟨node', found', shaped⟩ := carries.shaped _ among
  cases found.symm.trans found'
  exact ⟨former, code, latter, split, shaped⟩

/-- A block stands where its node begins. -/
theorem hasCode_of_split {key : NodeKey} {code : List (Instruction Address)}
    {former latter : List (NodeKey × List (Instruction Address))}
    (split : blocks = former ++ (key, code) :: latter) :
    program.HasCode (former.flatMap Prod.snd).length code := by
  refine program.hasCode_append _ (latter.flatMap Prod.snd ++ stubs.flatten) ?_
  rw [carries.instructions, split]
  simp

/-- The code of every node stands where the node begins. -/
theorem block_of_node {key : NodeKey} {node : Node}
    (found : verified.graph.node? key = some node) :
    ∃ entry code, program.entry? key = some entry ∧ program.HasCode entry code ∧
      (program.references verified.layout).NodeCode verified key node.kind code := by
  obtain ⟨former, code, latter, split, shaped⟩ := carries.split_of_node found
  exact ⟨_, code, carries.placed former _ latter split, carries.hasCode_of_split split, shaped⟩

/-- Code does not begin where the program ends. -/
theorem entry_lt {key : NodeKey} {entry : Address} (found : program.entry? key = some entry) :
    entry < program.length := by
  have inside := (carries.entries key).1 (Option.isSome_iff_exists.2 ⟨entry, found⟩)
  obtain ⟨node, present⟩ := ProcessGraph.exists_node inside
  obtain ⟨entry', code, found', stands, shaped⟩ := carries.block_of_node present
  cases found.symm.trans found'
  exact stands.lt shaped.ne_nil

/-- Every target in the block of a node lies in the program. -/
theorem knowsTargets (key : NodeKey) : (program.references verified.layout).KnowsTargets
    (· < program.length) (fun _ => True) verified key where
  joins _ _ _ _ := trivial
  begins boundary _ address found := carries.entry_lt found
  leads place _ address leads := by
    simp only [references] at leads
    split at leads
    · obtain ⟨counter, entry, -, -, stands⟩ := leads
      exact stands.lt (List.cons_ne_nil _ _)
    · exact carries.entry_lt leads

theorem problem?_eq_none : program.problem? = none := by
  rw [problem?_eq_none_iff]
  refine ⟨fun none => ?_, fun instruction listed => ?_, fun key entry found => ?_⟩
  · obtain ⟨entry, found⟩ := Option.isSome_iff_exists.1
      ((carries.entries _).2 verified.contains_start)
    have within := carries.entry_lt found
    rw [Program.length, none] at within
    cases within
  · rw [carries.instructions] at listed
    rcases List.mem_append.1 listed with inBlock | inStub
    · obtain ⟨block, among, within⟩ := List.mem_flatMap.1 inBlock
      obtain ⟨node, -, shaped⟩ := carries.shaped block among
      obtain ⟨targets, symbols, -⟩ :=
        shaped.refers (carries.knowsTargets block.1) instruction within
      exact ⟨targets, symbols⟩
    · obtain ⟨stub, among, within⟩ := List.mem_flatten.1 inStub
      obtain ⟨target, counter, entry, -, named, found, rfl⟩ := carries.counted stub among
      rcases List.mem_cons.1 within with rfl | last
      · simp [Instruction.targets, Instruction.symbols, named]
      · cases List.mem_singleton.1 last
        simpa [Instruction.targets, Instruction.symbols] using carries.entry_lt found
  · exact carries.entry_lt found

end Program.Carries

namespace ProcessGraph

/-- In a graph that is made of its parts every arm of a race has its flow. -/
theorem exists_flow_of_arm {nodes : List Node} {flows : List Flow} {graph : ProcessGraph}
    (made : ofParts nodes flows = .ok graph) {race : NodeKey} {arms : List RaceArm} {arm : RaceArm}
    (found : graph.node? race = some ⟨race, .raceWait arms⟩) (listed : arm ∈ arms) :
    ∃ flow ∈ graph.outgoing race, flow.target = arm.target := by
  obtain ⟨-, lists, order⟩ := ofParts_eq_ok_iff.1 made
  have given := ((lists race ⟨race, .raceWait arms⟩).1 found).1
  have leads : ({ source := race, target := arm.target } : Flow) ∈ nodes.flatMap armFlows :=
    List.mem_flatMap.2
      ⟨_, given, List.mem_map.2 ⟨arm.target, List.mem_map.2 ⟨arm, listed, rfl⟩, rfl⟩⟩
  refine ⟨{ source := race, target := arm.target },
    List.mem_filter.2 ⟨?_, beq_self_eq_true race⟩, rfl⟩
  rw [order]
  exact (sortBy_perm _ _).mem_iff.2 (List.mem_append_right _ leads)

end ProcessGraph

namespace VerifiedGraph

/-- A verified graph is lowered to a program that carries its flows, unless it is refused. -/
theorem lower_cases (verified : VerifiedGraph) :
    match verified.lower with
    | .error error => Lowering.Refused verified error
    | .ok program =>
      (∃ blocks stubs, program.Carries verified blocks stubs) ∧
        ∀ key arms, verified.graph.node? key = some ⟨key, .raceWait arms⟩ ->
          arms.countP Lowering.isKeyed ≤ registerCount := by
  have cases := Lowering.code_cases verified
  rw [lower]
  cases done : (Lowering.code verified).run {} with
  | error error =>
    simp only [done] at cases
    exact cases
  | ok result =>
    obtain ⟨⟨blocks, stubs⟩, gathered⟩ := result
    simp only [done] at cases
    let parts := (Assembly.allCode blocks stubs).map
      (Instruction.mapTargets (Assembly.resolve blocks stubs))
    let symbols : SymbolTable := { gathered.symbols with entries := Assembly.entriesOf blocks }
    let program : Program :=
      ⟨parts, symbols, _, Sha256.isHashText_hex (Program.hashInput parts symbols)⟩
    have carries := @Lowering.Coded.carries _ _ _ _ cases program rfl rfl
    have made := Assembly.assemble_eq_ok cases.placed_labels
      (Program.ofParts_eq_ok_iff.2 ⟨rfl, rfl, rfl, carries.problem?_eq_none⟩)
    simp only [bind, Except.bind, made]
    refine ⟨⟨_, _, carries⟩, fun key arms found => ?_⟩
    obtain ⟨former, block, latter, split, rfl⟩ := cases.exists_block (contains_of_node found)
    have among : block ∈ blocks := split ▸ List.mem_append_right _ List.mem_cons_self
    obtain ⟨-, node, found', few, -⟩ := cases.isBlock among
    cases found.symm.trans found'
    exact few arms rfl

/-- Compilation lowers a verified graph. -/
theorem compile_eq (verified : VerifiedGraph) :
    verified.graph.compile = verified.lower.mapError .lowering := by
  have accepted := ofGraph_eq_ok_iff.2 (rfl : verified.graph = verified.graph)
  simp only [ProcessGraph.compile, accepted]
  rfl

/-- A compiled graph is verified, and its program consists of the code of its nodes and of stubs. -/
theorem carries_of_compile {graph : ProcessGraph} {program : Program}
    (compiled : graph.compile = .ok program) :
    ∃ verified : VerifiedGraph, verified.graph = graph ∧
      ∃ blocks stubs, program.Carries verified blocks stubs := by
  obtain ⟨verified, same, lowered⟩ := ProcessGraph.compile_eq_ok_iff.1 compiled
  have cases := verified.lower_cases
  rw [lowered] at cases
  exact ⟨verified, same, cases.1⟩

/-- A graph made of its parts is lowered unless a race waits for too many messages. -/
theorem lower_cases_of_parts {nodes : List Node} {flows : List Flow} {verified : VerifiedGraph}
    (made : ProcessGraph.ofParts nodes flows = .ok verified.graph) :
    (∃ program, verified.lower = .ok program ∧
      ∀ race arms, verified.graph.node? race = some ⟨race, .raceWait arms⟩ ->
        arms.countP Lowering.isKeyed ≤ registerCount) ∨
    ∃ race arms, verified.graph.node? race = some ⟨race, .raceWait arms⟩ ∧
      registerCount < arms.countP Lowering.isKeyed ∧
      verified.lower = .error (.tooManyArms race (registerCount + 1) registerCount) := by
  have cases := verified.lower_cases
  cases lowered : verified.lower with
  | ok program =>
    simp only [lowered] at cases
    exact .inl ⟨program, rfl, cases.2⟩
  | error error =>
    simp only [lowered] at cases
    cases cases with
    | strayArm found listed stray =>
      obtain ⟨flow, leaves, same⟩ := ProcessGraph.exists_flow_of_arm made found listed
      exact absurd same (stray flow leaves)
    | tooManyArms found many => exact .inr ⟨_, _, found, many, rfl⟩

/-- Sound parts are compiled if no race among them has more arms than there are registers. -/
theorem exists_compiled {nodes : List Node} {flows : List Flow}
    (sound : ((ProcessGraph.ofParts nodes flows).toOption.map ProcessGraph.problems) = some [])
    (few : ∀ node ∈ nodes, ∀ arms, node.kind = .raceWait arms -> arms.length ≤ registerCount) :
    ∃ verified program, ProcessGraph.ofParts nodes flows = .ok (VerifiedGraph.graph verified) ∧
      verified.lower = .ok program ∧ verified.graph.compile = .ok program := by
  obtain ⟨graph, made, sound⟩ := Option.map_eq_some_iff.1 sound
  obtain ⟨verified, rfl⟩ := exists_of_problems sound
  have made := toOption_eq_some_iff.1 made
  refine ⟨verified, ?_⟩
  rcases lower_cases_of_parts made with ⟨program, lowered, -⟩ | ⟨race, arms, found, many, -⟩
  · exact ⟨program, made, lowered, by rw [compile_eq, lowered]; rfl⟩
  · obtain ⟨-, lists, -⟩ := ProcessGraph.ofParts_eq_ok_iff.1 made
    have := few _ ((lists _ _).1 found).1 arms rfl
    have := arms.countP_le_length (p := Lowering.isKeyed)
    omega

end VerifiedGraph

end ProcessEngine
