import Mathlib.Data.List.Chain
import Mathlib.Logic.Relation
import Mathlib.Order.RelClasses
import ProcessEngine.Proofs.AssembledCode

/-!
# Control flow

Every cycle of the control flow of a compiled program counts
(`Program.exists_countsAt_of_isChain`). The traversal of a graph leaves its nodes one after
the other, and each of them leads on only to nodes that were left before, but for the flows that
close loops (`Layout.Tries.leaves`). So control that is not counted comes to nodes that were left
earlier and earlier, and within a node it only goes ahead.
-/

namespace ProcessEngine

namespace Layout

/-! ## The order in which nodes are left -/

/-- Whether a way on from a node is noted among flows that close loops. -/
def WayOn.Noted (loops : List FlowPlace) (key : NodeKey) : WayOn -> Prop
  | .timer _ => False
  | .flow _ index => ⟨key, index⟩ ∈ loops

/-- How control may come from the start of a graph to a node; the last node is the first of the
list. -/
inductive Trail (graph : ProcessGraph) (start : NodeKey) : List NodeKey -> Prop where
  | start : Trail graph start [start]
  | onward {key path way} (prior : Trail graph start (key :: path))
      (listed : way ∈ waysOn graph key) (unseen : way.target ∉ key :: path) :
      Trail graph start (way.target :: key :: path)

/-- Nodes that were left, the last one first: each leads on only to nodes that were left before, or
along flows that close loops. -/
inductive Left (graph : ProcessGraph) (loops : List FlowPlace) : List NodeKey -> Prop where
  | none : Left graph loops []
  | node {key nodes} (former : Left graph loops nodes)
      (leads : ∀ way ∈ waysOn graph key, way.Noted loops key ∨ way.target ∈ nodes) :
      Left graph loops (key :: nodes)

/-- Control comes to a timer only from the node that it watches over. -/
def Attached (graph : ProcessGraph) (start : NodeKey) : Prop :=
  ∀ host, ∀ boundary ∈ graph.boundariesOf host, boundary.key ≠ start ∧
    ∀ other, ∀ way ∈ waysOn graph other, way.target = boundary.key -> other = host

variable {graph : ProcessGraph} {start key : NodeKey} {path nodes : List NodeKey}
variable {loops later : List FlowPlace} {ways : List WayOn} {layout last : Layout}

theorem WayOn.Noted.mono {way : WayOn} (noted : way.Noted loops key) (more : loops ⊆ later) :
    way.Noted later key := by
  cases way with
  | timer boundary => exact noted
  | flow target index => exact more noted

theorem Left.mono (left : Left graph loops nodes) (more : loops ⊆ later) :
    Left graph later nodes := by
  induction left with
  | none => exact .none
  | node former leads ih =>
    exact .node ih (fun way listed => (leads way listed).imp_left (fun noted => noted.mono more))

/-- Nodes that were left earlier have a lower rank. -/
theorem Left.exists_rank (left : Left graph loops nodes) : ∃ rank : NodeKey -> Nat,
    ∀ key ∈ nodes, rank key < nodes.length ∧ ∀ way ∈ waysOn graph key,
      way.Noted loops key ∨ way.target ∈ nodes ∧ rank way.target < rank key := by
  induction left with
  | none => exact ⟨fun _ => 0, by simp⟩
  | @node key nodes _ leads ih =>
    obtain ⟨rank, ranked⟩ := ih
    have kept : ∀ other ∈ nodes, ∀ way ∈ waysOn graph other, way.Noted loops other ∨
        way.target ∈ key :: nodes ∧ rank way.target < rank other := fun other listed way onward =>
      ((ranked other listed).2 way onward).imp_right
        (fun ⟨within, lower⟩ => ⟨List.mem_cons_of_mem _ within, lower⟩)
    by_cases again : key ∈ nodes
    · refine ⟨rank, fun other listed => ?_⟩
      have listed : other ∈ nodes := by
        rcases List.mem_cons.1 listed with rfl | listed
        · exact again
        · exact listed
      exact ⟨Nat.lt_succ_of_lt (ranked other listed).1, kept other listed⟩
    · -- The node that was left last gets a rank above all others.
      have different {other : NodeKey} (listed : other ∈ nodes) : other ≠ key := by
        rintro rfl
        exact again listed
      refine ⟨Function.update rank key nodes.length, fun other listed => ?_⟩
      rcases List.mem_cons.1 listed with rfl | listed
      · rw [Function.update_self]
        refine ⟨Nat.lt_succ_self _, fun way onward => (leads way onward).imp_right
          (fun within => ⟨List.mem_cons_of_mem _ within, ?_⟩)⟩
        rw [Function.update_of_ne (different within)]
        exact (ranked _ within).1
      · rw [Function.update_of_ne (different listed)]
        refine ⟨Nat.lt_succ_of_lt (ranked other listed).1, fun way onward =>
          ((ranked other listed).2 way onward).imp_right (fun ⟨within, lower⟩ =>
            ⟨List.mem_cons_of_mem _ within, ?_⟩)⟩
        rwa [Function.update_of_ne (different within)]

theorem Trail.nodup {trail : List NodeKey} (leads : Trail graph start trail) : trail.Nodup := by
  induction leads with
  | start => exact List.nodup_singleton _
  | onward _ _ unseen ih => exact List.nodup_cons.2 ⟨unseen, ih⟩

/-- Where control has come to a timer, it has come to its host before. -/
theorem Trail.host_mem (attached : Attached graph start) {trail : List NodeKey}
    (leads : Trail graph start trail) {host : NodeKey} {boundary : Node}
    (guards : boundary ∈ graph.boundariesOf host) (reached : boundary.key ∈ trail) :
    host ∈ trail.tail := by
  obtain ⟨other, only⟩ := attached host boundary guards
  induction leads with
  | start => exact absurd (List.mem_singleton.1 reached) other
  | onward prior listed unseen ih =>
    rcases List.mem_cons.1 reached with same | earlier
    · exact only _ _ listed same.symm ▸ List.mem_cons_self
    · exact List.mem_of_mem_tail (ih earlier)

theorem Trail.boundary_notMem (attached : Attached graph start)
    (trail : Trail graph start (key :: path)) {boundary : Node}
    (guards : boundary ∈ graph.boundariesOf key) : boundary.key ∉ key :: path :=
  fun reached => (List.nodup_cons.1 trail.nodup).1 (trail.host_mem attached guards reached)

/-- Flows that close loops are only added. -/
theorem Tries.notes (tries : Tries graph path key ways layout last) :
    layout.loops ⊆ last.loops := by
  induction tries with
  | done => exact List.Subset.refl _
  | loop _ _ ih => exact List.Subset.trans (List.subset_append_left _ _) ih
  | known _ _ _ ih => exact ih
  | new _ _ _ _ ihBelow ihRest => exact List.Subset.trans ihBelow ihRest

/-- If all nodes were left that a traversal has come to before, but for those on the path, then all
nodes are left that it comes to, but for those on the path; and each way that was tried leads to a
node that was left, unless its flow closes a loop. -/
theorem Tries.leaves (attached : Attached graph start)
    (tries : Tries graph path key ways layout last) (trail : Trail graph start (key :: path))
    (within : ∀ way ∈ ways, way ∈ waysOn graph key)
    (behind : ∀ node ∈ key :: path, node ∈ layout.order) (left : Left graph layout.loops nodes)
    (known : ∀ node ∈ layout.order, node ∈ nodes ∨ node ∈ key :: path) :
    ∃ others, nodes ⊆ others ∧ Left graph last.loops others ∧
      (∀ node ∈ last.order, node ∈ others ∨ node ∈ key :: path) ∧
      ∀ way ∈ ways, way.Noted last.loops key ∨ way.target ∈ others := by
  induction tries generalizing nodes with
  | done => exact ⟨nodes, List.Subset.refl _, left, known, by simp⟩
  | loop back rest ih =>
    obtain ⟨others, more, left, known, tried⟩ := ih trail
      (fun way listed => within way (List.mem_cons_of_mem _ listed)) behind
      (left.mono (List.subset_append_left _ _)) known
    refine ⟨others, more, left, known, List.forall_mem_cons.2 ⟨.inl ?_, tried⟩⟩
    exact rest.notes (List.mem_append_right _ (List.mem_singleton_self _))
  | @known path key way ways layout last onward seen rest ih =>
    obtain ⟨listed, within⟩ := List.forall_mem_cons.1 within
    obtain ⟨others, more, left, known', tried⟩ := ih trail within behind left known
    refine ⟨others, more, left, known', List.forall_mem_cons.2 ⟨.inr ?_, tried⟩⟩
    refine more ((known _ seen).resolve_right (fun ahead => ?_))
    cases way with
    | timer boundary =>
      rcases List.mem_append.1 listed with timer | flow
      · obtain ⟨boundary, guards, same⟩ := List.mem_map.1 timer
        cases same
        exact trail.boundary_notMem attached guards ahead
      · obtain ⟨_, _, same⟩ := List.mem_map.1 flow
        cases same
    | flow target index => exact onward ahead
  | @new path key way ways layout middle last onward unseen below rest ihBelow ihRest =>
    obtain ⟨listed, within⟩ := List.forall_mem_cons.1 within
    have fresh : way.target ∉ key :: path := fun reached => unseen (behind _ reached)
    have behind' : ∀ node ∈ way.target :: key :: path, node ∈ (layout.enter way.target).order :=
      List.forall_mem_cons.2 ⟨List.mem_append_right _ (List.mem_singleton_self _),
        fun node reached => List.mem_append_left _ (behind node reached)⟩
    obtain ⟨others, more, left, known', leads⟩ := ihBelow (.onward trail listed fresh)
      (fun _ listed => listed) behind' left (fun node reached => by
        rcases List.mem_append.1 reached with reached | entered
        · exact (known node reached).imp_right (List.mem_cons_of_mem _)
        · exact .inr (List.mem_singleton.1 entered ▸ List.mem_cons_self))
    obtain ⟨others', more', left, known, tried⟩ := ihRest trail within
      (fun node reached => below.grows.mem (List.mem_append_left _ (behind node reached)))
      (.node left leads) (fun node reached => by
        rcases known' node reached with listed | ahead
        · exact .inl (List.mem_cons_of_mem _ listed)
        · rcases List.mem_cons.1 ahead with rfl | ahead
          · exact .inl List.mem_cons_self
          · exact .inr ahead)
    exact ⟨others', fun node listed => more' (List.mem_cons_of_mem _ (more listed)), left, known,
      List.forall_mem_cons.2 ⟨.inr (more' List.mem_cons_self), tried⟩⟩

end Layout

namespace VerifiedGraph

open Layout

variable {verified : VerifiedGraph} {key : NodeKey}

/-- Nothing but its host leads to a timer. -/
theorem attached (verified : VerifiedGraph) : Attached verified.graph verified.start := by
  intro host boundary guards
  obtain ⟨duration, interrupting, kind, found⟩ := boundary_eq guards
  refine ⟨fun same => ?_, fun other way listed same => ?_⟩
  · obtain ⟨node, present, starts⟩ := verified.isStart_start
    rw [← same, found] at present
    cases present
    rw [Node.isStart, kind] at starts
    cases starts
  · rcases List.mem_append.1 listed with timer | flow
    · obtain ⟨boundary', guards', rfl⟩ := List.mem_map.1 timer
      obtain ⟨_, _, kind', found'⟩ := boundary_eq guards'
      rw [show boundary'.key = boundary.key from same, found] at found'
      cases found'
      cases kind.symm.trans kind'
      rfl
    · obtain ⟨⟨along, index⟩, placed, rfl⟩ := List.mem_map.1 flow
      have present := (List.mem_filter.1 (List.fst_mem_of_mem_zipIdx placed)).1
      have entering : along ∈ verified.graph.incoming boundary.key :=
        List.mem_filter.2 ⟨present, beq_iff_eq.2 same⟩
      have sound := kindProblems_eq_nil found
      simp only [ProcessGraph.kindProblems, kind, List.append_eq_nil_iff,
        ProcessGraph.noneIncoming, ProcessGraph.reportIf_eq_nil] at sound
      have none : verified.graph.incoming boundary.key = [] := by simpa using sound.1.2
      rw [none] at entering
      cases entering

/-- Along flows that close no loop, and to timers, control comes to nodes of a lower rank. -/
theorem exists_rank (verified : VerifiedGraph) : ∃ rank : NodeKey -> Nat,
    ∀ key, verified.graph.contains key = true -> ∀ way ∈ waysOn verified.graph key,
      way.Noted verified.layout.loops key ∨ rank way.target < rank key := by
  obtain ⟨others, -, left, known, leads⟩ := Tries.leaves verified.attached verified.traverses .start
    (fun _ listed => listed) (by simp [enter]) .none (by simp [enter])
  obtain ⟨rank, ranked⟩ := (Left.node left leads).exists_rank
  refine ⟨rank, fun key inside way listed => ?_⟩
  have reached : key ∈ verified.start :: others := by
    rcases known key (verified.mem_order_iff.2 inside) with left | start
    · exact List.mem_cons_of_mem _ left
    · exact List.mem_singleton.1 start ▸ List.mem_cons_self
  exact ((ranked key reached).2 way listed).imp_right And.right

end VerifiedGraph

/-! ## The control flow graph -/

/-- Whether control goes on at the next instruction, at once or after a wait. -/
def Instruction.fallsThrough {Target : Type} : Instruction Target -> Bool
  | .jump _ => false
  | .fork _ _ => false
  | .forkInclusive _ _ _ _ => false
  | .race _ _ => false
  | .finish => false
  | .terminate => false
  | .fault _ => false
  | _ => true

namespace Program

variable (program : Program)

/-- An edge of the control flow graph. -/
def Flows (source target : Address) : Prop :=
  ∃ instruction, program.instruction? source = some instruction ∧
    (instruction.fallsThrough = true ∧ target = source + 1 ∨ target ∈ instruction.targets)

/-- The instruction at an address counts a turn of a loop. -/
def CountsAt (address : Address) : Prop :=
  ∃ counter, program.instruction? address = some (.incrementCounter counter)

/-- An edge along which nothing is counted. -/
def Passes (source target : Address) : Prop :=
  program.Flows source target ∧ ¬ program.CountsAt source

/-- Control passes only to places from where it cannot pass forever. -/
abbrev Settles (address : Address) : Prop :=
  Acc (fun target source => program.Passes source target) address

variable {program}

theorem settles_of_countsAt {address : Address} (counts : program.CountsAt address) :
    program.Settles address :=
  .intro _ (fun _ passes => absurd counts passes.2)

/-- Control cannot pass forever from code that has an end if it cannot from the targets of the
code. -/
theorem settles_of_hasCode {former : List (Instruction Address)} {last : Instruction Address}
    {address : Address} (stands : program.HasCode address (former ++ [last]))
    (leaves : last.fallsThrough = false)
    (settles : ∀ instruction ∈ former ++ [last], ∀ target ∈ instruction.targets,
      program.Settles target) : program.Settles address := by
  induction former generalizing address with
  | nil =>
    refine .intro _ (fun target passes => ?_)
    obtain ⟨⟨instruction, reached, ⟨goesOn, -⟩ | leads⟩, -⟩ := passes
    · cases stands.head.symm.trans reached
      cases leaves.symm.trans goesOn
    · cases stands.head.symm.trans reached
      exact settles _ List.mem_cons_self target leads
  | cons first former ih =>
    obtain ⟨ofFirst, ofRest⟩ := List.forall_mem_cons.1 settles
    refine .intro _ (fun target passes => ?_)
    obtain ⟨⟨instruction, reached, ⟨-, rfl⟩ | leads⟩, -⟩ := passes
    · exact ih stands.tail ofRest
    · cases stands.head.symm.trans reached
      exact ofFirst target leads

end Program

namespace References

variable {Target : Type} {references : References Target} {verified : VerifiedGraph}
  {key : NodeKey} {kind : NodeKind} {code : List (Instruction Target)}

/-- Code that ends with an instruction behind which control does not go on. -/
def Ends (code : List (Instruction Target)) : Prop :=
  ∃ former last, code = former ++ [last] ∧ last.fallsThrough = false

theorem Ends.after {rest : List (Instruction Target)} (ends : Ends rest)
    (former : List (Instruction Target)) : Ends (former ++ rest) := by
  obtain ⟨between, last, rfl, leaves⟩ := ends
  exact ⟨former ++ between, last, (List.append_assoc ..).symm, leaves⟩

theorem Onward.ends (onward : references.Onward verified key code) : Ends code := by
  cases onward
  exact ⟨[], _, rfl, rfl⟩

/-- The code of a node has an end. -/
theorem NodeCode.ends (shaped : references.NodeCode verified key kind code) : Ends code := by
  cases shaped with
  | start onward => exact onward.ends
  | boundaryTimer onward => exact onward.ends
  | finish => exact ⟨[], _, rfl, rfl⟩
  | terminate => exact ⟨[], _, rfl, rfl⟩
  | serviceTask _ _ _ _ onward => exact onward.ends.after _
  | exclusive => exact ⟨_, _, rfl, rfl⟩
  | exclusiveOrFault => exact ⟨_, _, rfl, rfl⟩
  | parallel => exact ⟨[], _, rfl, rfl⟩
  | inclusive => exact ⟨_, _, rfl, rfl⟩
  | join _ onward => exact onward.ends.after [_]
  | timerWait onward => exact onward.ends.after [_]
  | messageWait _ _ _ onward => exact onward.ends.after _
  | humanWait _ _ onward => exact onward.ends.after _
  | race => exact ⟨_, _, rfl, rfl⟩

end References

/-- Every place in a list of lists lies in one of them. -/
theorem exists_piece {α : Type} {lists : List (List α)} {place : Nat}
    (within : place < lists.flatten.length) : ∃ former list latter offset,
      lists = former ++ list :: latter ∧ offset < list.length ∧
        place = former.flatten.length + offset := by
  induction lists generalizing place with
  | nil => cases within
  | cons list rest ih =>
    by_cases inside : place < list.length
    · exact ⟨[], list, rest, place, rfl, inside, (Nat.zero_add _).symm⟩
    · obtain ⟨offset, rfl⟩ := Nat.exists_eq_add_of_le (Nat.le_of_not_lt inside)
      rw [List.flatten_cons, List.length_append] at within
      obtain ⟨former, found, latter, offset, rfl, bounded, rfl⟩ :=
        ih (Nat.lt_of_add_lt_add_left within)
      refine ⟨list :: former, found, latter, offset, rfl, bounded, ?_⟩
      rw [List.flatten_cons, List.length_append, Nat.add_assoc]

namespace Program.Carries

open Layout

variable {program : Program} {verified : VerifiedGraph}
  {blocks : List (NodeKey × List (Instruction Address))} {stubs : List (List (Instruction Address))}

/-- Every target in the code of a node counts a turn, or begins the code of a node of a lower
rank. -/
theorem knowsLower {rank : NodeKey -> Nat} {key : NodeKey}
    (lower : ∀ way ∈ waysOn verified.graph key,
      way.Noted verified.layout.loops key ∨ rank way.target < rank key) :
    (program.references verified.layout).KnowsTargets (fun address => program.CountsAt address ∨
      ∃ next, rank next < rank key ∧ program.entry? next = some address) (fun _ => True) verified
        key where
  joins _ _ _ _ := trivial
  begins boundary guards address found := by
    refine .inr ⟨boundary.key, ?_, found⟩
    exact (lower (.timer boundary.key)
      (List.mem_append_left _ (List.mem_map.2 ⟨boundary, guards, rfl⟩))).resolve_left id
  leads place placed address leads := by
    have listed : WayOn.flow place.1.target place.2 ∈ waysOn verified.graph key :=
      List.mem_append_right _ (List.mem_map.2 ⟨place, placed, rfl⟩)
    simp only [references] at leads
    split at leads
    · obtain ⟨counter, entry, -, -, stands⟩ := leads
      exact .inl ⟨counter, stands.head⟩
    · rename_i onward
      exact .inr ⟨place.1.target, (lower _ listed).resolve_left onward, leads⟩

variable (carries : program.Carries verified blocks stubs)

include carries

/-- From where the code of a node begins control cannot pass forever. -/
theorem settles_entry {key : NodeKey} {entry : Address}
    (begins : program.entry? key = some entry) : program.Settles entry := by
  obtain ⟨rank, lower⟩ := verified.exists_rank
  induction bound : rank key using Nat.strong_induction_on generalizing key entry with
  | _ bound' ih =>
    have inside := (carries.entries key).1 (Option.isSome_iff_exists.2 ⟨entry, begins⟩)
    obtain ⟨node, present⟩ := ProcessGraph.exists_node inside
    obtain ⟨entry', code, begins', stands, shaped⟩ := carries.block_of_node present
    cases begins.symm.trans begins'
    obtain ⟨former, last, rfl, leaves⟩ := shaped.ends
    refine settles_of_hasCode stands leaves (fun instruction listed target leads => ?_)
    rcases (shaped.refers (knowsLower (lower key inside)) instruction listed).1 target leads with
      counts | ⟨next, below, begins⟩
    · exact settles_of_countsAt counts
    · exact ih _ (bound ▸ below) begins rfl

/-- From no address of the program control can pass forever. -/
theorem settles (address : Address) : program.Settles address := by
  have whole : program.instructions = (blocks.map Prod.snd ++ stubs).flatten := by
    rw [carries.instructions, List.flatten_append, List.flatMap_def]
  have pieces : ∀ piece ∈ blocks.map Prod.snd ++ stubs, References.Ends piece ∧
      ∀ instruction ∈ piece, ∀ target ∈ instruction.targets, program.Settles target := by
    intro piece listed
    rcases List.mem_append.1 listed with block | stub
    · obtain ⟨⟨key, code⟩, among, rfl⟩ := List.mem_map.1 block
      obtain ⟨node, present, shaped⟩ := carries.shaped _ among
      obtain ⟨rank, lower⟩ := verified.exists_rank
      refine ⟨shaped.ends, fun instruction within target leads => ?_⟩
      rcases (shaped.refers (knowsLower (lower key (VerifiedGraph.contains_of_node present)))
        instruction within).1 target leads with counts | ⟨next, -, begins⟩
      · exact settles_of_countsAt counts
      · exact carries.settles_entry begins
    · obtain ⟨target, counter, entry, -, -, begins, rfl⟩ := carries.counted piece stub
      refine ⟨⟨[_], _, rfl, rfl⟩, List.forall_mem_cons.2 ⟨nofun, List.forall_mem_singleton.2 ?_⟩⟩
      exact List.forall_mem_singleton.2 (carries.settles_entry begins)
  by_cases within : address < (blocks.map Prod.snd ++ stubs).flatten.length
  · obtain ⟨former, piece, latter, offset, split, inside, rfl⟩ := exists_piece within
    obtain ⟨⟨before, last, rfl, leaves⟩, settled⟩ := pieces piece (split ▸ by simp)
    rw [List.length_append, List.length_singleton] at inside
    have stands : program.HasCode (former.flatten ++ before.take offset).length
        (before.drop offset ++ [last]) := by
      refine program.hasCode_append _ latter.flatten ?_
      rw [whole, split]
      simp [← List.append_assoc, List.append_assoc _ (before.take offset)]
    rw [List.length_append, List.length_take_of_le (Nat.le_of_lt_succ inside)] at stands
    refine settles_of_hasCode stands leaves (fun instruction listed => settled instruction ?_)
    rcases List.mem_append.1 listed with ahead | final
    · exact List.mem_append_left _ (List.mem_of_mem_drop ahead)
    · exact List.mem_append_right _ final
  · refine .intro _ (fun target passes => absurd ?_ within)
    obtain ⟨instruction, reached, -⟩ := passes.1
    rw [← whole]
    exact (List.getElem?_eq_some_iff.1 reached).1

end Program.Carries

/-- From no address of a compiled program control can pass forever. -/
theorem ProcessGraph.settles_of_compile {graph : ProcessGraph} {program : Program}
    (compiled : graph.compile = .ok program) (address : Address) : program.Settles address := by
  obtain ⟨_, -, blocks, stubs, carries⟩ := VerifiedGraph.carries_of_compile compiled
  exact carries.settles address

namespace Program

variable {program : Program}

/-- Where control cannot pass forever, it does not come back without being counted. -/
theorem not_transGen_passes (settles : ∀ address, program.Settles address) (address : Address) :
    ¬ Relation.TransGen program.Passes address address := by
  intro returns
  have wellFounded : WellFounded (fun target source => program.Passes source target) := ⟨settles⟩
  have backwards := Relation.transGen_swap.2 returns
  exact wellFounded.transGen.asymmetric _ _ backwards backwards

theorem transGen_of_isChain {path : List Address} {first last : Address}
    (chain : List.IsChain program.Flows (first :: path ++ [last]))
    (uncounted : ∀ address ∈ first :: path, ¬ program.CountsAt address) :
    Relation.TransGen program.Passes first last := by
  induction path generalizing first with
  | nil => exact .single ⟨List.isChain_pair.1 chain, uncounted first List.mem_cons_self⟩
  | cons next path ih =>
    obtain ⟨flows, chain⟩ := List.isChain_cons_cons.1 chain
    obtain ⟨here, uncounted⟩ := List.forall_mem_cons.1 uncounted
    exact .head ⟨flows, here⟩ (ih chain uncounted)

/-- Every cycle counts a turn. -/
theorem exists_countsAt_of_isChain (settles : ∀ address, program.Settles address)
    {address : Address} {path : List Address}
    (cycle : List.IsChain program.Flows (address :: path ++ [address])) :
    ∃ counting ∈ address :: path, program.CountsAt counting := by
  by_contra none
  refine not_transGen_passes settles address (transGen_of_isChain cycle ?_)
  exact fun counting listed counts => none ⟨counting, listed, counts⟩

end Program

end ProcessEngine
