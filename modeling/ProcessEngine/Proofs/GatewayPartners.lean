import ProcessEngine.Proofs.ReachabilityReports

/-!
# Splits and joins belong together one by one

Verification records a partner for each gateway that splits, and none for other nodes. The partner
joins what the split forks (`GatewayPair.Partners`): it is a gateway of the same kind, control can
come to it from the split, and it is the join that the split declares if it declares one. No two
splits have the same partner, since the reports of shared joins look for it among the splits of a
kind and a gateway has one kind, and no join is left without a split. So the lowering finds a join
for each split and a split for each join (`VerifiedGraph.splits_correspond_to_joins`).
-/

namespace ProcessEngine

namespace ProcessGraph

variable {graph : ProcessGraph} {kind kind' : GatewayKind} {split other join key : NodeKey}
variable {node : Node} {pair pair' : GatewayPair} {passed : List NodeKey}

/-- The recorded partner joins what the gateway splits. -/
structure Partners (graph : ProcessGraph) (split : NodeKey) (pair : GatewayPair) : Prop where
  /-- The node is a gateway that splits, and the join is the one that it declares if any. -/
  splits : ∃ node, graph.node? split = some node ∧ node.isSplit pair.kind = true ∧
    ∀ declared, declaredJoin? node = some declared -> pair.join = declared
  /-- The partner is a gateway of the same kind that joins. -/
  joins : ∃ node, graph.node? pair.join = some node ∧ node.isJoin pair.kind = true
  /-- Control can come from the split to its partner. -/
  reached : graph.CanReach split pair.join
  /-- The branches are the flows that leave the split. -/
  counted : pair.branches = (graph.outgoing split).length

/-- A branch goes where control can go. -/
theorem leadsOn_of_branchSuccessors (onward : key ∈ graph.branchSuccessors other) :
    graph.LeadsOn other key := by
  rcases List.mem_append.1 onward with along | interrupted
  · obtain ⟨flow, leaves, rfl⟩ := List.mem_map.1 along
    obtain ⟨listed, same⟩ := List.mem_filter.1 leaves
    rw [← beq_iff_eq.1 same]
    exact .flow listed
  · obtain ⟨timer, watches, rfl⟩ := List.mem_map.1 interrupted
    obtain ⟨listed, host⟩ := List.mem_filter.1 (List.mem_filter.1 watches).1
    exact .timer listed host

/-- Control can come from a split to where its branches lead. -/
theorem BranchPath.canReach (path : graph.BranchPath split passed key) :
    graph.CanReach split key := by
  induction path with
  | enter leaves =>
    exact .single (leadsOn_of_branchSuccessors
      (List.mem_append_left _ (List.mem_map.2 ⟨_, leaves, rfl⟩)))
  | follow _ onward _ ih => exact ih.tail (leadsOn_of_branchSuccessors onward)

theorem mem_joins_iff : node ∈ graph.joins kind ↔
    graph.node? node.key = some node ∧ node.isJoin kind = true := by
  rw [joins, List.mem_filter, nodes, OrderedMap.mem_values_iff]
  refine and_congr_left (fun _ => ⟨?_, fun found => ⟨_, found⟩⟩)
  rintro ⟨name, found⟩
  rwa [graph.keyed name node found]

/-- The partners are recorded for the splits whose branches meet at one join. -/
theorem mem_pairsOf_iff : (split, pair) ∈ graph.pairsOf kind ↔
    (∃ node, graph.node? split = some node ∧ node.isSplit kind = true) ∧
      (graph.survey kind split).joins = [pair.join] ∧ pair.kind = kind ∧
      pair.branches = (graph.outgoing split).length := by
  simp only [pairsOf, splits, List.mem_filterMap, List.mem_filter]
  constructor
  · rintro ⟨node, ⟨listed, splits⟩, recorded⟩
    obtain ⟨name, found⟩ := (OrderedMap.mem_values_iff _ _).1 listed
    cases graph.keyed name node found
    split at recorded
    · rename_i join one
      cases recorded
      exact ⟨⟨node, found, splits⟩, one, rfl, rfl⟩
    · cases recorded
  · rintro ⟨⟨node, found, splits⟩, one, rfl, counted⟩
    refine ⟨node, ⟨(OrderedMap.mem_values_iff _ _).2 ⟨split, found⟩, splits⟩, ?_⟩
    rw [graph.keyed split node found, one, ← counted]

/-- A gateway that splits is of one kind. -/
theorem kind_of_isSplit (splits : node.isSplit kind = true) (splits' : node.isSplit kind' = true) :
    kind = kind' := by
  rw [Node.isSplit, beq_iff_eq] at splits splits'
  cases splits.symm.trans splits'
  rfl

/-- A gateway that joins is of one kind. -/
theorem kind_of_isJoin (joins : node.isJoin kind = true) (joins' : node.isJoin kind' = true) :
    kind = kind' := by
  rw [Node.isJoin, beq_iff_eq] at joins joins'
  cases joins.symm.trans joins'
  rfl

/-- One partner is recorded for a split. -/
theorem pair_of_mem_pairsOf (recorded : (split, pair) ∈ graph.pairsOf kind)
    (recorded' : (split, pair') ∈ graph.pairsOf kind') : pair = pair' := by
  obtain ⟨⟨node, found, splits⟩, one, rfl, counted⟩ := mem_pairsOf_iff.1 recorded
  obtain ⟨⟨node', found', splits'⟩, one', rfl, counted'⟩ := mem_pairsOf_iff.1 recorded'
  cases found.symm.trans found'
  have sameKind := kind_of_isSplit splits splits'
  rw [sameKind, one'] at one
  obtain ⟨kind, join, branches⟩ := pair
  rw [GatewayPair.mk.injEq]
  exact ⟨sameKind, (List.singleton_inj.1 one).symm, counted.trans counted'.symm⟩

/-- A list without a second element has one element only. -/
theorem eq_of_mem_of_length_le_one {α : Type} {elements : List α} {first second : α}
    (few : elements.length ≤ 1) (listed : first ∈ elements) (listed' : second ∈ elements) :
    first = second := by
  match elements, few with
  | [only], _ => exact (List.mem_singleton.1 listed).trans (List.mem_singleton.1 listed').symm

/-- A join of a kind that is reported neither as shared nor as an orphan belongs to one split of
that kind. -/
theorem existsUnique_of_joinProblems (sound : graph.joinProblems kind = [])
    (found : graph.node? key = some node) (joins : node.isJoin kind = true) :
    ∃! split, ∃ pair, (split, pair) ∈ graph.pairsOf kind ∧ pair.join = key := by
  have same := graph.keyed key node found
  obtain ⟨shared, orphans⟩ := List.append_eq_nil_iff.1 sound
  rw [List.map_eq_nil_iff, List.filter_eq_nil_iff] at shared orphans
  have claimed : key ∈ sortedDistinct ((graph.pairsOf kind).map (fun pair => pair.2.join)) := by
    have listed := orphans node (mem_joins_iff.2 ⟨same ▸ found, joins⟩)
    simpa [same] using listed
  obtain ⟨⟨split, pair⟩, recorded, rfl⟩ := List.mem_map.1 (mem_sortedDistinct.1 claimed)
  refine ⟨split, ⟨pair, recorded, rfl⟩, ?_⟩
  rintro other ⟨pair', recorded', sameJoin⟩
  have few := shared _ claimed
  rw [decide_eq_true_eq, not_lt, List.length_map] at few
  have among : (split, pair) ∈ (graph.pairsOf kind).filter (·.2.join == pair.join) :=
    List.mem_filter.2 ⟨recorded, beq_self_eq_true _⟩
  have among' : (other, pair') ∈ (graph.pairsOf kind).filter (·.2.join == pair.join) :=
    List.mem_filter.2 ⟨recorded', beq_iff_eq.2 sameJoin⟩
  exact congrArg Prod.fst (eq_of_mem_of_length_le_one few among' among)

end ProcessGraph

namespace VerifiedGraph

open ProcessGraph

variable {verified : VerifiedGraph} {kind : GatewayKind} {split other key : NodeKey}
variable {node : Node} {pair pair' : GatewayPair}

/-- There is nothing wrong with the pairing of either kind of gateway. -/
theorem pairingProblems_eq_nil (kind : GatewayKind) :
    verified.graph.pairingProblems kind = [] := by
  have all := verified.sound
  simp only [problems, List.append_eq_nil_iff] at all
  cases kind
  · exact all.1.2
  · exact all.2

/-- The partner of a split is the one that is recorded for it among the splits of its kind. -/
theorem pair?_eq_some_iff :
    verified.pair? split = some pair ↔ (split, pair) ∈ verified.graph.pairsOf pair.kind := by
  have among (kind : GatewayKind) (entry : NodeKey × GatewayPair)
      (recorded : entry ∈ verified.graph.pairsOf kind) : entry ∈
        verified.graph.pairsOf .parallel ++ verified.graph.pairsOf .inclusive := by
    cases kind
    · exact List.mem_append_left _ recorded
    · exact List.mem_append_right _ recorded
  rw [pair?, verified.pairs_eq, ProcessGraph.pairs, OrderedMap.ofList]
  rcases OrderedMap.get?_foldl_insert_cases Prod.fst Prod.snd
    (verified.graph.pairsOf .parallel ++ verified.graph.pairsOf .inclusive) .empty split with
    ⟨⟨same, entry⟩, listed, rfl, found⟩ | ⟨absent, none⟩
  · obtain ⟨kind, recorded⟩ : ∃ kind, (same, entry) ∈ verified.graph.pairsOf kind := by
      rcases List.mem_append.1 listed with listed | listed
      · exact ⟨_, listed⟩
      · exact ⟨_, listed⟩
    rw [found, Option.some.injEq]
    constructor
    · rintro rfl
      cases (mem_pairsOf_iff.1 recorded).2.2.1
      exact recorded
    · exact fun recorded' => pair_of_mem_pairsOf recorded recorded'
  · rw [none]
    exact iff_of_false (by simp) (fun recorded => absent _ (among _ _ recorded) rfl)

/-- The recorded partner of a split joins what it splits. -/
theorem partners_of_pair? (paired : verified.pair? split = some pair) :
    verified.graph.Partners split pair := by
  obtain ⟨⟨node, found, splits⟩, one, -, counted⟩ :=
    mem_pairsOf_iff.1 (pair?_eq_some_iff.1 paired)
  obtain ⟨-, -, passed, path, -, ⟨joins, -⟩, -⟩ := branches_join paired
  refine ⟨⟨node, found, splits, fun declared declares => ?_⟩, joins, path.canReach, counted⟩
  have sound := (List.append_eq_nil_iff.1 (splitProblems_eq_nil found splits)).2
  rw [verified.graph.keyed split node found, one] at sound
  simp only [declares] at sound
  split at sound
  · rename_i same
    exact same.symm
  · cases sound

/-- Partners are recorded for just the gateways that split. -/
theorem isSome_pair?_iff : (verified.pair? split).isSome = true ↔
    ∃ node kind, verified.graph.node? split = some node ∧ node.isSplit kind = true := by
  rw [Option.isSome_iff_exists]
  constructor
  · rintro ⟨pair, paired⟩
    obtain ⟨node, found, splits, -⟩ := (partners_of_pair? paired).splits
    exact ⟨node, _, found, splits⟩
  · rintro ⟨⟨name, nodeKind⟩, kind, found, splits⟩
    rw [Node.isSplit, beq_iff_eq] at splits
    cases nodeKind with
    | gateway _ _ declared =>
      cases splits
      exact exists_pair found rfl
    | _ => cases splits

/-- The gateways that join are the partners of one split each. -/
theorem existsUnique_split (found : verified.graph.node? key = some node)
    (joins : node.isJoin kind = true) :
    ∃! split, ∃ pair, verified.pair? split = some pair ∧ pair.join = key := by
  have sound := (List.append_eq_nil_iff.1 (@pairingProblems_eq_nil verified kind)).2
  obtain ⟨split, ⟨pair, recorded, sameJoin⟩, only⟩ := existsUnique_of_joinProblems sound found joins
  have ofKind := (mem_pairsOf_iff.1 recorded).2.2.1
  refine ⟨split, ⟨pair, pair?_eq_some_iff.2 (ofKind ▸ recorded), sameJoin⟩, ?_⟩
  rintro other ⟨pair', paired, sameJoin'⟩
  obtain ⟨node', found', joins'⟩ := (partners_of_pair? paired).joins
  cases found.symm.trans (sameJoin' ▸ found')
  cases kind_of_isJoin joins joins'
  exact only other ⟨pair', pair?_eq_some_iff.1 paired, sameJoin'⟩

/-- Splits and joins of a graph that verification accepts correspond to each other. Partners are
recorded for just the splits, each partner joins what its split forks, no two splits share a join
and each join belongs to a split. -/
theorem splits_correspond_to_joins {graph : ProcessGraph} {verified : VerifiedGraph}
    (accepted : ofGraph graph = .ok verified) :
    (∀ split, (verified.pair? split).isSome = true ↔
      ∃ node kind, graph.node? split = some node ∧ node.isSplit kind = true) ∧
    (∀ split pair, verified.pair? split = some pair -> graph.Partners split pair) ∧
    (∀ split other pair pair', verified.pair? split = some pair ->
      verified.pair? other = some pair' -> pair.join = pair'.join -> split = other) ∧
    (∀ key node kind, graph.node? key = some node -> node.isJoin kind = true ->
      ∃ split pair, verified.pair? split = some pair ∧ pair.join = key) := by
  cases ofGraph_eq_ok_iff.1 accepted
  refine ⟨fun split => isSome_pair?_iff, fun split pair => partners_of_pair?, ?_, ?_⟩
  · intro split other pair pair' paired paired' sameJoin
    obtain ⟨node, found, joins⟩ := (partners_of_pair? paired).joins
    exact (existsUnique_split found joins).unique ⟨pair, paired, rfl⟩
      ⟨pair', paired', sameJoin.symm⟩
  · intro key node kind found joins
    obtain ⟨split, known, -⟩ := existsUnique_split found joins
    exact ⟨split, known⟩

/-- A process with two kinds of splits has two joins, one for each. -/
theorem splits_correspond_of_strayBranch :
    ofGraph StrayBranch.graph = .ok StrayBranch.verified ∧
      (∃ pair, StrayBranch.verified.pair? StrayBranch.split = some pair ∧
        StrayBranch.graph.Partners StrayBranch.split pair) ∧
      (∃ split pair, StrayBranch.verified.pair? split = some pair ∧
        pair.join = StrayBranch.merge) ∧
      StrayBranch.verified.pair? StrayBranch.done = none := by
  have accepted : ofGraph StrayBranch.graph = .ok StrayBranch.verified := ofGraph_eq_ok_iff.2 rfl
  obtain ⟨splits, partners, -, joins⟩ := splits_correspond_to_joins accepted
  have found : StrayBranch.graph.node? StrayBranch.split =
      some ⟨StrayBranch.split, .gateway .parallel .diverging none⟩ := by decide +kernel
  have merges : StrayBranch.graph.node? StrayBranch.merge =
      some ⟨StrayBranch.merge, .gateway .inclusive .converging none⟩ := by decide +kernel
  have ends : StrayBranch.graph.node? StrayBranch.done =
      some ⟨StrayBranch.done, .finish false⟩ := by decide +kernel
  obtain ⟨pair, paired⟩ := Option.isSome_iff_exists.1
    ((splits StrayBranch.split).2 ⟨_, .parallel, found, rfl⟩)
  refine ⟨accepted, ⟨pair, paired, partners _ _ paired⟩, joins _ _ .inclusive merges rfl, ?_⟩
  rw [← Option.not_isSome_iff_eq_none, splits]
  rintro ⟨node, kind, found', splits'⟩
  cases ends.symm.trans found'
  cases kind <;> cases splits'

end VerifiedGraph

end ProcessEngine
