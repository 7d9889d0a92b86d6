import ProcessEngine.Proofs.StuckInstances
import ProcessEngine.Proofs.Traversal
import ProcessEngine.Proofs.VerifiedGraphs

/-!
# Branches meet at the partner of their split

Verification follows the branches of a split as long as no more splits are open than the graph has
nodes. No branch ends before it is joined, however many splits are open on the way
(`VerifiedGraph.branches_join`): from a place with as many open splits as the graph has joins an end
would be reached by a path without loops, and on such a path neither do the open splits run out
nor are there too many for the search. But verification sees where a branch is joined only within
its bound, and only if it is joined by a gateway of the kind of the split.

The search takes the place on top of its stack at each turn (`Domain.Turn`). A cycle that opens more
splits than it joins leads to the same nodes again and again with ever more open splits, and one
place may wait on the stack many times. But a place is entered only if it is in the domain and is
new, so a search enters few places, and it takes one turn for each place that was ever put on the
stack (`Domain.Walk.balanced`). Hence no walk along a branch is longer than the one that leaves its
stack empty, whatever the graph (`ProcessGraph.branch_walks_end`).
-/

namespace ProcessEngine

/-- What is reached is reached without coming twice to the same place. -/
theorem exists_nodup_chain {α : Type} {Leads : α -> α -> Prop} {first last : α}
    (reaches : Relation.ReflTransGen Leads first last) :
    ∃ rest, (first :: rest).IsChain Leads ∧ (first :: rest).Nodup ∧
      (first :: rest).getLast? = some last := by
  induction reaches using Relation.ReflTransGen.head_induction_on with
  | refl => exact ⟨[], .singleton last, List.nodup_singleton last, rfl⟩
  | @head first second leads _ ih =>
    obtain ⟨rest, chain, different, ends⟩ := ih
    by_cases again : first ∈ second :: rest
    · obtain ⟨before, after, parts⟩ := List.append_of_mem again
      rw [parts] at chain different ends
      rw [List.getLast?_append_cons] at ends
      exact ⟨after, chain.right_of_append, different.of_append_right, ends⟩
    · exact ⟨second :: rest, chain.cons_cons leads, List.nodup_cons.2 ⟨again, different⟩, by
        rwa [List.getLast?_cons_cons]⟩

theorem Domain.Reaches.inside_first {Place : Type} {domain : Domain Place}
    {next : Place -> List Place} {first last : Place} (reaches : domain.Reaches next first last) :
    domain.inside first = true := by
  cases reaches with
  | refl inside => exact inside
  | step inside _ _ => exact inside

/-- A place that follows a reached one is reached if it lies in the domain. -/
theorem Domain.Reaches.tail {Place : Type} {domain : Domain Place} {next : Place -> List Place}
    {first second third : Place} (reaches : domain.Reaches next first second)
    (onward : third ∈ next second) (inside : domain.inside third = true) :
    domain.Reaches next first third := by
  induction reaches with
  | refl inside' => exact .step inside' onward (.refl inside)
  | step inside' onward' _ ih => exact .step inside' onward' (ih onward)

namespace ProcessGraph

variable {graph : ProcessGraph} {split first key next : NodeKey} {node : Node} {depth : Nat}
variable {passed : List NodeKey}

/-! ## Paths -/

section

variable (graph)

/-- How many splits are open after a node that is passed. -/
def splitsAfter (depth : Nat) (key : NodeKey) : Nat :=
  match graph.node? key with
  | some node => depthAfter node depth
  | none => depth

/-- How many splits are open after the nodes that were passed: each gateway that splits opens one,
and each that joins closes one, if any is open. -/
def openSplits (passed : List NodeKey) : Nat := passed.foldl graph.splitsAfter 0

/-- Control passes some nodes and comes to another, along the flows and the interrupting timers of
a branch of the split, and does not come back to the split. -/
inductive BranchPath (split : NodeKey) : List NodeKey -> NodeKey -> Prop where
  | enter {flow : Flow} (leaves : flow ∈ graph.outgoing split) : BranchPath split [] flow.target
  | follow {passed : List NodeKey} {key next : NodeKey} (path : BranchPath split passed key)
    (onward : next ∈ graph.branchSuccessors key) (elsewhere : next ≠ split) :
    BranchPath split (passed ++ [key]) next

/-- Where control comes to after some nodes, a gateway of the kind joins and no split is open. -/
def JoinsAt (passed : List NodeKey) (key : NodeKey) (kind : GatewayKind) : Prop :=
  (∃ node, graph.node? key = some node ∧ node.isJoin kind = true) ∧ graph.openSplits passed = 0

/-- None of the nodes that were passed joins the branch. -/
def Unjoined (passed : List NodeKey) : Prop :=
  ∀ earlier key kind, earlier ++ [key] <+: passed -> ¬ graph.JoinsAt earlier key kind

/-- No more splits were ever open than the graph has nodes. -/
def Shallow (passed : List NodeKey) : Prop :=
  ∀ earlier, earlier <+: passed -> graph.openSplits earlier ≤ graph.nodeCount

end

theorem openSplits_concat (found : graph.node? key = some node) :
    graph.openSplits (passed ++ [key]) = depthAfter node (graph.openSplits passed) := by
  simp [openSplits, splitsAfter, found]

theorem unjoined_concat : graph.Unjoined (passed ++ [key]) ↔
    graph.Unjoined passed ∧ ∀ kind, ¬ graph.JoinsAt passed key kind := by
  constructor
  · exact fun unjoined => ⟨fun earlier other kind listed =>
      unjoined earlier other kind (listed.trans (List.prefix_append _ _)),
      fun kind => unjoined passed key kind (List.prefix_refl _)⟩
  · rintro ⟨unjoined, last⟩ earlier other kind listed
    rcases List.prefix_concat_iff.1 listed with same | listed
    · obtain ⟨rfl, rfl⟩ := List.append_singleton_inj.1 same
      exact last kind
    · exact unjoined earlier other kind listed

theorem shallow_concat : graph.Shallow (passed ++ [key]) ↔
    graph.Shallow passed ∧ graph.openSplits (passed ++ [key]) ≤ graph.nodeCount := by
  constructor
  · exact fun shallow => ⟨fun earlier listed =>
      shallow earlier (listed.trans (List.prefix_append _ _)), shallow _ (List.prefix_refl _)⟩
  · rintro ⟨shallow, last⟩ earlier listed
    rcases List.prefix_concat_iff.1 listed with rfl | listed
    · exact last
    · exact shallow earlier listed

theorem unjoined_nil : graph.Unjoined [] := by
  intro earlier key kind listed
  simp at listed

theorem shallow_nil : graph.Shallow [] := by
  intro earlier listed
  cases List.prefix_nil.1 listed
  exact Nat.zero_le _

/-- A branch goes on at a node that neither joins it nor is an end. -/
theorem endsBranch_eq_false (found : graph.node? key = some node) (goesOn : node.isEnd = false)
    (unjoined : ∀ kind, ¬ graph.JoinsAt passed key kind) :
    endsBranch node (graph.openSplits passed) = false := by
  rw [endsBranch]
  split
  · rename_i kind gateway
    rw [beq_eq_false_iff_ne]
    exact fun none => unjoined kind ⟨⟨node, found, by simp [Node.isJoin, gateway]⟩, none⟩
  · rfl
  · exact goesOn

/-- The nodes that a branch leads to are nodes of the graph. -/
theorem contains_of_branchSuccessors (onward : next ∈ graph.branchSuccessors key) :
    graph.contains next = true := by
  rcases List.mem_append.1 onward with along | interrupted
  · obtain ⟨flow, leaves, rfl⟩ := List.mem_map.1 along
    exact (graph.connected flow (List.mem_filter.1 leaves).1).2.1
  · obtain ⟨timer, watches, rfl⟩ := List.mem_map.1 interrupted
    obtain ⟨listed, -⟩ := List.mem_filter.1 (List.mem_filter.1 watches).1
    obtain ⟨name, found⟩ := (OrderedMap.mem_values_iff _ _).1 listed
    rw [graph.keyed name timer found, contains, OrderedMap.contains_eq_isSome, found]
    rfl

/-! ## Following a branch -/

/-- The search comes to a node while some splits are open. -/
def Follows (graph : ProcessGraph) (split : NodeKey) (place : BranchPlace) : Prop :=
  ∃ flow ∈ graph.outgoing split, place ∈ graph.branchPlaces split flow.target

theorem inside_branchDomain : (graph.branchDomain split).inside (key, depth) = true ↔
    graph.contains key = true ∧ key ≠ split ∧ depth ≤ graph.nodeCount := by
  simp [branchDomain, and_assoc]

theorem Follows.inside (follows : graph.Follows split (key, depth)) :
    graph.contains key = true ∧ key ≠ split ∧ depth ≤ graph.nodeCount := by
  obtain ⟨flow, -, place⟩ := follows
  obtain ⟨_, -, reaches⟩ := Domain.mem_reachable_iff.1 place
  exact inside_branchDomain.1 reaches.inside_last

theorem mem_branchNext {place : BranchPlace} (found : graph.node? key = some node)
    (goesOn : endsBranch node depth = false) : place ∈ graph.branchNext (key, depth) ↔
      place.1 ∈ graph.branchSuccessors key ∧ place.2 = depthAfter node depth := by
  obtain ⟨next, depth'⟩ := place
  simp only [branchNext, found, goesOn, Bool.false_eq_true, if_false, List.mem_map, Prod.mk.injEq]
  exact ⟨fun ⟨other, listed, same, deep⟩ => ⟨same ▸ listed, deep.symm⟩,
    fun ⟨listed, deep⟩ => ⟨next, listed, rfl, deep.symm⟩⟩

/-- The search goes on as far as it may. -/
theorem Follows.go (follows : graph.Follows split (key, depth))
    (found : graph.node? key = some node) (goesOn : endsBranch node depth = false)
    (onward : next ∈ graph.branchSuccessors key) (elsewhere : next ≠ split)
    (bounded : depthAfter node depth ≤ graph.nodeCount) :
    graph.Follows split (next, depthAfter node depth) := by
  obtain ⟨flow, leaves, place⟩ := follows
  obtain ⟨source, listed, reaches⟩ := Domain.mem_reachable_iff.1 place
  refine ⟨flow, leaves, Domain.mem_reachable_iff.2 ⟨source, listed, ?_⟩⟩
  exact reaches.tail ((mem_branchNext found goesOn).2 ⟨onward, rfl⟩)
    (inside_branchDomain.2 ⟨contains_of_branchSuccessors onward, elsewhere, bounded⟩)

theorem follows_of_outgoing {flow : Flow} (leaves : flow ∈ graph.outgoing split) :
    graph.Follows split (flow.target, 0) := by
  obtain ⟨listed, same⟩ := List.mem_filter.1 leaves
  obtain ⟨-, inside, apart⟩ := graph.connected flow listed
  rw [beq_iff_eq] at same
  refine ⟨flow, leaves, Domain.mem_reachable_iff.2 ⟨_, List.mem_singleton.2 rfl, .refl ?_⟩⟩
  exact inside_branchDomain.2 ⟨inside, fun back => apart (same.trans back.symm), Nat.zero_le _⟩

/-! ## Ends -/

section

variable (graph)

/-- The node is a gateway of a direction. -/
def directs (direction : GatewayDirection) (key : NodeKey) : Bool :=
  ((graph.node? key).bind Node.gateway?).any (fun gateway => gateway.2 == direction)

/-- The number of gateways that join. -/
def joinCount : Nat := graph.keys.countP (graph.directs .converging)

/-- A branch leads from a node to another and not to its split. -/
def Leads (split key next : NodeKey) : Prop :=
  next ∈ graph.branchSuccessors key ∧ next ≠ split

/-- The search of the branches of a split never comes to an end. -/
def Endless (split : NodeKey) : Prop :=
  ∀ key depth node, graph.Follows split (key, depth) -> graph.node? key = some node ->
    node.isEnd = false

end

/-- A path without loops passes no more joins than there are, and beside all joins the splits that it
passes are still nodes of the graph. -/
theorem joinCount_bounds {path : List NodeKey} (different : path.Nodup)
    (inside : ∀ key ∈ path, graph.contains key = true) :
    path.countP (graph.directs .converging) ≤ graph.joinCount ∧
      graph.joinCount + path.countP (graph.directs .diverging) ≤ graph.nodeCount := by
  have fewer := List.subperm_of_subset different (Layout.subset_keys inside)
  refine ⟨fewer.countP_le _, ?_⟩
  have apart : graph.keys.countP (graph.directs .diverging) ≤
      graph.keys.countP (fun key => ¬ graph.directs .converging key) := by
    refine List.countP_mono_left (fun key _ diverging => ?_)
    rw [directs, Option.any_eq_true] at diverging
    obtain ⟨gateway, found, direction⟩ := diverging
    rw [beq_iff_eq] at direction
    simp [directs, found, direction]
  calc graph.joinCount + path.countP (graph.directs .diverging)
      ≤ graph.joinCount + graph.keys.countP (graph.directs .diverging) :=
        Nat.add_le_add_left (fewer.countP_le _) _
    _ ≤ graph.joinCount + graph.keys.countP (fun key => ¬ graph.directs .converging key) :=
        Nat.add_le_add_left apart _
    _ = graph.keys.length := (List.length_eq_countP_add_countP _).symm
    _ = graph.nodeCount := List.length_map _

/-- After a node, too, enough splits are open for the joins that are to come, and the splits that are
to come are within the bound. -/
theorem depthAfter_bounds {joins splits bound : Nat} (found : graph.node? key = some node)
    (goesOn : node.isEnd = false)
    (enough : joins + (if graph.directs .converging key then 1 else 0) ≤ depth)
    (bounded : depth + (splits + if graph.directs .diverging key then 1 else 0) ≤ bound) :
    endsBranch node depth = false ∧ joins ≤ depthAfter node depth ∧
      depthAfter node depth + splits ≤ bound := by
  simp only [directs, found, Option.bind_some] at enough bounded
  rw [endsBranch, depthAfter]
  split
  · rename_i kind gateway
    simp only [gateway, Option.any_some, beq_self_eq_true, if_true] at enough
    exact ⟨beq_eq_false_iff_ne.2 (by omega), by omega, by omega⟩
  · rename_i kind gateway
    simp only [gateway, Option.any_some, beq_self_eq_true, if_true] at bounded
    exact ⟨rfl, by omega, by omega⟩
  · exact ⟨goesOn, by omega, by omega⟩

/-- The search follows a path to an end if enough splits are open for its joins and its splits are
within the bound. -/
theorem Follows.not_isEnd_last {last : NodeKey} {rest : List NodeKey} (endless : graph.Endless split)
    (follows : graph.Follows split (first, depth))
    (chain : (first :: rest).IsChain (graph.Leads split))
    (enough : (first :: rest).countP (graph.directs .converging) ≤ depth)
    (bounded : depth + (first :: rest).countP (graph.directs .diverging) ≤ graph.nodeCount)
    (ends : (first :: rest).getLast? = some last) (found : graph.node? last = some node) :
    node.isEnd = false := by
  induction rest generalizing first depth with
  | nil =>
    cases ends
    exact endless _ _ _ follows found
  | cons second rest ih =>
    obtain ⟨passing, present⟩ := exists_node follows.inside.1
    obtain ⟨⟨onward, elsewhere⟩, chain⟩ := List.isChain_cons_cons.1 chain
    rw [List.countP_cons] at enough bounded
    rw [List.getLast?_cons_cons] at ends
    obtain ⟨goesOn, enough, bounded⟩ :=
      depthAfter_bounds present (endless _ _ _ follows present) enough bounded
    have onwards := follows.go present goesOn onward elsewhere (by omega)
    exact ih onwards chain enough bounded ends

/-- Where as many splits are open as there are joins, no end is ahead. -/
theorem Follows.not_isEnd_ahead {high : NodeKey} (endless : graph.Endless split)
    (follows : graph.Follows split (high, graph.joinCount))
    (ahead : Relation.ReflTransGen (graph.Leads split) high key)
    (found : graph.node? key = some node) : node.isEnd = false := by
  obtain ⟨rest, chain, different, ends⟩ := exists_nodup_chain ahead
  have inside : ∀ key ∈ high :: rest, graph.contains key = true :=
    chain.induction _ _ (fun _ _ leads _ => contains_of_branchSuccessors leads.1)
      (fun _ => follows.inside.1)
  obtain ⟨enough, bounded⟩ := joinCount_bounds different inside
  exact follows.not_isEnd_last endless chain enough bounded ends found

theorem depthAfter_le : depthAfter node depth ≤ depth + 1 := by
  rw [depthAfter]
  split <;> omega

/-- Where a branch leads, the search comes with the same open splits, unless the branch has passed a
place with as many open splits as there are joins. -/
theorem BranchPath.follows_or (path : graph.BranchPath split passed key)
    (endless : graph.Endless split) (unjoined : graph.Unjoined passed) :
    graph.Follows split (key, graph.openSplits passed) ∧
        graph.openSplits passed ≤ graph.joinCount ∨
      ∃ high, graph.Follows split (high, graph.joinCount) ∧
        Relation.ReflTransGen (graph.Leads split) high key := by
  induction path with
  | enter leaves => exact .inl ⟨follows_of_outgoing leaves, Nat.zero_le _⟩
  | @follow passed key next path onward elsewhere ih =>
    obtain ⟨unjoined, stays⟩ := unjoined_concat.1 unjoined
    rcases ih unjoined with ⟨follows, low⟩ | ⟨high, follows, ahead⟩
    · -- Splits open one by one, so a branch on which many are open passes a place with as many open
      -- splits as there are joins, and the search still comes there.
      by_cases top : graph.openSplits passed = graph.joinCount
      · exact .inr ⟨key, top ▸ follows, .single ⟨onward, elsewhere⟩⟩
      · obtain ⟨node, found⟩ := exists_node follows.inside.1
        have goesOn := endsBranch_eq_false found (endless _ _ _ follows found) stays
        have after := @depthAfter_le node (graph.openSplits passed)
        have room := (@joinCount_bounds graph [] List.nodup_nil (by simp)).2
        rw [openSplits_concat found]
        exact .inl ⟨follows.go found goesOn onward elsewhere (by omega), by omega⟩
    · exact .inr ⟨high, follows, ahead.tail ⟨onward, elsewhere⟩⟩

/-- No branch leads to an end before it is joined. -/
theorem BranchPath.not_isEnd (path : graph.BranchPath split passed key)
    (endless : graph.Endless split) (unjoined : graph.Unjoined passed)
    (found : graph.node? key = some node) : node.isEnd = false := by
  rcases path.follows_or endless unjoined with ⟨follows, -⟩ | ⟨high, follows, ahead⟩
  · exact endless _ _ _ follows found
  · exact follows.not_isEnd_ahead endless ahead found

/-- The search comes wherever a branch leads within the bound. -/
theorem BranchPath.follows (path : graph.BranchPath split passed key)
    (endless : graph.Endless split) (unjoined : graph.Unjoined passed)
    (shallow : graph.Shallow passed) : graph.Follows split (key, graph.openSplits passed) := by
  induction path with
  | enter leaves => exact follows_of_outgoing leaves
  | @follow passed key next path onward elsewhere ih =>
    obtain ⟨unjoined, stays⟩ := unjoined_concat.1 unjoined
    obtain ⟨shallow, bounded⟩ := shallow_concat.1 shallow
    have follows := ih unjoined shallow
    obtain ⟨node, found⟩ := exists_node follows.inside.1
    have goesOn := endsBranch_eq_false found (endless _ _ _ follows found) stays
    rw [openSplits_concat found] at bounded ⊢
    exact follows.go found goesOn onward elsewhere bounded

theorem exists_of_mem_branchNext {place : BranchPlace}
    (onward : place ∈ graph.branchNext (key, depth)) : ∃ node, graph.node? key = some node ∧
      endsBranch node depth = false ∧ place.1 ∈ graph.branchSuccessors key ∧
        place.2 = depthAfter node depth := by
  cases found : graph.node? key with
  | none => simp [branchNext, found] at onward
  | some node =>
    cases goesOn : endsBranch node depth with
    | true => simp [branchNext, found, goesOn] at onward
    | false => exact ⟨node, rfl, goesOn, (mem_branchNext found goesOn).1 onward⟩

/-- Where the search goes from the end of a branch path, the path can be continued. -/
theorem BranchPath.exists_of_reaches {place : BranchPlace}
    (path : graph.BranchPath split passed key) (unjoined : graph.Unjoined passed)
    (shallow : graph.Shallow passed)
    (reaches : (graph.branchDomain split).Reaches graph.branchNext
      (key, graph.openSplits passed) place) :
    ∃ passed, graph.BranchPath split passed place.1 ∧ graph.Unjoined passed ∧
      graph.Shallow passed ∧ graph.openSplits passed = place.2 := by
  generalize given : (key, graph.openSplits passed) = source at reaches
  induction reaches generalizing passed key with
  | refl =>
    cases given
    exact ⟨passed, path, unjoined, shallow, rfl⟩
  | @step source second last inside onward rest ih =>
    cases given
    obtain ⟨next, depth⟩ := second
    obtain ⟨node, found, goesOn, onward, rfl⟩ := exists_of_mem_branchNext onward
    obtain ⟨-, elsewhere, bounded⟩ := inside_branchDomain.1 rest.inside_first
    have stays (kind : GatewayKind) : ¬ graph.JoinsAt passed key kind := by
      rintro ⟨⟨node', found', joins⟩, none⟩
      cases found.symm.trans found'
      rw [Node.isJoin, beq_iff_eq] at joins
      simp [endsBranch, joins, none] at goesOn
    exact ih (path.follow onward elsewhere) (unjoined_concat.2 ⟨unjoined, stays⟩)
      (shallow_concat.2 ⟨shallow, by rwa [openSplits_concat found]⟩)
      (by rw [openSplits_concat found])

/-- The search comes only where a branch leads within the bound. -/
theorem Follows.exists_path (follows : graph.Follows split (key, depth)) :
    ∃ passed, graph.BranchPath split passed key ∧ graph.Unjoined passed ∧ graph.Shallow passed ∧
      graph.openSplits passed = depth := by
  obtain ⟨flow, leaves, place⟩ := follows
  obtain ⟨source, listed, reaches⟩ := Domain.mem_reachable_iff.1 place
  cases List.mem_singleton.1 listed
  exact (BranchPath.enter leaves).exists_of_reaches unjoined_nil shallow_nil reaches

end ProcessGraph

namespace VerifiedGraph

open ProcessGraph

variable {verified : VerifiedGraph} {split : NodeKey} {pair : GatewayPair}

/-- What is recorded of a split is what following its branches has shown. -/
theorem survey_of_pair? (paired : verified.pair? split = some pair) :
    (∃ node, verified.graph.node? split = some node ∧ node.isSplit pair.kind = true) ∧
      (verified.graph.survey pair.kind split).joins = [pair.join] ∧
      (verified.graph.survey pair.kind split).escaping = [] := by
  rw [pair?, verified.pairs_eq] at paired
  obtain ⟨kind, listed⟩ : ∃ kind, (split, pair) ∈ verified.graph.pairsOf kind := by
    rcases OrderedMap.get?_foldl_insert_cases Prod.fst Prod.snd
      (verified.graph.pairsOf .parallel ++ verified.graph.pairsOf .inclusive) .empty split with
      ⟨entry, listed, rfl, found⟩ | ⟨-, none⟩
    · cases paired.symm.trans found
      rcases List.mem_append.1 listed with listed | listed
      · exact ⟨_, listed⟩
      · exact ⟨_, listed⟩
    · cases paired.symm.trans none
  obtain ⟨node, among, recorded⟩ := List.mem_filterMap.1 listed
  obtain ⟨present, splits⟩ := List.mem_filter.1 among
  obtain ⟨name, found⟩ := (OrderedMap.mem_values_iff _ _).1 present
  cases verified.graph.keyed name node found
  split at recorded
  · rename_i join one
    cases recorded
    refine ⟨⟨node, found, splits⟩, one, ?_⟩
    have sound := splitProblems_eq_nil found splits
    exact List.map_eq_nil_iff.1 (List.append_eq_nil_iff.1 sound).1
  · cases recorded

/-- No search of the branches of a split comes to an end. -/
theorem endless_of_pair? (paired : verified.pair? split = some pair) :
    verified.graph.Endless split := by
  obtain ⟨-, -, none⟩ := survey_of_pair? paired
  rintro key depth node ⟨flow, leaves, place⟩ found
  have kept := List.filter_eq_nil_iff.1 (List.map_eq_nil_iff.1 none) _
    (List.mem_map.2 ⟨flow, leaves, rfl⟩)
  rw [escapes, List.any_eq_true] at kept
  rw [Bool.eq_false_iff]
  exact fun ended => kept ⟨_, place, by simp only [found, ended]⟩

theorem mem_joinsOf_iff {graph : ProcessGraph} {kind : GatewayKind} {places : List BranchPlace}
    {key : NodeKey} : key ∈ graph.joinsOf kind places ↔
      (key, 0) ∈ places ∧ ∃ node, graph.node? key = some node ∧ node.isJoin kind = true := by
  rw [joinsOf, List.mem_filterMap]
  constructor
  · rintro ⟨⟨key', depth⟩, listed, kept⟩
    cases found : graph.node? key' with
    | none => simp [found] at kept
    | some node =>
      simp only [found, Option.ite_none_right_eq_some, Option.some.injEq, Bool.and_eq_true,
        beq_iff_eq] at kept
      obtain ⟨⟨joins, rfl⟩, rfl⟩ := kept
      exact ⟨listed, node, found, joins⟩
  · rintro ⟨listed, node, found, joins⟩
    exact ⟨_, listed, by simp [found, joins]⟩

/-- The search finds the partner of a split where its branches are joined, and no other gateway of
its kind. -/
theorem follows_join_iff (paired : verified.pair? split = some pair) {key : NodeKey} :
    (verified.graph.Follows split (key, 0) ∧
      ∃ node, verified.graph.node? key = some node ∧ node.isJoin pair.kind = true) ↔
      key = pair.join := by
  obtain ⟨-, one, -⟩ := survey_of_pair? paired
  rw [← List.mem_singleton, ← one, survey, mem_sortedDistinct]
  simp only [List.flatMap_map, List.mem_flatMap, mem_joinsOf_iff]
  constructor
  · rintro ⟨⟨flow, leaves, place⟩, joins⟩
    exact ⟨flow, leaves, place, joins⟩
  · rintro ⟨flow, leaves, place, joins⟩
    exact ⟨⟨flow, leaves, place⟩, joins⟩

/-- A branch of a split in a verified graph does not come to an end before it is joined. The partner
of the split is the one gateway of its kind that joins a branch on which no more splits are ever open
than the graph has nodes. -/
theorem branches_join (paired : verified.pair? split = some pair) :
    (∃ node, verified.graph.node? split = some node ∧ node.isSplit pair.kind = true) ∧
    (∀ passed key, verified.graph.BranchPath split passed key -> verified.graph.Unjoined passed ->
      (∀ node, verified.graph.node? key = some node -> node.isEnd = false) ∧
      (verified.graph.JoinsAt passed key pair.kind -> verified.graph.Shallow passed ->
        key = pair.join)) ∧
    ∃ passed, verified.graph.BranchPath split passed pair.join ∧ verified.graph.Unjoined passed ∧
      verified.graph.JoinsAt passed pair.join pair.kind ∧ verified.graph.Shallow passed := by
  have endless := endless_of_pair? paired
  refine ⟨(survey_of_pair? paired).1, fun passed key path unjoined => ⟨fun node found => ?_, ?_⟩, ?_⟩
  · exact path.not_isEnd endless unjoined found
  · rintro ⟨joins, none⟩ shallow
    exact (follows_join_iff paired).1 ⟨none ▸ path.follows endless unjoined shallow, joins⟩
  · obtain ⟨follows, joins⟩ := (follows_join_iff paired).2 rfl
    obtain ⟨passed, path, unjoined, shallow, none⟩ := follows.exists_path
    exact ⟨passed, path, unjoined, ⟨joins, none⟩, shallow⟩

/-- One branch of a verified split is joined by its partner, and the other one by a gateway of the
other kind. -/
theorem branches_join_of_strayBranch : ∃ pair,
    StrayBranch.verified.pair? StrayBranch.split = some pair ∧ pair.join = StrayBranch.join ∧
      (∃ passed, StrayBranch.graph.BranchPath StrayBranch.split passed pair.join ∧
        StrayBranch.graph.Unjoined passed ∧
        StrayBranch.graph.JoinsAt passed pair.join pair.kind ∧ StrayBranch.graph.Shallow passed) ∧
      StrayBranch.graph.BranchPath StrayBranch.split [] StrayBranch.merge ∧
      StrayBranch.graph.JoinsAt [] StrayBranch.merge .inclusive ∧ StrayBranch.merge ≠ pair.join := by
  have paired : StrayBranch.verified.pair? StrayBranch.split =
      some ⟨.parallel, StrayBranch.join, 2⟩ := by decide_cbv
  have leaves : { source := StrayBranch.split, target := StrayBranch.merge } ∈
      StrayBranch.graph.outgoing StrayBranch.split := by decide +kernel
  exact ⟨_, paired, rfl, (branches_join paired).2.2, .enter leaves,
    ⟨⟨⟨StrayBranch.merge, .gateway .inclusive .converging none⟩, by decide +kernel, rfl⟩, rfl⟩,
    by decide⟩

end VerifiedGraph

/-! ## Following a branch comes to an end -/

universe u

/-- A search that is under way. -/
structure Search (Place : Type u) where
  /-- The places that are still to be looked at, the next one first. -/
  stack : List Place
  /-- The places that were entered, the latest first. -/
  entered : List Place

namespace Domain

variable {Place : Type u}

section

variable (domain : Domain Place) (next : Place -> List Place)

/-- A search takes a place off its stack. -/
inductive Turn : Search Place -> Search Place -> Prop where
  /-- A new place of the domain is entered, and those that follow it are to be looked at. -/
  | enter {place : Place} {stack entered : List Place} (inside : domain.inside place = true)
    (new : place ∉ entered) :
    Turn ⟨place :: stack, entered⟩ ⟨next place ++ stack, place :: entered⟩
  /-- Any other place is left out. -/
  | leave {place : Place} {stack entered : List Place}
    (refused : ¬ (domain.inside place = true ∧ place ∉ entered)) :
    Turn ⟨place :: stack, entered⟩ ⟨stack, entered⟩

/-- A search takes some turns one after the other. -/
inductive Walk : Nat -> Search Place -> Search Place -> Prop where
  | here {search : Search Place} : Walk 0 search search
  | turn {turns : Nat} {first second last : Search Place} (turn : domain.Turn next first second)
    (walk : Walk turns second last) : Walk (turns + 1) first last

/-- The search that starts from a place. -/
def searchFrom (place : Place) : Search Place := ⟨[place], []⟩

/-- How many places are put on the stack when some places are entered. -/
def offered (entered : List Place) : Nat := (entered.map (fun place => (next place).length)).sum

end

variable {domain : Domain Place} {next : Place -> List Place}
variable {first second second' last last' : Search Place} {turns turns' : Nat}

/-- The stack and what was entered determine the turn. -/
theorem Turn.unique (turn : domain.Turn next first second) (turn' : domain.Turn next first second') :
    second = second' := by
  cases turn with
  | enter inside new =>
    cases turn' with
    | enter => rfl
    | leave refused => exact absurd ⟨inside, new⟩ refused
  | leave refused =>
    cases turn' with
    | enter inside new => exact absurd ⟨inside, new⟩ refused
    | leave => rfl

/-- No place is entered twice. -/
theorem Turn.nodup (turn : domain.Turn next first second) (different : first.entered.Nodup) :
    second.entered.Nodup := by
  cases turn with
  | enter inside new => exact List.nodup_cons.2 ⟨new, different⟩
  | leave refused => exact different

/-- Only places of the domain are entered. -/
theorem Turn.inside (turn : domain.Turn next first second)
    (inside : ∀ place ∈ first.entered, domain.inside place = true) :
    ∀ place ∈ second.entered, domain.inside place = true := by
  cases turn with
  | enter inside' new => exact List.forall_mem_cons.2 ⟨inside', inside⟩
  | leave refused => exact inside

/-- A turn takes one place off the stack and puts those on it that follow an entered place. -/
theorem Turn.balanced (turn : domain.Turn next first second) :
    1 + second.stack.length + offered next first.entered =
      first.stack.length + offered next second.entered := by
  cases turn with
  | enter inside new =>
    simp only [offered, List.map_cons, List.sum_cons, List.length_append, List.length_cons]
    omega
  | leave refused =>
    simp only [List.length_cons]
    omega

/-- A search that has come to the bottom of its stack takes no more turns. -/
theorem Turn.stack_ne_nil (turn : domain.Turn next first second) : first.stack ≠ [] := by
  cases turn <;> exact List.cons_ne_nil _ _

theorem Walk.nodup (walk : domain.Walk next turns first last) (different : first.entered.Nodup) :
    last.entered.Nodup := by
  induction walk with
  | here => exact different
  | turn turn _ ih => exact ih (turn.nodup different)

theorem Walk.inside (walk : domain.Walk next turns first last)
    (inside : ∀ place ∈ first.entered, domain.inside place = true) :
    ∀ place ∈ last.entered, domain.inside place = true := by
  induction walk with
  | here => exact inside
  | turn turn _ ih => exact ih (turn.inside inside)

/-- Each turn is for one of the places that were on the stack at first or came to it since. -/
theorem Walk.balanced (walk : domain.Walk next turns first last) :
    turns + last.stack.length + offered next first.entered =
      first.stack.length + offered next last.entered := by
  induction walk with
  | here => omega
  | turn turn _ ih =>
    have one := turn.balanced
    omega

/-- No walk is longer than one that leaves the stack empty. -/
theorem Walk.le_of_finished (walk : domain.Walk next turns first last)
    (finished : domain.Walk next turns' first last') (empty : last'.stack = []) :
    turns ≤ turns' := by
  induction walk generalizing turns' with
  | here => exact Nat.zero_le _
  | turn turn _ ih =>
    cases finished with
    | here => exact absurd empty turn.stack_ne_nil
    | turn turn' rest =>
      cases turn.unique turn'
      exact Nat.succ_le_succ (ih rest)

/-- A search can take its turns until its stack is empty, and it has found then what it explores. -/
theorem exists_walk [DecidableEq Place] (stack entered : List Place) :
    ∃ turns, domain.Walk next turns ⟨stack, entered⟩ ⟨[], domain.explore next stack entered⟩ := by
  fun_induction explore domain next stack entered with
  | case1 entered => exact ⟨0, .here⟩
  | case2 place stack entered admitted ih =>
    obtain ⟨turns, walk⟩ := ih
    exact ⟨turns + 1, .turn (.enter admitted.1 admitted.2) walk⟩
  | case3 place stack entered refused ih =>
    obtain ⟨turns, walk⟩ := ih
    exact ⟨turns + 1, .turn (.leave refused) walk⟩

end Domain

namespace ProcessGraph

variable {graph : ProcessGraph} {split : NodeKey}

/-- Different places of a branch are at one of the nodes each, with no more open splits than there
are nodes. -/
theorem length_le_of_inside {places : List BranchPlace} (different : places.Nodup)
    (inside : ∀ place ∈ places, (graph.branchDomain split).inside place = true) :
    places.length ≤ graph.nodeCount * (graph.nodeCount + 1) := by
  have among : places ⊆ graph.keys ×ˢ List.range (graph.nodeCount + 1) := by
    rintro ⟨key, depth⟩ listed
    obtain ⟨present, -, bounded⟩ := inside_branchDomain.1 (inside _ listed)
    refine List.pair_mem_product.2 ⟨?_, List.mem_range.2 (Nat.lt_succ_of_le bounded)⟩
    exact Layout.subset_keys (List.forall_mem_singleton.2 present) (List.mem_singleton_self key)
  have bound := (List.subperm_of_subset different among).length_le
  rwa [List.length_product, List.length_range,
    show graph.keys.length = graph.nodeCount from List.length_map _] at bound

/-- The walk along a branch comes to an end in any graph, also where a cycle opens more splits than
it joins. It ends with an empty stack and with the places of the branch. However far it has come,
it has entered no place twice, it has entered nodes of the graph other than the split with no more
open splits than there are nodes, and so only so many; and it has taken a turn for each place that
was put on its stack, save for those that are still there. -/
theorem branch_walks_end (graph : ProcessGraph) (split first : NodeKey) :
    ∃ turns, (graph.branchDomain split).Walk graph.branchNext turns (Domain.searchFrom (first, 0))
        ⟨[], graph.branchPlaces split first⟩ ∧
      ∀ taken search, (graph.branchDomain split).Walk graph.branchNext taken
          (Domain.searchFrom (first, 0)) search ->
        taken ≤ turns ∧
        search.entered.Nodup ∧
        (∀ key depth, (key, depth) ∈ search.entered ->
          graph.contains key = true ∧ key ≠ split ∧ depth ≤ graph.nodeCount) ∧
        search.entered.length ≤ graph.nodeCount * (graph.nodeCount + 1) ∧
        taken + search.stack.length = 1 + Domain.offered graph.branchNext search.entered := by
  obtain ⟨turns, finished⟩ := @Domain.exists_walk _ (graph.branchDomain split) graph.branchNext _
    [(first, 0)] []
  refine ⟨turns, finished, fun taken search walk => ?_⟩
  have different : search.entered.Nodup := walk.nodup List.nodup_nil
  have inside : ∀ place ∈ search.entered, (graph.branchDomain split).inside place = true :=
    walk.inside (List.forall_mem_nil _)
  refine ⟨walk.le_of_finished finished rfl, different, ?_, length_le_of_inside different inside, ?_⟩
  · exact fun key depth listed => inside_branchDomain.1 (inside _ listed)
  · exact walk.balanced

end ProcessGraph

end ProcessEngine
