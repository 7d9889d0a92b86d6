import Mathlib.Data.List.Induction
import Mathlib.Data.List.Sort
import ProcessEngine.Graph.Basic

/-!
# Parts of graphs

Conditions are totally ordered, and so are flows: every field of a flow takes part in the
comparison, so only equal flows compare equal. A list of flows therefore has one canonical
order, whatever order it was given in (`sortBy_precedes_perm`).

A graph is made of its nodes and flows whatever order they are given in: parts make a graph
exactly if no two nodes have one key and every flow connects two different nodes, and then the
nodes are listed by key and the flows in canonical order (`ProcessGraph.ofParts_eq_ok_iff`).
-/

namespace ProcessEngine

/-! ## One order of flows -/

open Std

namespace Condition

/-- The place of a kind of condition in the order. -/
def rank : Condition -> Nat
  | .flag _ => 0
  | .equals _ _ => 1
  | .counterBelow _ _ => 2
  | .negation _ => 3
  | .all _ => 4
  | .any _ => 5

/-- Conditions of different kinds are ordered by their kinds. -/
theorem compare_of_rank_ne {left right : Condition} (different : left.rank ≠ right.rank) :
    compare left right = Ord.compare left.rank right.rank := by
  cases left <;> cases right <;>
    first | exact absurd rfl different | (simp [compare, rank]; rfl)

theorem rank_le_of_lt {left right : Condition} (before : compare left right = .lt) :
    left.rank ≤ right.rank := by
  by_contra above
  rw [compare_of_rank_ne (by omega), Nat.compare_eq_lt] at before
  omega

mutual

/-- Only equal conditions compare equal. -/
theorem eq_of_compare : (left right : Condition) -> compare left right = .eq -> left = right
  | .flag left, right => by cases right <;> simp [compare]
  | .equals left value, right => by
    cases right <;> simp [compare, Ordering.then_eq_eq]
  | .counterBelow counter limit, right => by
    cases right <;> simp [compare, Ordering.then_eq_eq]
  | .negation inner, right => by
    cases right <;> simp [compare]
    exact eq_of_compare inner _
  | .all conditions, right => by
    cases right <;> simp [compare]
    exact eq_of_compareLists conditions _
  | .any conditions, right => by
    cases right <;> simp [compare]
    exact eq_of_compareLists conditions _

theorem eq_of_compareLists :
    (left right : List Condition) -> compareLists left right = .eq -> left = right
  | [], right => by cases right <;> simp [compareLists]
  | left :: lefts, right => by
    cases right with
    | nil => simp [compareLists]
    | cons head tail =>
      simp only [compareLists, Ordering.then_eq_eq]
      rintro ⟨first, rest⟩
      rw [eq_of_compare left head first, eq_of_compareLists lefts tail rest]

end

mutual

/-- Exchanging two conditions turns their order round. -/
theorem compare_swap : (left right : Condition) -> compare left right = (compare right left).swap
  | .flag left, right => by
    cases right with
    | flag right => simp only [compare]; exact OrientedCmp.eq_swap
    | _ => simp [compare]
  | .equals left value, right => by
    cases right with
    | equals right value' =>
      simp only [compare, Ordering.swap_then]
      rw [@OrientedCmp.eq_swap _ Ord.compare _ left,
        @OrientedCmp.eq_swap _ Ord.compare _ value]
    | _ => simp [compare]
  | .counterBelow left limit, right => by
    cases right with
    | counterBelow right limit' =>
      simp only [compare, Ordering.swap_then]
      rw [@OrientedCmp.eq_swap _ Ord.compare _ left,
        @OrientedCmp.eq_swap _ Ord.compare _ limit]
    | _ => simp [compare]
  | .negation inner, right => by
    cases right with
    | negation inner' => simp only [compare]; exact compare_swap inner inner'
    | _ => simp [compare]
  | .all conditions, right => by
    cases right with
    | all conditions' => simp only [compare]; exact compareLists_swap conditions conditions'
    | _ => simp [compare]
  | .any conditions, right => by
    cases right with
    | any conditions' => simp only [compare]; exact compareLists_swap conditions conditions'
    | _ => simp [compare]

theorem compareLists_swap : (left right : List Condition) ->
    compareLists left right = (compareLists right left).swap
  | [], right => by cases right <;> simp [compareLists]
  | left :: lefts, right => by
    cases right with
    | nil => simp [compareLists]
    | cons head tail =>
      simp only [compareLists, Ordering.swap_then]
      rw [compare_swap left head, compareLists_swap lefts tail]

end

/-- A comparison by two parts is transitive if those by the parts are. -/
theorem then_lt_trans {α β : Type} {first : α -> α -> Ordering} {second : β -> β -> Ordering}
    {a b c : α} {x y z : β} (same : ∀ {left right}, first left right = .eq -> left = right)
    (earlier : first a b = .lt -> first b c = .lt -> first a c = .lt)
    (later : second x y = .lt -> second y z = .lt -> second x z = .lt)
    (before : (first a b).then (second x y) = .lt)
    (after : (first b c).then (second y z) = .lt) :
    (first a c).then (second x z) = .lt := by
  have decides : ∀ {first second : Ordering}, first.then second = .lt ↔
      first = .lt ∨ first = .eq ∧ second = .lt := by
    intro first second
    cases first <;> simp [Ordering.then]
  rw [decides] at before after ⊢
  rcases before with before | ⟨equal, before⟩
  · rcases after with after | ⟨equal, -⟩
    · exact .inl (earlier before after)
    · exact .inl (same equal ▸ before)
  · rcases after with after | ⟨equal', after⟩
    · exact .inl (same equal ▸ after)
    · exact .inr ⟨same equal ▸ equal', later before after⟩

/-- Order is transitive as soon as two of three conditions are of different kinds. -/
theorem lt_trans_of_rank_ne {first middle last : Condition}
    (different : ¬ (middle.rank = first.rank ∧ last.rank = first.rank))
    (before : compare first middle = .lt) (after : compare middle last = .lt) :
    compare first last = .lt := by
  have := rank_le_of_lt before
  have := rank_le_of_lt after
  rw [compare_of_rank_ne (by omega), Nat.compare_eq_lt]
  omega

mutual

theorem lt_trans : (first middle last : Condition) -> compare first middle = .lt ->
    compare middle last = .lt -> compare first last = .lt
  | first, middle, last, before, after => by
    by_cases alike : middle.rank = first.rank ∧ last.rank = first.rank
    · cases first with
      | flag first =>
        cases middle <;> cases last <;> simp [rank] at alike
        simp only [compare] at before after ⊢
        exact TransCmp.lt_trans before after
      | equals first value =>
        cases middle <;> cases last <;> simp [rank] at alike
        exact then_lt_trans LawfulEqCmp.eq_of_compare TransCmp.lt_trans TransCmp.lt_trans
          before after
      | counterBelow first limit =>
        cases middle <;> cases last <;> simp [rank] at alike
        exact then_lt_trans LawfulEqCmp.eq_of_compare TransCmp.lt_trans TransCmp.lt_trans
          before after
      | negation inner =>
        cases middle <;> cases last <;> simp [rank] at alike
        exact lt_trans inner _ _ before after
      | all conditions =>
        cases middle <;> cases last <;> simp [rank] at alike
        exact lt_transLists conditions _ _ before after
      | any conditions =>
        cases middle <;> cases last <;> simp [rank] at alike
        exact lt_transLists conditions _ _ before after
    · exact lt_trans_of_rank_ne alike before after

theorem lt_transLists : (first middle last : List Condition) ->
    compareLists first middle = .lt -> compareLists middle last = .lt ->
    compareLists first last = .lt
  | [], middle, last, before, after => by
    cases middle <;> cases last <;> simp_all [compareLists]
  | head :: rest, middle, last, before, after => by
    cases middle with
    | nil => simp [compareLists] at before
    | cons head' rest' =>
      cases last with
      | nil => simp [compareLists] at after
      | cons head'' rest'' =>
        exact then_lt_trans (fun {left right} => eq_of_compare left right)
          (lt_trans head head' head'') (lt_transLists rest rest' rest'') before after

end

instance : LawfulEqOrd Condition where
  compare_self := by
    intro condition
    cases order : Ord.compare condition condition with
    | eq => rfl
    | lt =>
      have swapped := compare_swap condition condition
      rw [show compare condition condition = .lt from order] at swapped
      cases swapped
    | gt =>
      have swapped := compare_swap condition condition
      rw [show compare condition condition = .gt from order] at swapped
      cases swapped
  eq_of_compare := eq_of_compare _ _

instance : TransOrd Condition where
  eq_swap := compare_swap _ _
  isLE_trans := by
    intro first middle last before after
    rw [Ordering.isLE_iff_eq_lt_or_eq_eq] at before after ⊢
    rcases before with before | same
    · rcases after with after | same
      · exact .inl (lt_trans first middle last before after)
      · exact .inl (LawfulEqCmp.eq_of_compare same ▸ before)
    · exact LawfulEqCmp.eq_of_compare same ▸ after

end Condition

namespace Flow

instance : TransOrd Flow := inferInstanceAs (TransCmp (compareLex (compareOn Flow.source)
  (compareLex (compareOn Flow.isErrorRoute) (compareLex (compareOn Flow.isDefault)
    (compareLex (compareOn Flow.errorCode) (compareLex (compareOn Flow.condition)
      (compareOn Flow.target)))))))

/-- Every field of a flow takes part in the comparison. -/
instance : LawfulEqOrd Flow where
  compare_self := ReflOrd.compare_self (α := Flow)
  eq_of_compare := by
    intro left right same
    change compareFlows left right = .eq at same
    simp only [compareFlows, compareSiblings, Ordering.then_eq_eq] at same
    obtain ⟨source, -, isDefault, errorCode, condition, target⟩ := same
    cases left
    cases right
    rw [Flow.mk.injEq]
    exact ⟨LawfulEqCmp.eq_of_compare source, LawfulEqCmp.eq_of_compare target,
      LawfulEqCmp.eq_of_compare condition, LawfulEqCmp.eq_of_compare isDefault,
      LawfulEqCmp.eq_of_compare errorCode⟩

end Flow

/-- What is sorted by a total order that only equal elements share is determined by its elements. -/
theorem sortBy_eq_of_perm {α : Type} {before : α -> α -> Bool}
    (transitive : ∀ a b c, before a b = true -> before b c = true -> before a c = true)
    (total : ∀ a b, before a b = true ∨ before b a = true) {left right : List α}
    (antisymmetric : ∀ a ∈ left, ∀ b ∈ left, before a b = true -> before b a = true -> a = b)
    (same : left.Perm right) : sortBy before left = sortBy before right := by
  have sorted := fun list => pairwise_sortBy transitive total list
  refine List.Perm.eq_of_pairwise (fun a b listed listed' => ?_) (sorted left) (sorted right) ?_
  · exact antisymmetric a ((sortBy_perm before left).mem_iff.1 listed) b
      (same.mem_iff.2 ((sortBy_perm before right).mem_iff.1 listed'))
  · exact ((sortBy_perm before left).trans same).trans (sortBy_perm before right).symm

section Keys

variable {Key : Type} [Ord Key] [TransOrd Key]

/-- Of two keys one does not come after the other. -/
theorem isLE_total (left right : Key) :
    (compare left right).isLE = true ∨ (compare right left).isLE = true := by
  cases order : compare left right with
  | lt => exact .inl rfl
  | eq => exact .inl rfl
  | gt => exact .inr (by rw [OrientedCmp.lt_of_gt order]; rfl)

variable [LawfulEqOrd Key] {α : Type} {left right : List α}

/-- Sorting by keys that are all different does not depend on the order that was given. -/
theorem sortOn_eq_of_perm (key : α -> Key) (different : (left.map key).Nodup)
    (same : left.Perm right) : sortOn key left = sortOn key right := by
  refine sortBy_eq_of_perm (fun a b c => TransCmp.isLE_trans) (fun a b => isLE_total _ _)
    (fun a listed b listed' below above => ?_) same
  exact List.inj_on_of_nodup_map different listed listed'
    (LawfulEqCmp.eq_of_compare (OrientedCmp.isLE_antisymm below above))

end Keys

/-- The canonical order of flows does not depend on the order in which they are given. -/
theorem sortBy_precedes_perm {left right : List Flow} (same : left.Perm right) :
    sortBy ProcessGraph.precedes left = sortBy ProcessGraph.precedes right :=
  sortBy_eq_of_perm (fun _ _ _ => TransCmp.isLE_trans) (fun _ _ => isLE_total _ _)
    (fun _ _ _ _ below above =>
      LawfulEqCmp.eq_of_compare (OrientedCmp.isLE_antisymm below above)) same

end ProcessEngine

namespace ProcessEngine

/-! ## Nodes and flows -/

namespace ProcessGraph

/-- A table lists just the given nodes, each under its key. -/
def Lists (table : OrderedMap NodeKey Node) (nodes : List Node) : Prop :=
  ∀ key node, table.get? key = some node ↔ node ∈ nodes ∧ node.key = key

variable {table listed : OrderedMap NodeKey Node} {nodes former : List Node} {flows : List Flow}

/-- A key is listed if it is that of a node. -/
theorem Lists.contains_iff (lists : Lists table nodes) (key : NodeKey) :
    table.contains key = true ↔ key ∈ nodes.map Node.key := by
  rw [OrderedMap.contains_eq_isSome, Option.isSome_iff_exists, List.mem_map]
  exact exists_congr (fun node => lists key node)

/-- There is one table at most that lists given nodes. -/
theorem Lists.unique (lists : Lists table nodes) (lists' : Lists listed nodes) : table = listed :=
  OrderedMap.ext_get? (fun key => Option.ext (fun node =>
    (lists key node).trans (lists' key node).symm))

theorem Lists.perm (lists : Lists table nodes) (same : nodes.Perm former) : Lists table former :=
  fun key node => (lists key node).trans (and_congr_left' same.mem_iff)

/-- A node with a new key may be listed too. -/
theorem Lists.insert (lists : Lists table former) {node : Node}
    (new : node.key ∉ former.map Node.key) :
    Lists (table.insert node.key node) (former ++ [node]) := by
  intro key other
  rw [OrderedMap.get?_insert, List.mem_append, List.mem_singleton]
  split
  · rename_i same
    subst same
    constructor
    · rintro ⟨⟩
      exact ⟨.inr rfl, rfl⟩
    · rintro ⟨old | rfl, same⟩
      · exact absurd (List.mem_map.2 ⟨other, old, same⟩) new
      · rfl
  · rename_i different
    rw [lists]
    refine and_congr_left (fun same => ?_)
    rw [or_iff_left]
    rintro rfl
    exact different same.symm

/-- Nodes can be listed after others if their keys are new and differ. -/
theorem collect_eq_ok_iff {table listed : NodeTable} (lists : Lists table.val former)
    (different : (former.map Node.key).Nodup) :
    nodes.foldlM (fun (table : NodeTable) node =>
        if table.val.contains node.key then .error (.duplicateNode node.key)
        else .ok (table.insert node)) table = Except.ok (ε := GraphError) listed ↔
      ((former ++ nodes).map Node.key).Nodup ∧ Lists listed.val (former ++ nodes) := by
  induction nodes generalizing former table with
  | nil =>
    rw [List.append_nil]
    constructor
    · rintro ⟨⟩
      exact ⟨different, lists⟩
    · rintro ⟨-, lists'⟩
      exact congrArg Except.ok (Subtype.ext (lists.unique lists'))
  | cons node rest ih =>
    rw [List.foldlM_cons, List.append_cons]
    by_cases known : node.key ∈ former.map Node.key
    · rw [if_pos ((lists.contains_iff _).2 known)]
      constructor
      · rintro ⟨⟩
      · rintro ⟨different', -⟩
        rw [List.append_assoc, List.map_append] at different'
        exact absurd rfl ((List.nodup_append.1 different').2.2 _ known _
          (List.mem_map.2 ⟨node, List.mem_cons_self, rfl⟩))
    · rw [if_neg (fun listed => known ((lists.contains_iff _).1 listed))]
      refine ih (lists.insert known) ?_
      rw [List.map_append, List.nodup_append]
      refine ⟨different, List.nodup_singleton _, ?_⟩
      rintro key old other new rfl
      rw [List.map_singleton, List.mem_singleton] at new
      exact known (new ▸ old)

theorem collectNodes_eq_ok_iff {listed : NodeTable} :
    collectNodes nodes = .ok listed ↔
      (nodes.map Node.key).Nodup ∧ Lists listed.val nodes :=
  @collect_eq_ok_iff _ [] _ _ (by simp [Lists]) List.nodup_nil

/-- A flow between two different listed nodes has no problem. -/
theorem flowProblem?_eq_none {flow : Flow}
    (connected : table.contains flow.source = true ∧ table.contains flow.target = true ∧
      flow.source ≠ flow.target) : flowProblem? table flow = none := by
  obtain ⟨source, target, different⟩ := connected
  rw [flowProblem?, if_neg (by rw [source]; decide), if_neg (by rw [target]; decide),
    if_neg (by simpa [Flow.isSelfLoop] using different)]

/-- Which parts make a graph, and which graph they make. -/
theorem ofParts_eq_ok_iff {graph : ProcessGraph} :
    ofParts nodes flows = .ok graph ↔
      (nodes.map Node.key).Nodup ∧ Lists graph.table nodes ∧
        graph.flows = sortBy precedes (flows ++ nodes.flatMap armFlows) := by
  rw [ofParts]
  cases collected : collectNodes nodes with
  | error error =>
    refine ⟨by rintro ⟨⟩, fun ⟨different, lists, _⟩ => ?_⟩
    cases collected.symm.trans
      ((@collectNodes_eq_ok_iff _ ⟨graph.table, graph.keyed⟩).2 ⟨different, lists⟩)
  | ok listed =>
    obtain ⟨different, lists⟩ := collectNodes_eq_ok_iff.1 collected
    simp only [bind, Except.bind]
    split
    · rename_i problem sound
      refine ⟨by rintro ⟨⟩, fun ⟨_, lists', order⟩ => ?_⟩
      obtain ⟨flow, given, amiss⟩ := List.exists_of_findSome?_eq_some sound
      rw [lists.unique lists', flowProblem?_eq_none (graph.connected flow
        (order ▸ (sortBy_perm _ _).mem_iff.2 given))] at amiss
      cases amiss
    · constructor
      · rintro ⟨⟩
        exact ⟨different, lists, rfl⟩
      · rintro ⟨-, lists', order⟩
        obtain ⟨table, order', keyed, connected⟩ := graph
        cases lists.unique lists'
        cases order
        rfl

/-- Nodes with different keys can be listed. -/
theorem exists_lists (different : (nodes.map Node.key).Nodup) :
    ∃ listed : NodeTable, Lists listed.val nodes := by
  induction nodes using List.reverseRecOn with
  | nil => exact ⟨⟨.empty, by simp⟩, by simp [Lists]⟩
  | append_singleton former node ih =>
    rw [List.map_append, List.map_singleton] at different
    obtain ⟨listed, lists⟩ := ih different.of_append_left
    refine ⟨listed.insert node, lists.insert (fun known => ?_)⟩
    exact (List.nodup_append.1 different).2.2 _ known _ (List.mem_singleton_self _) rfl

/-- Parts make a graph if no two nodes have one key and every flow connects two different nodes. -/
theorem exists_ofParts_iff :
    (∃ graph, ofParts nodes flows = .ok graph) ↔
      (nodes.map Node.key).Nodup ∧ ∀ flow ∈ flows ++ nodes.flatMap armFlows,
        flow.source ∈ nodes.map Node.key ∧ flow.target ∈ nodes.map Node.key ∧
          flow.source ≠ flow.target := by
  constructor
  · rintro ⟨graph, made⟩
    obtain ⟨different, lists, order⟩ := ofParts_eq_ok_iff.1 made
    refine ⟨different, fun flow given => ?_⟩
    rw [← lists.contains_iff, ← lists.contains_iff]
    exact graph.connected flow (order ▸ (sortBy_perm _ _).mem_iff.2 given)
  · rintro ⟨different, connected⟩
    obtain ⟨listed, lists⟩ := exists_lists different
    refine ⟨⟨listed.val, sortBy precedes _, listed.property, fun flow given => ?_⟩,
      ofParts_eq_ok_iff.2 ⟨different, lists, rfl⟩⟩
    rw [lists.contains_iff, lists.contains_iff]
    exact connected flow ((sortBy_perm _ _).mem_iff.1 given)

/-- The order in which nodes and flows are given makes no difference to the graph. -/
theorem ofParts_perm {nodes' : List Node} {flows' : List Flow} (sameNodes : nodes.Perm nodes')
    (sameFlows : flows.Perm flows') {graph : ProcessGraph}
    (made : ofParts nodes flows = .ok graph) : ofParts nodes' flows' = .ok graph := by
  rw [ofParts_eq_ok_iff] at made ⊢
  obtain ⟨different, lists, order⟩ := made
  refine ⟨(sameNodes.map Node.key).nodup_iff.1 different, lists.perm sameNodes, order.trans ?_⟩
  exact sortBy_precedes_perm (sameFlows.append (sameNodes.flatMap_right armFlows))

end ProcessGraph

end ProcessEngine
