import Mathlib.Data.List.Nodup
import Mathlib.Data.List.Perm.Subperm
import ProcessEngine.Lowering.Layout
import ProcessEngine.Verification.Reachability

/-!
# The traversal of a graph

The layout of a graph comes from going through it depth first (`Layout.Traverses`): from each node
first to its timers and then along its flows, never twice to the same node; a flow back to a node
on the way closes a loop. The number of nodes is room enough for this (`Layout.ofGraph_traverses`).
The traversal comes to every node that the start reaches, and to each of them once.
-/

namespace ProcessEngine

namespace Layout

/-- A way on from a node: to a timer that watches over it, or along one of its flows. -/
inductive WayOn where
  | timer (key : NodeKey)
  | flow (target : NodeKey) (index : Nat)

namespace WayOn

/-- Where a way leads. -/
def target : WayOn -> NodeKey
  | .timer key => key
  | .flow target _ => target

/-- Whether a way leads back to a node on a path along a flow. -/
def Closes (path : List NodeKey) : WayOn -> Prop
  | .timer _ => False
  | .flow target _ => target ∈ path

end WayOn

/-- The ways on from a node, in the order in which they are tried. -/
def waysOn (graph : ProcessGraph) (key : NodeKey) : List WayOn :=
  (graph.boundariesOf key).map (fun boundary => .timer boundary.key) ++
    (graph.outgoing key).zipIdx.map (fun (flow, index) => .flow flow.target index)

/-- The layout with a further node. -/
def enter (layout : Layout) (key : NodeKey) : Layout :=
  { layout with order := layout.order ++ [key] }

/-- The layout with a further flow that closes a loop. -/
def close (layout : Layout) (place : FlowPlace) : Layout :=
  { layout with loops := layout.loops ++ [place] }

@[simp] theorem order_enter (layout : Layout) (key : NodeKey) :
    (layout.enter key).order = layout.order ++ [key] := rfl

/-- Ways on from a node, to which a path has led, are tried one after the other. -/
inductive Tries (graph : ProcessGraph) :
    (path : List NodeKey) -> NodeKey -> List WayOn -> Layout -> Layout -> Prop where
  | done {path key layout} : Tries graph path key [] layout layout
  | loop {path key target index ways layout last} (back : target ∈ key :: path)
      (rest : Tries graph path key ways (layout.close ⟨key, index⟩) last) :
      Tries graph path key (.flow target index :: ways) layout last
  | known {path key way ways layout last} (onward : ¬ way.Closes (key :: path))
      (seen : way.target ∈ layout.order) (rest : Tries graph path key ways layout last) :
      Tries graph path key (way :: ways) layout last
  | new {path key way ways layout middle last} (onward : ¬ way.Closes (key :: path))
      (unseen : way.target ∉ layout.order)
      (below : Tries graph (key :: path) way.target (waysOn graph way.target)
        (layout.enter way.target) middle)
      (rest : Tries graph path key ways middle last) :
      Tries graph path key (way :: ways) layout last

/-- A layout is what going through a graph from its start gives. -/
def Traverses (graph : ProcessGraph) (start : NodeKey) (layout : Layout) : Prop :=
  Tries graph [] start (waysOn graph start) (enter {} start) layout

variable {graph : ProcessGraph} {path : List NodeKey} {key : NodeKey} {ways : List WayOn}
  {layout last : Layout}

/-! ## What a traversal keeps -/

/-- Nodes are only added. -/
theorem Tries.grows (tries : Tries graph path key ways layout last) :
    layout.order <+: last.order := by
  induction tries with
  | done => exact List.prefix_rfl
  | loop _ _ ih => exact ih
  | known _ _ _ ih => exact ih
  | new _ _ _ _ ihBelow ihRest => exact ((List.prefix_append _ _).trans ihBelow).trans ihRest

/-- No node is visited twice. -/
theorem Tries.nodup (tries : Tries graph path key ways layout last)
    (different : layout.order.Nodup) : last.order.Nodup := by
  induction tries with
  | done => exact different
  | loop _ _ ih => exact ih different
  | known _ _ _ ih => exact ih different
  | new _ unseen _ _ ihBelow ihRest =>
    refine ihRest (ihBelow ?_)
    rw [order_enter, List.nodup_append]
    refine ⟨different, List.nodup_singleton _, fun other listed new same => ?_⟩
    rintro rfl
    exact unseen (List.mem_singleton.1 same ▸ listed)

/-- Every way leads to a node of the graph. -/
theorem contains_target {way : WayOn} (listed : way ∈ waysOn graph key) :
    graph.contains way.target = true := by
  rcases List.mem_append.1 listed with timer | flow
  · obtain ⟨boundary, guards, rfl⟩ := List.mem_map.1 timer
    obtain ⟨entry, present, rfl⟩ := List.mem_map.1 (List.mem_filter.1 guards).1
    have found := (OrderedMap.mem_toList_iff graph.table entry.1 entry.2).1 present
    simp only [ProcessGraph.contains, OrderedMap.contains_eq_isSome, WayOn.target,
      graph.keyed _ _ found, found, Option.isSome_some]
  · obtain ⟨⟨leaving, index⟩, placed, rfl⟩ := List.mem_map.1 flow
    exact (graph.connected leaving
      (List.mem_filter.1 (List.fst_mem_of_mem_zipIdx placed)).1).2.1

/-- Every visited node is one of the graph. -/
theorem Tries.inside (tries : Tries graph path key ways layout last)
    (within : ∀ way ∈ ways, graph.contains way.target = true)
    (inside : ∀ node ∈ layout.order, graph.contains node = true) :
    ∀ node ∈ last.order, graph.contains node = true := by
  induction tries with
  | done => exact inside
  | loop _ _ ih => exact ih (fun way listed => within way (List.mem_cons_of_mem _ listed)) inside
  | known _ _ _ ih => exact ih (fun way listed => within way (List.mem_cons_of_mem _ listed)) inside
  | new _ _ _ _ ihBelow ihRest =>
    refine ihRest (fun way listed => within way (List.mem_cons_of_mem _ listed))
      (ihBelow (fun way listed => contains_target listed) (fun node listed => ?_))
    rcases List.mem_append.1 listed with old | new
    · exact inside node old
    · exact List.mem_singleton.1 new ▸ within _ List.mem_cons_self

/-- What is tried is visited in the end, and so is what the nodes that were visited meanwhile lead
to. -/
theorem Tries.complete (tries : Tries graph path key ways layout last)
    (behind : ∀ node ∈ key :: path, node ∈ layout.order) :
    (∀ way ∈ ways, way.target ∈ last.order) ∧
      ∀ node ∈ last.order, node ∈ layout.order ∨
        ∀ way ∈ waysOn graph node, way.target ∈ last.order := by
  induction tries with
  | done => exact ⟨by simp, fun node listed => .inl listed⟩
  | loop back rest ih =>
    obtain ⟨tried, closed⟩ := ih behind
    exact ⟨List.forall_mem_cons.2 ⟨rest.grows.mem (behind _ back), tried⟩, closed⟩
  | known _ seen rest ih =>
    obtain ⟨tried, closed⟩ := ih behind
    exact ⟨List.forall_mem_cons.2 ⟨rest.grows.mem seen, tried⟩, closed⟩
  | @new path key way ways layout middle last _ _ below rest ihBelow ihRest =>
    have grown : ∀ node ∈ layout.order, node ∈ middle.order := fun node listed =>
      below.grows.mem (List.mem_append_left _ listed)
    have entered : way.target ∈ middle.order :=
      below.grows.mem (List.mem_append_right _ (List.mem_singleton_self _))
    obtain ⟨triedBelow, closedBelow⟩ := ihBelow (fun node listed => by
      rcases List.mem_cons.1 listed with rfl | listed
      · exact List.mem_append_right _ (List.mem_singleton_self _)
      · exact List.mem_append_left _ (behind node listed))
    obtain ⟨tried, closed⟩ := ihRest (fun node listed => grown node (behind node listed))
    refine ⟨List.forall_mem_cons.2 ⟨rest.grows.mem entered, tried⟩, fun node listed => ?_⟩
    rcases closed node listed with former | leads
    · rcases closedBelow node former with former | leads
      · rcases List.mem_append.1 former with old | new
        · exact .inl old
        · cases List.mem_singleton.1 new
          exact .inr (fun way listed => rest.grows.mem (triedBelow way listed))
      · exact .inr (fun way listed => rest.grows.mem (leads way listed))
    · exact .inr leads

/-- There is one way to try. -/
theorem Tries.unique (tries : Tries graph path key ways layout last) {last' : Layout}
    (tries' : Tries graph path key ways layout last') : last = last' := by
  induction tries generalizing last' with
  | done =>
    cases tries'
    rfl
  | loop back _ ih =>
    cases tries' with
    | loop _ rest => exact ih rest
    | known onward => exact absurd back onward
    | new onward => exact absurd back onward
  | known onward seen _ ih =>
    cases tries' with
    | loop back => exact absurd back onward
    | known _ _ rest => exact ih rest
    | new _ unseen => exact absurd seen unseen
  | new onward unseen _ _ ihBelow ihRest =>
    cases tries' with
    | loop back => exact absurd back onward
    | known _ seen => exact absurd seen unseen
    | new _ _ below rest =>
      cases ihBelow below
      exact ihRest rest

/-! ## There is room enough -/

/-- What is made of one way on from a node. -/
def tryWay (graph : ProcessGraph) (room : Nat) (path : List NodeKey) (key : NodeKey)
    (layout : Layout) : WayOn -> Layout
  | .timer boundary =>
    if layout.order.contains boundary then layout
    else visit graph room (key :: path) boundary layout
  | .flow target index =>
    if (key :: path).contains target then layout.close ⟨key, index⟩
    else if layout.order.contains target then layout
    else visit graph room (key :: path) target layout

theorem visit_succ (room : Nat) :
    visit graph (room + 1) path key layout =
      (waysOn graph key).foldl (tryWay graph room path key) (layout.enter key) := by
  rw [waysOn, List.foldl_append, List.foldl_map, List.foldl_map]
  rfl

theorem subset_keys {keys : List NodeKey} (inside : ∀ node ∈ keys, graph.contains node = true) :
    keys ⊆ graph.keys := by
  intro node listed
  obtain ⟨found, present⟩ := Option.isSome_iff_exists.1
    ((OrderedMap.contains_eq_isSome graph.table node).symm.trans (inside node listed))
  exact List.mem_map.2 ⟨(node, found), (OrderedMap.mem_toList_iff _ _ _).2 present, rfl⟩

/-- A list of different nodes is no longer than the list of all nodes. -/
theorem length_le_nodeCount {keys : List NodeKey} (different : keys.Nodup)
    (inside : ∀ node ∈ keys, graph.contains node = true) : keys.length ≤ graph.nodeCount := by
  have bound := (List.subperm_of_subset different (subset_keys inside)).length_le
  rwa [show graph.keys.length = graph.nodeCount from List.length_map _] at bound

/-- A visit is a traversal if its room and the path to it make up for the number of nodes. -/
theorem visit_tries (room : Nat) (enough : graph.nodeCount ≤ room + path.length)
    (different : (key :: path).Nodup) (inside : ∀ node ∈ key :: path, graph.contains node = true)
    (behind : ∀ node ∈ path, node ∈ layout.order) :
    Tries graph path key (waysOn graph key) (layout.enter key)
      (visit graph room path key layout) := by
  induction room generalizing path key layout with
  | zero =>
    have bound := length_le_nodeCount different inside
    rw [List.length_cons] at bound
    omega
  | succ room ih =>
    have tries : ∀ (ways : List WayOn) (layout : Layout),
        (∀ way ∈ ways, graph.contains way.target = true) ->
        (∀ node ∈ key :: path, node ∈ layout.order) ->
        Tries graph path key ways layout (ways.foldl (tryWay graph room path key) layout) := by
      intro ways
      induction ways with
      | nil => exact fun _ _ _ => .done
      | cons way ways ihWays =>
        intro layout within behind
        obtain ⟨present, further⟩ := List.forall_mem_cons.1 within
        rw [List.foldl_cons]
        have enters (unseen : way.target ∉ layout.order) (onward : ¬ way.Closes (key :: path)) :
            Tries graph path key (way :: ways) layout (ways.foldl (tryWay graph room path key)
              (visit graph room (key :: path) way.target layout)) := by
          have below := @ih (key :: path) way.target layout
            (by rw [List.length_cons]; omega)
            (List.nodup_cons.2 ⟨fun known => unseen (behind _ known), different⟩)
            (List.forall_mem_cons.2 ⟨present, inside⟩) behind
          refine .new onward unseen below (ihWays _ further (fun node listed => ?_))
          exact below.grows.mem (List.mem_append_left _ (behind node listed))
        cases way with
        | timer boundary =>
          rw [tryWay]
          split
          · rename_i seen
            exact .known id (List.contains_iff_mem.1 seen) (ihWays _ further behind)
          · rename_i unseen
            exact enters (fun seen => unseen (List.contains_iff_mem.2 seen)) id
        | flow target index =>
          rw [tryWay]
          split
          · rename_i back
            exact .loop (List.contains_iff_mem.1 back) (ihWays _ further behind)
          · rename_i onward
            have onward : ¬ WayOn.Closes (key :: path) (.flow target index) :=
              fun back => onward (List.contains_iff_mem.2 back)
            split
            · rename_i seen
              exact .known onward (List.contains_iff_mem.1 seen) (ihWays _ further behind)
            · rename_i unseen
              exact enters (fun seen => unseen (List.contains_iff_mem.2 seen)) onward
    rw [visit_succ]
    refine tries _ _ (fun way listed => contains_target listed) (fun node listed => ?_)
    rcases List.mem_cons.1 listed with rfl | listed
    · exact List.mem_append_right _ (List.mem_singleton_self _)
    · exact List.mem_append_left _ (behind node listed)

/-- The layout of a graph is that of its traversal. -/
theorem ofGraph_traverses {start : NodeKey} (inside : graph.contains start = true) :
    Traverses graph start (ofGraph graph start) :=
  visit_tries graph.nodeCount (Nat.le_refl _) (List.nodup_singleton _) (by simpa using inside)
    (by simp)

/-! ## What the layout of a graph holds -/

section Traversed

variable {start : NodeKey} (traverses : Traverses graph start layout)

include traverses

/-- The start is the first node. -/
theorem Traverses.order_eq : ∃ rest, layout.order = start :: rest := by
  obtain ⟨rest, same⟩ := Tries.grows traverses
  exact ⟨rest, same.symm⟩

theorem Traverses.nodup : layout.order.Nodup :=
  Tries.nodup traverses (List.nodup_singleton _)

/-- The nodes of the layout are those that the start reaches. -/
theorem Traverses.mem_of_reaches {node : NodeKey}
    (reaches : graph.keyDomain.Reaches graph.successors start node) : node ∈ layout.order := by
  obtain ⟨tried, closed⟩ := Tries.complete traverses (by simp [enter])
  have leads : ∀ node ∈ layout.order, ∀ way ∈ waysOn graph node, way.target ∈ layout.order := by
    intro node listed
    rcases closed node listed with former | leads
    · cases List.mem_singleton.1 former
      exact tried
    · exact leads
  refine reaches.mem_of_closed (fun node listed other next _ => ?_)
    ((Tries.grows traverses).mem (List.mem_singleton_self _))
  rcases List.mem_append.1 next with along | timer
  · obtain ⟨flow, leaves, rfl⟩ := List.mem_map.1 (List.mem_eraseDups.1 along)
    obtain ⟨index, placed⟩ := List.mem_iff_getElem?.1 leaves
    exact leads node listed (.flow flow.target index)
      (List.mem_append_right _ (List.mem_map.2
        ⟨(flow, index), List.mem_zipIdx_iff_getElem?.2 placed, rfl⟩))
  · obtain ⟨boundary, guards, rfl⟩ := List.mem_map.1 timer
    exact leads node listed (.timer boundary.key)
      (List.mem_append_left _ (List.mem_map.2 ⟨boundary, guards, rfl⟩))

theorem Traverses.inside (inside : graph.contains start = true) :
    ∀ node ∈ layout.order, graph.contains node = true :=
  Tries.inside traverses (fun _ listed => contains_target listed) (by simpa [enter] using inside)

end Traversed

end Layout

end ProcessEngine
