import ProcessEngine.Proofs.ExclusiveGateways

/-!
# What an inclusive gateway forks

The code of an inclusive gateway that splits pushes a value for each flow and then takes them all
together. A fiber that enters it with an empty stack ends, and there is one new fiber for each flow
that is open, or one for the default flow if none is; all of them are expected at the join of the
gateway. Without a default the fiber is halted on an incident that names the gateway
(`VerifiedGraph.inclusive_gateway_forks`).
-/

namespace ProcessEngine

namespace UnitOfWork

variable {program : Program} {layout : Layout} {key join : NodeKey} {work last : UnitOfWork}
variable {fiber parent : Fiber} {targets : List Address} {values : List Value}

/-! ## Splits -/

/-- The fiber of a branch; the branches are numbered. -/
def branchOf (work : UnitOfWork) (parent : Fiber) (ticket : JoinTicket) (number : Nat)
    (target : Address) : Fiber :=
  { Fiber.create ⟨work.supply.next + number⟩ work.record.id (work.record.nextSequence + number)
      target with
    tickets := ticket :: parent.tickets
    epoch := parent.epoch }

/-- The events of new fibers. -/
def spawned (work : UnitOfWork) (parent : Fiber) (targets : List Address) : List RuntimeEvent :=
  targets.mapIdx (fun number target =>
    .fiberSpawned ⟨work.supply.next + number⟩ (some parent.id) target)

/-- There is a new fiber for each target, and nothing else has changed. -/
structure Branched (work : UnitOfWork) (parent : Fiber) (ticket : JoinTicket)
    (targets : List Address) (last : UnitOfWork) : Prop where
  branches : ∀ number target, targets[number]? = some target ->
    last.fiber? ⟨work.supply.next + number⟩ = some (work.branchOf parent ticket number target)
  others : ∀ id : FiberId, id.number < work.supply.next ∨
    work.supply.next + targets.length ≤ id.number -> last.fiber? id = work.fiber? id
  record : last.record =
    { work.record with nextSequence := work.record.nextSequence + targets.length }
  barriers : last.state.barriers = work.state.barriers
  events : last.events = work.events ++ work.spawned parent targets

theorem branchOf_branch (work : UnitOfWork) (parent : Fiber) (ticket : JoinTicket)
    (first : Address) (number : Nat) (target : Address) :
    (branch parent ticket work first).branchOf parent ticket number target =
      work.branchOf parent ticket (number + 1) target := by
  simp only [branchOf, supply_branch, record_branch, ProcessInstance.takeSequence]
  rw [Nat.add_assoc, Nat.add_assoc, Nat.add_comm 1]

theorem events_updateFiber (work : UnitOfWork) (id : FiberId) (change : Fiber -> Fiber) :
    (work.updateFiber id change).events = work.events := by
  rw [updateFiber]
  split
  · rfl
  · rfl

theorem events_branch (work : UnitOfWork) (parent : Fiber) (ticket : JoinTicket)
    (target : Address) : (branch parent ticket work target).events =
      work.events ++ [.fiberSpawned ⟨work.supply.next⟩ (some parent.id) target] :=
  events_updateFiber (work.spawn target (some parent.id)).2 _ _

theorem barriers_branch (work : UnitOfWork) (parent : Fiber) (ticket : JoinTicket)
    (target : Address) :
    (branch parent ticket work target).state.barriers = work.state.barriers :=
  barriers_updateFiber (work.spawn target (some parent.id)).2 _ _

theorem spawned_branch (work : UnitOfWork) (parent : Fiber) (ticket : JoinTicket)
    (target : Address) (rest : List Address) :
    work.spawned parent (target :: rest) =
      .fiberSpawned ⟨work.supply.next⟩ (some parent.id) target ::
        (branch parent ticket work target).spawned parent rest := by
  simp only [spawned, List.mapIdx_cons, supply_branch, Nat.add_zero, Nat.add_assoc, Nat.add_comm 1]

theorem branched_branches (work : UnitOfWork) (parent : Fiber) (ticket : JoinTicket)
    (targets : List Address) :
    work.Branched parent ticket targets (targets.foldl (branch parent ticket) work) := by
  induction targets generalizing work with
  | nil => exact ⟨fun _ _ => nofun, fun _ _ => rfl, rfl, rfl, (List.append_nil _).symm⟩
  | cons target rest ih =>
    obtain ⟨branches, others, record, barriers, events⟩ := ih (branch parent ticket work target)
    rw [supply_branch] at branches others
    dsimp only at branches others
    refine ⟨fun number asked found => ?_, fun id apart => ?_, ?_,
      barriers.trans (barriers_branch ..), ?_⟩
    · cases number with
      | zero =>
        cases found
        exact (others _ (.inl (Nat.lt_succ_self _))).trans
          ((fiber?_branch _ _ _ _ _).trans (if_pos rfl))
      | succ number =>
        rw [← branchOf_branch, Nat.add_comm number, ← Nat.add_assoc]
        exact branches number asked found
    · rw [List.length_cons] at apart
      refine (others id (by omega)).trans ?_
      rw [fiber?_branch, if_neg]
      rintro rfl
      dsimp only at apart
      omega
    · rw [List.foldl_cons, record, record_branch, List.length_cons, ProcessInstance.takeSequence]
      dsimp only
      rw [Nat.add_assoc, Nat.add_comm 1]
    · rw [List.foldl_cons, events, events_branch, spawned_branch work parent ticket]
      exact List.append_assoc _ _ _

/-- A fiber was replaced by one for each target, and all of them are expected at a join. -/
structure Forked (work : UnitOfWork) (fiber : Fiber) (join : NodeKey) (targets : List Address)
    (last : UnitOfWork) : Prop where
  ended : last.fiber? fiber.id = none
  branches : ∀ number target, targets[number]? = some target ->
    last.fiber? ⟨work.supply.next + number⟩ = some (work.branchOf fiber
      ⟨join, (work.state.activateJoin join targets.length).1⟩ number target)
  others : ∀ id : FiberId, id ≠ fiber.id -> id.number < work.supply.next ∨
    work.supply.next + targets.length ≤ id.number -> last.fiber? id = work.fiber? id
  barriers : last.state.barriers =
    (work.state.activateJoin join targets.length).2.barriers
  record : last.record =
    { (work.state.activateJoin join targets.length).2.record with
      nextSequence := work.record.nextSequence + targets.length }
  events : last.events = work.events ++
    .joinActivated join (work.state.activateJoin join targets.length).1 targets.length ::
      work.spawned fiber targets ++ [.fiberEnded fiber.id]

theorem forked_fork (found : work.fiber? parent.id = some fiber)
    (older : parent.id.number < work.supply.next) (join : NodeKey) (targets : List Address) :
    work.Forked parent join targets (work.fork parent join targets) := by
  obtain ⟨branches, others, record, barriers, events⟩ :=
    branched_branches (work.activateJoin join targets.length).2 parent
      ⟨join, (work.activateJoin join targets.length).1⟩ targets
  rw [fork]
  dsimp only
  generalize targets.foldl _ _ = forked at *
  have there : forked.fiber? parent.id = some fiber := (others _ (.inl older)).trans found
  refine ⟨(fiber?_endFiber _ _ _).trans (if_pos rfl), fun number target asked => ?_,
    fun id other apart => ?_, ?_, ?_, ?_⟩
  · have other : (⟨work.supply.next + number⟩ : FiberId) ≠ parent.id := by
      intro same
      rw [← same] at older
      exact Nat.not_lt.2 (Nat.le_add_right _ number) older
    exact (fiber?_endFiber _ _ _).trans ((if_neg other).trans (branches number target asked))
  · exact (fiber?_endFiber _ _ _).trans ((if_neg other).trans (others id apart))
  · rw [endFiber, there]
    exact barriers
  · rw [record_endFiber]
    exact record
  · rw [endFiber, there]
    refine congrArg (· ++ [RuntimeEvent.fiberEnded parent.id]) (events.trans ?_)
    exact List.append_assoc _ [_] _

/-- What has become of the fiber before it is replaced makes no difference, as long as it has the
same tickets and epoch. -/
theorem Forked.of_putFiber {changed : Fiber} {address : Address} {stack : List Value}
    (forked : (work.putFiber fiber.id changed).Forked
      { fiber with pc := address, stack := stack } join targets last) :
    work.Forked fiber join targets last where
  ended := forked.ended
  branches := forked.branches
  others id other apart := (forked.others id other apart).trans
    ((fiber?_putFiber work fiber.id id changed).trans (if_neg other))
  barriers := forked.barriers
  record := forked.record
  events := forked.events

/-! ## Choices -/

open Execution FiberWork

/-- The values are popped in the opposite order. -/
theorem outcome_foldlM_pop (fiber : Fiber) (indices : List Nat) (popped stack : List Value)
    (choices : List Bool) (many : popped.length = indices.length) :
    outcome (indices.foldlM (fun choices _ => do return (<- pop).isTruthy :: choices) choices)
        { fiber with stack := popped ++ stack } =
      (.ok ((popped.map Value.isTruthy).reverse ++ choices), { fiber with stack := stack }) := by
  induction indices generalizing popped choices with
  | nil =>
    rw [List.length_eq_zero_iff.1 many]
    rfl
  | cons index rest ih =>
    obtain ⟨value, popped, rfl⟩ := List.exists_cons_of_length_eq_add_one many
    rw [List.foldlM_cons]
    refine (outcome_bind_ok rfl).trans ((ih popped _ (Nat.succ.inj many)).trans ?_)
    rw [List.map_cons, List.reverse_cons, List.append_assoc]
    rfl

theorem outcome_popChoices (fiber : Fiber) (values stack : List Value) :
    outcome (popChoices values.length) { fiber with stack := values.reverse ++ stack } =
      (.ok (values.map Value.isTruthy), { fiber with stack := stack }) := by
  have popped := outcome_foldlM_pop fiber (List.range values.length) values.reverse stack []
    (by simp)
  rw [List.append_nil, List.map_reverse, List.reverse_reverse] at popped
  exact popped

/-- The targets of the branches that are taken. -/
def selection (targets : List Address) (fallback : Option Address) (choices : List Bool) :
    List Address :=
  let chosen := ((targets.zip choices).filter Prod.snd).map Prod.fst
  if chosen.isEmpty then fallback.toList else chosen

/-- A split takes the values of its fiber and replaces the fiber, or halts it if no branch is
taken. -/
theorem play_forkInclusive {symbol gateway : Nat} {fallback : Option Address}
    (found : work.fiber? fiber.id = some fiber)
    (reached : program.instruction? fiber.pc =
      some (.forkInclusive symbol targets fallback gateway))
    (holds : fiber.stack = values.reverse) (many : values.length = targets.length)
    (named : program.symbols.node? symbol = some join) :
    play program fiber.id work = (none,
      let popped := work.putFiber fiber.id { fiber with stack := [] }
      let selected := selection targets fallback (values.map Value.isTruthy)
      if selected.isEmpty then popped.raise program.symbols fiber.id fiber.pc .noRoute
        ((RoutingFault.noBranch gateway).message program.symbols)
      else popped.fork fiber join selected) := by
  have stops : keepsTurn program fiber.id work = false := by
    rw [keepsTurn, found, Option.any_some, reached]
    rfl
  have pops : outcome (onFiber fiber.id (popChoices targets.length)) work =
      (.ok (values.map Value.isTruthy), work.putFiber fiber.id { fiber with stack := [] }) := by
    refine outcome_onFiber_of_stack found (holds.trans (List.append_nil _).symm) _ ?_
    rw [← many]
    exact outcome_popChoices fiber values []
  rw [play_eq_of_reached found reached, execute, outcome_bind_ok pops, selection]
  dsimp only
  generalize ((targets.zip (values.map Value.isTruthy)).filter Prod.snd).map Prod.fst = chosen
  generalize (if chosen.isEmpty then fallback.toList else chosen) = selected
  cases selected with
  | nil => simp [outcome_modify, stops]
  | cons target rest =>
    simp [outcome_bind_ok (outcome_node named _), outcome_modify, stops]

/-- The code of some flows pushes a value for whether each is open. -/
theorem choices_go (work : UnitOfWork) {places : List (Flow × Nat)}
    {codes : List (List (Instruction Address))}
    (each : List.Forall₂ (program.references layout).Choice places codes)
    (stands : program.HasCode fiber.pc codes.flatten) :
    ∃ values : List Value, values.map Value.isTruthy =
        places.map (fun place => place.1.isOpen work.record.flags work.record.counters) ∧
      work.GoesTo program fiber { fiber with
        pc := fiber.pc + codes.flatten.length
        stack := values.reverse ++ fiber.stack } := by
  induction each generalizing fiber with
  | nil => exact ⟨[], rfl, .refl⟩
  | @cons place code places codes choice _ ih =>
    rw [List.flatten_cons] at stands ⊢
    have first : work.Pushes program fiber (fiber.pc + code.length) fiber.stack
        (place.1.isOpen work.record.flags work.record.counters) := by
      cases choice with
      | always plain =>
        refine ⟨.bool true, ?_, .single (goes_push stands.left.head)⟩
        rw [Flow.isOpen, plain]
        rfl
      | tested conditional tests =>
        rw [Flow.isOpen, conditional, Option.all_some]
        exact tests_go work _ tests stands.left
    obtain ⟨value, truth, goes⟩ := first
    obtain ⟨values, truths, others⟩ := @ih { fiber with
      pc := fiber.pc + code.length
      stack := value :: fiber.stack } stands.right
    refine ⟨value :: values, by rw [List.map_cons, List.map_cons, truth, truths], ?_⟩
    rw [List.length_append, ← Nat.add_assoc, List.reverse_cons, List.append_assoc]
    exact goes.trans others

/-- The targets of the branches that are taken belong to the places that are. -/
theorem forall₂_selection {Place : Type} {leads : Place -> Address -> Prop}
    {places others : List Place} {fallback : Option Address} (taken : Place -> Bool)
    (each : List.Forall₂ leads places targets)
    (otherwise : List.Forall₂ leads others fallback.toList) :
    List.Forall₂ leads
      (if (places.filter taken).isEmpty then others else places.filter taken)
      (selection targets fallback (places.map taken)) := by
  have chosen : List.Forall₂ leads (places.filter taken)
      (((targets.zip (places.map taken)).filter Prod.snd).map Prod.fst) := by
    induction each with
    | nil => exact .nil
    | @cons place target places targets first _ ih =>
      rw [List.map_cons, List.zip_cons_cons]
      cases takes : taken place with
      | true =>
        rw [List.filter_cons_of_pos takes, List.filter_cons_of_pos rfl, List.map_cons]
        exact .cons first ih
      | false =>
        rwa [List.filter_cons_of_neg (by simp [takes]), List.filter_cons_of_neg (by simp)]
  rw [selection]
  generalize places.filter taken = opened at chosen ⊢
  generalize ((targets.zip (places.map taken)).filter Prod.snd).map Prod.fst = selected at chosen ⊢
  cases chosen with
  | nil => exact otherwise
  | cons first rest => exact .cons first rest

end UnitOfWork

theorem RoutingFault.message_noBranch {symbols : SymbolTable} {index : Nat} {key : NodeKey}
    (named : symbols.node? index = some key) : (RoutingFault.noBranch index).message symbols =
      "inclusive gateway " ++ key.text ++ " selected no branch and has no default" := by
  delta message
  simp only [SymbolTable.nodeText_eq named]

namespace VerifiedGraph

open UnitOfWork

variable {verified : VerifiedGraph} {program : Program} {key : NodeKey}

/-- The flows, with their places, along which control leaves an inclusive gateway: in canonical
order those that are no default and are open, else the default. -/
def chosenFlows (verified : VerifiedGraph) (key : NodeKey) (flags : Flags) (counters : Counters) :
    List (Flow × Nat) :=
  let flows := Lowering.flowsOf verified key
  let opened := flows.filter (fun place => !place.1.isDefault && place.1.isOpen flags counters)
  if opened.isEmpty then (flows.find? (fun place => place.1.isDefault)).toList else opened

/-- The branches that are taken lead along the chosen flows. -/
theorem leads_chosenFlows {references : References Address} {targets : List Address}
    {fallback : Option Address} (flags : Flags) (counters : Counters)
    (each : List.Forall₂ (references.Leads key) (References.ordinaryFlows verified key) targets)
    (otherwise : references.Fallback verified key fallback) :
    List.Forall₂ (references.Leads key) (verified.chosenFlows key flags counters)
      (selection targets fallback ((References.ordinaryFlows verified key).map
        (fun place => place.1.isOpen flags counters))) := by
  have falls : List.Forall₂ (references.Leads key)
      (References.defaultFlows verified key).head?.toList fallback.toList := by
    cases otherwise with
    | missing only =>
      rw [only]
      exact .nil
    | present only leads =>
      rw [only]
      exact .cons leads .nil
  have chosen := forall₂_selection (fun place => place.1.isOpen flags counters) each falls
  simpa only [chosenFlows, References.ordinaryFlows, References.defaultFlows, List.filter_filter,
    List.head?_filter, Bool.and_comm] using chosen

/-- A fiber with an empty stack that enters an inclusive gateway which splits ends, and there is one
new fiber for each flow that is chosen, expected at the join of the gateway. If no flow is chosen,
the fiber is halted on an incident that names the gateway. -/
theorem inclusive_gateway_forks (compiled : verified.graph.compile = .ok program)
    {declared : Option NodeKey} {work : UnitOfWork} {fiber : Fiber}
    (gateway : verified.graph.node? key = some ⟨key, .gateway .inclusive .diverging declared⟩)
    (found : work.fiber? fiber.id = some fiber) (older : fiber.id.number < work.supply.next)
    (begins : program.entry? key = some fiber.pc) (bare : fiber.stack = []) :
    ∃ steps last, Plays program fiber.id steps work (none, last) ∧
      match verified.chosenFlows key work.record.flags work.record.counters with
      | [] => ∃ incident, work.HaltedOn fiber incident last ∧
        incident.kind = .noRoute ∧ incident.node = some key ∧
        incident.message =
          "inclusive gateway " ++ key.text ++ " selected no branch and has no default"
      | chosen => ∃ pair targets, verified.pair? key = some pair ∧
        List.Forall₂ ((program.references verified.layout).Leads key) chosen targets ∧
        work.Forked fiber pair.join targets last := by
  obtain ⟨_, same, blocks, stubs, carries⟩ := carries_of_compile compiled
  cases ext_graph same
  obtain ⟨former, code, latter, split, shaped⟩ := carries.split_of_node gateway
  have place := Option.some.inj (begins.symm.trans (carries.placed former _ latter split))
  have stands := carries.hasCode_of_split split
  rw [← place] at stands
  cases shaped with
  | @inclusive _ pair symbol self choices targets fallback paired named names tests each
      otherwise =>
    obtain ⟨values, truths, goes⟩ := choices_go work tests stands.left
    have reached := stands.right.head
    have contains : program.symbols.nodeContaining? (fiber.pc + choices.flatten.length) =
        some key := by
      rw [place]
      exact carries.nodeContaining?_eq split (by simp)
    generalize fiber.pc + choices.flatten.length = address at goes reached contains
    obtain ⟨-, steps, current, holds, plays⟩ := GoesTo.plays goes (.same found)
    rw [bare, List.append_nil] at holds
    have many : values.length = targets.length := by
      rw [← each.length_eq, ← List.length_map Value.isTruthy, truths, List.length_map]
    have stop := play_forkInclusive holds.fiber? reached rfl many named
    have popped : current.putFiber fiber.id { fiber with pc := address, stack := [] } =
        work.putFiber fiber.id { fiber with pc := address } := by
      refine (holds.putFiber _).trans ?_
      exact congrArg (fun stack =>
        work.putFiber fiber.id { fiber with pc := address, stack := stack }) bare.symm
    have chosen := leads_chosenFlows work.record.flags work.record.counters each otherwise
    rw [← truths] at chosen
    dsimp only at stop
    rw [popped] at stop
    generalize verified.chosenFlows key work.record.flags work.record.counters = flows at chosen ⊢
    generalize selection targets fallback (values.map Value.isTruthy) = selected at stop chosen
    refine ⟨steps + 1, _, plays.trans (.stop stop), ?_⟩
    cases chosen with
    | nil =>
      have holds : work.With { fiber with pc := address }
        (work.putFiber fiber.id { fiber with pc := address }) := .changed
      obtain ⟨incident, halted, kind, node, message⟩ := haltedOn_raise found contains
      rw [List.isEmpty_nil, if_pos rfl, raise_of_with found holds]
      exact ⟨incident, halted, kind, node, message.trans (RoutingFault.message_noBranch names)⟩
    | cons leads others =>
      have there : (work.putFiber fiber.id { fiber with pc := address }).fiber? fiber.id =
        some { fiber with pc := address } := (fiber?_putFiber _ _ _ _).trans (if_pos rfl)
      rw [List.isEmpty_cons]
      exact ⟨pair, _, paired, .cons leads others, .of_putFiber (forked_fork there older _ _)⟩

end VerifiedGraph

open UnitOfWork

namespace PackedOrder

def start : NodeKey := ⟨"s", Eq.refl true⟩
def split : NodeKey := ⟨"i", Eq.refl true⟩
def wrap : NodeKey := ⟨"w", Eq.refl true⟩
def pack : NodeKey := ⟨"p", Eq.refl true⟩
def merge : NodeKey := ⟨"j", Eq.refl true⟩
def done : NodeKey := ⟨"d", Eq.refl true⟩

/-- An order that is packed, and also wrapped if a flag says so. -/
def nodes : List Node := [⟨start, .start⟩, ⟨split, .gateway .inclusive .diverging none⟩,
  ⟨wrap, .serviceTask "wrap" 0⟩, ⟨pack, .serviceTask "pack" 0⟩,
  ⟨merge, .gateway .inclusive .converging none⟩, ⟨done, .finish false⟩]

def flows : List Flow := [
  { source := start, target := split },
  { source := split, target := pack },
  { source := split, target := wrap, condition := some (.flag "gift") },
  { source := wrap, target := merge },
  { source := pack, target := merge },
  { source := merge, target := done }]

theorem sound :
    ((ProcessGraph.ofParts nodes flows).toOption.map ProcessGraph.problems) = some [] := by
  decide_cbv

theorem outgoing_split : (ProcessGraph.ofParts nodes flows).toOption.map
      (fun graph => graph.outgoing split) =
    some [{ source := split, target := pack },
      { source := split, target := wrap, condition := some (.flag "gift") }] := by
  decide_cbv

/-- The instance of an order that is a gift has come to the split. -/
def splitting (program : Program) (entry : Address) : UnitOfWork :=
  ((create (.create ⟨0⟩ program.hash .null "" default) default ⟨2⟩).updateRecord
    (fun record => { record with flags := record.flags.insert "gift" (.bool true) })).putFiber ⟨1⟩
      (.create ⟨1⟩ ⟨0⟩ 0 entry)

end PackedOrder

/-- A gift is both packed and wrapped. -/
theorem inclusive_gateway_forks_of_packedOrder : ∃ verified program pair entry pack wrap steps last,
    ProcessGraph.ofParts PackedOrder.nodes PackedOrder.flows =
      .ok (VerifiedGraph.graph verified) ∧
    verified.graph.compile = .ok program ∧ program.entry? PackedOrder.split = some entry ∧
    verified.pair? PackedOrder.split = some pair ∧
    (program.references verified.layout).Leads PackedOrder.split
      ({ source := PackedOrder.split, target := PackedOrder.pack }, 0) pack ∧
    (program.references verified.layout).Leads PackedOrder.split
      ({ source := PackedOrder.split, target := PackedOrder.wrap,
         condition := some (.flag "gift") }, 1) wrap ∧
    Plays program ⟨1⟩ steps (PackedOrder.splitting program entry) (none, last) ∧
    (PackedOrder.splitting program entry).Forked (.create ⟨1⟩ ⟨0⟩ 0 entry) pair.join [pack, wrap]
      last := by
  obtain ⟨verified, program, made, -, compiled⟩ := VerifiedGraph.exists_compiled PackedOrder.sound
    (by simp [PackedOrder.nodes])
  obtain ⟨_, same, blocks, stubs, carries⟩ := VerifiedGraph.carries_of_compile compiled
  cases VerifiedGraph.ext_graph same
  have outgoing := PackedOrder.outgoing_split
  rw [made, Except.toOption, Option.map_some, Option.some.injEq] at outgoing
  have gateway : verified.graph.node? PackedOrder.split =
      some ⟨PackedOrder.split, .gateway .inclusive .diverging none⟩ :=
    ((ProcessGraph.ofParts_eq_ok_iff.1 made).2.1 _ _).2 ⟨by simp [PackedOrder.nodes], rfl⟩
  obtain ⟨entry, begins⟩ := Option.isSome_iff_exists.1
    ((carries.entries PackedOrder.split).2 (VerifiedGraph.contains_of_node gateway))
  have there : (PackedOrder.splitting program entry).fiber? (Fiber.create ⟨1⟩ ⟨0⟩ 0 entry).id =
      some (.create ⟨1⟩ ⟨0⟩ 0 entry) := by
    simp [PackedOrder.splitting, Fiber.create]
  have forks := VerifiedGraph.inclusive_gateway_forks compiled gateway there
    (Nat.lt_succ_self 1) begins rfl
  have chosen : verified.chosenFlows PackedOrder.split
      (PackedOrder.splitting program entry).record.flags
      (PackedOrder.splitting program entry).record.counters =
      [({ source := PackedOrder.split, target := PackedOrder.pack }, 0),
       ({ source := PackedOrder.split, target := PackedOrder.wrap,
          condition := some (.flag "gift") }, 1)] := by
    rw [VerifiedGraph.chosenFlows, Lowering.flowsOf, outgoing]
    rfl
  rw [chosen] at forks
  obtain ⟨steps, last, plays, pair, targets, paired, leads, forked⟩ := forks
  obtain _ | ⟨packs, _ | ⟨wraps, _ | _⟩⟩ := leads
  exact ⟨verified, program, pair, entry, _, _, steps, last, made, compiled, begins, paired, packs,
    wraps, plays, forked⟩

end ProcessEngine
