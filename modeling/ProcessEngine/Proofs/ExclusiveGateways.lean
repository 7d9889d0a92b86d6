import ProcessEngine.Proofs.FiberRuns
import ProcessEngine.Proofs.CompiledGraphs
import ProcessEngine.Proofs.SafeWork

/-!
# Where an exclusive gateway leads

The code of an exclusive gateway tests the conditions of its flows one after the other. A fiber that
enters it leaves along the first flow that is open, in canonical order, else along the default flow;
without a default it is halted on an incident that names the gateway
(`VerifiedGraph.exclusive_gateway_routes`). Of the fiber nothing changes but where it goes on.
-/

namespace ProcessEngine

namespace Flow

/-- The flow has no condition, or its condition holds. -/
def isOpen (flow : Flow) (flags : Flags) (counters : Counters) : Bool :=
  flow.condition.all (fun condition => condition.evaluate flags counters)

end Flow

namespace Program.Carries

variable {program : Program} {verified : VerifiedGraph}
  {blocks : List (NodeKey × List (Instruction Address))} {stubs : List (List (Instruction Address))}
  {former latter : List (NodeKey × List (Instruction Address))} {key : NodeKey}
  {code : List (Instruction Address)}

/-- Every address in the code of a node belongs to the node. -/
theorem nodeContaining?_eq (carries : program.Carries verified blocks stubs)
    (split : blocks = former ++ (key, code) :: latter) {offset : Nat}
    (within : offset < code.length) :
    program.symbols.nodeContaining? ((former.flatMap Prod.snd).length + offset) = some key := by
  obtain ⟨node, first, contains, begins, above, below⟩ := SymbolTable.exists_nodeContaining
    (carries.placed former _ latter split) (Nat.le_add_right _ offset)
  have inside := (carries.entries node).1 (Option.isSome_iff_exists.2 ⟨first, begins⟩)
  obtain ⟨found, present⟩ := ProcessGraph.exists_node inside
  obtain ⟨former', code', latter', split', shaped⟩ := carries.split_of_node present
  cases begins.symm.trans (carries.placed former' _ latter' split')
  have some := List.length_pos_iff.2 shaped.ne_nil
  rw [contains]
  -- A block of another node ends before this one begins, or begins after this one ends.
  rcases List.append_eq_append_iff.1 (split.symm.trans split') with
    ⟨others, rfl, rest⟩ | ⟨others, rfl, rest⟩
  · cases others with
    | nil =>
      cases rest
      rfl
    | cons other others =>
      cases rest
      simp only [List.flatMap_append, List.flatMap_cons, List.length_append] at below
      have before := Nat.lt_of_le_of_lt below (Nat.add_lt_add_left within _)
      omega
  · cases others with
    | nil =>
      cases rest
      rfl
    | cons other others =>
      cases rest
      simp only [List.flatMap_append, List.flatMap_cons, List.length_append] at above
      have after := Nat.lt_succ_of_le above
      omega

end Program.Carries

namespace UnitOfWork

variable {program : Program} {layout : Layout} {key : NodeKey} {work current : UnitOfWork}
variable {fiber changed : Fiber} {flags : Flags} {counters : Counters}

/-! ## Branches -/

/-- A fiber is sent to a target, or goes on at an address if there is none. -/
def SentTo (program : Program) (work : UnitOfWork) (fiber : Fiber) (address : Address) :
    Option Address -> Prop
  | some target => Relation.TransGen (work.Goes program) fiber { fiber with pc := target }
  | none => work.GoesTo program fiber { fiber with pc := address }

theorem SentTo.after {middle address : Address} {target : Option Address}
    (goes : work.GoesTo program fiber { fiber with pc := middle })
    (sent : SentTo program work { fiber with pc := middle } address target) :
    SentTo program work fiber address target := by
  cases target with
  | none => exact goes.trans sent
  | some target => exact Relation.TransGen.trans_right goes sent

/-- A jump sends a fiber to a target that was not sent to another one. -/
theorem SentTo.orElse {address other : Address} {target : Option Address}
    (sent : SentTo program work fiber address target)
    (reached : program.instruction? address = some (.jump other)) :
    SentTo program work fiber address (target.or (some other)) := by
  cases target with
  | none => exact .tail' sent (goes_jump reached)
  | some target => exact sent

/-- The code of some flows sends every fiber along the first that is open, and where that leads
depends on the flags and counters alone. -/
theorem exists_sentTo_branches {places : List (Flow × Nat)}
    {codes : List (List (Instruction Address))}
    (each : List.Forall₂ ((program.references layout).Branch key) places codes) :
    ∃ choose : Flags -> Counters -> Option Address,
      (∀ flags counters, Option.Rel ((program.references layout).Leads key)
        (places.find? (fun place => place.1.isOpen flags counters)) (choose flags counters)) ∧
      ∀ (work : UnitOfWork) (fiber : Fiber), program.HasCode fiber.pc codes.flatten ->
        SentTo program work fiber (fiber.pc + codes.flatten.length)
          (choose work.record.flags work.record.counters) := by
  induction each with
  | nil => exact ⟨fun _ _ => none, fun _ _ => .none, fun _ _ _ => .refl⟩
  | @cons place code places codes branch _ ih =>
    obtain ⟨choose, leads', others⟩ := ih
    cases branch with
    | @always target plain leads =>
      refine ⟨fun _ _ => some target, fun flags counters => ?_, fun work fiber stands => ?_⟩
      · rw [List.find?_cons_of_pos (by simp [Flow.isOpen, plain])]
        exact .some leads
      · exact .single (goes_jump stands.head)
    | @tested condition test target conditional tests leads =>
      have opens (flags : Flags) (counters : Counters) :
          place.1.isOpen flags counters = condition.evaluate flags counters := by
        rw [Flow.isOpen, conditional, Option.all_some]
      refine ⟨fun flags counters => if condition.evaluate flags counters then some target
        else choose flags counters, fun flags counters => ?_, fun work fiber stands => ?_⟩
      · dsimp only
        by_cases holds : condition.evaluate flags counters = true
        · rw [List.find?_cons_of_pos (by simp [opens, holds]), if_pos holds]
          exact .some leads
        · rw [List.find?_cons_of_neg (by simp [opens, holds]), if_neg holds]
          exact leads' flags counters
      · rw [List.flatten_cons] at stands ⊢
        obtain ⟨value, truth, goes⟩ := tests_go work condition tests stands.left.left
        dsimp only
        by_cases holds : condition.evaluate work.record.flags work.record.counters = true
        · rw [if_pos holds]
          exact .tail' goes (goes_branchIf stands.left.right.head rfl (truth.trans holds))
        · have fails := truth.trans (Bool.eq_false_of_not_eq_true holds)
          have passed := goes.tail (passes_branchIf stands.left.right.head rfl fails)
          have rest := stands.right
          rw [List.length_append, List.length_singleton, ← Nat.add_assoc] at rest
          rw [if_neg holds, List.length_append, ← Nat.add_assoc, List.length_append,
            List.length_singleton, ← Nat.add_assoc]
          exact .after passed (others work
            { fiber with pc := fiber.pc + test.length + 1 } rest)

/-- A fiber is sent along a flow of a node, or goes on at an address if along none. -/
def SentAlong (program : Program) (layout : Layout) (key : NodeKey) (work : UnitOfWork)
    (fiber : Fiber) (address : Address) : Option (Flow × Nat) -> Prop
  | some place => ∃ target, (program.references layout).Leads key place target ∧
    Relation.TransGen (work.Goes program) fiber { fiber with pc := target }
  | none => work.GoesTo program fiber { fiber with pc := address }

theorem SentTo.along {address : Address} {place : Option (Flow × Nat)} {target : Option Address}
    (sent : SentTo program work fiber address target)
    (leads : Option.Rel ((program.references layout).Leads key) place target) :
    SentAlong program layout key work fiber address place := by
  cases leads with
  | none => exact sent
  | some leads => exact ⟨_, leads, sent⟩

/-! ## Incidents -/

/-- A fiber was halted on a new incident, and nothing else has changed. -/
structure HaltedOn (work : UnitOfWork) (fiber : Fiber) (incident : Incident) (last : UnitOfWork) :
    Prop where
  made : last = { work with supply := ⟨work.supply.next + 1⟩ }.halt incident
  new : incident.id = ⟨work.supply.next⟩
  about : incident.fiber = fiber.id
  waits : last.fiber? fiber.id =
    some { fiber with pc := incident.address, wait := .incident incident.id }

theorem updateFiber_of_found {id : FiberId} (found : work.fiber? id = some fiber)
    (change : Fiber -> Fiber) : work.updateFiber id change = work.putFiber id (change fiber) := by
  rw [updateFiber, found]

theorem haltedOn_raise {address : Address} {message : String} {node : NodeKey}
    (found : work.fiber? fiber.id = some fiber)
    (contains : program.symbols.nodeContaining? address = some node) :
    ∃ incident, work.HaltedOn fiber incident
        (work.raise program.symbols fiber.id address .noRoute message) ∧
      incident.kind = .noRoute ∧ incident.node = some node ∧ incident.message = message := by
  refine ⟨_, ⟨rfl, rfl, rfl, ?_⟩, rfl, contains, rfl⟩
  refine (fiber?_park _ fiber.id fiber.id address _).trans ?_
  rw [if_pos rfl]
  exact congrArg (Option.map _) found

/-- Where a fiber was before it waits makes no difference. -/
theorem park_of_with {pc address : Address} {wait : Wait}
    (found : work.fiber? fiber.id = some fiber) (holds : work.With { fiber with pc := pc } current) :
    current.park fiber.id address wait = work.park fiber.id address wait := by
  have present := holds.fiber?
  rw [park, park, updateFiber_of_found present, updateFiber_of_found found]
  exact congrArg (UnitOfWork.emit · _) (holds.putFiber _)

theorem raise_of_with {pc address : Address} {kind : FaultClass} {message : String}
    (found : work.fiber? fiber.id = some fiber)
    (holds : work.With { fiber with pc := pc } current) :
    current.raise program.symbols fiber.id address kind message =
      work.raise program.symbols fiber.id address kind message := by
  generalize moved : ({ fiber with pc := pc } : Fiber) = changed at holds
  cases holds with
  | same => rfl
  | changed =>
    -- What else is raised depends on nothing that the fiber has.
    let drawn : UnitOfWork := { work with supply := ⟨work.supply.next + 1⟩ }.emit
      (.incidentRaised ⟨work.supply.next⟩ kind)
    have same : changed.id = fiber.id := moved ▸ rfl
    have waits : (drawn.putFiber changed.id changed).park fiber.id address
        (.incident ⟨work.supply.next⟩) =
        drawn.park fiber.id address (.incident ⟨work.supply.next⟩) := by
      subst moved
      exact park_of_with found .changed
    exact congrArg (UnitOfWork.putIncident · _) waits

theorem play_fault {reason : RoutingFault} (found : work.fiber? fiber.id = some fiber)
    (reached : program.instruction? fiber.pc = some (.fault reason)) :
    play program fiber.id work = (none, work.raise program.symbols fiber.id fiber.pc .noRoute
      (reason.message program.symbols)) := by
  have stops : keepsTurn program fiber.id work = false := by
    rw [keepsTurn, found, Option.any_some, reached]
    rfl
  rw [play_eq_of_reached found reached, Execution.execute]
  simp only [outcome_modify, stops]
  rfl

end UnitOfWork

theorem SymbolTable.nodeText_eq {symbols : SymbolTable} {index : Nat} {key : NodeKey}
    (named : symbols.node? index = some key) : symbols.nodeText index = key.text := by
  rw [nodeText, named]
  rfl

theorem RoutingFault.message_noRoute {symbols : SymbolTable} {index : Nat} {key : NodeKey}
    (named : symbols.node? index = some key) : (RoutingFault.noRoute index).message symbols =
      "exclusive gateway " ++ key.text ++ " has no true condition and no default" := by
  -- The equations of the definition are slow to come by, for Lean compares long strings.
  delta message
  simp only [SymbolTable.nodeText_eq named]

namespace Lowering

/-- Code for a condition, in a program that keeps the names that were gathered for it. -/
def Emits (condition : Condition) (code : LabelledCode) (symbols : SymbolTable) : Prop :=
  ∃ gathered later, conditionCode condition gathered = .ok (code, later) ∧
    ∀ reference name, later.symbols.name? reference = some name ->
      symbols.name? reference = some name

end Lowering

namespace VerifiedGraph

open UnitOfWork

variable {verified : VerifiedGraph} {program : Program} {key : NodeKey}

/-- The flow, with its place, along which control leaves an exclusive gateway: the first in
canonical order that is no default and is open, else the default. -/
def chosenFlow? (verified : VerifiedGraph) (key : NodeKey) (flags : Flags) (counters : Counters) :
    Option (Flow × Nat) :=
  let flows := Lowering.flowsOf verified key
  (flows.find? (fun place => !place.1.isDefault && place.1.isOpen flags counters)).or
    (flows.find? (fun place => place.1.isDefault))

theorem chosenFlow?_eq (flags : Flags) (counters : Counters) :
    verified.chosenFlow? key flags counters =
      ((References.ordinaryFlows verified key).find?
        (fun place => place.1.isOpen flags counters)).or
        (References.defaultFlows verified key).head? := by
  simp only [chosenFlow?, References.ordinaryFlows, References.defaultFlows, List.find?_filter,
    List.head?_filter, Bool.decide_and, Bool.decide_eq_true]

/-- The code of an exclusive gateway sends every fiber along the flow that is chosen, to a target
that depends on the flags and counters alone, and faults if there is none. -/
theorem exists_sentTo_gateway {blocks : List (NodeKey × List (Instruction Address))}
    {stubs : List (List (Instruction Address))} {entry : Address}
    (carries : program.Carries verified blocks stubs)
    (gateway : verified.graph.node? key = some ⟨key, .exclusiveGateway⟩)
    (begins : program.entry? key = some entry) :
    ∃ (address : Address) (choose : Flags -> Counters -> Option Address),
      (∀ flags counters, Option.Rel ((program.references verified.layout).Leads key)
        (verified.chosenFlow? key flags counters) (choose flags counters)) ∧
      (∀ (work : UnitOfWork) (fiber : Fiber), fiber.pc = entry ->
        SentTo program work fiber address (choose work.record.flags work.record.counters)) ∧
      ∀ flags counters, choose flags counters = none ->
        program.symbols.nodeContaining? address = some key ∧
        ∃ symbol, program.instruction? address = some (.fault (.noRoute symbol)) ∧
          program.symbols.node? symbol = some key := by
  obtain ⟨former, code, latter, split, shaped⟩ := carries.split_of_node gateway
  have place := Option.some.inj (begins.symm.trans (carries.placed former _ latter split))
  have stands := carries.hasCode_of_split split
  rw [← place] at stands
  cases shaped with
  | @exclusive branches target each fallback =>
    obtain ⟨choose, leads', sent⟩ := exists_sentTo_branches each
    cases fallback with
    | present only leads =>
      refine ⟨entry + branches.flatten.length, fun flags counters =>
        (choose flags counters).or (some target), fun flags counters => ?_, ?_,
        fun flags counters none => ?_⟩
      · have leads' := leads' flags counters
        rw [chosenFlow?_eq, only]
        dsimp only
        generalize (References.ordinaryFlows verified key).find? _ = chosen at leads' ⊢
        generalize choose flags counters = target at leads' ⊢
        cases leads' with
        | none => exact .some leads
        | some leads => exact .some leads
      · rintro work fiber rfl
        exact (sent work fiber stands.left).orElse stands.right.head
      · simp at none
  | @exclusiveOrFault branches symbol each fallback named =>
    obtain ⟨choose, leads', sent⟩ := exists_sentTo_branches each
    cases fallback with
    | missing only =>
      refine ⟨entry + branches.flatten.length, choose, fun flags counters => ?_, ?_,
        fun _ _ _ => ⟨?_, symbol, stands.right.head, named⟩⟩
      · rw [chosenFlow?_eq, only, List.head?_nil, Option.or_none]
        exact leads' flags counters
      · rintro work fiber rfl
        exact sent work fiber stands.left
      · rw [place]
        exact carries.nodeContaining?_eq split (by simp)

/-- The code of an exclusive gateway sends a fiber along the chosen flow, and faults if there is
none. -/
theorem sentAlong_gateway {blocks : List (NodeKey × List (Instruction Address))}
    {stubs : List (List (Instruction Address))} {work : UnitOfWork} {fiber : Fiber}
    (carries : program.Carries verified blocks stubs)
    (gateway : verified.graph.node? key = some ⟨key, .exclusiveGateway⟩)
    (begins : program.entry? key = some fiber.pc) :
    ∃ address, SentAlong program verified.layout key work fiber address
        (verified.chosenFlow? key work.record.flags work.record.counters) ∧
      (verified.chosenFlow? key work.record.flags work.record.counters = none ->
        program.symbols.nodeContaining? address = some key ∧
        ∃ symbol, program.instruction? address = some (.fault (.noRoute symbol)) ∧
          program.symbols.node? symbol = some key) := by
  obtain ⟨address, choose, leads, sent, faults⟩ := exists_sentTo_gateway carries gateway begins
  have leads := leads work.record.flags work.record.counters
  refine ⟨address, (sent work fiber rfl).along leads, fun chosen =>
    faults work.record.flags work.record.counters ?_⟩
  rw [chosen] at leads
  generalize choose work.record.flags work.record.counters = target at leads ⊢
  cases leads
  rfl

/-- A fiber that enters an exclusive gateway leaves it along the chosen flow, and of the fiber
nothing changes but where it goes on; if no flow is chosen, the fiber is halted on an incident that
names the gateway. The code of any condition pushes one value, which counts as true if and only if
the condition holds. -/
theorem exclusive_gateway_routes (compiled : verified.graph.compile = .ok program) :
    (∀ key work fiber, verified.graph.node? key = some ⟨key, .exclusiveGateway⟩ ->
      work.fiber? fiber.id = some fiber -> program.entry? key = some fiber.pc ->
      match verified.chosenFlow? key work.record.flags work.record.counters with
      | some place => ∃ target steps, (program.references verified.layout).Leads key place target ∧
        Plays program fiber.id steps work
          (some fiber.id, work.putFiber fiber.id { fiber with pc := target })
      | none => ∃ incident last steps, work.HaltedOn fiber incident last ∧
        incident.kind = .noRoute ∧ incident.node = some key ∧
        incident.message =
          "exclusive gateway " ++ key.text ++ " has no true condition and no default" ∧
        Plays program fiber.id steps work (none, last)) ∧
    ∀ condition code resolve work fiber, Lowering.Emits condition code program.symbols ->
      work.fiber? fiber.id = some fiber ->
      program.HasCode fiber.pc (code.map (Instruction.mapTargets resolve)) ->
      ∃ value steps,
        value.isTruthy = condition.evaluate work.record.flags work.record.counters ∧
        Plays program fiber.id steps work (some fiber.id, work.putFiber fiber.id
          { fiber with pc := fiber.pc + code.length, stack := value :: fiber.stack }) := by
  obtain ⟨_, same, blocks, stubs, carries⟩ := carries_of_compile compiled
  cases ext_graph same
  constructor
  · intro key work fiber gateway found begins
    obtain ⟨address, sent, faults⟩ := sentAlong_gateway carries gateway begins
    generalize verified.chosenFlow? key work.record.flags work.record.counters = chosen
      at sent faults
    cases chosen with
    | some place =>
      obtain ⟨target, leads, goes⟩ := sent
      obtain ⟨steps, plays⟩ := plays_of_goes goes (.same found)
      exact ⟨target, steps, leads, plays⟩
    | none =>
      obtain ⟨contains, symbol, reached, named⟩ := faults rfl
      obtain ⟨-, steps, current, holds, plays⟩ := GoesTo.plays sent (.same found)
      have stops := play_fault holds.fiber? reached
      rw [raise_of_with found holds] at stops
      obtain ⟨incident, halted, kind, node, message⟩ := haltedOn_raise found contains
      exact ⟨incident, _, steps + 1, halted, kind, node,
        message.trans (RoutingFault.message_noRoute named), plays.trans (.stop stops)⟩
  · rintro condition code resolve work fiber ⟨gathered, later, emitted, names⟩ found stands
    have meets := @Lowering.conditionCode_meets verified.graph verified.layout (fun _ => True)
      condition gathered
    rw [emitted] at meets
    have renames : (Lowering.labelReferences verified.layout later).Renames
        (program.references verified.layout) := fun named => names _ _ named
    obtain ⟨value, truth, goes⟩ := tests_go work condition
      (References.Tests.map renames resolve condition (meets.2 later (.refl later))) stands
    rw [List.length_map] at goes
    rcases Relation.reflTransGen_iff_eq_or_transGen.1 goes with same | goes
    · exact absurd (congrArg Fiber.stack same) (by simp)
    · obtain ⟨steps, plays⟩ := plays_of_goes goes (.same found)
      exact ⟨value, steps, truth, plays⟩

end VerifiedGraph

open UnitOfWork

namespace RetryProcess

/-- An instance whose flag is not set has come to the check. -/
def checking (program : Program) (entry : Address) : UnitOfWork :=
  (create (.create ⟨0⟩ program.hash .null "" default) default ⟨2⟩).putFiber ⟨1⟩
    (.create ⟨1⟩ ⟨0⟩ 0 entry)

theorem outgoing_check : (ProcessGraph.ofParts nodes flows).toOption.map
      (fun graph => graph.outgoing check) =
    some [{ source := check, target := work, condition := some (.flag "again") },
      { source := check, target := done, isDefault := true }] := by
  decide_cbv

end RetryProcess

/-- As long as the flag is not set, the check leads to the end. -/
theorem exclusive_gateway_routes_of_retryProcess : ∃ verified program entry target steps,
    ProcessGraph.ofParts RetryProcess.nodes RetryProcess.flows =
      .ok (VerifiedGraph.graph verified) ∧
    verified.graph.compile = .ok program ∧ program.entry? RetryProcess.check = some entry ∧
    (program.references verified.layout).Leads RetryProcess.check
      ({ source := RetryProcess.check, target := RetryProcess.done, isDefault := true }, 1)
      target ∧
    Plays program ⟨1⟩ steps (RetryProcess.checking program entry) (some ⟨1⟩,
      (RetryProcess.checking program entry).putFiber ⟨1⟩ (.create ⟨1⟩ ⟨0⟩ 0 target)) := by
  obtain ⟨verified, program, made, -, compiled⟩ := VerifiedGraph.exists_compiled RetryProcess.sound
    (by simp [RetryProcess.nodes])
  obtain ⟨_, same, blocks, stubs, carries⟩ := VerifiedGraph.carries_of_compile compiled
  cases VerifiedGraph.ext_graph same
  have outgoing := RetryProcess.outgoing_check
  rw [made, Except.toOption, Option.map_some, Option.some.injEq] at outgoing
  have gateway : verified.graph.node? RetryProcess.check =
      some ⟨RetryProcess.check, .exclusiveGateway⟩ :=
    ((ProcessGraph.ofParts_eq_ok_iff.1 made).2.1 _ _).2 ⟨by simp [RetryProcess.nodes], rfl⟩
  obtain ⟨entry, begins⟩ := Option.isSome_iff_exists.1
    ((carries.entries RetryProcess.check).2 (VerifiedGraph.contains_of_node gateway))
  have routes := (VerifiedGraph.exclusive_gateway_routes compiled).1 RetryProcess.check
    (RetryProcess.checking program entry) (.create ⟨1⟩ ⟨0⟩ 0 entry) gateway
    (by simp [RetryProcess.checking, Fiber.create]) begins
  have chosen : verified.chosenFlow? RetryProcess.check
      (RetryProcess.checking program entry).record.flags
      (RetryProcess.checking program entry).record.counters =
      some ({ source := RetryProcess.check, target := RetryProcess.done, isDefault := true },
        1) := by
    rw [VerifiedGraph.chosenFlow?, Lowering.flowsOf, outgoing]
    rfl
  rw [chosen] at routes
  obtain ⟨target, steps, leads, plays⟩ := routes
  exact ⟨verified, program, entry, target, steps, made, compiled, begins, leads, plays⟩
end ProcessEngine
