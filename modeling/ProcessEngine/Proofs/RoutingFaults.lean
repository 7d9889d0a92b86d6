import Mathlib
import ProcessEngine.Proofs.Deployments
import ProcessEngine.Proofs.EmptyWork
import ProcessEngine.Proofs.HaltedFibers
import ProcessEngine.Proofs.RaceTargets
import ProcessEngine.Proofs.Requeues

/-!
# Routing faults are resolved at their gateways

Only a gateway can leave a fiber without a route: the one instruction in the code of a node that
does so is the last one of an exclusive or inclusive gateway, so the incident names the gateway
(`Program.Carries.complains`). A gateway sends every fiber that enters it with an empty stack along
a route that depends on the flags and counters of that moment alone (`VerifiedGraph.Routes`). The
fiber of an open routing fault waits with an empty stack, and once the fault is resolved it enters
the gateway again, where it is routed as every other one; no incident is resolved twice
(`Engine.History.routing_fault_resolved`).
-/

namespace ProcessEngine

/-- What a gateway says when it has no route for a fiber. Other nodes always have one. -/
def Node.complaint? (node : Node) : Option String :=
  match node.kind with
  | .exclusiveGateway =>
    some ("exclusive gateway " ++ node.key.text ++ " has no true condition and no default")
  | .gateway .inclusive .diverging _ =>
    some ("inclusive gateway " ++ node.key.text ++ " selected no branch and has no default")
  | _ => none

/-! ## Where no route is found -/

/-- A plain instruction always has a route. -/
theorem Instruction.refusal?_of_isPlain {instruction : Instruction Address}
    (plain : instruction.isPlain = true) : instruction.refusal? = none := by
  cases instruction with
  | fault reason => cases plain
  | forkInclusive join targets fallback gateway =>
    cases fallback with
    | none => cases plain
    | some target => rfl
  | _ => rfl

/-- What stands in the code of several blocks stands in one of them. -/
theorem exists_block_of_getElem? {Key Code : Type} {blocks : List (Key × List Code)} {index : Nat}
    {code : Code} (found : (blocks.flatMap Prod.snd)[index]? = some code) :
    ∃ former block latter offset, blocks = former ++ block :: latter ∧
      index = (former.flatMap Prod.snd).length + offset ∧ block.2[offset]? = some code := by
  induction blocks generalizing index with
  | nil => cases found
  | cons block blocks ih =>
    rw [List.flatMap_cons] at found
    by_cases within : index < block.2.length
    · rw [List.getElem?_append_left within] at found
      exact ⟨[], block, blocks, index, rfl, (Nat.zero_add index).symm, found⟩
    · rw [List.getElem?_append_right (Nat.le_of_not_lt within)] at found
      obtain ⟨former, block', latter, offset, rfl, place, found⟩ := ih found
      refine ⟨block :: former, block', latter, offset, rfl, ?_, found⟩
      rw [List.flatMap_cons, List.length_append]
      omega

/-- An address lies in the code of a node. -/
def Program.LiesIn (program : Program) (verified : VerifiedGraph) (node : Node)
    (address : Address) : Prop :=
  ∃ entry code, program.entry? node.key = some entry ∧ program.HasCode entry code ∧
    (program.references verified.layout).NodeCode verified node.key node.kind code ∧
    entry ≤ address ∧ address < entry + code.length

namespace Program.Carries

variable {program : Program} {verified : VerifiedGraph}
  {blocks : List (NodeKey × List (Instruction Address))} {stubs : List (List (Instruction Address))}

/-- The code that leaves a fiber without a route is that of a gateway, which is told by its address,
and the fault has the message of the gateway. -/
theorem complains (carries : program.Carries verified blocks stubs) {address : Address}
    {instruction : Instruction Address} {reason : RoutingFault}
    (reached : program.instruction? address = some instruction)
    (refuses : instruction.refusal? = some reason) :
    ∃ node, verified.graph.node? node.key = some node ∧ program.LiesIn verified node address ∧
      program.symbols.nodeContaining? address = some node.key ∧
      node.complaint? = some (reason.message program.symbols) := by
  have plain {other : Instruction Address} (plain : other.isPlain = true)
      (same : other = instruction) : False := by
    cases (same ▸ Instruction.refusal?_of_isPlain plain).symm.trans refuses
  have reached : program.instructions[address]? = some instruction := reached
  rw [carries.instructions] at reached
  by_cases within : address < (blocks.flatMap Prod.snd).length
  · rw [List.getElem?_append_left within] at reached
    obtain ⟨former, ⟨key, code⟩, latter, offset, split, rfl, stands⟩ :=
      exists_block_of_getElem? reached
    obtain ⟨node, found, shaped⟩ := carries.shaped (key, code) (by simp [split])
    obtain rfl := verified.graph.keyed _ _ found
    have inside : offset < code.length := (List.getElem?_eq_some_iff.1 stands).choose
    have lies : program.LiesIn verified node ((former.flatMap Prod.snd).length + offset) :=
      ⟨_, code, carries.placed _ _ _ split, carries.hasCode_of_split split, shaped,
        Nat.le_add_right _ _, Nat.add_lt_add_left inside _⟩
    refine ⟨node, found, lies, carries.nodeContaining?_eq split inside, ?_⟩
    obtain ⟨key, kind⟩ := node
    rcases shaped.plain_or_terminal with every | ⟨load, last, rfl, every, terminal⟩
    · exact (plain (every _ (List.mem_of_getElem? stands)) rfl).elim
    · rcases List.mem_append.1 (List.mem_of_getElem? stands) with early | late
      · exact (plain (every _ early) rfl).elim
      · cases List.mem_singleton.1 late
        cases terminal with
        | race each => cases refuses
        | noRoute named =>
          cases refuses
          exact congrArg some (RoutingFault.message_noRoute named).symm
        | noBranch named =>
          cases refuses
          exact congrArg some (RoutingFault.message_noBranch named).symm
  · rw [List.getElem?_append_right (Nat.le_of_not_lt within)] at reached
    obtain ⟨stub, among, listed⟩ := List.mem_flatten.1 (List.mem_of_getElem? reached)
    obtain ⟨target, counter, entry, -, -, -, rfl⟩ := carries.counted stub among
    simp only [List.mem_cons, List.not_mem_nil, or_false] at listed
    rcases listed with rfl | rfl
    · cases refuses
    · cases refuses

end Program.Carries

/-! ## Routes -/

/-- What a gateway does with a fiber: it lets the fiber go on, replaces it by one for each branch,
or has no route for it. -/
inductive Route where
  | along (target : Address)
  | apart (join : NodeKey) (targets : List Address)
  | nowhere

/-- The route to all of some targets, which is none if there are none. -/
def Route.toAll (join : NodeKey) : List Address -> Route
  | [] => .nowhere
  | target :: targets => .apart join (target :: targets)

/-- What has become of a fiber that a gateway sends along a route: of a fiber that goes on only the
address has changed, and one without a route is halted on a new incident that names the gateway. -/
inductive UnitOfWork.Routed (work : UnitOfWork) (program : Program) (node : Node) (fiber : Fiber) :
    Route -> Prop where
  | along {target steps} (plays : Plays program fiber.id steps work
      (some fiber.id, work.putFiber fiber.id { fiber with pc := target })) :
    Routed work program node fiber (.along target)
  | apart {join targets steps last} (plays : Plays program fiber.id steps work (none, last))
    (forked : work.Forked fiber join targets last) :
    Routed work program node fiber (.apart join targets)
  | nowhere {incident steps last} (plays : Plays program fiber.id steps work (none, last))
    (halted : work.HaltedOn fiber incident last) (kind : incident.kind = .noRoute)
    (named : incident.node = some node.key)
    (complains : node.complaint? = some incident.message) :
    Routed work program node fiber .nowhere

/-- However many turns others take first, the fiber is sent along the route that the gateway has
under the flags and counters of the moment when its own turn comes. -/
def UnitOfWork.Enters (program : Program) (node : Node) (route : Flags -> Counters -> Route)
    (fiber : Fiber) (work : UnitOfWork) : Prop :=
  ∀ steps, (∀ earlier < steps, (takeTurns program earlier 0 work).2.nextFiber? ≠ some fiber.id) ->
    (takeTurns program steps 0 work).2.record.isRunning = true ->
      (takeTurns program steps 0 work).2.Routed program node fiber
        (route (takeTurns program steps 0 work).2.record.flags
          (takeTurns program steps 0 work).2.record.counters)

namespace VerifiedGraph

open UnitOfWork

variable {verified : VerifiedGraph} {program : Program} {key : NodeKey}

/-- The route of a gateway follows the flows that are chosen under some flags and counters. -/
inductive Directs (verified : VerifiedGraph) (program : Program) (flags : Flags)
    (counters : Counters) : Node -> Route -> Prop where
  | along {key : NodeKey} {place target}
    (chosen : verified.chosenFlow? key flags counters = some place)
    (leads : (program.references verified.layout).Leads key place target) :
    Directs verified program flags counters ⟨key, .exclusiveGateway⟩ (.along target)
  | noRoute {key : NodeKey} (none : verified.chosenFlow? key flags counters = none) :
    Directs verified program flags counters ⟨key, .exclusiveGateway⟩ .nowhere
  | apart {key : NodeKey} {declared pair target targets} (paired : verified.pair? key = some pair)
    (leads : List.Forall₂ ((program.references verified.layout).Leads key)
      (verified.chosenFlows key flags counters) (target :: targets)) :
    Directs verified program flags counters ⟨key, .gateway .inclusive .diverging declared⟩
      (.apart pair.join (target :: targets))
  | noBranch {key : NodeKey} {declared} (none : verified.chosenFlows key flags counters = []) :
    Directs verified program flags counters ⟨key, .gateway .inclusive .diverging declared⟩ .nowhere

/-- Every fiber that enters the gateway with an empty stack is sent along the route that the
gateway has under the flags and counters of that moment. -/
structure Routes (verified : VerifiedGraph) (program : Program) (node : Node)
    (route : Flags -> Counters -> Route) : Prop where
  directs : ∀ flags counters,
    verified.Directs program flags counters node (route flags counters)
  enters : ∀ (work : UnitOfWork) (fiber : Fiber), work.fiber? fiber.id = some fiber ->
    fiber.id.number < work.supply.next -> program.entry? node.key = some fiber.pc ->
      fiber.stack = [] ->
        work.Routed program node fiber (route work.record.flags work.record.counters)

variable {blocks : List (NodeKey × List (Instruction Address))}
  {stubs : List (List (Instruction Address))} {entry : Address}

/-- An exclusive gateway has routes. -/
theorem exists_routes_exclusive (carries : program.Carries verified blocks stubs)
    (gateway : verified.graph.node? key = some ⟨key, .exclusiveGateway⟩)
    (begins : program.entry? key = some entry) :
    ∃ route, verified.Routes program ⟨key, .exclusiveGateway⟩ route := by
  obtain ⟨address, choose, leads, sent, faults⟩ := exists_sentTo_gateway carries gateway begins
  refine ⟨fun flags counters => (choose flags counters).elim .nowhere .along,
    fun flags counters => ?_, fun work fiber found older enters bare => ?_⟩
  · have leads := leads flags counters
    generalize chosen : verified.chosenFlow? key flags counters = place at leads
    generalize choose flags counters = target at leads ⊢
    cases leads with
    | none => exact .noRoute chosen
    | some leads => exact .along chosen leads
  · cases begins.symm.trans enters
    have sent := sent work fiber rfl
    have faults := faults work.record.flags work.record.counters
    generalize choose work.record.flags work.record.counters = target at sent faults ⊢
    cases target with
    | some target =>
      obtain ⟨steps, plays⟩ := plays_of_goes sent (.same found)
      exact .along plays
    | none =>
      obtain ⟨contains, symbol, reached, named⟩ := faults rfl
      obtain ⟨-, steps, current, holds, plays⟩ := GoesTo.plays sent (.same found)
      have stops := play_fault holds.fiber? reached
      rw [raise_of_with found holds] at stops
      obtain ⟨incident, halted, kind, node, message⟩ := haltedOn_raise found contains
      refine .nowhere (plays.trans (.stop stops)) halted kind node (congrArg some ?_)
      exact (RoutingFault.message_noRoute named).symm.trans message.symm

/-- A fiber whose values were pushed is replaced by one for each target that they select. -/
theorem routed_toAll {work : UnitOfWork} {fiber : Fiber} {address : Address} {values : List Value}
    {declared : Option NodeKey} {join : NodeKey} {symbol self : Nat} {targets : List Address}
    {fallback : Option Address} (found : work.fiber? fiber.id = some fiber)
    (older : fiber.id.number < work.supply.next) (bare : fiber.stack = [])
    (goes : work.GoesTo program fiber { fiber with pc := address, stack := values.reverse })
    (reached : program.instruction? address = some (.forkInclusive symbol targets fallback self))
    (many : values.length = targets.length)
    (contains : program.symbols.nodeContaining? address = some key)
    (named : program.symbols.node? symbol = some join)
    (names : program.symbols.node? self = some key) :
    work.Routed program ⟨key, .gateway .inclusive .diverging declared⟩ fiber
      (.toAll join (selection targets fallback (values.map Value.isTruthy))) := by
  obtain ⟨-, steps, current, holds, plays⟩ := GoesTo.plays goes (.same found)
  have stop := play_forkInclusive holds.fiber? reached rfl many named
  have popped : current.putFiber fiber.id { fiber with pc := address, stack := [] } =
      work.putFiber fiber.id { fiber with pc := address } :=
    (holds.putFiber _).trans (congrArg (fun stack =>
      work.putFiber fiber.id { fiber with pc := address, stack := stack }) bare.symm)
  dsimp only at stop
  rw [popped] at stop
  generalize selection targets fallback (values.map Value.isTruthy) = selected at stop ⊢
  cases selected with
  | nil =>
    have moved : work.With { fiber with pc := address }
      (work.putFiber fiber.id { fiber with pc := address }) := .changed
    rw [List.isEmpty_nil, if_pos rfl, raise_of_with found moved] at stop
    obtain ⟨incident, halted, kind, node, message⟩ := haltedOn_raise found contains
    refine .nowhere (plays.trans (.stop stop)) halted kind node (congrArg some ?_)
    exact (RoutingFault.message_noBranch names).symm.trans message.symm
  | cons target rest =>
    have there : (work.putFiber fiber.id { fiber with pc := address }).fiber? fiber.id =
      some { fiber with pc := address } := (fiber?_putFiber _ _ _ _).trans (if_pos rfl)
    exact .apart (plays.trans (.stop stop)) (.of_putFiber (forked_fork there older _ _))

/-- An inclusive gateway that splits has routes. -/
theorem exists_routes_inclusive {declared : Option NodeKey}
    (carries : program.Carries verified blocks stubs)
    (gateway : verified.graph.node? key = some ⟨key, .gateway .inclusive .diverging declared⟩)
    (begins : program.entry? key = some entry) :
    ∃ route, verified.Routes program ⟨key, .gateway .inclusive .diverging declared⟩ route := by
  obtain ⟨former, code, latter, split, shaped⟩ := carries.split_of_node gateway
  have place := Option.some.inj (begins.symm.trans (carries.placed former _ latter split))
  have stands := carries.hasCode_of_split split
  rw [← place] at stands
  cases shaped with
  | @inclusive _ pair symbol self choices targets fallback paired named names tests each
      otherwise =>
    refine ⟨fun flags counters => .toAll pair.join (selection targets fallback
      ((References.ordinaryFlows verified key).map (fun place => place.1.isOpen flags counters))),
      fun flags counters => ?_, fun work fiber found older enters bare => ?_⟩
    · have leads := leads_chosenFlows flags counters each otherwise
      generalize selection targets fallback _ = selected at leads ⊢
      generalize chosen : verified.chosenFlows key flags counters = flows at leads
      cases leads with
      | nil => exact .noBranch chosen
      | cons leads others => exact .apart paired (chosen ▸ .cons leads others)
    · cases begins.symm.trans enters
      obtain ⟨values, truths, goes⟩ := choices_go work tests stands.left
      rw [bare, List.append_nil] at goes
      have many : values.length = targets.length := by
        rw [← each.length_eq, ← List.length_map Value.isTruthy, truths, List.length_map]
      have contains : program.symbols.nodeContaining? (fiber.pc + choices.flatten.length) =
          some key := by
        rw [place]
        exact carries.nodeContaining?_eq split (by simp)
      rw [← truths]
      exact routed_toAll found older bare goes stands.right.head many contains named names

/-- Every gateway that may have no route for a fiber has routes that depend on the flags and
counters alone. -/
theorem exists_routes (carries : program.Carries verified blocks stubs) {node : Node}
    {message : String} (found : verified.graph.node? node.key = some node)
    (complains : node.complaint? = some message) : ∃ route, verified.Routes program node route := by
  obtain ⟨entry, begins⟩ :=
    Option.isSome_iff_exists.1 ((carries.entries node.key).2 (contains_of_node found))
  obtain ⟨key, kind⟩ := node
  cases kind with
  | exclusiveGateway => exact exists_routes_exclusive carries found begins
  | gateway kind direction declared =>
    cases kind with
    | parallel => cases complains
    | inclusive =>
      cases direction with
      | converging => cases complains
      | diverging => exact exists_routes_inclusive carries found begins
  | _ => cases complains

end VerifiedGraph

/-! ## Resolutions -/

namespace Incident

variable {incident : Incident} {work : UnitOfWork} {fiber : Fiber} {program : Program}
  {entry : Address}

/-- The unit of work after the incident was resolved: its fiber goes on at an address. -/
def reentered (incident : Incident) (resolution : String) (entry : Address) (work : UnitOfWork) :
    UnitOfWork :=
  ((work.emit (.incidentResolved incident.id)).wake incident.fiber entry).putIncident
    { incident with status := .resolved resolution work.time }

/-- The fiber of an incident that is about no job goes on where the node of the incident begins. -/
theorem settlement_of_parked (pending : incident.isOpen = true) (alone : incident.jobKey = none)
    (running : work.record.isRunning = true) (found : work.fiber? incident.fiber = some fiber)
    (waits : fiber.wait = .incident incident.id) {key : NodeKey} (node : incident.node = some key)
    (begins : program.entry? key = some entry) (resolution : String) :
    incident.settlement resolution program work =
      .ok ((), incident.reentered resolution entry work) := by
  let resolved : Incident := { incident with status := .resolved resolution work.time }
  have place : UnitOfWork.restartAddress program resolved = entry := by
    rw [UnitOfWork.restartAddress, show resolved.node = some key from node]
    exact congrArg (Option.getD · _) begins
  have restarted : (work.emit (.incidentResolved incident.id)).restart program resolved =
      (true, (work.emit (.incidentResolved incident.id)).wake incident.fiber entry) := by
    rw [UnitOfWork.restart, place]
    simp only [UnitOfWork.fiber?_emit, resolved, found, waits, if_true]
  have restarts : (resolved.jobKey.isNone &&
      (work.emit (.incidentResolved incident.id)).record.isRunning) = true := by
    rw [show resolved.jobKey = none from alone]
    exact running
  rw [settlement, settle_of_open pending]
  simp only [bind, Except.bind, pure, Except.pure]
  rw [if_pos restarts, restarted]
  rfl

/-- A fiber goes on at an address, in a new epoch, and nothing else of the instance has changed. -/
structure Releases (incident : Incident) (state : InstanceState) (fiber : Fiber) (entry : Address)
    (changed : UnitOfWork) : Prop where
  woken : changed.fiber? incident.fiber = some (fiber.wake entry)
  others : ∀ id, id ≠ incident.fiber -> changed.fiber? id = state.fiber? id
  record : changed.record = state.record
  barriers : changed.state.barriers = state.barriers

theorem releases_reentered {state : InstanceState}
    (found : state.fiber? incident.fiber = some fiber) (resolution : String) (entry : Address)
    (now : Instant) (supply : IdSupply) :
    incident.Releases state fiber entry
      (incident.reentered resolution entry (.begin state now supply)) := by
  have there : ((UnitOfWork.begin state now supply).emit (.incidentResolved incident.id)).fiber?
      incident.fiber = some fiber := found
  refine ⟨?_, fun id other => ?_, ?_, ?_⟩
  · rw [reentered, UnitOfWork.fiber?_putIncident, UnitOfWork.fiber?_wake, if_pos rfl, there]
    rfl
  · rw [reentered, UnitOfWork.fiber?_putIncident, UnitOfWork.fiber?_wake, if_neg other]
    rfl
  · rw [reentered, UnitOfWork.wake, there]
    rfl
  · rw [reentered, UnitOfWork.wake, there]
    rfl

end Incident

/-- To resolve an incident notes it, closed. -/
theorem Intervened.settles {store : MemoryStore} {owner : InstanceId} {program : Program}
    {work changed : UnitOfWork} {id : IncidentId}
    (intervened : Intervened store owner program work (.settle id) changed)
    (keyed : ∀ incident, store.incidents.get? id = some incident -> incident.id = id) :
    changed.isEmpty = false ∧ ∃ incident,
      (changed.incidentsOver store.incidents).get? id = some incident ∧
        incident.isOpen = false := by
  have closes {before : UnitOfWork} {incident resolved : Incident}
      (stored : store.incidents.get? id = some incident) (settles : incident.Settles resolved)
      (closed : resolved.isOpen = false) :
      (before.putIncident resolved).isEmpty = false ∧ ∃ incident,
        ((before.putIncident resolved).incidentsOver store.incidents).get? id = some incident ∧
          incident.isOpen = false := by
    obtain ⟨status, rfl⟩ := settles
    exact ⟨UnitOfWork.isEmpty_putIncident _ _, _,
      (UnitOfWork.get?_incidentsOver_putIncident ..).trans (if_pos (keyed _ stored).symm), closed⟩
  cases intervened with
  | restart stored settles running alone owned closed => exact closes stored settles closed
  | settle stored settles owned closed => exact closes stored settles closed

namespace Engine

open UnitOfWork VerifiedGraph

variable {engine after first last : Engine MemoryStore} {entries : List HistoryEntry}
  {program : Program} {verified : VerifiedGraph} {id : IncidentId} {incident : Incident}
  {state : InstanceState} {node : Node} {fiber : Fiber} {entry : Address} {changed : UnitOfWork}

/-- An open incident of a running instance of the program says that no route was found. -/
structure Unrouted (engine : Engine MemoryStore) (program : Program) (id : IncidentId)
    (incident : Incident) (state : InstanceState) : Prop where
  stored : engine.store.incidents.get? id = some incident
  pending : incident.isOpen = true
  kind : incident.kind = .noRoute
  present : engine.store.states.get? incident.owner = some state
  own : state.record.program = program.hash
  running : state.record.isRunning = true

/-- An incident names a gateway and says that it has no route. Its fiber waits for it in the code of
the gateway, with an empty stack. -/
structure Stalls (verified : VerifiedGraph) (program : Program) (id : IncidentId)
    (incident : Incident) (state : InstanceState) (node : Node) (fiber : Fiber) : Prop where
  keyed : incident.id = id
  gateway : verified.graph.node? node.key = some node
  named : incident.node = some node.key
  complains : node.complaint? = some incident.message
  alone : incident.jobKey = none
  found : state.fiber? incident.fiber = some fiber
  waits : fiber.wait = .incident incident.id
  place : fiber.pc = incident.address
  within : program.LiesIn verified node incident.address
  bare : fiber.stack = []

/-- The fiber of every open routing fault waits for it at a gateway. -/
theorem Unrouted.stalls {blocks : List (NodeKey × List (Instruction Address))}
    {stubs : List (List (Instruction Address))}
    (unrouted : engine.Unrouted program id incident state) (sheltered : engine.Sheltered program)
    (parks : engine.Parks program) (carries : program.Carries verified blocks stubs) :
    ∃ node fiber, Stalls verified program id incident state node fiber := by
  obtain ⟨stored, pending, kind, present, own, running⟩ := unrouted
  obtain ⟨state', present', excused⟩ := sheltered.secure.excused stored
  cases present.symm.trans present'
  obtain ⟨alone, place, instruction, reason, reached, refuses, message⟩ :=
    (excused own).refuses kind
  obtain ⟨node, gateway, within, contains, complains⟩ := carries.complains reached refuses
  obtain ⟨fiber, found, waits, stands⟩ :=
    parks id incident state stored present own running pending alone
  refine ⟨node, fiber, (sheltered.anchored.keyed _ _ stored).1, gateway, place.trans contains,
    message ▸ complains, alone, found, waits, stands, within, ?_⟩
  have suits := sheltered.secure.suited present own found
  rw [Program.Suits, waits] at suits
  cases suits with
  | incident carries present excused next =>
    exact List.forall₂_nil_left_iff.1 carries.stack

/-- The incident was resolved, which has let its fiber go on at an address, and the instance has run
from there. -/
structure Reentered (engine : Engine MemoryStore) (program : Program) (incident : Incident)
    (state : InstanceState) (fiber : Fiber) (entry : Address) (changed : UnitOfWork)
    (after : Engine MemoryStore) : Prop extends incident.Releases state fiber entry changed where
  closed : after.Closed incident.id
  ran : ∃ report done, changed.run program engine.config.maximumSteps = .ok (report, done) ∧
    after.store = engine.store.apply done.finish.1

/-- A slice that is answered runs what the change has made. -/
theorem run_of_slice {Result : Type} {change : Change Result} {work : UnitOfWork} {result : Result}
    {report : RunReport} {done : UnitOfWork} {maximumSteps : Nat}
    (made : change program work = .ok (result, changed))
    (sliced : change.slice program maximumSteps work = .ok (result, report, done)) :
    changed.run program maximumSteps = .ok (report, done) := by
  rw [Change.slice, made] at sliced
  simp only [bind, Except.bind] at sliced
  cases ran : changed.run program maximumSteps with
  | error error =>
    rw [ran] at sliced
    cases sliced
  | ok reached =>
    rw [ran] at sliced
    cases sliced
    rfl

/-- A slice in which an incident is resolved has something to store, and the incident is closed. -/
theorem settled_of_slice (orderly : engine.Orderly) (anchored : engine.Anchored)
    (stored : engine.store.incidents.get? id = some incident) (pending : incident.isOpen = true)
    (present : engine.store.states.get? incident.owner = some state) {resolution : String}
    {report : RunReport} {done : UnitOfWork}
    (sliced : (incident.settlement resolution).slice program engine.config.maximumSteps
      (.begin state engine.now engine.supply) = .ok ((), report, done)) :
    done.isEmpty = false ∧ ∃ settled,
      (done.incidentsOver engine.store.incidents).get? id = some settled ∧
        settled.isOpen = false := by
  obtain ⟨changed, parts⟩ := slice_parts sliced
  have intended : Intervention engine.store engine.config incident.owner (.settle id)
    (incident.settlement resolution) := .settle stored rfl pending resolution
  have intervened := intended.intervened parts.made
  have shapely := intervened.shapely (shapely_begin (orderly.sound _ state present))
  obtain ⟨filled, settled, found, closed⟩ :=
    intervened.settles (fun incident stored => (anchored.keyed _ _ stored).1)
  have drawn : id.number < changed.supply.next :=
    Nat.lt_of_lt_of_le (anchored.keyed _ _ stored).2 intervened.continues.supply
  exact ⟨(reveals_run (run_of_slice parts.made sliced)).staysFilled filled, settled,
    ((parts.ran shapely).get?_incidentsOver shapely drawn).trans found, closed⟩

/-- If an incident can be resolved, it is closed then. -/
theorem closed_of_resolve (orderly : engine.Orderly) (anchored : engine.Anchored)
    {resolution : String} {reply : EngineReply}
    (done : outcome (EngineOperation.resolve id resolution).perform engine = (.ok reply, after)) :
    after.Closed id := by
  have sound := orderly.sound
  rw [show (EngineOperation.resolve id resolution).perform =
    EngineOperation.noted (Engine.resolve id resolution) from rfl] at done
  cases stored : engine.store.incidents.get? id with
  | none =>
    rw [EngineOperation.noted, outcome_bind, Engine.resolve, outcome_bind, outcome_incidentOf,
      stored] at done
    cases done
  | some incident =>
  by_cases pending : incident.isOpen = true
  · have does := (does_resolve stored pending resolution
      (fun state present => sound _ state present)).noted
    obtain ⟨result, state, program, report, work, present, sliced, kept⟩ :=
      slice_of_done does done
    obtain ⟨filled, settled, found, closed⟩ :=
      settled_of_slice orderly anchored stored pending present sliced
    refine ⟨settled, ?_, closed⟩
    rw [kept, filled]
    exact found
  · rw [EngineOperation.noted, outcome_bind, outcome_resolve_of_stored stored, if_neg pending]
      at done
    cases done

/-- An incident that is closed cannot be resolved, and to try changes nothing but the locks. -/
theorem Closed.outcome_resolve (closed : engine.Closed id) (resolution : String) :
    ∃ locks, outcome (EngineOperation.resolve id resolution).perform engine =
      (.error (.alreadyResolved id), { engine with locks := locks }) := by
  obtain ⟨incident, stored, settled⟩ := closed
  refine ⟨engine.locks.insert incident.owner, ?_⟩
  rw [show (EngineOperation.resolve id resolution).perform =
    EngineOperation.noted (Engine.resolve id resolution) from rfl, EngineOperation.noted,
    outcome_bind, outcome_resolve_of_stored stored, settled, if_neg Bool.false_ne_true]
  rfl

section

variable (unrouted : engine.Unrouted program id incident state)
  (stalls : Stalls verified program id incident state node fiber)
  (begins : program.entry? node.key = some entry) (resolution : String)

include unrouted stalls begins

/-- To resolve the fault lets the fiber go on at the gateway. -/
theorem Unrouted.made :
    incident.settlement resolution program (.begin state engine.now engine.supply) =
      .ok ((), incident.reentered resolution entry (.begin state engine.now engine.supply)) :=
  @Incident.settlement_of_parked incident (.begin state engine.now engine.supply) _ _ _
    unrouted.pending stalls.alone unrouted.running stalls.found stalls.waits _ stalls.named begins
    resolution

/-- The fault can be resolved, and then its fiber enters the gateway again. -/
theorem Unrouted.resolved (sheltered : engine.Sheltered program) (supplied : engine.Supplied) :
    ∃ after, outcome (EngineOperation.resolve id resolution).perform engine = (.ok .done, after) ∧
      engine.Reentered program incident state fiber entry
        (incident.reentered resolution entry (.begin state engine.now engine.supply)) after := by
  have made := unrouted.made stalls begins resolution
  obtain ⟨stored, pending, kind, present, own, running⟩ := unrouted
  obtain ⟨orderly, -, anchored, sole, -, -⟩ := sheltered
  obtain ⟨loaded, programs, loads, named⟩ := supplied.loads present
  obtain rfl := sole loaded (offers_of_load loads).1 (named.same.trans own)
  have releases := incident.releases_reentered stalls.found resolution entry engine.now
    engine.supply
  obtain ⟨report, done, sliced⟩ := Change.slice_of_made made
    ((congrArg _ releases.record).trans own) engine.config.maximumSteps
  obtain ⟨filled, settled, found, closed⟩ :=
    settled_of_slice orderly anchored stored pending present sliced
  obtain ⟨after, does, leaves⟩ := (does_resolve stored pending resolution
    (fun state present => orderly.sound _ state present)).noted
  have deed : engine.deed incident.owner (incident.settlement resolution) =
      ⟨.ok (), some done⟩ := by
    simp only [Engine.deed, present, Engine.loaded, loads, Except.map, sliced, filled]
    rfl
  rw [deed] at does leaves
  have store : after.store = engine.store.apply done.finish.1 := leaves.store
  refine ⟨after, does, releases, ⟨settled, ?_, closed⟩, report, done, run_of_slice made sliced,
    store⟩
  rw [store, (anchored.keyed _ _ stored).1]
  exact found

/-- There it is routed as every other fiber is. -/
theorem Unrouted.enters (sheltered : engine.Sheltered program) (checked : program.Checked)
    (shielded : program.Shielded) {route : Flags -> Counters -> Route}
    (routes : verified.Routes program node route) :
    (incident.reentered resolution entry (.begin state engine.now engine.supply)).Enters program
      node route (fiber.wake entry) := by
  have made := unrouted.made stalls begins resolution
  obtain ⟨stored, pending, kind, present, own, running⟩ := unrouted
  have sound := sheltered.orderly.sound
  have begun := sound _ _ present
  have begin := sheltered.beginning present own
  have releases := incident.releases_reentered stalls.found resolution entry engine.now
    engine.supply
  have intended : Intervention engine.store engine.config incident.owner (.settle id)
    (incident.settlement resolution) := .settle stored rfl pending resolution
  obtain ⟨changed, -⟩ := (intended.intervened made).sheltered checked sheltered.orderly.filed
    begun.keyed (sheltered.anchored.beginning sound present) begin
  have named : fiber.id = incident.fiber := WellFormed.keyed begin.shapely stalls.found
  have bare : (fiber.wake entry).Bare := by
    obtain ⟨unguarded, free⟩ := begin.bare stalls.found stalls.waits
      ((congrArg _ (sheltered.anchored.keyed _ _ stored).1).trans stored) stalls.alone
    exact ⟨unguarded, free⟩
  intro steps others still
  have there := releases.woken
  rw [← named] at there
  have stays := changed.bystands checked shielded there bare steps 0 others still
  have shapely := (changed.takes checked shielded steps).1.shapely
  exact routes.enters _ _ stays (WellFormed.drawn shapely stays) begins stalls.bare

end

/-- In a process that was compiled, every open routing fault of a running instance names a gateway
that has no route for its fiber, and the fiber waits for it in the code of the gateway, with an
empty stack. The gateway sends every fiber that enters it along a route that depends on the flags
and counters of that moment alone. To resolve the fault closes it and lets its fiber go on at the
entry of the gateway, where it is routed like every other one when its turn comes. After an incident
was resolved, to resolve it again fails and changes nothing but the locks. -/
theorem History.routing_fault_resolved (history : History first entries last) (fresh : first.Fresh)
    (compiled : verified.graph.compile = .ok program) (identified : Identified entries program) :
    (∀ id incident state, last.Unrouted program id incident state ->
      ∃ node fiber entry route, Stalls verified program id incident state node fiber ∧
        program.entry? node.key = some entry ∧ verified.Routes program node route ∧
        ∀ resolution, ∃ changed after,
          outcome (EngineOperation.resolve id resolution).perform last = (.ok .done, after) ∧
          last.Reentered program incident state fiber entry changed after ∧
          changed.Enters program node route (fiber.wake entry)) ∧
    ∀ id resolution reply after,
      outcome (EngineOperation.resolve id resolution).perform last = (.ok reply, after) ->
      ∀ more later, History after more later -> ∀ again, ∃ locks,
        outcome (EngineOperation.resolve id again).perform later =
          (.error (.alreadyResolved id), { later with locks := locks }) := by
  have checked := ProcessGraph.checked_of_compile compiled
  have shielded := ProcessGraph.shielded_of_compile compiled
  constructor
  · intro id incident state unrouted
    obtain ⟨_, same, blocks, stubs, carries⟩ := carries_of_compile compiled
    cases ext_graph same
    obtain ⟨sheltered, parks⟩ := (history.advances identified).parks checked shielded
      (fresh.sheltered program) (fresh.parks program)
    obtain ⟨node, fiber, stalls⟩ := unrouted.stalls sheltered parks carries
    obtain ⟨entry, begins⟩ := Option.isSome_iff_exists.1
      ((carries.entries node.key).2 (contains_of_node stalls.gateway))
    obtain ⟨route, routes⟩ := exists_routes carries stalls.gateway stalls.complains
    refine ⟨node, fiber, entry, route, stalls, begins, routes, fun resolution => ?_⟩
    obtain ⟨after, answered, reentered⟩ := unrouted.resolved stalls begins resolution sheltered
      (history.supplied fresh)
    exact ⟨_, after, answered, reentered,
      unrouted.enters stalls begins resolution sheltered checked shielded routes⟩
  · intro id resolution reply after answered more later rest again
    have next := history.step (.resolve id resolution)
    rw [answered] at next
    have closed := closed_of_resolve (history.orderly fresh) (history.anchored fresh) answered
    exact (rest.closed (next.orderly fresh) (next.supplied fresh).toCatalogues
      (next.anchored fresh) closed).outcome_resolve again

end Engine

namespace Undecided

theorem made : (ProcessGraph.ofParts nodes flows).toOption.isSome := by decide +kernel

def graph : ProcessGraph := (ProcessGraph.ofParts nodes flows).toOption.get made

theorem graph_sound : graph.problems = [] := by
  have sound := sound
  rw [← Option.some_get made] at sound
  exact Option.some.inj sound

/-- Verification accepts it. -/
def verified : VerifiedGraph where
  graph := graph
  start := start
  pairs := graph.pairs
  sound := graph_sound
  startNodes_eq := by decide +kernel
  pairs_eq := rfl

def instructions : List (Instruction Address) :=
  [.jump 1, .loadFlag 0, .branchIf 4, .fault (.noRoute 0), .finish]

def symbols : SymbolTable := { nodes := [choice], flags := ["ready"] }

theorem code : ((Lowering.code verified).run {}).toOption.map (fun ((blocks, stubs), gathered) =>
    ((Assembly.allCode blocks stubs).map (Instruction.mapTargets (Assembly.resolve blocks stubs)),
      gathered.symbols)) = some (instructions, symbols) := by
  decide_cbv

/-- It is compiled. -/
theorem compiles : ∃ entries hash,
    verified.graph.compile = .ok ⟨instructions, { symbols with entries }, hash⟩ :=
  @VerifiedGraph.compiles_of_code verified _ _ (Option.some_get made).symm (by simp [nodes])
    _ _ code

/-- Nothing is chosen, and the fiber is halted. -/
theorem turns (entries : OrderedMap NodeKey Address) (hash : ProgramHash) {work : UnitOfWork}
    (took : work = (UnitOfWork.takeTurns ⟨instructions, { symbols with entries }, hash⟩ 10000 0
      (UnitOfWork.create (.create ⟨0⟩ hash .null "" default) default ⟨1⟩).start.2).2) :
    (work.record.isRunning && ((work.incidentsOver .empty).get? ⟨2⟩).any (fun incident =>
      incident.isOpen && incident.kind = .noRoute && incident.owner = ⟨0⟩)) = true := by
  rw [took]
  rfl

open Engine UnitOfWork in
/-- When it is started, its only fiber has no route. -/
theorem unrouted : ∃ program incident state, verified.graph.compile = .ok program ∧
    Identified (entriesOf engine [.deploy graph, .start program.hash .null ""]) program ∧
    (engine.performAll [.deploy graph, .start program.hash .null ""]).Unrouted program ⟨2⟩
      incident state := by
  obtain ⟨entries, hash, compiled⟩ := compiles
  obtain ⟨work, took, own, store, stored⟩ :=
    @store_deploy_start engine _ _ compiled rfl rfl .null ""
  rw [show max 1 engine.config.maximumSteps = 10000 from rfl] at took
  obtain ⟨running, halted⟩ := (Bool.and_eq_true _ _).mp (turns entries hash took)
  obtain ⟨incident, found, fits⟩ := (Option.any_eq_true _ _).1 halted
  simp only [Bool.and_eq_true, decide_eq_true_eq] at fits
  obtain ⟨⟨pending, kind⟩, owner⟩ := fits
  refine ⟨_, incident, work.finish.2, compiled, fun entry listed other brings _ => ?_, ?_, pending,
    kind, owner ▸ stored, own, running⟩
  · simp only [entriesOf, List.mem_cons, List.not_mem_nil, or_false] at listed
    rcases listed with rfl | rfl
    · exact Except.ok.inj (Eq.trans (Eq.symm brings) compiled)
    · cases brings
  · rw [show graph = verified.graph from rfl, store]
    exact found

end Undecided

open Engine in
/-- The choice that is not made can be entered again, once. -/
theorem routing_fault_resolved_of_undecided : ∃ program incident state node fiber,
    Undecided.verified.graph.compile = .ok program ∧
    (Undecided.engine.performAll [.deploy Undecided.graph, .start program.hash .null ""]).Unrouted
      program ⟨2⟩ incident state ∧
    Stalls Undecided.verified program ⟨2⟩ incident state node fiber ∧
    ∀ resolution, ∃ after,
      outcome (EngineOperation.resolve ⟨2⟩ resolution).perform (Undecided.engine.performAll
        [.deploy Undecided.graph, .start program.hash .null ""]) = (.ok .done, after) ∧
      ∀ again, ∃ locks, outcome (EngineOperation.resolve ⟨2⟩ again).perform after =
        (.error (.alreadyResolved ⟨2⟩), { after with locks := locks }) := by
  obtain ⟨program, incident, state, compiled, identified, unrouted⟩ := Undecided.unrouted
  obtain ⟨resolvable, once⟩ :=
    History.routing_fault_resolved (.of_operations _ _) ⟨rfl, rfl⟩ compiled identified
  obtain ⟨node, fiber, entry, route, stalls, -, -, resolves⟩ := resolvable _ _ _ unrouted
  refine ⟨program, incident, state, node, fiber, compiled, unrouted, stalls, fun resolution => ?_⟩
  obtain ⟨changed, after, answered, -, -⟩ := resolves resolution
  exact ⟨after, answered, once _ _ _ _ answered _ _ .refl⟩

end ProcessEngine
