import ProcessEngine.Proofs.Sparing
import ProcessEngine.Proofs.Successes

/-!
# Work without faults

A fiber suits a checked program if it can go on in it, at once or when its wait ends
(`Program.Suits`). In a unit of work that is safe (`UnitOfWork.Safe`) all fibers suit the program,
every join still expects somebody, and no incident of the instance is a fault of the machine. Every
operation of a unit of work that is asked for code that is checked keeps it safe.
-/

namespace ProcessEngine

open UnitOfWork Instruction

/-! ## Joins that expect fibers -/

/-- The branches of some instruction meet at the join. -/
def Program.SplitsTo (program : Program) (join : NodeKey) : Prop :=
  ∃ instruction ∈ program.instructions, ∃ index, instruction.splitsTo? = some index ∧
    program.symbols.node? index = some join

namespace InstanceState

/-- Every join that expects fibers is one that the program splits for, and still expects
somebody. -/
def Counted (state : InstanceState) (program : Program) : Prop :=
  ∀ join expected, state.record.expected.get? join = some expected -> program.SplitsTo join ∧
    ∀ barrier, state.barriers.get? join = some barrier -> barrier.arrived < expected

variable {state next : InstanceState} {ticket : JoinTicket} {program : Program}

theorem Counted.of_same (counted : state.Counted program)
    (expected : next.record.expected = state.record.expected)
    (barriers : next.barriers = state.barriers) : next.Counted program := by
  intro join expected' expects
  rw [barriers]
  exact counted _ _ (expected ▸ expects)

/-- A join that is activated expects somebody. -/
theorem Counted.activateJoin (counted : state.Counted program) {join : NodeKey}
    (splits : program.SplitsTo join) {expected : Nat} (filled : 0 < expected) :
    (state.activateJoin join expected).2.Counted program := by
  intro asked expected' expects
  change (state.record.expected.insert join expected).get? asked = some expected' at expects
  rw [OrderedMap.get?_insert] at expects
  split at expects
  · rename_i same
    subst same
    cases expects
    refine ⟨splits, fun barrier counts => ?_⟩
    change (state.barriers.insert asked _).get? asked = some barrier at counts
    rw [OrderedMap.get?_insert_self] at counts
    cases counts
    exact filled
  · rename_i other
    refine ⟨(counted _ _ expects).1, fun barrier counts => ?_⟩
    change (state.barriers.insert join _).get? asked = some barrier at counts
    rw [OrderedMap.get?_insert, if_neg other] at counts
    exact (counted _ _ expects).2 _ counts

/-- As long as joins expect somebody, tickets can be spent. -/
theorem Counted.arrives (counted : state.Counted program) (ticket : JoinTicket) :
    ∃ arrival next, state.arrive ticket = .ok (arrival, next) := by
  rw [InstanceState.arrive]
  cases admitted : state.admission? ticket with
  | none => exact ⟨_, _, rfl⟩
  | some counts =>
    obtain ⟨barrier, expected⟩ := counts
    obtain ⟨present, -, expects⟩ := barrier_of_admission admitted
    dsimp only
    rw [if_neg (Nat.not_le.2 ((counted _ _ expects).2 _ present))]
    split
    · exact ⟨_, _, rfl⟩
    · exact ⟨_, _, rfl⟩

theorem Counted.arrive (counted : state.Counted program) {arrival : Arrival}
    (arrives : state.arrive ticket = .ok (arrival, next)) : next.Counted program := by
  rcases arrive_cases arrives with ⟨-, -, rfl⟩ |
    ⟨barrier, expected, admitted, -, -, barriers, ⟨-, -, record⟩ | ⟨below, -, record⟩⟩
  · exact counted
  · intro join expected' expects
    rw [record] at expects
    have expects : (state.record.expected.erase ticket.join).get? join = some expected' := expects
    rw [OrderedMap.get?_erase] at expects
    split at expects
    · cases expects
    · rename_i other
      rw [barriers, OrderedMap.get?_insert, if_neg other]
      exact counted _ _ expects
  · intro join expected' expects
    rw [record] at expects
    refine ⟨(counted _ _ expects).1, fun barrier' counts => ?_⟩
    rw [barriers, OrderedMap.get?_insert] at counts
    split at counts
    · rename_i same
      subst same
      cases counts
      cases (barrier_of_admission admitted).2.2.symm.trans expects
      exact below
    · exact (counted _ _ expects).2 _ counts

end InstanceState

/-! ## Where fibers go on -/

/-- Why an instruction stops a fiber if there is nowhere to send it. -/
def Instruction.refusal? {Target : Type} : Instruction Target -> Option RoutingFault
  | .forkInclusive _ _ none gateway => some (.noBranch gateway)
  | .fault reason => some reason
  | _ => none

namespace SymbolTable

/-- A search for the best entry answers with one of them that no other is above. -/
theorem exists_best (entries : List (NodeKey × Address)) (best : Option (NodeKey × Address))
    (filled : best.isSome = true ∨ entries ≠ []) :
    ∃ found, entries.foldl (fun (best : Option (NodeKey × Address)) entry =>
      match best with
      | none => some entry
      | some found => if found.2 ≤ entry.2 then some entry else some found) best = some found ∧
      (found ∈ entries ∨ best = some found) ∧
      ∀ entry, entry ∈ entries ∨ best = some entry -> entry.2 ≤ found.2 := by
  induction entries generalizing best with
  | nil =>
    obtain ⟨found, is⟩ := Option.isSome_iff_exists.1 (filled.resolve_right (by simp))
    refine ⟨found, is, .inr is, ?_⟩
    rintro entry (listed | former)
    · cases listed
    · cases is.symm.trans former
      exact Nat.le_refl _
  | cons entry rest ih =>
    have better : ∃ middle, (match best with
        | none => some entry
        | some found => if found.2 ≤ entry.2 then some entry else some found) = some middle ∧
        (middle = entry ∨ best = some middle) ∧ entry.2 ≤ middle.2 ∧
        ∀ former, best = some former -> former.2 ≤ middle.2 := by
      cases best with
      | none => exact ⟨entry, rfl, .inl rfl, Nat.le_refl _, by simp⟩
      | some found =>
        dsimp only
        split
        · rename_i later
          exact ⟨entry, rfl, .inl rfl, Nat.le_refl _, by simpa using later⟩
        · rename_i earlier
          exact ⟨found, rfl, .inr rfl, Nat.le_of_not_le earlier, by simp⟩
    obtain ⟨middle, is, either, above, above'⟩ := better
    obtain ⟨found, same, among, greatest⟩ := ih (some middle) (.inl rfl)
    rw [List.foldl_cons]
    have reached := greatest middle (.inr rfl)
    refine ⟨found, (congrArg (List.foldl _ · rest) is).trans same, ?_, ?_⟩
    · rcases among with listed | last
      · exact .inl (List.mem_cons_of_mem _ listed)
      · cases last
        refine either.imp_left ?_
        rintro rfl
        exact List.mem_cons_self
    · rintro other (listed | former)
      · rcases List.mem_cons.1 listed with rfl | later
        · exact Nat.le_trans above reached
        · exact greatest other (.inl later)
      · exact Nat.le_trans (above' other former) reached

/-- An address behind the beginning of some node belongs to a node that begins no earlier. -/
theorem exists_nodeContaining {symbols : SymbolTable} {key : NodeKey} {entry address : Address}
    (begins : symbols.entries.get? key = some entry) (behind : entry ≤ address) :
    ∃ node first, symbols.nodeContaining? address = some node ∧
      symbols.entries.get? node = some first ∧ entry ≤ first ∧ first ≤ address := by
  have listed : (key, entry) ∈ symbols.entries.toList.filter (fun entry => entry.2 ≤ address) :=
    List.mem_filter.2 ⟨(OrderedMap.mem_toList_iff _ _ _).2 begins, decide_eq_true behind⟩
  obtain ⟨found, same, among, greatest⟩ := exists_best _ none (.inr (List.ne_nil_of_mem listed))
  obtain ⟨present, within⟩ := List.mem_filter.1 (among.resolve_right (by simp))
  exact ⟨found.1, found.2, congrArg (Option.map Prod.fst) same,
    (OrderedMap.mem_toList_iff _ _ _).1 present, greatest _ (.inl listed), of_decide_eq_true within⟩

end SymbolTable

namespace Program

variable (program : Program)

/-- The code where a fiber stopped sends it nowhere, and the incident tells so. -/
structure Refuses (incident : Incident) : Prop where
  alone : incident.jobKey = none
  node : incident.node = program.symbols.nodeContaining? incident.address
  reached : ∃ instruction reason, program.instruction? incident.address = some instruction ∧
    instruction.refusal? = some reason ∧ incident.message = reason.message program.symbols

/-- The incident is no fault of the machine. If it is about no job, the fiber may begin again, and
if no route was found, the code where it stopped has none. -/
structure Excuses (incident : Incident) : Prop where
  kind : incident.kind ≠ .machineFault
  alone : incident.jobKey = none ->
    incident.kind = .noRoute ∧ program.Accepts (restartAddress program incident)
  refuses : incident.kind = .noRoute -> program.Refuses incident

/-- A fiber that waits in such a way can go on in the program. -/
inductive Continues (incidents : OrderedMap IncidentId Incident) (fiber : Fiber) :
    Wait -> Prop where
  | ready {slots code} (stands : program.HasCode fiber.pc code) (checks : Checks slots code)
    (carries : fiber.Carries slots) : Continues incidents fiber .ready
  | timer {due} (carries : fiber.Carries [])
    (next : program.Accepts (fiber.watch.elim (fiber.pc + 1) Watch.target)) :
    Continues incidents fiber (.timer due)
  | message {name correlation} (carries : fiber.Carries [])
    (next : program.Accepts (fiber.pc + 1)) : Continues incidents fiber (.message name correlation)
  | human {task} (carries : fiber.Carries []) (next : program.Accepts (fiber.pc + 1)) :
    Continues incidents fiber (.human task)
  | job {key} (carries : fiber.Carries []) (next : program.Accepts (fiber.pc + 1)) :
    Continues incidents fiber (.job key)
  | race {node arms} (carries : fiber.Carries [])
    (next : ∀ target ∈ arms.map ArmWait.target, program.Accepts target) :
    Continues incidents fiber (.race node arms)
  | incident {id incident} (carries : fiber.Carries []) (found : incidents.get? id = some incident)
    (excused : program.Excuses incident)
    (next : incident.jobKey ≠ none -> program.Accepts (fiber.pc + 1)) :
    Continues incidents fiber (.incident id)

/-- A fiber can go on in the program, at once or when its wait ends. -/
abbrev Suits (incidents : OrderedMap IncidentId Incident) (fiber : Fiber) : Prop :=
  program.Continues incidents fiber fiber.wait

variable {program} {incidents later : OrderedMap IncidentId Incident} {fiber changed : Fiber}
  {wait : Wait}

/-- A fiber halted in a checked program may begin again at the node where it stopped. -/
theorem Checked.accepts_restart (checked : program.Checked) {incident : Incident}
    (stopped : incident.node = program.symbols.nodeContaining? incident.address) :
    program.Accepts (restartAddress program incident) := by
  obtain ⟨key, begins⟩ := checked.first
  obtain ⟨node, entry, contains, found, -, -⟩ :=
    SymbolTable.exists_nodeContaining begins (Nat.zero_le incident.address)
  have found : program.entry? node = some entry := found
  rw [restartAddress, stopped, contains, Option.bind_eq_bind, Option.bind_some, found]
  exact checked.entries found

theorem Excuses.settles {incident resolved : Incident} (excused : program.Excuses incident)
    (settles : incident.Settles resolved) : program.Excuses resolved := by
  obtain ⟨status, rfl⟩ := settles
  refine ⟨excused.kind, excused.alone, fun is => ?_⟩
  obtain ⟨alone, node, reached⟩ := excused.refuses is
  exact ⟨alone, node, reached⟩

theorem Continues.recalled (continues : program.Continues incidents fiber wait)
    (recalled : Recalled incidents later) : program.Continues later fiber wait := by
  cases continues with
  | ready stands checks carries => exact .ready stands checks carries
  | timer carries next => exact .timer carries next
  | message carries next => exact .message carries next
  | human carries next => exact .human carries next
  | job carries next => exact .job carries next
  | race carries next => exact .race carries next
  | incident carries found excused next =>
    obtain ⟨resolved, found, status, rfl⟩ := recalled _ _ found
    exact .incident carries found (excused.settles ⟨status, rfl⟩) next

/-- It does not matter who else knows the fiber, and which joins expect it. -/
theorem Continues.of_same (continues : program.Continues incidents fiber wait)
    (pc : changed.pc = fiber.pc) (stack : changed.stack = fiber.stack)
    (registers : changed.registers = fiber.registers) (watch : changed.watch = fiber.watch) :
    program.Continues incidents changed wait := by
  have carries : ∀ {slots}, fiber.Carries slots -> changed.Carries slots := by
    rintro slots ⟨known, all⟩
    exact ⟨stack ▸ known, registers ▸ all⟩
  cases continues with
  | ready stands checks known => exact .ready (pc ▸ stands) checks (carries known)
  | timer known next => exact .timer (carries known) (by rw [watch, pc]; exact next)
  | message known next => exact .message (carries known) (pc ▸ next)
  | human known next => exact .human (carries known) (pc ▸ next)
  | job known next => exact .job (carries known) (pc ▸ next)
  | race known next => exact .race (carries known) next
  | incident known found excused next =>
    exact .incident (carries known) found excused (pc ▸ next)

/-- A fiber whose stack is empty may go on at an address that is accepted. -/
theorem suits_of_accepts (ready : fiber.wait = .ready) (carries : fiber.Carries [])
    (accepts : program.Accepts fiber.pc) : program.Suits incidents fiber := by
  obtain ⟨code, stands, checks⟩ := accepts
  rw [Suits, ready]
  exact .ready stands checks carries

/-- A fiber that waits has an empty stack. -/
theorem Continues.empty (continues : program.Continues incidents fiber wait)
    (waits : wait ≠ .ready) : fiber.Carries [] := by
  cases continues with
  | ready => exact absurd rfl waits
  | _ => assumption

end Program

/-! ## Safe work -/

namespace UnitOfWork

@[simp] theorem barriers_updateFiber (work : UnitOfWork) (id : FiberId) (change : Fiber -> Fiber) :
    (work.updateFiber id change).state.barriers = work.state.barriers := by
  rw [updateFiber]
  split
  · rfl
  · rfl

/-- All fibers suit the program, all joins still expect somebody, and no incident of the instance is
a fault of the machine. -/
structure Safe (work : UnitOfWork) (program : Program) (table : OrderedMap IncidentId Incident) :
    Prop where
  recalls : work.Recalls table
  counted : work.state.Counted program
  fibers : ∀ {id fiber}, work.fiber? id = some fiber ->
    program.Suits (work.incidentsOver table) fiber
  excused : ∀ {id incident}, (work.incidentsOver table).get? id = some incident ->
    incident.owner = work.record.id -> program.Excuses incident

variable {work next : UnitOfWork} {program : Program} {table : OrderedMap IncidentId Incident}
  {fiber : Fiber} {id : FiberId}

/-- Units of work that differ in one fiber and in what is noted. -/
structure Resembles (work : UnitOfWork) (own : FiberId) (before : UnitOfWork) : Prop where
  supply : before.supply = work.supply
  record : before.record = work.record
  barriers : before.state.barriers = work.state.barriers
  incidents : before.incidents = work.incidents
  elsewhere : ∀ asked, asked ≠ own -> before.fiber? asked = work.fiber? asked

theorem Resembles.refl (work : UnitOfWork) (own : FiberId) : work.Resembles own work :=
  ⟨rfl, rfl, rfl, rfl, fun _ _ => rfl⟩

theorem resembles_putFiber (work : UnitOfWork) (own : FiberId) (changed : Fiber) :
    work.Resembles own (work.putFiber own changed) :=
  ⟨rfl, rfl, rfl, rfl, fun _ other => (fiber?_putFiber ..).trans (if_neg other)⟩

/-- Work that touches neither joins nor incidents stays safe if its fibers suit the program. -/
theorem Safe.of_same (safe : work.Safe program table)
    (supply : work.supply.next ≤ next.supply.next) (owner : next.record.id = work.record.id)
    (incidents : next.incidents = work.incidents)
    (expected : next.record.expected = work.record.expected)
    (barriers : next.state.barriers = work.state.barriers)
    (fibers : ∀ {id fiber}, next.fiber? id = some fiber ->
      program.Suits (work.incidentsOver table) fiber) : next.Safe program table := by
  have same := @incidentsOver_of_same work next table incidents
  refine ⟨safe.recalls.of_same incidents supply, safe.counted.of_same expected barriers, ?_, ?_⟩
  · rw [same]
    exact fibers
  · rw [same, owner]
    exact safe.excused

theorem Safe.emit (safe : work.Safe program table) (event : RuntimeEvent) :
    (work.emit event).Safe program table :=
  safe.of_same (Nat.le_refl _) rfl rfl rfl rfl safe.fibers

theorem Safe.updateRecord (safe : work.Safe program table)
    {change : ProcessInstance -> ProcessInstance} (owner : (change work.record).id = work.record.id)
    (expected : (change work.record).expected = work.record.expected) :
    (work.updateRecord change).Safe program table :=
  safe.of_same (Nat.le_refl _) owner rfl expected rfl safe.fibers

theorem Safe.putFiber (safe : work.Safe program table)
    (suits : program.Suits (work.incidentsOver table) fiber) :
    (work.putFiber id fiber).Safe program table := by
  refine safe.of_same (Nat.le_refl _) rfl rfl rfl rfl (fun {asked found} listed => ?_)
  rw [fiber?_putFiber] at listed
  split at listed
  · cases listed
    exact suits
  · exact safe.fibers listed

theorem Safe.updateFiber (safe : work.Safe program table) {change : Fiber -> Fiber}
    (suits : ∀ fiber, work.fiber? id = some fiber ->
      program.Suits (work.incidentsOver table) (change fiber)) :
    (work.updateFiber id change).Safe program table := by
  rw [UnitOfWork.updateFiber]
  split
  · rename_i fiber found
    exact safe.putFiber (suits fiber found)
  · exact safe

/-- A fiber may be known to others and expected at joins as it pleases. -/
theorem Safe.relate (safe : work.Safe program table) {change : Fiber -> Fiber}
    (wait : ∀ fiber, (change fiber).wait = fiber.wait) (pc : ∀ fiber, (change fiber).pc = fiber.pc)
    (stack : ∀ fiber, (change fiber).stack = fiber.stack)
    (registers : ∀ fiber, (change fiber).registers = fiber.registers)
    (watch : ∀ fiber, (change fiber).watch = fiber.watch) :
    (work.updateFiber id change).Safe program table := by
  refine safe.updateFiber (fun fiber found => ?_)
  rw [Program.Suits, wait]
  exact (safe.fibers found).of_same (pc fiber) (stack fiber) (registers fiber) (watch fiber)

/-- The end of a fiber touches no joins. -/
theorem kept_endFiber (work : UnitOfWork) (id : FiberId) :
    (work.endFiber id).record.expected = work.record.expected ∧
      (work.endFiber id).state.barriers = work.state.barriers := by
  rw [UnitOfWork.endFiber]
  split
  · exact ⟨rfl, rfl⟩
  · exact ⟨rfl, rfl⟩

theorem Safe.endFiber (safe : work.Safe program table) (id : FiberId) :
    (work.endFiber id).Safe program table := by
  have kept : ∀ {asked fiber}, (work.endFiber id).fiber? asked = some fiber ->
      program.Suits (work.incidentsOver table) fiber := by
    intro asked fiber found
    rw [fiber?_endFiber] at found
    split at found
    · cases found
    · exact safe.fibers found
  have continues := (steady_endFiber work id).toContinues
  obtain ⟨expected, barriers⟩ := kept_endFiber work id
  exact safe.of_same continues.supply continues.id (incidents_endFiber _ _) expected barriers kept

theorem Safe.spawn (safe : work.Safe program table) {pc : Address} (accepts : program.Accepts pc)
    (parent : Option FiberId) : (work.spawn pc parent).2.Safe program table := by
  have numbered : Safe { work with
      state := { work.state with record := work.record.takeSequence.2 }
      supply := ⟨work.supply.next + 1⟩ } program table :=
    safe.of_same (Nat.le_succ _) rfl rfl rfl rfl safe.fibers
  exact (numbered.putFiber
    (Program.suits_of_accepts rfl ⟨.nil, List.length_replicate⟩ accepts)).emit _

theorem Safe.park (safe : work.Safe program table) {pc : Address} {wait : Wait}
    (suits : ∀ fiber, work.fiber? id = some fiber ->
      program.Suits (work.incidentsOver table) { fiber with pc := pc, wait := wait }) :
    (work.park id pc wait).Safe program table :=
  (safe.updateFiber suits).emit _

theorem Safe.wake (safe : work.Safe program table) {pc : Address} (accepts : program.Accepts pc)
    (empty : ∀ fiber, work.fiber? id = some fiber -> fiber.Carries []) :
    (work.wake id pc).Safe program table := by
  rw [UnitOfWork.wake]
  split
  · exact safe
  · rename_i fiber found
    have carries := empty fiber found
    have suits : program.Suits (work.incidentsOver table) (fiber.wake pc) :=
      Program.suits_of_accepts rfl ⟨carries.stack, carries.registers⟩ accepts
    exact (safe.putFiber suits).emit _

/-- A ticket can be spent. -/
theorem Safe.arrive (safe : work.Safe program table) (ticket : JoinTicket) :
    ∃ arrival next, work.arrive ticket = .ok (arrival, next) ∧ next.Safe program table := by
  obtain ⟨arrival, state, counted⟩ := safe.counted.arrives ticket
  have arrives : work.arrive ticket = .ok (arrival, { work with
      state := state
      joins := work.joins.insert ticket.join
      events := work.events ++ (arrivalEvent? ticket.join arrival).toList }) := by
    rw [UnitOfWork.arrive, counted]
    rfl
  have same := fun asked => fiber?_arrive work asked arrives
  have owner := (steady_arrive arrives).id
  refine ⟨arrival, _, arrives, safe.recalls, safe.counted.arrive counted, ?_, ?_⟩
  · intro asked fiber found
    exact safe.fibers ((same asked).symm.trans found)
  · intro asked incident found owned
    exact safe.excused found (owned.trans owner)

/-! ## Ends of fibers and instances -/

theorem Safe.retire (safe : work.Safe program table) (id : FiberId) :
    (work.retire id).Safe program table :=
  @retire_keeps work (fun work => work.Safe program table) (fun id safe => Safe.endFiber safe id)
    safe id

theorem Safe.conclude (safe : work.Safe program table) (status : InstanceStatus)
    (event : RuntimeEvent) : (work.conclude status event).Safe program table :=
  Safe.emit (safe.updateRecord rfl rfl) event

theorem Safe.completeIfIdle (safe : work.Safe program table) :
    work.completeIfIdle.Safe program table := by
  rw [UnitOfWork.completeIfIdle]
  split
  · exact safe.conclude _ _
  · exact safe

theorem Safe.cancelAwaitedJob (safe : work.Safe program table) (fiber : Fiber) :
    (work.cancelAwaitedJob fiber).Safe program table := by
  rw [UnitOfWork.cancelAwaitedJob]
  split
  · exact safe.of_same (Nat.le_refl _) rfl rfl rfl rfl safe.fibers
  · exact safe

/-- An instance that runs can be closed. -/
theorem Safe.close (safe : work.Safe program table) {status : InstanceStatus} {event : RuntimeEvent}
    (closes : work.close status event = .ok next) : next.Safe program table := by
  exact @close_keeps work (fun work => work.Safe program table)
    (fun fiber safe => (Safe.cancelAwaitedJob safe fiber).endFiber fiber.id)
    (fun status event safe => Safe.conclude safe status event) safe _ _ _ closes

/-! ## Splits, joins and watchdogs -/

/-- After a split every fiber was there before or begins a branch. -/
theorem fiber?_branches_cases {parent : Fiber} {ticket : JoinTicket} {targets : List Address}
    {asked : FiberId}
    (found : (targets.foldl (branch parent ticket) work).fiber? asked = some fiber) :
    work.fiber? asked = some fiber ∨ ∃ target ∈ targets, fiber.pc = target ∧ fiber.wait = .ready ∧
      fiber.Carries [] := by
  induction targets generalizing work with
  | nil => exact .inl found
  | cons target rest ih =>
    rcases ih found with before | ⟨other, listed, begins⟩
    · rw [fiber?_branch] at before
      split at before
      · cases before
        exact .inr ⟨target, List.mem_cons_self, rfl, rfl, .nil, List.length_replicate⟩
      · exact .inl before
    · exact .inr ⟨other, List.mem_cons_of_mem _ listed, begins⟩

/-- Branches begin without touching joins or incidents. -/
theorem same_branches (parent : Fiber) (ticket : JoinTicket) (targets : List Address)
    (work : UnitOfWork) :
    (targets.foldl (branch parent ticket) work).incidents = work.incidents ∧
      (targets.foldl (branch parent ticket) work).record.expected = work.record.expected ∧
      (targets.foldl (branch parent ticket) work).state.barriers = work.state.barriers := by
  induction targets generalizing work with
  | nil => exact ⟨rfl, rfl, rfl⟩
  | cons target rest ih =>
    obtain ⟨incidents, expected, barriers⟩ := ih (branch parent ticket work target)
    rw [List.foldl_cons, incidents, expected, barriers, record_branch]
    exact ⟨incidents_updateFiber .., rfl, barriers_updateFiber ..⟩

/-- A fiber, whatever it has computed before, may be replaced by others. -/
theorem Safe.fork (safe : work.Safe program table) {before : UnitOfWork} {parent : Fiber}
    (resembles : work.Resembles parent.id before) {join : NodeKey} (splits : program.SplitsTo join)
    {targets : List Address} (branches : targets ≠ [])
    (accepts : ∀ target ∈ targets, program.Accepts target) :
    (before.fork parent join targets).Safe program table := by
  have forked := (steady_fork before parent join targets).toContinues
  obtain ⟨activation, activates⟩ : ∃ activation, before.activateJoin join targets.length =
      (activation, (before.activateJoin join targets.length).2) := ⟨_, rfl⟩
  obtain ⟨incidents, expected, barriers⟩ := same_branches parent ⟨join, activation⟩ targets
    (before.activateJoin join targets.length).2
  rw [UnitOfWork.fork, activates] at forked ⊢
  dsimp only at forked ⊢
  generalize branched : targets.foldl _ _ = reached at incidents expected barriers forked ⊢
  have same : (reached.endFiber parent.id).incidents = work.incidents :=
    (incidents_endFiber _ _).trans (incidents.trans resembles.incidents)
  have ended := kept_endFiber reached parent.id
  have table' := @incidentsOver_of_same work _ table same
  refine ⟨safe.recalls.of_same same ?_, ?_, fun {asked fiber} found => ?_, ?_⟩
  · exact resembles.supply ▸ forked.supply
  · have counted : before.state.Counted program := safe.counted.of_same
      (congrArg ProcessInstance.expected resembles.record) resembles.barriers
    have begun := counted.activateJoin splits (List.length_pos_of_ne_nil branches)
    exact begun.of_same (ended.1.trans expected) (ended.2.trans barriers)
  · rw [table']
    rw [fiber?_endFiber] at found
    split at found
    · cases found
    · rename_i other
      subst branched
      rcases fiber?_branches_cases found with there | ⟨target, listed, rfl, ready, carries⟩
      · exact safe.fibers ((resembles.elsewhere _ other).symm.trans there)
      · exact Program.suits_of_accepts ready carries (accepts _ listed)
  · rw [table', forked.id, resembles.record]
    exact safe.excused

theorem Safe.dropWatchdog (safe : work.Safe program table) (fiber : Fiber) :
    (work.dropWatchdog fiber).Safe program table := by
  have forgot : (work.updateFiber fiber.id (fun fiber => { fiber with watchdog := none })).Safe
      program table :=
    safe.relate (fun _ => rfl) (fun _ => rfl) (fun _ => rfl) (fun _ => rfl) (fun _ => rfl)
  exact @dropWatchdog_keeps work (fun work => work.Safe program table)
    (fun id safe => Safe.endFiber safe id) fiber forgot

/-- The host of a new watchdog goes on at the next instruction. -/
theorem Safe.watchOver (safe : work.Safe program table) {host : Fiber} (boundary : NodeKey)
    (duration : Nat) (interrupting : Bool) {target : Address} (older : host.id ≠ ⟨work.supply.next⟩)
    (found : work.fiber? host.id = some host) (accepts : program.Accepts target)
    (next : ∀ watchdog, program.Suits (work.incidentsOver table)
      { host with watchdog := some watchdog, pc := host.pc + 1 }) :
    (work.watchOver host boundary duration interrupting target).Safe program table := by
  have continues := (steady_watchOver work host boundary duration interrupting target).toContinues
  refine safe.of_same continues.supply continues.id
    ((incidents_updateFiber ..).trans (incidents_updateFiber ..)) ?_ ?_
    (fun {asked fiber} listed => ?_)
  · rw [record_watchOver]
    rfl
  · rw [UnitOfWork.watchOver]
    simp only [barriers_updateFiber]
    rfl
  · rw [fiber?_watchOver _ _ _ _ _ _ _ older] at listed
    split at listed
    · rename_i same
      subst same
      rw [found] at listed
      cases listed
      exact next _
    · split at listed
      · cases listed
        exact .timer ⟨.nil, List.length_replicate⟩ accepts
      · exact safe.fibers listed

/-- A fiber may arrive at a join, where it goes on at the next instruction or ends. -/
theorem Safe.arriveAt (safe : work.Safe program table) (found : work.fiber? fiber.id = some fiber)
    (next : ∀ tickets, program.Suits (work.incidentsOver table)
      { fiber with tickets := tickets, pc := fiber.pc + 1 }) (join : NodeKey) :
    ∃ next, work.arriveAt fiber join = .ok next ∧ next.Safe program table := by
  rw [UnitOfWork.arriveAt]
  split
  · exact ⟨_, rfl, (safe.retire fiber.id).completeIfIdle⟩
  · rename_i ticket _
    obtain ⟨arrival, reached, arrives, safe⟩ := safe.arrive ticket
    have same := @incidentsOver_of_same _ _ table (incidents_arrive arrives)
    have there := (fiber?_arrive work fiber.id arrives).trans found
    rw [arrives]
    cases arrival with
    | satisfied activation =>
      refine ⟨_, rfl, safe.updateFiber (fun other found' => ?_)⟩
      cases there.symm.trans found'
      rw [same]
      exact next _
    | waiting arrived expected => exact ⟨_, rfl, safe.retire fiber.id⟩
    | stale => exact ⟨_, rfl, (safe.retire fiber.id).completeIfIdle⟩

/-! ## Incidents -/

/-- A fiber, whatever it has computed before, may be halted on a new incident that is excused. -/
theorem Safe.halt (safe : work.Safe program table) {before : UnitOfWork} {incident : Incident}
    (resembles : work.Resembles incident.fiber before)
    (owned : incident.owner = work.record.id) (fresh : incident.id = ⟨work.supply.next⟩)
    (excused : program.Excuses incident)
    (empty : ∀ fiber, before.fiber? incident.fiber = some fiber -> fiber.Carries [])
    (next : incident.jobKey ≠ none -> program.Accepts (incident.address + 1)) :
    ({ before with supply := ⟨before.supply.next + 1⟩ }.halt incident).Safe program table := by
  let drawn : UnitOfWork := { before with supply := ⟨before.supply.next + 1⟩ }
  have halted := (steady_draw before).trans (steady_halt drawn incident)
  have fresh : incident.id = ⟨before.supply.next⟩ := resembles.supply ▸ fresh
  have recalls : before.Recalls table :=
    safe.recalls.of_same resembles.incidents
      (Nat.le_of_eq (congrArg IdSupply.next resembles.supply.symm))
  obtain ⟨recalls, recalled⟩ :=
    (spares_halt before incident (resembles.record ▸ owned) fresh).recalls recalls
  have raised : ∀ asked, ((drawn.halt incident).incidentsOver table).get? asked =
      if asked = incident.id then some incident else (before.incidentsOver table).get? asked :=
    get?_incidentsOver_halt drawn incident
  have table' := @incidentsOver_of_same work before table resembles.incidents
  refine ⟨recalls, ?_, fun {asked fiber'} found => ?_, fun {asked other} found owned => ?_⟩
  · have kept : (drawn.halt incident).record = work.record ∧
        (drawn.halt incident).state.barriers = work.state.barriers :=
      ⟨(record_updateFiber (drawn.emit _) incident.fiber _).trans resembles.record,
        (barriers_updateFiber (drawn.emit _) incident.fiber _).trans resembles.barriers⟩
    exact safe.counted.of_same (congrArg _ kept.1) kept.2
  · have found := (fiber?_park (drawn.emit _) incident.fiber asked incident.address
      (.incident incident.id)).symm.trans found
    split at found
    · rename_i here
      obtain ⟨former, there, rfl⟩ := Option.map_eq_some_iff.1 found
      have carries := empty former (here ▸ there)
      refine .incident ⟨carries.stack, carries.registers⟩ ?_ excused next
      rw [raised, if_pos rfl]
    · rename_i elsewhere
      have found : before.fiber? asked = some fiber' := found
      rw [resembles.elsewhere _ elsewhere] at found
      exact (safe.fibers found).recalled (table' ▸ recalled)
  · rw [raised, table'] at found
    split at found
    · cases found
      exact excused
    · exact safe.excused found ((owned.trans halted.id).trans (congrArg _ resembles.record))

end UnitOfWork

end ProcessEngine
