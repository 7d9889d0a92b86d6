import Mathlib
import ProcessEngine.Proofs.Deployments
import ProcessEngine.Proofs.Lineages

/-!
# Every loop is counted

Every cycle of the control flow of a compiled program counts a turn. So a fiber that comes back to
an address, or one that descends from it, has counted on the way, whatever the engine does
meanwhile: a counter of the instance has grown by one, and so has the epoch of the fiber
(`ProcessGraph.loops_counted`). Only where an operator lets a fiber begin again after an incident
nothing is counted. Units of work that the engine comes to are followed turn by turn and change by
change (`Engine.UnderWay`, `Engine.Succeeds`); whatever is stored of an instance was under way
before (`Engine.Advances.exists_underWay`).
-/

namespace ProcessEngine

open UnitOfWork Execution

/-! ## Work whose fibers resume without counting -/

namespace UnitOfWork

/-- Sheltered work on an instance of a program. Every fiber that waits goes on along edges along
which nothing is counted. -/
structure Traced (work : UnitOfWork) (program : Program)
    (table : OrderedMap IncidentId Incident) : Prop where
  own : work.record.program = program.hash
  sheltered : work.Sheltered program table
  stationed : Stationed program (work.incidentsOver table) work.fiber?

variable {work : UnitOfWork} {program : Program} {table : OrderedMap IncidentId Incident}
  {id : FiberId} {fiber : Fiber}

/-- A turn leaves fibers that come from those that were there before. -/
theorem Traced.turn (traced : work.Traced program table) (checked : program.Checked)
    (shielded : program.Shielded) (next : work.nextFiber? = some id) :
    (UnitOfWork.turn program id work).Traced program table ∧
      ∃ fiber, fiber.id = id ∧ work.fiber? id = some fiber ∧
        Descends program ((UnitOfWork.turn program id work).incidentsOver table) (some fiber)
          work.fiber? (UnitOfWork.turn program id work).fiber? := by
  obtain ⟨own, sheltered, stationed⟩ := traced
  have taken := (sheltered.takes checked shielded 1).1
  have ran := @ran_takeTurns program _ sheltered.shapely 1 0
  rw [takeTurns_succ program sheltered.shapely, next] at taken ran
  obtain ⟨-, fiber, rfl, found, ready⟩ := nextFiber_some sheltered.shapely next
  have descends := (turn_cases program found rfl).descends sheltered.shapely
    sheltered.safe.recalls stationed found ready
  exact ⟨⟨ran.confined.program.trans own, taken, descends.stationed⟩, fiber, rfl, found, descends⟩

theorem Traced.takes (traced : work.Traced program table) (checked : program.Checked)
    (shielded : program.Shielded) (remaining taken : Nat) :
    (takeTurns program remaining taken work).2.Traced program table := by
  induction remaining generalizing work taken with
  | zero => exact traced
  | succ remaining ih =>
    rw [takeTurns_succ program traced.sheltered.shapely]
    cases next : work.nextFiber? with
    | none => exact traced
    | some id => exact ih (traced.turn checked shielded next).1 _

/-- The fiber of a new instance does not wait. -/
theorem stationed_start (record : ProcessInstance) (now : Instant) (supply : IdSupply)
    (incidents : OrderedMap IncidentId Incident) :
    Stationed program incidents (UnitOfWork.create record now supply).start.2.fiber? := by
  intro asked fiber found
  have found := (fiber?_spawn (UnitOfWork.create record now supply) asked 0 none).symm.trans found
  split at found
  · cases found
    exact .ready
  · cases found

/-- A turn that counts adds one to a counter of the instance and to the epoch of its fiber. -/
theorem turn_incrementCounter (found : work.fiber? fiber.id = some fiber) {counter : Nat}
    {name : String} (reached : program.instruction? fiber.pc = some (.incrementCounter counter))
    (named : program.symbols.name? ⟨.counter, counter⟩ = some name) :
    (UnitOfWork.turn program fiber.id work).fiber? fiber.id =
        some { fiber with epoch := fiber.epoch + 1, pc := fiber.pc + 1 } ∧
      (UnitOfWork.turn program fiber.id work).record.counter name =
        work.record.counter name + 1 := by
  have counts : outcome (execute program fiber (.incrementCounter counter)) work = (.ok (),
      ((work.putFiber fiber.id { fiber with
          epoch := fiber.epoch + 1
          pc := fiber.pc + 1 }).updateRecord (fun record =>
        { record with
          counters := record.counters.insert name (work.record.counter name + 1) })).emit
        (.counterIncremented name (work.record.counter name + 1))) := by
    rw [execute, outcome_bind_ok (outcome_symbol named work), outcome_bind, outcome_onFiber found]
    rfl
  rw [UnitOfWork.turn, play_eq_of_reached found reached, counts]
  refine ⟨(fiber?_putFiber ..).trans (if_pos rfl), ?_⟩
  exact congrArg (Option.getD · 0) (OrderedMap.get?_insert_self ..)

end UnitOfWork

namespace Engine

variable {engine next first last : Engine MemoryStore} {program : Program} {scope : Scope}

/-- All instances of a program are sheltered, and stored with fibers that go on, when their waits
end, along edges along which nothing is counted. -/
structure Traced (engine : Engine MemoryStore) (program : Program) : Prop where
  sheltered : engine.Sheltered program
  stationed : ∀ id state, engine.store.states.get? id = some state ->
    state.record.program = program.hash -> Stationed program engine.store.incidents state.fiber?

/-- Work on a new instance begins traced. -/
theorem Traced.start (traced : engine.Traced program) (checked : program.Checked) {payload : Json}
    {correlation : String} (absent : engine.store.states.get? ⟨engine.supply.next⟩ = none) :
    (UnitOfWork.create (.create ⟨engine.supply.next⟩ program.hash payload correlation engine.now)
      engine.now ⟨engine.supply.next + 1⟩).start.2.Traced program engine.store.incidents :=
  ⟨rfl, traced.sheltered.start checked absent, stationed_start _ _ _ _⟩

/-- A change of a stored instance leaves fibers that were there before. -/
theorem Traced.change (traced : engine.Traced program) (checked : program.Checked)
    (shielded : program.Shielded) {id : InstanceId} {state : InstanceState} {purpose : Purpose}
    {changed : UnitOfWork} (stored : engine.store.states.get? id = some state)
    (own : state.record.program = program.hash)
    (intervened : Intervened engine.store id program
      (.begin state engine.now engine.supply) purpose changed) :
    changed.Traced program engine.store.incidents ∧
      Descends program (changed.incidentsOver engine.store.incidents) none state.fiber?
        changed.fiber? := by
  obtain ⟨sheltered, stationed⟩ := traced
  have descends := intervened.descends sheltered.orderly.filed
    (sheltered.beginning stored own).shapely (sheltered.orderly.sound _ _ stored).keyed
    (sheltered.anchored.beginning sheltered.orderly.sound stored) (stationed _ _ stored own)
  exact ⟨⟨intervened.continues.program.trans own,
    (sheltered.slice checked shielded stored own intervened 0).1, descends.stationed⟩, descends⟩

/-- What is traced when it is stored is traced afterwards. -/
theorem Traced.apply (traced : engine.Traced program) {work : UnitOfWork}
    (storable : engine.Storable work)
    (recalled : Recalled engine.store.incidents (work.incidentsOver engine.store.incidents))
    (mine : work.record.program = program.hash ->
      work.Traced program engine.store.incidents)
    (store : next.store = engine.store.apply work.finish.1) :
    ∀ id state, next.store.states.get? id = some state -> state.record.program = program.hash ->
      Stationed program next.store.incidents state.fiber? := by
  intro id state stored own
  have incidents : next.store.incidents = work.incidentsOver engine.store.incidents := by
    rw [store]
    rfl
  rw [store, storable.states_apply] at stored
  rw [incidents]
  split at stored
  · cases stored
    exact (mine own).stationed
  · intro asked fiber found
    exact (traced.stationed id state stored own asked fiber found).recalled recalled

/-- Every atomic step keeps the instances of a program traced. -/
theorem Advance.traced (advance : Advance scope engine next) (checked : program.Checked)
    (shielded : program.Shielded)
    (unique : ∀ other, scope.installs other -> other.Named program.hash -> other = program)
    (traced : engine.Traced program) : next.Traced program := by
  obtain ⟨orderly, catalogues, anchored, sole, -⟩ := traced.sheltered
  refine ⟨advance.sheltered checked shielded unique traced.sheltered, ?_⟩
  cases advance.act orderly.sound with
  | nothing untouched =>
    rw [untouched.states, untouched.incidents]
    exact traced.stationed
  | create known absent ran store supply took =>
    have reached := anchored.created catalogues known absent ran
    refine traced.apply (storable_create absent ran) reached.recalled (fun own => ?_) store
    obtain rfl := sole _ known (ran.confined.program.symm.trans own)
    obtain ⟨steps, rfl⟩ := took
    exact (traced.start checked absent).takes checked shielded steps 0
  | slice known stored own admitted intervened ran store supply took =>
    have reached := anchored.sliced orderly catalogues known stored own intervened ran
    refine traced.apply (storable_slice orderly.sound stored intervened ran).1 reached.recalled
      (fun mine => ?_) store
    have same := (intervened.continues.trans ran.confined.toContinues).program
    obtain rfl := sole _ known ((own.symm.trans same.symm).trans mine)
    obtain ⟨steps, rfl⟩ := took
    exact (traced.change checked shielded stored own intervened).1.takes checked shielded steps 0

theorem Fresh.traced (fresh : first.Fresh) (program : Program) : first.Traced program := by
  refine ⟨fresh.sheltered program, fun id state stored => ?_⟩
  rw [fresh.store] at stored
  cases stored

theorem Advances.traced (advances : Advances (.identifying program) first last)
    (checked : program.Checked) (shielded : program.Shielded) (fresh : first.Fresh) :
    last.Traced program :=
  advances.preserves
    (fun _ _ advance => advance.traced checked shielded (fun _ unique => unique))
    (fresh.traced program)

/-! ## Work that an engine comes to -/

/-- Work on an instance of a program that is under way in an engine that began as it did: a new
instance, a change of a stored one, or a turn. -/
inductive UnderWay (first : Engine MemoryStore) (program : Program) : UnitOfWork -> Prop where
  | created {engine payload correlation} (advances : Advances (.identifying program) first engine)
      (absent : engine.store.states.get? ⟨engine.supply.next⟩ = none) :
    UnderWay first program (UnitOfWork.create (.create ⟨engine.supply.next⟩ program.hash payload
      correlation engine.now) engine.now ⟨engine.supply.next + 1⟩).start.2
  | changed {engine id state purpose changed}
      (advances : Advances (.identifying program) first engine)
      (stored : engine.store.states.get? id = some state)
      (own : state.record.program = program.hash)
      (intervened : Intervened engine.store id program
        (.begin state engine.now engine.supply) purpose changed) : UnderWay first program changed
  | turned {work id} (prior : UnderWay first program work) (next : work.nextFiber? = some id) :
    UnderWay first program (UnitOfWork.turn program id work)

theorem UnderWay.traced {work : UnitOfWork} (underWay : first.UnderWay program work)
    (checked : program.Checked) (shielded : program.Shielded) (fresh : first.Fresh) :
    ∃ table, work.Traced program table := by
  induction underWay with
  | created advances absent =>
    exact ⟨_, (advances.traced checked shielded fresh).start checked absent⟩
  | changed advances stored own intervened =>
    have traced := advances.traced checked shielded fresh
    exact ⟨_, (traced.change checked shielded stored own intervened).1⟩
  | turned _ next ih =>
    obtain ⟨table, traced⟩ := ih
    exact ⟨table, (traced.turn checked shielded next).1⟩

theorem UnderWay.takes {work : UnitOfWork} (underWay : first.UnderWay program work)
    (shapely : work.Shapely) (remaining taken : Nat) :
    first.UnderWay program (takeTurns program remaining taken work).2 := by
  induction remaining generalizing work taken with
  | zero => exact underWay
  | succ remaining ih =>
    rw [takeTurns_succ program shapely]
    cases next : work.nextFiber? with
    | none => exact underWay
    | some id =>
      have ran := @ran_takeTurns program _ shapely 1 0
      rw [takeTurns_succ program shapely, next] at ran
      exact ih (underWay.turned next) (ran.shapely shapely) _

/-- Whatever is stored of an instance of the program was under way before. -/
theorem Advances.exists_underWay (advances : Advances (.identifying program) first last)
    (checked : program.Checked) (shielded : program.Shielded) (fresh : first.Fresh)
    {id : InstanceId} {state : InstanceState}
    (stored : last.store.states.get? id = some state)
    (own : state.record.program = program.hash) :
    ∃ work, first.UnderWay program work ∧ work.finish.2 = state := by
  induction advances generalizing id state with
  | refl =>
    rw [fresh.store] at stored
    cases stored
  | step prior advance ih =>
    obtain ⟨orderly, -, -, sole, -⟩ := (prior.traced checked shielded fresh).sheltered
    cases advance.act orderly.sound with
    | nothing untouched => exact ih (untouched.states ▸ stored) own
    | create known absent ran store supply took =>
      rw [store, (storable_create absent ran).states_apply] at stored
      split at stored
      · cases stored
        obtain rfl := sole _ known (ran.confined.program.symm.trans own)
        obtain ⟨steps, rfl⟩ := took
        exact ⟨_, (UnderWay.created prior absent).takes (shapely_start _) steps 0, rfl⟩
      · exact ih stored own
    | slice known stored' own' admitted intervened ran store supply took =>
      rw [store, (storable_slice orderly.sound stored' intervened ran).1.states_apply] at stored
      split at stored
      · cases stored
        have same := (intervened.continues.trans ran.confined.toContinues).program
        obtain rfl := sole _ known ((own'.symm.trans same.symm).trans own)
        obtain ⟨steps, rfl⟩ := took
        have shapely := intervened.shapely (shapely_begin (orderly.sound _ _ stored'))
        exact ⟨_, (UnderWay.changed prior stored' own' intervened).takes shapely steps 0, rfl⟩
      · exact ih stored own

end Engine

/-! ## Sightings of fibers -/

/-- A fiber as it is found in a unit of work. -/
structure Sighting where
  work : UnitOfWork
  fiber : Fiber
  found : work.fiber? fiber.id = some fiber

namespace Sighting

/-- An operator has let the fiber begin again after an incident. -/
def Restarts (former later : Sighting) : Prop :=
  (∃ incident, former.fiber.wait = .incident incident) ∧ later.fiber.wait = .ready

/-- The fiber has executed an instruction that counts: a counter of the instance has grown by one,
and so has the epoch of the fiber. -/
structure Counts (program : Program) (former later : Sighting) : Prop where
  same : later.fiber.id = former.fiber.id
  counts : ∃ counter name,
    program.instruction? former.fiber.pc = some (.incrementCounter counter) ∧
    program.symbols.name? ⟨.counter, counter⟩ = some name ∧
    later.work.record.counter name = former.work.record.counter name + 1
  epoch : later.fiber.epoch = former.fiber.epoch + 1

end Sighting

namespace Engine

/-- The next sighting of a fiber, or the first one of a fiber that is made in its turn: a fiber
takes its turn, or the state that was stored of the instance is changed. -/
inductive Succeeds (first : Engine MemoryStore) (program : Program) (former later : Sighting) :
    Prop where
  | turn {id} (next : former.work.nextFiber? = some id)
    (turned : later.work = UnitOfWork.turn program id former.work)
    (comes : later.fiber.id = former.fiber.id ∨
      former.fiber.id = id ∧ former.work.fiber? later.fiber.id = none)
  | change {engine id purpose} (advances : Advances (.identifying program) first engine)
    (stored : engine.store.states.get? id = some former.work.finish.2)
    (intervened : Intervened engine.store id program
      (.begin former.work.finish.2 engine.now engine.supply) purpose later.work)
    (same : later.fiber.id = former.fiber.id)

variable {first : Engine MemoryStore} {program : Program} {former later : Sighting}

/-- Only a fiber that counts or begins again goes on in another way than along an edge along which
nothing is counted. -/
theorem Succeeds.proceeds (succeeds : first.Succeeds program former later)
    (underWay : first.UnderWay program former.work) (checked : program.Checked)
    (shielded : program.Shielded) (fresh : first.Fresh) :
    first.UnderWay program later.work ∧ (former.Restarts later ∨ former.Counts program later ∨
      later.fiber.pc = former.fiber.pc ∨ program.Passes former.fiber.pc later.fiber.pc) := by
  obtain ⟨table, traced⟩ := underWay.traced checked shielded fresh
  cases succeeds with
  | @turn id next turned comes =>
    obtain ⟨-, actor, named, acts, descends⟩ := traced.turn checked shielded next
    have found := later.found
    rw [turned] at found
    obtain ⟨-, before, whence, proceeds⟩ := descends _ _ found
    obtain rfl : before = former.fiber := by
      rcases comes with same | ⟨mine, new⟩
      · rw [same, former.found, Option.some_or] at whence
        exact (Option.some.inj whence).symm
      · rw [new, Option.none_or] at whence
        rw [← mine, former.found] at acts
        exact (Option.some.inj whence).symm.trans (Option.some.inj acts).symm
    refine ⟨turned ▸ underWay.turned next, ?_⟩
    cases proceeds with
    | stays same => exact .inr (.inr (.inl same))
    | passes passes => exact .inr (.inr (.inr passes))
    | restarts halted ready => exact .inl ⟨⟨_, halted⟩, ready⟩
    | counts acts same counts =>
      cases acts
      subst named
      obtain ⟨counter, reached⟩ := counts
      obtain ⟨name, called⟩ := Option.isSome_iff_exists.1 (checked.known
        (List.mem_of_getElem? reached) ⟨.counter, counter⟩ List.mem_cons_self)
      obtain ⟨goesOn, counted⟩ := turn_incrementCounter former.found reached called
      rw [same, goesOn] at found
      refine .inr (.inl ⟨same, ⟨counter, name, reached, called, ?_⟩, ?_⟩)
      · rw [turned]
        exact counted
      · rw [← Option.some.inj found]
  | change advances stored intervened same =>
    obtain ⟨-, descends⟩ := (advances.traced checked shielded fresh).change checked shielded stored
      traced.own intervened
    obtain ⟨-, before, whence, proceeds⟩ := descends _ _ later.found
    obtain rfl : before = former.fiber := by
      have found : former.work.finish.2.fiber? former.fiber.id = some former.fiber := former.found
      rw [same, found, Option.some_or] at whence
      exact (Option.some.inj whence).symm
    refine ⟨.changed advances stored traced.own intervened, ?_⟩
    cases proceeds with
    | stays same => exact .inr (.inr (.inl same))
    | passes passes => exact .inr (.inr (.inr passes))
    | restarts halted ready => exact .inl ⟨⟨_, halted⟩, ready⟩
    | counts acts => cases acts

/-- As long as no fiber counts or begins again, control passes along edges along which nothing is
counted. -/
theorem passes_of_isChain {start : Sighting} {path : List Sighting}
    (chain : List.IsChain (fun former later =>
      first.Succeeds program former later ∧ ¬ former.Restarts later) (start :: path))
    (uncounted : ∀ former later, [former, later] <:+: start :: path ->
      ¬ former.Counts program later)
    (underWay : first.UnderWay program start.work) (checked : program.Checked)
    (shielded : program.Shielded) (fresh : first.Fresh) : ∀ passed ∈ start :: path,
      first.UnderWay program passed.work ∧
        Relation.ReflTransGen program.Passes start.fiber.pc passed.fiber.pc := by
  induction path generalizing start with
  | nil =>
    intro passed listed
    cases List.mem_singleton.1 listed
    exact ⟨underWay, .refl⟩
  | cons next path ih =>
    obtain ⟨⟨succeeds, goesOn⟩, chain⟩ := List.isChain_cons_cons.1 chain
    have silent := uncounted start next ⟨[], path, rfl⟩
    obtain ⟨ahead, proceeds⟩ := succeeds.proceeds underWay checked shielded fresh
    have begins : Relation.ReflTransGen program.Passes start.fiber.pc next.fiber.pc := by
      rcases (proceeds.resolve_left goesOn).resolve_left silent with same | passes
      · rw [same]
      · exact .single passes
    refine List.forall_mem_cons.2 ⟨⟨underWay, .refl⟩, fun passed listed => ?_⟩
    obtain ⟨reached, goes⟩ := ih chain (fun former later within => uncounted former later
      (within.trans (List.infix_cons (List.infix_refl _)))) ahead passed listed
    exact ⟨reached, begins.trans goes⟩

end Engine

/-- Every cycle of the control flow of a compiled program counts a turn. Whatever an engine does,
when a fiber comes back to an address that it has left, or one that descends from it comes there,
then one of them has counted on the way: a counter of the instance has grown by one, and so has the
epoch of the fiber; unless it has begun again after an incident. -/
theorem ProcessGraph.loops_counted {graph : ProcessGraph} {program : Program}
    (compiled : graph.compile = .ok program) :
    (∀ address path, List.IsChain program.Flows (address :: path ++ [address]) ->
      ∃ counting ∈ address :: path, program.CountsAt counting) ∧
    ∀ first : Engine MemoryStore, first.Fresh ->
      ∀ (start last : Sighting) (between : List Sighting),
      first.UnderWay program start.work ->
      List.IsChain (fun former later =>
        first.Succeeds program former later ∧ ¬ former.Restarts later)
        (start :: between ++ [last]) ->
      last.fiber.pc = start.fiber.pc ->
      (∃ passed ∈ between, passed.fiber.pc ≠ start.fiber.pc) ->
      ∃ former later, [former, later] <:+: start :: between ++ [last] ∧
        former.Counts program later := by
  have settles := ProcessGraph.settles_of_compile compiled
  have checked := ProcessGraph.checked_of_compile compiled
  have shielded := ProcessGraph.shielded_of_compile compiled
  refine ⟨fun address path cycle => Program.exists_countsAt_of_isChain settles cycle, ?_⟩
  intro first fresh start last between underWay chain returns passing
  obtain ⟨passed, listed, apart⟩ := passing
  by_contra silent
  have uncounted : ∀ former later, [former, later] <:+: start :: between ++ [last] ->
      ¬ former.Counts program later :=
    fun former later within counts => silent ⟨former, later, within, counts⟩
  obtain ⟨earlier, rest, rfl⟩ := List.append_of_mem listed
  obtain ⟨reached, leaves⟩ := Engine.passes_of_isChain chain uncounted underWay checked shielded
    fresh passed (by simp)
  have split : start :: (earlier ++ passed :: rest) ++ [last] =
      (start :: earlier) ++ (passed :: (rest ++ [last])) := by simp
  rw [split] at chain uncounted
  obtain ⟨-, comes⟩ := Engine.passes_of_isChain chain.right_of_append
    (fun former later within => uncounted former later
      (within.trans (List.suffix_append _ _).isInfix)) reached checked shielded fresh last (by simp)
  rw [returns] at comes
  rcases Relation.reflTransGen_iff_eq_or_transGen.1 leaves with same | away
  · exact apart same
  · exact Program.not_transGen_passes settles _ (away.trans_left comes)

namespace Polling

def start : NodeKey := ⟨"s", Eq.refl true⟩
def check : NodeKey := ⟨"c", Eq.refl true⟩
def again : NodeKey := ⟨"a", Eq.refl true⟩
def done : NodeKey := ⟨"d", Eq.refl true⟩

/-- A process that asks for a flag again and again. -/
def nodes : List Node := [⟨start, .start⟩, ⟨check, .exclusiveGateway⟩, ⟨again, .exclusiveGateway⟩,
  ⟨done, .finish false⟩]

def flows : List Flow := [
  { source := start, target := check },
  { source := check, target := again, isDefault := true },
  { source := again, target := check },
  { source := check, target := done, condition := some (.flag "ready") }]

theorem made : (ProcessGraph.ofParts nodes flows).toOption.isSome := by decide +kernel

def graph : ProcessGraph := (ProcessGraph.ofParts nodes flows).toOption.get made

/-- There is nothing wrong with it. -/
theorem sound : graph.problems = [] := by decide_cbv

/-- Verification accepts it. -/
def verified : VerifiedGraph where
  graph := graph
  start := start
  pairs := graph.pairs
  sound := sound
  startNodes_eq := by decide +kernel
  pairs_eq := rfl

def instructions : List (Instruction Address) := [.jump 1, .loadFlag 0, .branchIf 4, .jump 5,
  .finish, .jump 7, .fault (.noRoute 0), .incrementCounter 0, .jump 1]

def symbols : SymbolTable := { nodes := [again], flags := ["ready"], counters := ["c"] }

theorem code : ((Lowering.code verified).run {}).toOption.map (fun ((blocks, stubs), gathered) =>
    ((Assembly.allCode blocks stubs).map (Instruction.mapTargets (Assembly.resolve blocks stubs)),
      gathered.symbols)) = some (instructions, symbols) := by
  decide_cbv

def engine : Engine MemoryStore where
  store := {}
  now := default
  supply := ⟨0⟩

section

variable (entries : OrderedMap NodeKey Address) (hash : ProgramHash)

def program : Program := ⟨instructions, { symbols with entries }, hash⟩

/-- It is compiled. -/
theorem compiles : ∃ entries hash, graph.compile = .ok (program entries hash) :=
  @VerifiedGraph.compiles_of_code verified _ _ (Option.some_get made).symm (by simp [nodes])
    _ _ code

/-- An instance after some turns. -/
def work : Nat -> UnitOfWork
  | 0 => (create (.create ⟨0⟩ hash .null "" default) default ⟨1⟩).start.2
  | turns + 1 => turn (program entries hash) ⟨1⟩ (work turns)

/-- Its fiber goes round once. -/
def fiber (turns : Nat) : Fiber :=
  let fresh := Fiber.create ⟨1⟩ ⟨0⟩ 0 0
  match turns with
  | 0 => fresh
  | 1 => { fresh with pc := 1 }
  | 2 => { fresh with pc := 2, stack := [.bool false] }
  | 3 => { fresh with pc := 3 }
  | 4 => { fresh with pc := 5 }
  | 5 => { fresh with pc := 7 }
  | 6 => { fresh with pc := 8, epoch := 1 }
  | _ => { fresh with pc := 1, epoch := 1 }

/-- Whenever its turn comes it is there. -/
theorem goesRound : (List.range 8).all (fun turns =>
    (work entries hash turns).fiber? ⟨1⟩ == some (fiber turns) &&
      (work entries hash turns).nextFiber? == some ⟨1⟩) = true := by
  cbv

theorem found_next {turns : Nat} (few : turns ≤ 7) :
    (work entries hash turns).fiber? ⟨1⟩ = some (fiber turns) ∧
      (work entries hash turns).nextFiber? = some ⟨1⟩ := by
  have goes := List.all_eq_true.1 (goesRound entries hash) turns
    (List.mem_range.2 (Nat.lt_succ_of_le few))
  rw [Bool.and_eq_true] at goes
  exact ⟨eq_of_beq goes.1, eq_of_beq goes.2⟩

theorem same (turns : Nat) : (fiber turns).id = ⟨1⟩ ∧ (fiber turns).wait = .ready := by
  unfold fiber
  split <;> exact ⟨rfl, rfl⟩

def sighting (turns : Nat) (few : turns ≤ 7) : Sighting where
  work := work entries hash turns
  fiber := fiber turns
  found := (same turns).1 ▸ (found_next entries hash few).1

theorem succeeds (turns : Nat) (few : turns + 1 ≤ 7) :
    engine.Succeeds (program entries hash) (sighting entries hash turns (Nat.le_of_succ_le few))
        (sighting entries hash (turns + 1) few) ∧
      ¬ (sighting entries hash turns (Nat.le_of_succ_le few)).Restarts
        (sighting entries hash (turns + 1) few) := by
  refine ⟨.turn (found_next entries hash (Nat.le_of_succ_le few)).2 rfl
    (.inl ((same (turns + 1)).1.trans (same turns).1.symm)), ?_⟩
  rintro ⟨⟨incident, halted⟩, -⟩
  cases (same turns).2.symm.trans halted

theorem underWay {turns : Nat} (few : turns ≤ 7) :
    engine.UnderWay (program entries hash) (work entries hash turns) := by
  induction turns with
  | zero => exact .created .refl rfl
  | succ turns ih =>
    have few := Nat.le_of_succ_le few
    exact (ih few).turned (found_next entries hash few).2

/-- What is seen of the fiber between the two times that it asks. -/
def between : List Sighting := [sighting entries hash 2 (by decide),
  sighting entries hash 3 (by decide), sighting entries hash 4 (by decide),
  sighting entries hash 5 (by decide), sighting entries hash 6 (by decide)]

theorem chain : List.IsChain (fun former later =>
    engine.Succeeds (program entries hash) former later ∧ ¬ former.Restarts later)
    (sighting entries hash 1 (by decide) :: between entries hash ++
      [sighting entries hash 7 (by decide)]) :=
  .cons_cons (succeeds entries hash 1 _) (.cons_cons (succeeds entries hash 2 _)
    (.cons_cons (succeeds entries hash 3 _) (.cons_cons (succeeds entries hash 4 _)
      (.cons_cons (succeeds entries hash 5 _) (.cons_cons (succeeds entries hash 6 _)
        (.singleton _))))))

end

end Polling

open Polling in
/-- When the flag is asked for again, this has been counted. -/
theorem loops_counted_of_polling : ∃ program start last between,
    graph.compile = .ok program ∧ engine.UnderWay program (Sighting.work start) ∧
    List.IsChain (fun former later => engine.Succeeds program former later ∧
      ¬ former.Restarts later) (start :: between ++ [last]) ∧
    last.fiber.pc = start.fiber.pc ∧ (∃ passed ∈ between, passed.fiber.pc ≠ start.fiber.pc) ∧
    ∃ former later, [former, later] <:+: start :: between ++ [last] ∧
      former.Counts program later := by
  obtain ⟨entries, hash, compiled⟩ := compiles
  have underWay := underWay entries hash (show 1 ≤ 7 by decide)
  have passing : ∃ passed ∈ between entries hash,
      passed.fiber.pc ≠ (sighting entries hash 1 (by decide)).fiber.pc :=
    ⟨_, List.mem_cons_self, show (2 : Nat) ≠ 1 by decide⟩
  have counted := (ProcessGraph.loops_counted compiled).2 engine ⟨rfl, rfl⟩ _ _ _ underWay
    (chain entries hash) rfl passing
  exact ⟨_, _, _, _, compiled, underWay, chain entries hash, rfl, passing, counted⟩

end ProcessEngine
