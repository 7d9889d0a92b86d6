import ProcessEngine.Proofs.FaultFreedom
import ProcessEngine.Proofs.WatchedWork
import ProcessEngine.Proofs.Wakes

/-!
# Engines that look after watchdogs

An engine is sheltered for a compiled program if all instances of it are stored in safe states with
well guarded fibers (`Engine.Sheltered`). Every atomic step keeps that and whatever every change of
well guarded fibers keeps (`Engine.Advance.tracks`), as long as the hash of the program identifies
it among those that the engine is given.
-/

namespace ProcessEngine

open UnitOfWork

namespace UnitOfWork

/-- Safe work whose fibers are well guarded. -/
structure Sheltered (work : UnitOfWork) (program : Program)
    (table : OrderedMap IncidentId Incident) : Prop where
  safe : work.Safe program table
  shapely : work.Shapely
  guarded : WellGuarded program (work.incidentsOver table) work.fiber?

variable {work : UnitOfWork} {program : Program} {table : OrderedMap IncidentId Incident}

/-- However many turns are taken, work stays sheltered, and what every step keeps is kept. -/
theorem Sheltered.takes (sheltered : work.Sheltered program table) (checked : program.Checked)
    (shielded : program.Shielded) (steps : Nat) :
    (takeTurns program steps 0 work).2.Sheltered program table ∧
    ∀ {watchdog Holds}, Endures program watchdog Holds -> watchdog.number < work.supply.next ->
      Holds work.fiber? -> Holds (takeTurns program steps 0 work).2.fiber? := by
  obtain ⟨safe, shapely, guarded⟩ := sheltered
  obtain ⟨guarded, keeps⟩ := safe.watches checked shielded shapely guarded steps 0
  exact ⟨⟨safe.takes checked shapely steps 0, (ran_takeTurns shapely steps 0).shapely shapely,
    guarded⟩, keeps⟩

/-- A new instance has only a fiber without a watchdog. -/
theorem wellGuarded_start (record : ProcessInstance) (now : Instant) (supply : IdSupply)
    (incidents : OrderedMap IncidentId Incident) :
    WellGuarded program incidents (UnitOfWork.create record now supply).start.2.fiber? := by
  have bare (id : FiberId) : BareAt (UnitOfWork.create record now supply).start.2.fiber? id := by
    intro fiber found
    have found := (fiber?_spawn (UnitOfWork.create record now supply) id 0 none).symm.trans found
    split at found
    · cases found
      exact ⟨rfl, rfl⟩
    · cases found
  refine ⟨fun found knows => absurd (bare _ _ found).unguarded knows, fun found watches => ?_,
    fun found knows => ?_⟩
  · rw [(bare _ _ found).free] at watches
    cases watches
  · rw [(bare _ _ found).unguarded] at knows
    cases knows

end UnitOfWork

/-- Every change keeps work sheltered, and what every step keeps. -/
theorem Intervened.sheltered {store : MemoryStore} {id : InstanceId} {program : Program}
    {state : InstanceState} {now : Instant} {supply : IdSupply} {purpose : Purpose}
    {changed : UnitOfWork}
    (intervened : Intervened store id program (.begin state now supply) purpose changed)
    (checked : program.Checked) (filed : store.Filed) (same : state.record.id = id)
    (anchored : (UnitOfWork.begin state now supply).Anchored store)
    (sheltered : (UnitOfWork.begin state now supply).Sheltered program store.incidents) :
    changed.Sheltered program store.incidents ∧
    ∀ {watchdog Holds}, Endures program watchdog Holds -> watchdog.number < supply.next ->
      Holds state.fiber? -> Holds changed.fiber? := by
  obtain ⟨safe, shapely, guarded⟩ := sheltered
  have handled := intervened.handled shapely safe.recalls guarded
  have recalled := (intervened.anchored filed shapely same anchored).recalled
  exact ⟨⟨intervened.safe checked same anchored safe, intervened.shapely shapely,
    guarded.handled shapely handled recalled⟩, fun endures drawn => endures drawn handled⟩

namespace Engine

variable {engine next first last : Engine MemoryStore} {program : Program} {scope : Scope}
  {owner : InstanceId} {watchdog : FiberId} {Holds : (FiberId -> Option Fiber) -> Prop}

/-! ## Stored instances are sheltered -/

/-- All instances of a program are stored in safe states with well guarded fibers. -/
structure Sheltered (engine : Engine MemoryStore) (program : Program) : Prop where
  orderly : engine.Orderly
  catalogues : engine.Catalogues
  anchored : engine.Anchored
  sole : engine.Sole program
  secure : engine.Secure program
  guarded : ∀ id state, engine.store.states.get? id = some state ->
    state.record.program = program.hash -> WellGuarded program engine.store.incidents state.fiber?

/-- Work on a stored instance begins sheltered. -/
theorem Sheltered.beginning (sheltered : engine.Sheltered program) {id : InstanceId}
    {state : InstanceState} (stored : engine.store.states.get? id = some state)
    (own : state.record.program = program.hash) :
    (UnitOfWork.begin state engine.now engine.supply).Sheltered program engine.store.incidents :=
  ⟨sheltered.secure.beginning sheltered.anchored sheltered.orderly.sound stored own,
    shapely_begin (sheltered.orderly.sound _ _ stored), sheltered.guarded _ _ stored own⟩

/-- Work on a new instance begins sheltered. -/
theorem Sheltered.start (sheltered : engine.Sheltered program) (checked : program.Checked)
    {payload : Json} {correlation : String}
    (absent : engine.store.states.get? ⟨engine.supply.next⟩ = none) :
    (UnitOfWork.create (.create ⟨engine.supply.next⟩ program.hash payload correlation engine.now)
      engine.now ⟨engine.supply.next + 1⟩).start.2.Sheltered program engine.store.incidents :=
  ⟨sheltered.secure.start sheltered.anchored checked absent, shapely_start _,
    wellGuarded_start _ _ _ _⟩

/-- A slice of a stored instance keeps work sheltered, and what every step keeps. -/
theorem Sheltered.slice (sheltered : engine.Sheltered program) (checked : program.Checked)
    (shielded : program.Shielded) {id : InstanceId} {state : InstanceState} {purpose : Purpose}
    {changed : UnitOfWork} (stored : engine.store.states.get? id = some state)
    (own : state.record.program = program.hash)
    (intervened : Intervened engine.store id program
      (.begin state engine.now engine.supply) purpose changed) (steps : Nat) :
    (takeTurns program steps 0 changed).2.Sheltered program engine.store.incidents ∧
    ∀ {watchdog Holds}, Endures program watchdog Holds -> watchdog.number < engine.supply.next ->
      (Holds state.fiber? -> Holds changed.fiber?) ∧
        (Holds changed.fiber? -> Holds (takeTurns program steps 0 changed).2.fiber?) := by
  obtain ⟨reached, keeps⟩ := intervened.sheltered checked sheltered.orderly.filed
    (sheltered.orderly.sound _ _ stored).keyed
    (sheltered.anchored.beginning sheltered.orderly.sound stored) (sheltered.beginning stored own)
  obtain ⟨taken, keeps'⟩ := reached.takes checked shielded steps
  exact ⟨taken, fun endures drawn => ⟨keeps endures drawn,
    keeps' endures (Nat.lt_of_lt_of_le drawn intervened.continues.supply)⟩⟩

/-- What is well guarded when it is stored is well guarded afterwards. -/
theorem Sheltered.apply (sheltered : engine.Sheltered program) {work : UnitOfWork}
    (storable : engine.Storable work) (reached : work.Anchored engine.store)
    (mine : work.record.program = program.hash ->
      work.Sheltered program engine.store.incidents)
    (store : next.store = engine.store.apply work.finish.1) :
    ∀ id state, next.store.states.get? id = some state -> state.record.program = program.hash ->
      WellGuarded program next.store.incidents state.fiber? := by
  intro id state stored own
  have incidents : next.store.incidents = work.incidentsOver engine.store.incidents := by
    rw [store]
    rfl
  rw [store, storable.states_apply] at stored
  rw [incidents]
  split at stored
  · cases stored
    exact (mine own).guarded
  · exact (sheltered.guarded id state stored own).loosened
      (sheltered.orderly.sound _ _ stored).shaped (.of_same (fun _ => rfl)) reached.recalled

/-- Every atomic step keeps the instances of a program sheltered. -/
theorem Advance.sheltered (advance : Advance scope engine next) (checked : program.Checked)
    (shielded : program.Shielded)
    (unique : ∀ other, scope.installs other -> other.Named program.hash -> other = program)
    (sheltered : engine.Sheltered program) : next.Sheltered program := by
  obtain ⟨orderly, catalogues, anchored, sole, secure, guarded⟩ := sheltered
  refine ⟨advance.orderly orderly, advance.catalogues catalogues,
    advance.anchored orderly catalogues anchored, advance.sole sole unique,
    advance.secure checked orderly catalogues anchored sole secure, ?_⟩
  have sheltered : engine.Sheltered program :=
    ⟨orderly, catalogues, anchored, sole, secure, guarded⟩
  cases advance.act orderly.sound with
  | nothing untouched =>
    rw [untouched.states, untouched.incidents]
    exact guarded
  | create known absent ran store supply took =>
    refine sheltered.apply (storable_create absent ran)
      (anchored.created catalogues known absent ran) (fun own => ?_) store
    obtain rfl := sole _ known (ran.confined.program.symm.trans own)
    obtain ⟨steps, rfl⟩ := took
    exact ((sheltered.start checked absent).takes checked shielded steps).1
  | slice known stored own admitted intervened ran store supply took =>
    refine sheltered.apply (storable_slice orderly.sound stored intervened ran).1
      (anchored.sliced orderly catalogues known stored own intervened ran) (fun mine => ?_) store
    have same := (intervened.continues.trans ran.confined.toContinues).program
    obtain rfl := sole _ known ((own.symm.trans same.symm).trans mine)
    obtain ⟨steps, rfl⟩ := took
    exact (sheltered.slice checked shielded stored own intervened steps).1

theorem Fresh.sheltered (fresh : first.Fresh) (program : Program) : first.Sheltered program := by
  refine ⟨fresh.orderly, fresh.supplied.toCatalogues, fresh.anchored, fresh.sole program,
    fresh.secure program, fun id state stored => ?_⟩
  rw [fresh.store] at stored
  cases stored

/-! ## What is kept of one instance -/

/-- An instance of the program is stored, and this holds of its fibers. -/
structure Tracks (engine : Engine MemoryStore) (program : Program) (owner : InstanceId)
    (watchdog : FiberId) (Holds : (FiberId -> Option Fiber) -> Prop) : Prop where
  stored : ∃ state, engine.store.states.get? owner = some state ∧
    state.record.program = program.hash
  drawn : watchdog.number < engine.supply.next
  holds : Holds (engine.fiber? owner)

theorem fiber?_of_stored {state : InstanceState}
    (stored : engine.store.states.get? owner = some state) :
    engine.fiber? owner = state.fiber? := by
  funext asked
  rw [Engine.fiber?, stored]
  rfl

/-- Every atomic step keeps of an instance what every change of well guarded fibers keeps. -/
theorem Advance.tracks (advance : Advance scope engine next) (checked : program.Checked)
    (shielded : program.Shielded) (sheltered : engine.Sheltered program)
    (endures : Endures program watchdog Holds)
    (tracks : engine.Tracks program owner watchdog Holds) :
    next.Tracks program owner watchdog Holds := by
  obtain ⟨⟨state, stored, own⟩, drawn, holds⟩ := tracks
  have sound := sheltered.orderly.sound
  have same : next.store.states.get? owner = some state ->
      engine.supply.next ≤ next.supply.next -> next.Tracks program owner watchdog Holds := by
    intro still later
    refine ⟨⟨state, still, own⟩, Nat.lt_of_lt_of_le drawn later, ?_⟩
    rw [fiber?_of_stored still, ← fiber?_of_stored stored]
    exact holds
  cases advance.act sound with
  | nothing untouched => exact same (untouched.states ▸ stored) untouched.supply
  | create known absent ran store supply took =>
    have storable := storable_create absent ran
    refine same ?_ (supply ▸ storable.supply)
    rw [store, storable.states_apply, if_neg]
    · exact stored
    · rintro rfl
      cases stored.symm.trans ((congrArg _ ran.confined.id).trans absent)
  | slice known stored' own' admitted intervened ran store supply took =>
    rename_i id purpose state' other changed work
    obtain ⟨storable, named⟩ := storable_slice sound stored' intervened ran
    by_cases mine : id = owner
    · subst mine
      cases stored.symm.trans stored'
      obtain rfl := sheltered.sole _ known (own'.symm.trans own)
      have still : next.store.states.get? id = some work.finish.2 := by
        rw [store, storable.states_apply, if_pos named.symm]
      refine ⟨⟨_, still, ?_⟩, supply ▸ Nat.lt_of_lt_of_le drawn storable.supply, ?_⟩
      · exact (intervened.continues.trans ran.confined.toContinues).program.trans own
      · obtain ⟨steps, rfl⟩ := took
        obtain ⟨changes, turns⟩ :=
          (sheltered.slice checked shielded stored own intervened steps).2 endures drawn
        rw [fiber?_of_stored still]
        exact turns (changes (fiber?_of_stored stored ▸ holds))
    · refine same ?_ (supply ▸ storable.supply)
      rw [store, storable.states_apply, if_neg]
      · exact stored
      · exact fun same => mine (named.symm.trans same.symm)

end Engine

/-! ## Programs that their hashes identify -/

/-- Everything is admitted, but no other program of the same hash is brought. -/
def Scope.identifying (program : Program) : Scope :=
  ⟨fun _ => True, fun other => other.Named program.hash -> other = program⟩

namespace Engine

variable {engine first last : Engine MemoryStore} {program : Program} {owner : InstanceId}
  {watchdog : FiberId} {Holds : (FiberId -> Option Fiber) -> Prop}

/-- Operations bring no other program of the hash if it identifies the program among those that
they bring. -/
theorem advances_identifying {operations : List EngineOperation}
    (identified : Identified (engine.entriesOf operations) program) :
    Advances (.identifying program) engine (engine.performAll operations) := by
  induction operations generalizing engine with
  | nil => exact .refl
  | cons operation rest ih =>
    obtain ⟨head, others⟩ := List.forall_mem_cons.1 identified
    exact ((operation.advances engine).widen (fun _ _ => trivial) head).trans (ih others)

/-- An engine that began without anything stored is sheltered. -/
theorem Advances.sheltered (advances : Advances (.identifying program) first last)
    (checked : program.Checked) (shielded : program.Shielded)
    (sheltered : first.Sheltered program) : last.Sheltered program :=
  advances.preserves
    (fun _ _ advance => advance.sheltered checked shielded (fun _ unique => unique)) sheltered

theorem Advances.tracks (advances : Advances (.identifying program) first last)
    (checked : program.Checked) (shielded : program.Shielded)
    (sheltered : first.Sheltered program) (endures : Endures program watchdog Holds)
    (tracks : first.Tracks program owner watchdog Holds) :
    last.Tracks program owner watchdog Holds := by
  have step : ∀ engine next, Advance (.identifying program) engine next ->
      engine.Sheltered program ∧ engine.Tracks program owner watchdog Holds ->
        next.Sheltered program ∧ next.Tracks program owner watchdog Holds := by
    rintro engine next advance ⟨sheltered, tracks⟩
    exact ⟨advance.sheltered checked shielded (fun _ unique => unique) sheltered,
      advance.tracks checked shielded sheltered endures tracks⟩
  exact (advances.preserves step ⟨sheltered, tracks⟩).2

end Engine

end ProcessEngine
