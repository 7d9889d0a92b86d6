import ProcessEngine.Proofs.Bounds
import ProcessEngine.Proofs.FaultFreedom

/-!
# Checked parts suffice

The parts of a program are checked just once, when it is made, and whatever an engine does with an
instance of it later relies on that. An engine encloses a program if all instances of it are stored
with fibers within the program (`Engine.Encloses`). Every atomic step keeps that, so after any
history no fiber is or will go outside, and no step of a fiber fails in a way that is not foreseen
(`Engine.Covers`).
-/

namespace ProcessEngine

open UnitOfWork Execution

/-! ## Runs within the program -/

namespace UnitOfWork

variable {work next : UnitOfWork} {program : Program} {table : OrderedMap IncidentId Incident}

/-- All fibers are within the program, and a step of the fiber whose turn it is fails only as it is
foreseen. -/
structure Covered (work : UnitOfWork) (program : Program) : Prop where
  holds : ∀ {id fiber}, work.fiber? id = some fiber -> program.Holds fiber
  fails : ∀ {id error}, work.nextFiber? = some id ->
    (outcome (step program id) work).1 = .error error -> program.Foresees error

/-- However many turns are taken, work stays covered. -/
def StaysCovered (program : Program) (work : UnitOfWork) : Prop :=
  ∀ steps, (takeTurns program steps 0 work).2.Covered program

/-- Whatever turns are taken, no fiber leaves the program. -/
theorem Ran.enclosed (ran : Ran program work next) (sound : program.problem? = none)
    (shapely : work.Shapely) (recalls : work.Recalls table)
    (enclosed : work.state.Enclosed program (work.incidentsOver table)) :
    next.Recalls table ∧ next.state.Enclosed program (next.incidentsOver table) := by
  induction ran with
  | refl => exact ⟨recalls, enclosed⟩
  | step prior running found ready turned ih =>
    obtain ⟨recalls, enclosed⟩ := ih
    have shapely := prior.shapely shapely
    exact ⟨((turned.spares shapely).recalls recalls).1,
      turned.enclosed sound shapely recalls enclosed found ready⟩

theorem covered_of_enclosed {incidents : OrderedMap IncidentId Incident} (shapely : work.Shapely)
    (sound : program.problem? = none) (enclosed : work.state.Enclosed program incidents) :
    work.Covered program := by
  refine ⟨fun found => (enclosed.fibers found).toHolds, fun {id error} next fails => ?_⟩
  obtain ⟨running, fiber, rfl, found, -⟩ := nextFiber_some shapely next
  exact foresees_of_fails enclosed sound running found fails

theorem staysCovered_of_enclosed (sound : program.problem? = none) (shapely : work.Shapely)
    (recalls : work.Recalls table)
    (enclosed : work.state.Enclosed program (work.incidentsOver table)) :
    StaysCovered program work := by
  intro steps
  have ran := @ran_takeTurns program _ shapely steps 0
  exact covered_of_enclosed (ran.shapely shapely) sound
    (ran.enclosed sound shapely recalls enclosed).2

end UnitOfWork

namespace Engine

variable {engine next first last : Engine MemoryStore} {program : Program} {scope : Scope}
  {work : UnitOfWork} {entries : List HistoryEntry}

/-! ## Stored instances -/

/-- All instances of the program are stored with fibers within it. -/
def Encloses (engine : Engine MemoryStore) (program : Program) : Prop :=
  ∀ id state, engine.store.states.get? id = some state -> state.record.program = program.hash ->
    state.Enclosed program engine.store.incidents

/-- Work on a new instance finds the incidents that are stored. -/
theorem Anchored.recalls_start (anchored : engine.Anchored) (record : ProcessInstance) :
    (UnitOfWork.create record engine.now ⟨engine.supply.next + 1⟩).start.2.Recalls
      engine.store.incidents := by
  intro id incident found
  obtain ⟨named, drawn⟩ := anchored.keyed id incident found
  exact ⟨named, Nat.lt_succ_of_lt (Nat.lt_succ_of_lt drawn)⟩

/-- A new instance begins at the first instruction. -/
theorem enclosed_start (record : ProcessInstance) (now : Instant)
    (supply : IdSupply) (unexpected : record.expected = .empty)
    (incidents : OrderedMap IncidentId Incident) :
    (UnitOfWork.create record now supply).start.2.state.Enclosed program incidents := by
  have created : (UnitOfWork.create record now supply).state.Enclosed program incidents := by
    refine ⟨fun found => ?_, fun join expected expects => ?_⟩
    · cases found
    · rw [show (UnitOfWork.create record now supply).state.record.expected = .empty from
        unexpected] at expects
      cases expects
  exact created.spawn (Nat.zero_le _) none

/-- What is within the program when it is stored is within it afterwards. -/
theorem Encloses.apply (encloses : engine.Encloses program) (storable : engine.Storable work)
    (recalled : Recalled engine.store.incidents (work.incidentsOver engine.store.incidents))
    (enclosed : work.record.program = program.hash ->
      work.state.Enclosed program (work.incidentsOver engine.store.incidents))
    (store : next.store = engine.store.apply work.finish.1) : next.Encloses program := by
  intro id state stored own
  have incidents : next.store.incidents = work.incidentsOver engine.store.incidents := by
    rw [store]
    rfl
  rw [store, storable.states_apply] at stored
  rw [incidents]
  split at stored
  · cases stored
    exact ⟨(enclosed own).fibers, (enclosed own).counted⟩
  · exact (encloses id state stored own).recalled recalled

/-- Every atomic step keeps the instances of a program within it. -/
theorem Advance.encloses (advance : Advance scope engine next) (sound : program.problem? = none)
    (orderly : engine.Orderly) (catalogues : engine.Catalogues) (anchored : engine.Anchored)
    (sole : engine.Sole program) (encloses : engine.Encloses program) : next.Encloses program := by
  cases advance.act orderly.sound with
  | nothing untouched =>
    rw [Encloses, untouched.states, untouched.incidents]
    exact encloses
  | create known absent ran store supply took =>
    have reached := anchored.created catalogues known absent ran
    refine encloses.apply (storable_create absent ran) reached.recalled (fun own => ?_) store
    obtain rfl := sole _ known (ran.confined.program.symm.trans own)
    exact (ran.enclosed sound (shapely_start _) (anchored.recalls_start _)
      (enclosed_start _ _ _ rfl _)).2
  | slice known stored own admitted intervened ran store supply took =>
    have reached := anchored.sliced orderly catalogues known stored own intervened ran
    refine encloses.apply (storable_slice orderly.sound stored intervened ran).1 reached.recalled
      (fun mine => ?_) store
    have begun := orderly.sound _ _ stored
    have same := (intervened.continues.trans ran.confined.toContinues).program
    obtain rfl := sole _ known ((own.symm.trans same.symm).trans mine)
    have anchored := anchored.beginning orderly.sound stored
    have shapely := @shapely_begin _ _ engine.now engine.supply begun
    have changed := intervened.anchored orderly.filed shapely begun.keyed anchored
    exact (ran.enclosed sound (intervened.shapely shapely) changed.recalls
      (intervened.enclosed sound orderly.filed shapely begun.keyed anchored
        (encloses _ _ stored own))).2

theorem Fresh.encloses (fresh : first.Fresh) (program : Program) : first.Encloses program := by
  intro id state stored
  rw [fresh.store] at stored
  cases stored

/-! ## Histories -/

/-- Whatever an engine was asked, the instances of a program whose parts are checked are within
it. -/
theorem History.encloses (history : History first entries last) (fresh : first.Fresh)
    (sound : program.problem? = none) (identified : Identified entries program) :
    last.Encloses program :=
  (history.preserves_sole fresh identified
    (fun _ _ _ advance orderly catalogues anchored sole encloses =>
      advance.encloses sound orderly catalogues anchored sole encloses)
    (fresh.encloses program)).2

/-- No fiber of an instance of the program is outside of it or will go there, and no step will fail
in a way that is not foreseen. -/
structure Covers (engine : Engine MemoryStore) (program : Program) : Prop where
  /-- Stored fibers are within the program. -/
  stored : ∀ {id state}, engine.store.states.get? id = some state ->
    state.record.program = program.hash ->
    ∀ {fiberId fiber}, state.fiber? fiberId = some fiber -> program.Holds fiber
  /-- So are those of a new instance, after any number of turns. -/
  begins : ∀ payload correlation, StaysCovered program (UnitOfWork.create
    (.create ⟨engine.supply.next⟩ program.hash payload correlation engine.now) engine.now
      ⟨engine.supply.next + 1⟩).start.2
  /-- Whatever is done with a stored instance, they are within it after any number of turns. -/
  continues : ∀ {id state}, engine.store.states.get? id = some state ->
    state.record.program = program.hash ->
    ∀ {purpose} {Result : Type} {change : Change Result} {result changed},
      Intervention engine.store engine.config id purpose change ->
      change program (UnitOfWork.begin state engine.now engine.supply) = .ok (result, changed) ->
      StaysCovered program changed

/-- Whatever an engine was asked, the fibers of a program that was made from parts never leave it,
and their steps fail only as it is foreseen. -/
theorem History.covers (history : History first entries last) (fresh : first.Fresh)
    {instructions : List (Instruction Address)} {symbols : SymbolTable}
    (made : Program.ofParts instructions symbols = .ok program)
    (identified : Identified entries program) : last.Covers program := by
  have sound : program.problem? = none := (Program.ofParts_eq_ok_iff.1 made).2.2.2
  have orderly := history.orderly fresh
  have anchored := history.anchored fresh
  have encloses := history.encloses fresh sound identified
  refine ⟨fun stored own _ _ found => ((encloses _ _ stored own).fibers found).toHolds,
    fun payload correlation => ?_,
    fun {id state} stored own {purpose Result change result changed} intended made => ?_⟩
  · exact staysCovered_of_enclosed sound (shapely_start _) (anchored.recalls_start _)
      (enclosed_start _ _ _ rfl _)
  · have begun := orderly.sound _ _ stored
    have shapely := @shapely_begin _ _ last.now last.supply begun
    have intervened := intended.intervened made
    have anchored := anchored.beginning orderly.sound stored
    exact staysCovered_of_enclosed sound (intervened.shapely shapely)
      (intervened.anchored orderly.filed shapely begun.keyed anchored).recalls
      (intervened.enclosed sound orderly.filed shapely begun.keyed anchored
        (encloses _ _ stored own))

end Engine

namespace OpenEnd

/-- The branches of a split meet at a join, behind which there is no instruction. -/
def instructions : List (Instruction Address) := [.fork 0 [1, 1], .join 0]

def symbols : SymbolTable := { nodes := [⟨"j", Eq.refl true⟩] }

/-- A program is made of these parts. -/
def program : Program where
  instructions := instructions
  symbols := symbols
  hash := ⟨Sha256.hex (Program.hashInput instructions symbols), Sha256.isHashText_hex _⟩

def engine : Engine MemoryStore where
  store := {}
  now := default
  supply := ⟨0⟩

end OpenEnd

open Engine OpenEnd in
/-- The fiber that leaves the join stops right behind it. -/
theorem covers_of_openEnd : Program.ofParts instructions symbols = .ok program ∧
    (engine.performAll [.install program, .start program.hash .null "", .recover]).Covers
      program := by
  have made : Program.ofParts instructions symbols = .ok program :=
    Program.ofParts_eq_ok_iff.2 ⟨rfl, rfl, rfl, by decide⟩
  refine ⟨made, History.covers (.of_operations _ _) ⟨rfl, rfl⟩ made
    (fun entry listed other brings _ => ?_)⟩
  simp only [entriesOf, List.mem_cons, List.not_mem_nil, or_false] at listed
  rcases listed with rfl | rfl | rfl
  · exact Eq.symm brings
  · cases brings
  · cases brings

end ProcessEngine
