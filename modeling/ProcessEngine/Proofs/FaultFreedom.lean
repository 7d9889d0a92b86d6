import Mathlib.Data.List.Permutation
import ProcessEngine.Proofs.SafeChanges

/-!
# Compiled processes never fault

An engine is secure for a checked program if all instances of it are stored in safe states
(`Engine.Secure`). Every atomic step keeps that, as long as the hash of the program identifies it
among those that the engine is given. So after any history no incident of an instance of a compiled
process is a fault of the machine, and no run of such an instance fails, whatever the engine does
with it before (`Engine.Faultless`).
-/

namespace ProcessEngine

open UnitOfWork

namespace Engine

variable {engine next first last : Engine MemoryStore} {program : Program} {scope : Scope}
  {work : UnitOfWork} {entries : List HistoryEntry}

/-! ## Programs that their hashes identify -/

/-- No other program of the same hash is known. -/
def Sole (engine : Engine MemoryStore) (program : Program) : Prop :=
  ∀ other, engine.Knows other -> other.hash = program.hash -> other = program

/-- Among the programs that are brought, the hash of the program identifies it. -/
def Identified (entries : List HistoryEntry) (program : Program) : Prop :=
  ∀ entry ∈ entries, ∀ other, entry.1.scope.installs other -> other.Named program.hash ->
    other = program

/-- A program stays the only one of its hash if no other one is brought. -/
theorem Advance.sole (advance : Advance scope engine next) (sole : engine.Sole program)
    (unique : ∀ other, scope.installs other -> other.Named program.hash -> other = program) :
    next.Sole program := by
  rintro other (⟨hash, cached⟩ | ⟨hash, stored⟩) same
  · rcases advance.offers cached with (before | ⟨known, -, -⟩) | ⟨brought, named⟩
    · exact sole other (.of_cached before) same
    · exact sole other known same
    · exact unique other brought ⟨same, named.valid⟩
  · rcases advance.programs with kept | ⟨added, known, -, kept⟩
    · rw [kept] at stored
      exact sole other (.inr ⟨hash, stored⟩) same
    · rw [kept, OrderedMap.get?_insertNew] at stored
      split at stored
      · rcases Option.or_eq_some_iff.1 stored with before | ⟨-, new⟩
        · exact sole other (.inr ⟨_, before⟩) same
        · cases new
          exact sole other known same
      · rw [Option.or_none] at stored
        exact sole other (.inr ⟨hash, stored⟩) same

/-! ## Stored instances are safe -/

/-- All instances of a program are stored in safe states, and the incidents of instances are stored
only as long as the instances are. -/
structure Secure (engine : Engine MemoryStore) (program : Program) : Prop where
  counted : ∀ {id state}, engine.store.states.get? id = some state ->
    state.record.program = program.hash -> state.Counted program
  suited : ∀ {id state}, engine.store.states.get? id = some state ->
    state.record.program = program.hash -> ∀ {fiberId fiber},
      state.fiber? fiberId = some fiber -> program.Suits engine.store.incidents fiber
  excused : ∀ {id incident}, engine.store.incidents.get? id = some incident ->
    ∃ state, engine.store.states.get? incident.owner = some state ∧
      (state.record.program = program.hash -> program.Excuses incident)

/-- Work on a stored instance begins safe. -/
theorem Secure.beginning (secure : engine.Secure program) (anchored : engine.Anchored)
    (sound : engine.Sound) {id : InstanceId} {state : InstanceState}
    (stored : engine.store.states.get? id = some state)
    (own : state.record.program = program.hash) :
    (UnitOfWork.begin state engine.now engine.supply).Safe program engine.store.incidents := by
  refine ⟨anchored.keyed, secure.counted stored own, secure.suited stored own,
    fun {asked incident} found owned => ?_⟩
  obtain ⟨other, present, excused⟩ := secure.excused found
  rw [owned, show (UnitOfWork.begin state engine.now engine.supply).record.id = id from
    (sound _ _ stored).keyed, stored] at present
  cases present
  exact excused own

/-- Work on a new instance begins safe. -/
theorem Secure.start (secure : engine.Secure program) (anchored : engine.Anchored)
    (checked : program.Checked) {hash : ProgramHash} {payload : Json} {correlation : String}
    (absent : engine.store.states.get? ⟨engine.supply.next⟩ = none) :
    (UnitOfWork.create (.create ⟨engine.supply.next⟩ hash payload correlation engine.now)
      engine.now ⟨engine.supply.next + 1⟩).start.2.Safe program engine.store.incidents := by
  have created : (UnitOfWork.create (.create ⟨engine.supply.next⟩ hash payload correlation
      engine.now) engine.now ⟨engine.supply.next + 1⟩).Safe program engine.store.incidents := by
    refine ⟨fun _ _ found => ?_, fun _ _ expects => ?_, fun {id fiber} found => ?_,
      fun {id incident} found owned => ?_⟩
    · obtain ⟨named, drawn⟩ := anchored.keyed _ _ found
      exact ⟨named, Nat.lt_succ_of_lt drawn⟩
    · cases expects
    · cases found
    · obtain ⟨state, present, -⟩ := secure.excused found
      rw [owned] at present
      cases absent.symm.trans present
  exact created.spawn checked.start none

/-- What is safe when it is stored is safe afterwards. -/
theorem Secure.apply (secure : engine.Secure program) (storable : engine.Storable work)
    (reached : work.Anchored engine.store)
    (attributed : work.Attributed engine.store.incidents engine.supply.next)
    (safe : work.record.program = program.hash -> work.Safe program engine.store.incidents)
    (store : next.store = engine.store.apply work.finish.1) : next.Secure program := by
  have states : ∀ asked, next.store.states.get? asked =
      if asked = work.record.id then some work.finish.2
      else engine.store.states.get? asked := by
    rw [store]
    exact storable.states_apply
  have incidents : next.store.incidents = work.incidentsOver engine.store.incidents := by
    rw [store]
    rfl
  refine ⟨fun {id state} stored own => ?_, fun {id state} stored own {fiberId fiber} found => ?_,
    fun {id incident} found => ?_⟩
  · rw [states] at stored
    split at stored
    · cases stored
      exact (safe own).counted
    · exact secure.counted stored own
  · rw [incidents]
    rw [states] at stored
    split at stored
    · cases stored
      exact (safe own).fibers found
    · exact (secure.suited stored own found).recalled reached.recalled
  · rw [incidents] at found
    by_cases mine : incident.owner = work.record.id
    · refine ⟨work.finish.2, ?_, fun own => (safe own).excused found mine⟩
      rw [states, if_pos mine]
    · have before : ∃ key former, engine.store.incidents.get? key = some former ∧
          former.Settles incident := by
        rcases incidentsOver_cases found with noted | kept
        · exact ((attributed.noted incident noted).resolve_left (fun new => mine new.1)).2
        · exact ⟨id, incident, kept, .refl incident⟩
      obtain ⟨key, former, kept, settles⟩ := before
      obtain ⟨state, present, excused⟩ := secure.excused kept
      obtain ⟨status, rfl⟩ := settles
      refine ⟨state, ?_, fun own => (excused own).settles ⟨status, rfl⟩⟩
      rw [states, if_neg mine]
      exact present

/-- Every atomic step keeps the instances of a program safe. -/
theorem Advance.secure (advance : Advance scope engine next) (checked : program.Checked)
    (orderly : engine.Orderly) (catalogues : engine.Catalogues) (anchored : engine.Anchored)
    (sole : engine.Sole program) (secure : engine.Secure program) : next.Secure program := by
  cases advance.act orderly.sound with
  | nothing untouched =>
    refine ⟨?_, ?_, ?_⟩
    · rw [untouched.states]
      exact secure.counted
    · rw [untouched.states, untouched.incidents]
      exact secure.suited
    · rw [untouched.states, untouched.incidents]
      exact secure.excused
  | create known absent ran store supply took =>
    rename_i payload correlation other work
    refine secure.apply (storable_create absent ran) (anchored.created catalogues known absent ran)
      (ran.attributed (shapely_start _) ⟨Nat.le_add_right _ 2, nofun⟩) (fun own => ?_) store
    obtain rfl := sole other known (ran.confined.program.symm.trans own)
    obtain ⟨steps, rfl⟩ := took
    exact (secure.start anchored checked absent).takes checked (shapely_start _) steps 0
  | slice known stored own admitted intervened ran store supply took =>
    rename_i id purpose state other changed work
    have begun := orderly.sound _ _ stored
    have shapely := @shapely_begin _ _ engine.now _ begun
    refine secure.apply (storable_slice orderly.sound stored intervened ran).1
      (anchored.sliced orderly catalogues known stored own intervened ran)
      (ran.attributed (intervened.shapely shapely) (intervened.attributed begun.keyed))
      (fun mine => ?_) store
    have same : work.record.program = state.record.program :=
      (intervened.continues.trans ran.confined.toContinues).program
    obtain rfl := sole other known ((own.symm.trans same.symm).trans mine)
    obtain ⟨steps, rfl⟩ := took
    have safe := secure.beginning anchored orderly.sound stored own
    exact (intervened.safe checked begun.keyed (anchored.beginning orderly.sound stored) safe).takes
      checked (intervened.shapely shapely) steps 0

/-! ## Histories -/

theorem Fresh.sole (fresh : first.Fresh) (program : Program) : first.Sole program := by
  rintro other (⟨hash, cached⟩ | ⟨hash, stored⟩)
  · rw [fresh.programs] at cached
    cases cached
  · rw [fresh.store] at stored
    cases stored

theorem Fresh.secure (fresh : first.Fresh) (program : Program) : first.Secure program := by
  refine ⟨fun stored => ?_, fun stored => ?_, fun found => ?_⟩
  · rw [fresh.store] at stored
    cases stored
  · rw [fresh.store] at stored
    cases stored
  · rw [fresh.store] at found
    cases found

/-- What every step keeps that begins with no other program of the hash holds after a history in
which the hash identifies the program. -/
theorem History.preserves_sole {Invariant : Engine MemoryStore -> Prop}
    (history : History first entries last) (fresh : first.Fresh)
    (identified : Identified entries program)
    (keeps : ∀ scope engine next, Advance scope engine next -> engine.Orderly ->
      engine.Catalogues -> engine.Anchored -> engine.Sole program -> Invariant engine ->
        Invariant next)
    (holds : Invariant first) : last.Sole program ∧ Invariant last := by
  induction history with
  | refl => exact ⟨fresh.sole program, holds⟩
  | step prior operation ih =>
    rename_i entries engine
    have reached := ih (fun entry listed => identified entry (List.mem_append_left _ listed))
    have unique := identified _ (List.mem_append_right _ (List.mem_singleton.2 rfl))
    have step : ∀ engine next, Advance operation.scope engine next ->
        ((engine.Orderly ∧ engine.Catalogues) ∧ engine.Anchored) ∧
          engine.Sole program ∧ Invariant engine ->
        ((next.Orderly ∧ next.Catalogues) ∧ next.Anchored) ∧
          next.Sole program ∧ Invariant next := by
      rintro engine next advance ⟨⟨⟨orderly, catalogues⟩, anchored⟩, sole, holds⟩
      exact ⟨⟨⟨advance.orderly orderly, advance.catalogues catalogues⟩,
        advance.anchored orderly catalogues anchored⟩, advance.sole sole unique,
        keeps _ _ _ advance orderly catalogues anchored sole holds⟩
    exact ((operation.advances engine).preserves step ⟨⟨⟨prior.orderly fresh,
      (prior.supplied fresh).toCatalogues⟩, prior.anchored fresh⟩, reached⟩).2

/-- Whatever an engine was asked, the instances of a checked program are safe. -/
theorem History.secure (history : History first entries last) (fresh : first.Fresh)
    (checked : program.Checked) (identified : Identified entries program) :
    last.Sole program ∧ last.Secure program :=
  history.preserves_sole fresh identified
    (fun _ _ _ advance orderly catalogues anchored sole secure =>
      advance.secure checked orderly catalogues anchored sole secure) (fresh.secure program)

/-- Nothing that is stored of the instances of a program tells of a fault of the machine, and no run
of such an instance will fail. -/
structure Faultless (engine : Engine MemoryStore) (program : Program) : Prop where
  /-- Every incident that is stored belongs to a stored instance. In the instances of the program it
  is no fault of the machine, and if it is about no job, then a route was missing. -/
  incidents : ∀ {id incident}, engine.store.incidents.get? id = some incident ->
    ∃ state, engine.store.states.get? incident.owner = some state ∧
      (state.record.program = program.hash -> incident.kind ≠ .machineFault ∧
        (incident.jobKey = none -> incident.kind = .noRoute))
  /-- No turn of a new instance fails. -/
  begins : ∀ payload correlation, NeverFaults program (UnitOfWork.create
    (.create ⟨engine.supply.next⟩ program.hash payload correlation engine.now) engine.now
      ⟨engine.supply.next + 1⟩).start.2
  /-- Whatever is done with a stored instance, no turn fails after that. -/
  continues : ∀ {id state}, engine.store.states.get? id = some state ->
    state.record.program = program.hash ->
    ∀ {purpose} {Result : Type} {change : Change Result} {result changed},
      Intervention engine.store engine.config id purpose change ->
      change program (UnitOfWork.begin state engine.now engine.supply) = .ok (result, changed) ->
      NeverFaults program changed
  /-- No slice of a stored instance is refused for a fault of the machine. -/
  slices : ∀ {id state}, engine.store.states.get? id = some state ->
    state.record.program = program.hash ->
    ∀ {purpose} {Result : Type} {change : Change Result},
      Intervention engine.store engine.config id purpose change ->
      ∀ maximumSteps fault, change.slice program maximumSteps
        (UnitOfWork.begin state engine.now engine.supply) ≠ .error (.machine fault)

/-- A slice is never refused for a fault of the machine. -/
theorem slice_of_intervention {store : MemoryStore} {config : EngineConfig} {id : InstanceId}
    {purpose : Purpose} {Result : Type} {change : Change Result}
    (intended : Intervention store config id purpose change) {state : InstanceState}
    (own : state.record.program = program.hash) (now : Instant) (supply : IdSupply)
    (maximumSteps : Nat) (fault : MachineError) :
    change.slice program maximumSteps (UnitOfWork.begin state now supply) ≠
      .error (.machine fault) := by
  intro refused
  rw [Change.slice] at refused
  cases made : change program (UnitOfWork.begin state now supply) with
  | error error =>
    rw [made] at refused
    cases refused
    exact intended.refused made fault rfl
  | ok effect =>
    obtain ⟨result, changed⟩ := effect
    have same : changed.record.program = program.hash :=
      (intended.intervened made).continues.program.trans own
    rw [made] at refused
    simp only [bind, Except.bind, UnitOfWork.run, if_pos same] at refused
    cases refused

/-- Whatever an engine was asked, the instances of a compiled process never fault. -/
theorem History.faultless (history : History first entries last) (fresh : first.Fresh)
    {graph : ProcessGraph} (compiled : graph.compile = .ok program)
    (identified : Identified entries program) : last.Faultless program := by
  have checked := ProcessGraph.checked_of_compile compiled
  have orderly := history.orderly fresh
  have anchored := history.anchored fresh
  obtain ⟨-, secure⟩ := history.secure fresh checked identified
  refine ⟨fun found => ?_, fun payload correlation => ?_,
    fun {id state} stored own {purpose Result change result changed} intended made => ?_,
    fun _ own _ _ _ intended maximumSteps fault =>
      slice_of_intervention intended own last.now last.supply maximumSteps fault⟩
  · obtain ⟨state, present, excused⟩ := secure.excused found
    refine ⟨state, present, fun own => ⟨(excused own).kind, fun alone => ?_⟩⟩
    exact ((excused own).alone alone).1
  · have absent : last.store.states.get? ⟨last.supply.next⟩ = none := by
      cases present : last.store.states.get? ⟨last.supply.next⟩ with
      | none => rfl
      | some state => exact absurd (orderly.sound _ _ present).drawn (Nat.lt_irrefl _)
    exact (secure.start anchored checked absent).neverFaults checked (shapely_start _)
  · have begun := orderly.sound _ _ stored
    have shapely := @shapely_begin _ _ last.now _ begun
    have intervened := intended.intervened made
    have safe := secure.beginning anchored orderly.sound stored own
    exact (intervened.safe checked begun.keyed (anchored.beginning orderly.sound stored)
      safe).neverFaults checked (intervened.shapely shapely)

end Engine

namespace Undecided

def start : NodeKey := ⟨"s", Eq.refl true⟩
def choice : NodeKey := ⟨"x", Eq.refl true⟩
def done : NodeKey := ⟨"e", Eq.refl true⟩

/-- A process that stops at a choice as long as a flag is not set. -/
def nodes : List Node :=
  [⟨start, .start⟩, ⟨choice, .exclusiveGateway⟩, ⟨done, .finish false⟩]

def flows : List Flow := [
  { source := start, target := choice },
  { source := choice, target := done, condition := some (.flag "ready") }]

/-- Verification finds nothing wrong with it. -/
theorem sound :
    ((ProcessGraph.ofParts nodes flows).toOption.map ProcessGraph.problems) = some [] := by
  decide_cbv

def engine : Engine MemoryStore where
  store := {}
  now := default
  supply := ⟨0⟩

end Undecided

open Engine in
/-- Whatever comes of an instance of it, no turn of it fails. -/
theorem faultless_of_undecided : ∃ graph program,
    ProcessGraph.ofParts Undecided.nodes Undecided.flows = .ok graph ∧
    graph.compile = .ok program ∧
    (Undecided.engine.performAll [.deploy graph, .start program.hash .null "", .recover]).Faultless
      program := by
  obtain ⟨verified, program, made, -, compiled⟩ := VerifiedGraph.exists_compiled Undecided.sound
    (by simp [Undecided.nodes])
  refine ⟨verified.graph, program, made, compiled,
    History.faultless (.of_operations _ _) ⟨rfl, rfl⟩ compiled
      (fun entry listed other brings _ => ?_)⟩
  simp only [entriesOf, List.mem_cons, List.not_mem_nil, or_false] at listed
  rcases listed with rfl | rfl | rfl
  · exact Except.ok.inj (Eq.trans (Eq.symm brings) compiled)
  · cases brings
  · cases brings

end ProcessEngine
