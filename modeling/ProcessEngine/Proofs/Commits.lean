import Mathlib.Algebra.Group.Nat.Defs
import ProcessEngine.Proofs.Interventions

/-!
# Histories and commits

A history lists what an engine was asked and what it answered. An engine begins with an empty
store and an empty cache; restarts over the same store are operations like any other.

A transition holds what its unit of work has noted, so storing it leads to the very state that
the unit of work has reached (`UnitOfWork.applyTo_finish`). Whatever an engine does, its
stored instances stay sound, and an atomic step that changes stored instances stores one unit
of work (`Engine.Advance.effect`). What a run keeps is therefore proved for three kinds of steps:
those that change no instance, a creation and a slice (`Engine.Advance.act`).
-/

namespace ProcessEngine

/-- Something that an engine was asked, and its answer. -/
abbrev HistoryEntry := EngineOperation × Except EngineError EngineReply

namespace HistoryEntry

/-- The job was completed by the result. -/
def Applies (entry : HistoryEntry) (key : JobKey) : Prop :=
  ∃ completion, entry = (.complete key completion, .ok (.completion .applied))

/-- The completion was taken, whatever came of it. -/
def Takes (entry : HistoryEntry) (key : JobKey) : Prop :=
  ∃ completion answer, entry = (.complete key completion, .ok (.completion answer))

/-- Whether the completion was taken. -/
def takes (entry : HistoryEntry) (key : JobKey) : Bool :=
  match entry with
  | (.complete asked _, .ok (.completion _)) => asked == key
  | _ => false

theorem takes_iff (entry : HistoryEntry) (key : JobKey) :
    entry.takes key = true ↔ entry.Takes key := by
  constructor
  · intro taken
    unfold takes at taken
    split at taken
    · obtain rfl := eq_of_beq taken
      exact ⟨_, _, rfl⟩
    · cases taken
  · rintro ⟨completion, answer, rfl⟩
    exact beq_self_eq_true key

instance (entry : HistoryEntry) (key : JobKey) : Decidable (entry.Takes key) :=
  decidable_of_iff _ (entry.takes_iff key)

/-- The failure took the error route of the job. -/
def Routes (entry : HistoryEntry) (key : JobKey) : Prop :=
  ∃ problem code, entry = (.fail key problem, .ok (.failure (.routed code)))

/-- The result ended the wait for the job. -/
def Settles (entry : HistoryEntry) (key : JobKey) : Prop := entry.Applies key ∨ entry.Routes key

end HistoryEntry

namespace Engine

/-- An engine that has not been asked anything: nothing is stored and no program is cached. -/
structure Fresh (engine : Engine MemoryStore) : Prop where
  store : engine.store = {}
  programs : engine.programs = .empty

/-- A finite history that leads from one engine to another. -/
inductive History (first : Engine MemoryStore) :
    List HistoryEntry -> Engine MemoryStore -> Prop where
  | refl : History first [] first
  | step {entries engine} (prior : History first entries engine) (operation : EngineOperation) :
    History first (entries ++ [(operation, (outcome operation.perform engine).1)])
      (outcome operation.perform engine).2

namespace History

variable {first middle last : Engine MemoryStore} {entries later : List HistoryEntry}

theorem trans (prior : History first entries middle) (rest : History middle later last) :
    History first (entries ++ later) last := by
  induction rest with
  | refl => simpa using prior
  | step _ operation ih =>
    rw [← List.append_assoc]
    exact .step ih operation

/-- What every atomic step keeps holds after every history. -/
theorem preserves {Invariant : Engine MemoryStore -> Prop}
    (step : ∀ scope engine next, Advance scope engine next -> Invariant engine -> Invariant next)
    (history : History first entries last) (holds : Invariant first) : Invariant last := by
  induction history with
  | refl => exact holds
  | step _ operation ih => exact (operation.advances _).preserves (step _) ih

end History

/-- Asks an engine for one thing after another. -/
def performAll (engine : Engine MemoryStore) : List EngineOperation -> Engine MemoryStore
  | [] => engine
  | operation :: rest => performAll (outcome operation.perform engine).2 rest

theorem performAll_append (engine : Engine MemoryStore) (earlier later : List EngineOperation) :
    engine.performAll (earlier ++ later) = (engine.performAll earlier).performAll later := by
  induction earlier generalizing engine with
  | nil => rfl
  | cons operation rest ih => exact ih _

theorem outcome_perform_install {engine : Engine MemoryStore} {program : Program}
    (valid : program.checkHash = .ok ()) (new : engine.programs.get? program.hash = none) :
    outcome (EngineOperation.install program).perform engine =
      (.ok (.installed program.hash), engine.holding program) := by
  rw [show (EngineOperation.install program).perform =
    EngineReply.installed <$> Engine.install program from rfl, outcome_map,
    outcome_install valid new]
  rfl

/-- To ask for more after a program was installed is to ask an engine that holds it. -/
theorem performAll_install {engine : Engine MemoryStore} {program : Program}
    (valid : program.checkHash = .ok ()) (new : engine.programs.get? program.hash = none)
    (rest : List EngineOperation) :
    engine.performAll (.install program :: rest) = (engine.holding program).performAll rest := by
  rw [performAll, outcome_perform_install valid new]

/-- What an engine is asked, one thing after another, with its answers. -/
def entriesOf (engine : Engine MemoryStore) : List EngineOperation -> List HistoryEntry
  | [] => []
  | operation :: rest => (operation, (outcome operation.perform engine).1) ::
    entriesOf (outcome operation.perform engine).2 rest

theorem entriesOf_install {engine : Engine MemoryStore} {program : Program}
    (valid : program.checkHash = .ok ()) (new : engine.programs.get? program.hash = none)
    (rest : List EngineOperation) : engine.entriesOf (.install program :: rest) =
      (.install program, .ok (.installed program.hash)) ::
        (engine.holding program).entriesOf rest := by
  rw [entriesOf, outcome_perform_install valid new]

/-- To ask for one thing after another makes a history. -/
theorem History.of_operations (engine : Engine MemoryStore) (operations : List EngineOperation) :
    History engine (engine.entriesOf operations) (engine.performAll operations) := by
  induction operations generalizing engine with
  | nil => exact .refl
  | cons operation rest ih =>
    exact (History.step .refl operation).trans (ih (outcome operation.perform engine).2)

end Engine

/-! ## A task that is taken up again -/

namespace TaskRun

/-- A process of one task, whose job is tried once. -/
def program : Program where
  instructions := [.dispatch 0 0 0 [], .finish]
  symbols := { nodes := [⟨"t", Eq.refl true⟩], taskTypes := ["work"] }
  hash := ⟨"d078330dc0e32c035ad37963c7fa69db794d59378fd347c9b52808eb30ca785c", by decide +kernel⟩

def engine : Engine MemoryStore where
  store := {}
  now := default
  supply := ⟨0⟩

-- The program is hashed here only: what is asked of an engine that holds it is evaluated without.
theorem checkHash_program : program.checkHash = .ok () := by decide +kernel

/-- The key of the job. -/
def key : JobKey := ⟨"00000000-0000-0000-0000-000000000000:t:0:0:34e28a9413014927"⟩

/-- The job fails for good, is completed while it is set aside, and is put back. -/
def operations : List EngineOperation :=
  [.install program, .start program.hash .null "", .fail key ⟨.transient, "timeout"⟩,
    .complete key {}, .requeue ⟨"work", key⟩]

/-- After that the job is open again, although a completion of it was taken. -/
theorem reopened : (engine.performAll operations).supply.next ≤ 2 ^ 128 ∧
    ((engine.performAll operations).store.jobs.get? key).any (fun job => job.status.isOpen) ∧
    ∃ entry ∈ engine.entriesOf operations, entry.Takes key := by
  rw [operations, Engine.performAll_install checkHash_program rfl,
    Engine.entriesOf_install checkHash_program rfl]
  decide +kernel

end TaskRun

/-! ## A transition leads to the state it was made from -/

namespace UnitOfWork

variable {work : UnitOfWork} {base : InstanceState}

section Fibers

variable (keyed : ∀ {id fiber}, work.fiber? id = some fiber -> fiber.id = id)

include keyed

/-- The noted fibers are those that are still there. -/
theorem mem_touchedFibers {fiber : Fiber} :
    fiber ∈ work.touchedFibers ↔ work.fiber? fiber.id = some fiber ∧ fiber.id ∈ work.touched := by
  rw [touchedFibers, mem_sortOn, OrderedMap.mem_values_iff]
  constructor
  · rintro ⟨key, found⟩
    rw [OrderedMap.get?_filter, Option.filter_eq_some_iff, List.contains_iff_mem] at found
    have same : fiber.id = key := keyed found.1
    exact same ▸ found
  · rintro ⟨found, noted⟩
    refine ⟨fiber.id, ?_⟩
    rw [OrderedMap.get?_filter, Option.filter_eq_some_iff, List.contains_iff_mem]
    exact ⟨found, noted⟩

/-- No two noted fibers have the same identifier. -/
theorem pairwise_touchedFibers :
    work.touchedFibers.Pairwise (fun left right => left.id ≠ right.id) := by
  refine (sortBy_perm _ _).pairwise_iff (fun different => Ne.symm different) |>.2 ?_
  refine OrderedMap.pairwise_values _ Fiber.id (fun id fiber found => ?_)
  rw [OrderedMap.get?_filter, Option.filter_eq_some_iff] at found
  exact keyed found.1

/-- No two fibers have the same identifier. -/
theorem pairwise_fibersInOrder :
    work.state.fibersInOrder.Pairwise (fun left right => left.id ≠ right.id) := by
  refine (sortBy_perm _ _).pairwise_iff (fun different => Ne.symm different) |>.2 ?_
  exact OrderedMap.pairwise_values _ Fiber.id (fun id fiber found => keyed found)

/-- The fibers of the transition replace the former ones by those that were reached. -/
theorem fibers_applyTo (notes : work.Notes base) :
    (work.finish.1.applyTo base).fibers = work.state.fibers := by
  apply OrderedMap.ext_get?
  intro id
  change (work.touchedFibers.foldl _ (work.endedFibers.foldl _ base.fibers)).get? id = _
  by_cases noted : id ∈ work.touched
  · obtain ⟨fiber, found⟩ := Option.isSome_iff_exists.1 (notes.live id noted)
    have same : fiber.id = id := keyed found
    subst same
    rw [found, OrderedMap.get?_foldl_insert_of_mem Fiber.id (fun fiber => fiber)
      (pairwise_touchedFibers keyed) ((mem_touchedFibers keyed).2 ⟨found, noted⟩)]
  · have unlisted : ∀ fiber ∈ work.touchedFibers, fiber.id ≠ id := by
      rintro fiber listed rfl
      exact noted ((mem_touchedFibers keyed).1 listed).2
    rw [notes.others id noted, OrderedMap.get?_foldl_insert_of_notMem Fiber.id
      (fun fiber => fiber) unlisted, OrderedMap.get?_foldl_erase]

end Fibers

/-- The noted barriers are those that are there under noted names. -/
theorem mem_touchedBarriers (notes : work.Notes base) {barrier : JoinBarrier} :
    barrier ∈ work.touchedBarriers ↔
      work.state.barriers.get? barrier.join = some barrier ∧ barrier.join ∈ work.joins := by
  rw [touchedBarriers, OrderedMap.mem_values_iff]
  constructor
  · rintro ⟨key, found⟩
    rw [OrderedMap.get?_filter, Option.filter_eq_some_iff, List.contains_iff_mem] at found
    have same : barrier.join = key := notes.named _ _ found.1
    exact same ▸ found
  · rintro ⟨found, noted⟩
    refine ⟨barrier.join, ?_⟩
    rw [OrderedMap.get?_filter, Option.filter_eq_some_iff, List.contains_iff_mem]
    exact ⟨found, noted⟩

/-- No two noted barriers have the same name. -/
theorem pairwise_touchedBarriers (notes : work.Notes base) :
    work.touchedBarriers.Pairwise (fun left right => left.join ≠ right.join) := by
  refine OrderedMap.pairwise_values _ JoinBarrier.join (fun join barrier found => ?_)
  rw [OrderedMap.get?_filter, Option.filter_eq_some_iff] at found
  exact notes.named _ _ found.1

theorem barriers_applyTo (notes : work.Notes base) :
    (work.finish.1.applyTo base).barriers = work.state.barriers := by
  apply OrderedMap.ext_get?
  intro join
  change (work.touchedBarriers.foldl _ base.barriers).get? join = _
  cases found : work.state.barriers.get? join with
  | none =>
    have unlisted : ∀ barrier ∈ work.touchedBarriers, barrier.join ≠ join := by
      rintro barrier listed rfl
      have present := ((mem_touchedBarriers notes).1 listed).1
      rw [found] at present
      cases present
    rw [OrderedMap.get?_foldl_insert_of_notMem JoinBarrier.join (fun barrier => barrier) unlisted,
      notes.kept join found]
  | some barrier =>
    have same : barrier.join = join := notes.named _ _ found
    subst same
    by_cases noted : barrier.join ∈ work.joins
    · rw [OrderedMap.get?_foldl_insert_of_mem JoinBarrier.join (fun barrier => barrier)
        (pairwise_touchedBarriers notes) ((mem_touchedBarriers notes).2 ⟨found, noted⟩)]
    · have unlisted : ∀ other ∈ work.touchedBarriers, other.join ≠ barrier.join := by
        intro other listed equal
        exact noted (equal ▸ ((mem_touchedBarriers notes).1 listed).2)
      rw [OrderedMap.get?_foldl_insert_of_notMem JoinBarrier.join (fun barrier => barrier)
        unlisted, ← found, notes.same _ noted]

/-- A transition leads from the state that its unit of work began with to the one reached. -/
theorem applyTo_finish (keyed : ∀ {id fiber}, work.fiber? id = some fiber -> fiber.id = id)
    (notes : work.Notes base) : work.finish.1.applyTo base = work.finish.2 := by
  have fibers := fibers_applyTo keyed notes
  have barriers := barriers_applyTo notes
  change InstanceState.mk _ _ _ = InstanceState.mk _ _ _
  congr 1

end UnitOfWork

/-! ## Stored instances are sound -/

/-- A stored state is found under the identifier of its instance, which was drawn before; its
fibers have the shape that fibers keep and its barriers are found under their own names. -/
structure InstanceState.Sound (state : InstanceState) (id : InstanceId) (supply : Nat) : Prop where
  keyed : state.record.id = id
  drawn : id.number < supply
  shaped : WellFormed state.fiber? id state.record.nextSequence supply
  named : ∀ join barrier, state.barriers.get? join = some barrier -> barrier.join = join

theorem InstanceState.Sound.mono {state : InstanceState} {id : InstanceId} {supply later : Nat}
    (sound : state.Sound id supply) (more : supply ≤ later) : state.Sound id later :=
  ⟨sound.keyed, Nat.lt_of_lt_of_le sound.drawn more, sound.shaped.mono (Nat.le_refl _) more,
    sound.named⟩

namespace UnitOfWork

variable {state : InstanceState} {id : InstanceId} {now : Instant} {supply : IdSupply}
  {program : Program} {work changed : UnitOfWork}

/-- Work on a sound state begins in good shape, with nothing to note. -/
theorem shapely_begin (sound : state.Sound id supply.next) : (begin state now supply).Shapely := by
  have shaped := sound.shaped
  rw [← sound.keyed] at shaped
  exact shaped

theorem notes_begin (sound : state.Sound id supply.next) : (begin state now supply).Notes state :=
  .refl sound.named

/-- Work on a new instance begins with its first fiber. -/
theorem shapely_start (record : ProcessInstance) :
    (create record now supply).start.2.Shapely := by
  have empty : WellFormed (fun _ => none) record.id record.nextSequence supply.next := by
    constructor
    all_goals
      intros
      contradiction
  have there := (fiber?_spawn (create record now supply) ⟨supply.next⟩ 0 none).trans (if_pos rfl)
  refine WellFormed.add empty there ?_ rfl rfl rfl rfl ?_
  · intro other different
    exact (fiber?_spawn _ _ 0 none).trans (if_neg different)
  · intro watch watches
    cases watches

theorem notes_start (record : ProcessInstance) (base : InstanceState)
    (fibers : base.fibers = .empty) (barriers : base.barriers = .empty) :
    (create record now supply).start.2.Notes base := by
  have begun : (create record now supply).Notes base := by
    have named : ∀ join barrier, base.barriers.get? join = some barrier -> barrier.join = join := by
      intro join barrier found
      rw [barriers] at found
      cases found
    have same := Noted.refl named
    rw [fibers, barriers] at same
    exact same
  exact (steady_spawn _ 0 none).notes base begun

/-- Work in good shape that draws on leads to a sound state. -/
theorem sound_finish (shapely : work.Shapely) (notes : work.Notes state)
    (same : work.record.id = id) (drawn : id.number < work.supply.next) :
    work.finish.2.Sound id work.supply.next where
  keyed := same
  drawn := drawn
  shaped := same ▸ shapely
  named := notes.named

end UnitOfWork

namespace Engine

/-- Every stored state is sound. -/
def Sound (engine : Engine MemoryStore) : Prop :=
  ∀ id state, engine.store.states.get? id = some state -> state.Sound id engine.supply.next

open UnitOfWork

/-- What an atomic step does to the store. -/
inductive Effect (scope : Scope) (engine next : Engine MemoryStore) : Prop where
  /-- At most a program is added. -/
  | same (programs : OrderedMap ProgramHash Program)
      (store : next.store = { engine.store with programs := programs })
      (supply : engine.supply.next ≤ next.supply.next)
  | claim (request : ClaimRequest) (store : next.store = (engine.store.claim request).2)
      (supply : next.supply = engine.supply)
  | purge (now : Instant) (store : next.store = (engine.store.purge now).2)
      (supply : next.supply = engine.supply)
  /-- A new instance is stored after its first turns. -/
  | create {payload correlation program work} (known : engine.Knows program)
      (absent : engine.store.states.get? ⟨engine.supply.next⟩ = none)
      (ran : Ran program (UnitOfWork.create (.create ⟨engine.supply.next⟩ program.hash payload
        correlation engine.now) engine.now ⟨engine.supply.next + 1⟩).start.2 work)
      (store : next.store = engine.store.apply work.finish.1)
      (supply : next.supply = work.supply)
      (took : ∃ steps, work = (takeTurns program steps 0 (UnitOfWork.create
        (.create ⟨engine.supply.next⟩ program.hash payload correlation engine.now) engine.now
          ⟨engine.supply.next + 1⟩).start.2).2)
  /-- A stored instance is changed and takes turns. -/
  | slice {id purpose state program changed work} (known : engine.Knows program)
      (stored : engine.store.states.get? id = some state)
      (own : state.record.program = program.hash) (admitted : scope.admits purpose)
      (intervened : Intervened engine.store id program
        (.begin state engine.now engine.supply) purpose changed)
      (ran : Ran program changed work)
      (store : next.store = engine.store.apply work.finish.1)
      (supply : next.supply = work.supply)
      (took : ∃ steps, work = (takeTurns program steps 0 changed).2)

/-- Every atomic step on sound states has one of these effects. -/
theorem Advance.effect {scope : Scope} {engine next : Engine MemoryStore} (sound : engine.Sound)
    (advance : Advance scope engine next) : Effect scope engine next := by
  cases advance with
  | rest store supply known => exact .same next.store.programs (by rw [store]) supply
  | learn brought added => exact .same engine.store.programs rfl (Nat.le_refl _)
  | keep known put =>
    obtain ⟨-, rfl⟩ := putProgram_eq_ok_iff.1 put
    exact .same _ rfl (Nat.le_refl _)
  | claim request => exact .claim request rfl rfl
  | purge now => exact .purge now rfl rfl
  | create loaded done settled =>
    rename_i hash payload correlation program programs report work store queue locks
    obtain ⟨changed, parts⟩ := slice_parts done
    obtain rfl : _ = changed := congrArg Prod.snd (Except.ok.inj parts.made)
    obtain rfl : hash = program.hash := parts.own
    have ran := parts.ran (shapely_start _)
    have supplied : engine.supply.next ≤ work.supply.next :=
      Nat.le_trans (Nat.le_add_right _ 2) ran.confined.supply
    cases settled with
    | discarded => exact .same engine.store.programs rfl supplied
    | stored current =>
      have base : work.base = none := ran.confined.base
      have owner : work.record.id = ⟨engine.supply.next⟩ := ran.confined.id
      rw [base, owner, MemoryStore.version?, Option.map_eq_none_iff] at current
      exact .create (offers_of_load loaded).1 current ran rfl rfl parts.took
  | slice intended admitted sliced settled =>
    rename_i id purpose Result change result report work programs state program store queue
    obtain ⟨changed, parts⟩ := slice_parts sliced.done
    have intervened := intended.intervened parts.made
    have begun : (UnitOfWork.begin state engine.now engine.supply).Shapely :=
      shapely_begin (sound id state sliced.stored)
    have ran := parts.ran (intervened.shapely begun)
    have continues := intervened.continues.trans ran.confined.toContinues
    cases settled with
    | discarded => exact .same engine.store.programs rfl continues.supply
    | stored current =>
      have own : state.record.program = program.hash :=
        intervened.continues.program.symm.trans parts.own
      exact .slice (offers_of_load sliced.loaded).1 sliced.stored own admitted intervened ran rfl
        rfl parts.took

/-- Instances, their incidents, logs and results are stored as before. -/
structure Untouched (engine next : Engine MemoryStore) : Prop where
  states : next.store.states = engine.store.states
  incidents : next.store.incidents = engine.store.incidents
  completions : next.store.completions = engine.store.completions
  logs : next.store.logs = engine.store.logs
  supply : engine.supply.next ≤ next.supply.next

/-- What an atomic step does to instances: nothing, or it stores one unit of work. -/
inductive Act (scope : Scope) (engine next : Engine MemoryStore) : Prop where
  | nothing (untouched : engine.Untouched next)
  | create {payload correlation program work} (known : engine.Knows program)
      (absent : engine.store.states.get? ⟨engine.supply.next⟩ = none)
      (ran : Ran program (UnitOfWork.create (.create ⟨engine.supply.next⟩ program.hash payload
        correlation engine.now) engine.now ⟨engine.supply.next + 1⟩).start.2 work)
      (store : next.store = engine.store.apply work.finish.1)
      (supply : next.supply = work.supply)
      (took : ∃ steps, work = (takeTurns program steps 0 (UnitOfWork.create
        (.create ⟨engine.supply.next⟩ program.hash payload correlation engine.now) engine.now
          ⟨engine.supply.next + 1⟩).start.2).2)
  | slice {id purpose state program changed work} (known : engine.Knows program)
      (stored : engine.store.states.get? id = some state)
      (own : state.record.program = program.hash) (admitted : scope.admits purpose)
      (intervened : Intervened engine.store id program
        (.begin state engine.now engine.supply) purpose changed)
      (ran : Ran program changed work)
      (store : next.store = engine.store.apply work.finish.1)
      (supply : next.supply = work.supply)
      (took : ∃ steps, work = (takeTurns program steps 0 changed).2)

/-- Claims and purges touch jobs and dead letters only. -/
theorem Advance.act {scope : Scope} {engine next : Engine MemoryStore} (sound : engine.Sound)
    (advance : Advance scope engine next) : Act scope engine next := by
  cases advance.effect sound with
  | same programs store supply =>
    exact .nothing ⟨by rw [store], by rw [store], by rw [store], by rw [store], supply⟩
  | claim request store supply =>
    refine .nothing ⟨?_, ?_, ?_, ?_, Nat.le_of_eq (congrArg IdSupply.next supply).symm⟩
    all_goals
      rw [store]
      rfl
  | purge now store supply =>
    refine .nothing ⟨?_, ?_, ?_, ?_, Nat.le_of_eq (congrArg IdSupply.next supply).symm⟩
    all_goals
      rw [store]
      rfl
  | create known absent ran store supply took => exact .create known absent ran store supply took
  | slice known stored own admitted intervened ran store supply took =>
    exact .slice known stored own admitted intervened ran store supply took

/-! ## Storing a unit of work -/

/-- A unit of work that may be stored: it is in good shape and has noted what differs from what is
stored. -/
structure Storable (engine : Engine MemoryStore) (work : UnitOfWork) : Prop where
  shapely : work.Shapely
  notes : work.Notes
    ((engine.store.states.get? work.record.id).getD (.ofRecord work.finalRecord))
  drawn : work.record.id.number < work.supply.next
  supply : engine.supply.next ≤ work.supply.next

/-- After a unit of work was stored, its instance is in the state that it has reached. -/
theorem Storable.states_apply {engine : Engine MemoryStore} {work : UnitOfWork}
    (storable : engine.Storable work) (asked : InstanceId) :
    (engine.store.apply work.finish.1).states.get? asked =
      if asked = work.record.id then some work.finish.2 else engine.store.states.get? asked := by
  rw [← applyTo_finish (WellFormed.keyed storable.shapely) storable.notes]
  exact OrderedMap.get?_insert _ _ _ _

section

variable {engine : Engine MemoryStore} {program : Program} {work changed : UnitOfWork}

theorem storable_create {payload : Json} {correlation : String} {hash : ProgramHash}
    (absent : engine.store.states.get? ⟨engine.supply.next⟩ = none)
    (ran : Ran program (UnitOfWork.create (.create ⟨engine.supply.next⟩ hash payload
      correlation engine.now) engine.now ⟨engine.supply.next + 1⟩).start.2 work) :
    engine.Storable work := by
  have owner : work.record.id = ⟨engine.supply.next⟩ := ran.confined.id
  have supply : engine.supply.next + 2 ≤ work.supply.next := ran.confined.supply
  refine ⟨ran.shapely (shapely_start _), ?_, ?_, by omega⟩
  · rw [owner, absent]
    exact ran.confined.notes _ (notes_start _ _ rfl rfl)
  · rw [owner]
    exact Nat.lt_of_lt_of_le (Nat.lt_add_of_pos_right (by decide)) supply

theorem storable_slice {id : InstanceId} {purpose : Purpose} {state : InstanceState}
    (sound : engine.Sound) (stored : engine.store.states.get? id = some state)
    (intervened : Intervened engine.store id program
      (.begin state engine.now engine.supply) purpose changed)
    (ran : Ran program changed work) :
    engine.Storable work ∧ work.record.id = id := by
  have begun := sound id state stored
  have continues := intervened.continues.trans ran.confined.toContinues
  have owner : work.record.id = id := continues.id.trans begun.keyed
  refine ⟨⟨ran.shapely (intervened.shapely (shapely_begin begun)), ?_, ?_, continues.supply⟩, owner⟩
  · rw [owner, stored]
    exact continues.notes _ (notes_begin begun)
  · rw [owner]
    exact Nat.lt_of_lt_of_le begun.drawn continues.supply

end

/-- Stored states stay sound. -/
theorem Advance.sound {scope : Scope} {engine next : Engine MemoryStore} (sound : engine.Sound)
    (advance : Advance scope engine next) : next.Sound := by
  have keeps : ∀ {work : UnitOfWork}, engine.Storable work ->
      next.store = engine.store.apply work.finish.1 -> next.supply = work.supply ->
      next.Sound := by
    intro work storable store supply id state stored
    rw [supply]
    rw [store, storable.states_apply] at stored
    split at stored
    · rename_i same
      cases stored
      exact sound_finish storable.shapely storable.notes same.symm (same ▸ storable.drawn)
    · exact (sound id state stored).mono storable.supply
  cases advance.act sound with
  | nothing untouched =>
    intro id state stored
    rw [untouched.states] at stored
    exact (sound id state stored).mono untouched.supply
  | create known absent ran store supply =>
    exact keeps (storable_create absent ran) store supply
  | slice known stored own admitted intervened ran store supply =>
    exact keeps (storable_slice sound stored intervened ran).1 store supply

theorem Fresh.sound {engine : Engine MemoryStore} (fresh : engine.Fresh) : engine.Sound := by
  intro id state stored
  rw [fresh.store] at stored
  cases stored

end Engine

end ProcessEngine
