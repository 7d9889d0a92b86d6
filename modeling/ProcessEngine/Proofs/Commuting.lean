import Mathlib.Data.List.Pairwise
import ProcessEngine.Proofs.Plans

/-!
# Operations on different instances commute

What an operation on one instance answers and stores is not changed by operations on other
instances that came before (`Errand.performed`). So any number of operations on different instances,
each with a supply of its own, lead to the same store in every order, and each answers what it would
have answered alone (`Engine.Fresh.errands_commute`).
-/

namespace ProcessEngine

/-! ## Programs that are loaded -/

namespace Engine

variable {engine after : Engine MemoryStore} {hash : ProgramHash} {program : Program}
  {programs : ProgramCache}

/-- A program is found in the cache or else in the store. -/
theorem loaded_eq (stored : Catalogued engine.store.programs) (hash : ProgramHash) :
    engine.loaded hash = ((engine.programs.get? hash).or (engine.store.programs.get? hash)).elim
      (.error (.unknownProgram hash)) .ok := by
  rw [loaded, load]
  cases cached : engine.programs.get? hash with
  | some program => rfl
  | none =>
    cases found : engine.store.programs.get? hash with
    | none => rfl
    | some program =>
      have named := stored _ _ found
      have absent : engine.programs.get? program.hash = none := by rw [named.same, cached]
      simp only [add_of_absent named.valid absent]
      rfl

/-- To load a program changes nothing about what is found. -/
theorem get?_of_load (stored : Catalogued engine.store.programs)
    (loads : engine.load hash = .ok (program, programs)) (asked : ProgramHash) :
    (programs.get? asked).or (engine.store.programs.get? asked) =
      (engine.programs.get? asked).or (engine.store.programs.get? asked) := by
  rw [load] at loads
  cases cached : engine.programs.get? hash with
  | some present =>
    rw [cached] at loads
    cases loads
    rfl
  | none =>
    rw [cached] at loads
    cases found : engine.store.programs.get? hash with
    | none =>
      rw [found] at loads
      cases loads
    | some present =>
      obtain ⟨rfl, valid⟩ := stored _ _ found
      simp only [found, add_of_absent valid cached] at loads
      cases loads
      rw [OrderedMap.get?_insert]
      split
      · rename_i same
        rw [same, cached, found]
        rfl
      · rfl

/-- What is left behind finds the same programs. -/
theorem Leaves.loaded {work : Option UnitOfWork} (leaves : engine.Leaves work after)
    (stored : Catalogued engine.store.programs) :
    after.store.programs = engine.store.programs ∧
      ∀ hash, after.loaded hash = engine.loaded hash := by
  have programs : after.store.programs = engine.store.programs := by
    rw [leaves.store]
    cases work with
    | none => rfl
    | some work => rfl
  refine ⟨programs, fun hash => ?_⟩
  rw [loaded_eq (programs ▸ stored), loaded_eq stored, programs]
  rcases leaves.programs with same | ⟨asked, program, loads⟩
  · rw [same]
  · rw [get?_of_load stored loads]

/-- An engine that began without anything stored is grounded wherever it stops. -/
theorem Fresh.grounded {first last : Engine MemoryStore} {entries : List HistoryEntry}
    {scope : Scope} (fresh : first.Fresh) (history : History first entries engine)
    (advances : Advances scope engine last) (bounded : last.Bounded) : last.Grounded := by
  have kept : ∀ scope engine next, Advance scope engine next ->
      engine.Consistent ∧ engine.Linked ∧ engine.Catalogues ->
      next.Consistent ∧ next.Linked ∧ next.Catalogues := by
    rintro scope engine next advance ⟨consistent, linked, catalogues⟩
    exact ⟨advance.consistent consistent, advance.linked consistent.orderly.sound linked,
      advance.catalogues catalogues⟩
  obtain ⟨consistent, linked, catalogues⟩ := advances.preserves (kept _)
    (history.preserves kept ⟨fresh.consistent, fresh.linked, fresh.supplied.toCatalogues⟩)
  exact ⟨consistent.orderly, bounded, consistent.agrees bounded, linked, catalogues⟩

/-- A later engine finds the same programs, and has the same configuration and the same time. -/
structure Resembles (engine later : Engine MemoryStore) : Prop where
  config : later.config = engine.config
  now : later.now = engine.now
  programs : later.store.programs = engine.store.programs
  loaded : ∀ hash, later.loaded hash = engine.loaded hash

theorem Resembles.refl (engine : Engine MemoryStore) : engine.Resembles engine :=
  ⟨rfl, rfl, rfl, fun _ => rfl⟩

end Engine

/-! ## Errands -/

/-- An operation together with the supply that it draws identifiers from. -/
structure Errand where
  operation : EngineOperation
  supply : IdSupply

namespace Errand

/-- Performs the operation with its own supply. -/
def perform (errand : Errand) (engine : Engine MemoryStore) :
    Except EngineError EngineReply × Engine MemoryStore :=
  outcome errand.operation.perform { engine with supply := errand.supply }

/-- The identifier of this number is drawn when the errand is performed. -/
def Draws (errand : Errand) (engine : Engine MemoryStore) (number : Nat) : Prop :=
  errand.supply.next ≤ number ∧ number < (errand.perform engine).2.supply.next

/-- The work that the errand stores, if any. -/
def work? (errand : Errand) (engine : Engine MemoryStore) : Option UnitOfWork :=
  (errand.operation.plan? engine.store engine.config).bind (fun plan =>
    (plan.deed { engine with supply := errand.supply }).work)

/-- What becomes of a store when the errand's work is stored. -/
def storedOver (engine : Engine MemoryStore) (store : MemoryStore) (errand : Errand) : MemoryStore :=
  (errand.work? engine).elim store (fun work => store.apply work.finish.1)

/-- What is known of an errand for an instance: the rows that it writes, and that it comes to the
same after others have changed what does not belong to the instance. -/
structure Foreseen (errand : Errand) (engine : Engine MemoryStore) (id : InstanceId) : Prop where
  owner : ∀ work ∈ errand.work? engine, work.record.id = id
  owns : ∀ work ∈ errand.work? engine, work.Owns engine.store.incidents errand.supply.next
  supply : ∀ work ∈ errand.work? engine, (errand.perform engine).2.supply = work.supply
  performed : ∀ {later}, engine.Resembles later -> engine.store.Spares later.store id ->
    (errand.perform later).1 = (errand.perform engine).1 ∧
    engine.Resembles (errand.perform later).2 ∧
    (errand.perform later).2.store = storedOver engine later.store errand

end Errand

namespace Engine

variable {engine later : Engine MemoryStore} {id : InstanceId} {errand : Errand}

/-- The work of a deed comes from a slice of the stored instance. -/
theorem slice_of_deed {Result : Type} {change : Change Result} {work : UnitOfWork}
    (made : work ∈ (engine.deed id change).work) :
    ∃ state program result report, engine.store.states.get? id = some state ∧
      change.slice program engine.config.maximumSteps (.begin state engine.now engine.supply) =
        .ok (result, report, work) := by
  rw [deed] at made
  cases stored : engine.store.states.get? id with
  | none =>
    rw [stored] at made
    cases made
  | some state =>
    simp only [stored] at made
    cases loads : engine.loaded state.record.program with
    | error error =>
      rw [loads] at made
      cases made
    | ok program =>
      simp only [loads] at made
      split at made
      · cases made
      · rename_i result report _ done
        dsimp only at made
        split at made
        · cases made
        · cases made
          exact ⟨state, program, result, report, rfl, done⟩

/-- An instance that is spared stays sound while more identifiers are drawn. -/
theorem Grounded.soundAt (grounded : engine.Grounded) (spares : engine.store.Spares later.store id)
    {supply : IdSupply} (drawn : engine.supply.next ≤ supply.next) :
    SoundAt { later with supply := supply } id := by
  intro state stored
  rw [spares.state] at stored
  exact (grounded.orderly.sound id state stored).mono drawn

/-- A plan comes to the same in an engine that resembles another one and spares the instance. -/
theorem Resembles.deed_eq (alike : engine.Resembles later)
    (spares : engine.store.Spares later.store id) {plan : Plan}
    (intended : plan.Intended engine.store engine.config id) (supply : IdSupply) :
    plan.deed { later with supply := supply } = plan.deed { engine with supply := supply } := by
  cases intended with
  | answer result => rfl
  | change intended =>
    exact congrArg (Deed.map _)
      (deed_congr spares.state alike.loaded alike.config alike.now rfl)

/-- What an errand for an instance does is foreseen. -/
theorem Grounded.foreseen (grounded : engine.Grounded)
    (acts : errand.operation.target? engine.store = some id)
    (drawn : engine.supply.next ≤ errand.supply.next) : errand.Foreseen engine id := by
  obtain ⟨plan, planned, intended⟩ := @EngineOperation.planned _ _ engine.config _ acts
  have work : errand.work? engine = (plan.deed { engine with supply := errand.supply }).work := by
    rw [Errand.work?, planned]
    rfl
  have does : ∀ {later}, engine.Resembles later -> engine.store.Spares later.store id ->
      Does { later with supply := errand.supply } errand.operation.perform
        (plan.deed { engine with supply := errand.supply }) := by
    intro later alike spares
    obtain ⟨acts', planned'⟩ := @EngineOperation.plan?_of_spares _ _ _ engine.config _
      grounded.linked.toLinked acts spares
    rw [← alike.deed_eq spares intended]
    refine does_planned acts' ?_ (grounded.soundAt spares drawn)
    exact (congrArg (EngineOperation.plan? _ · _) alike.config).trans (planned'.trans planned)
  have writes : ∀ written ∈ errand.work? engine,
      written.record.id = id ∧ written.Owns engine.store.incidents errand.supply.next := by
    intro written made
    rw [work] at made
    cases intended with
    | answer result => cases made
    | @change _ _ change _ intended =>
      obtain ⟨state, program, result, report, stored, done⟩ :=
        @slice_of_deed { engine with supply := errand.supply } id _ change written made
      have sound := (grounded.orderly.sound id state stored).mono drawn
      refine ⟨?_, grounded.owns drawn intended stored done⟩
      exact (intended.continues sound done).id.trans sound.keyed
  constructor
  case owner => exact fun written made => (writes written made).1
  case owns => exact fun written made => (writes written made).2
  case supply =>
    obtain ⟨after, done, leaves⟩ := does (.refl engine) (.refl _ _)
    intro written made
    rw [work] at made
    rw [Errand.perform, done]
    exact leaves.supply written made
  case performed =>
    intro later alike spares
    obtain ⟨alone, done, -⟩ := does (.refl engine) (.refl _ _)
    obtain ⟨after, done', leaves⟩ := does alike spares
    rw [Errand.perform, Errand.perform, Errand.storedOver, done, done', work]
    obtain ⟨programs, loaded⟩ := leaves.loaded (alike.programs ▸ grounded.catalogues.stored)
    refine ⟨rfl, ?_, leaves.store⟩
    exact ⟨leaves.config.trans alike.config, leaves.now.trans alike.now,
      programs.trans alike.programs, fun hash => (loaded hash).trans (alike.loaded hash)⟩

end Engine

/-! ## Errands in any order -/

namespace Errand

/-- The errand is for the instance, and its supply holds identifiers that were not drawn before. -/
structure Due (errand : Errand) (engine : Engine MemoryStore) (id : InstanceId) : Prop where
  acts : errand.operation.target? engine.store = some id
  drawn : engine.supply.next ≤ errand.supply.next

/-- Errands for different instances that draw different identifiers. -/
structure Apart (engine : Engine MemoryStore) (left right : Errand) : Prop where
  targets : left.operation.target? engine.store ≠ right.operation.target? engine.store
  draws : ∀ number, left.Draws engine number -> ¬ right.Draws engine number

theorem Apart.symm {engine : Engine MemoryStore} {left right : Errand}
    (apart : Apart engine left right) : Apart engine right left :=
  ⟨Ne.symm apart.targets, fun number drawn drawn' => apart.draws number drawn' drawn⟩

end Errand

namespace Engine

variable {engine later : Engine MemoryStore} {id other : InstanceId} {left right : Errand}
  {errands order : List Errand}

/-- What an engine answers to one errand after the other. -/
def answersTo (engine : Engine MemoryStore) : List Errand -> List (Except EngineError EngineReply)
  | [] => []
  | errand :: rest => (errand.perform engine).1 :: answersTo (errand.perform engine).2 rest

/-- The engine after one errand and the other. -/
def afterAll (engine : Engine MemoryStore) : List Errand -> Engine MemoryStore
  | [] => engine
  | errand :: rest => afterAll (errand.perform engine).2 rest

/-- What two errands store may be stored in either order. -/
theorem Grounded.storedOver_comm (grounded : engine.Grounded) (due : left.Due engine id)
    (due' : right.Due engine other) (apart : Errand.Apart engine left right)
    (store : MemoryStore) :
    Errand.storedOver engine (Errand.storedOver engine store left) right =
      Errand.storedOver engine (Errand.storedOver engine store right) left := by
  have foreseen := grounded.foreseen due.acts due.drawn
  have foreseen' := grounded.foreseen due'.acts due'.drawn
  rw [Errand.storedOver, Errand.storedOver, Errand.storedOver, Errand.storedOver]
  cases made : left.work? engine with
  | none => rfl
  | some work =>
    cases made' : right.work? engine with
    | none => rfl
    | some work' =>
      refine MemoryStore.apply_comm ?_ store
      refine (foreseen'.owns _ made').apart (foreseen.owns _ made) ?_ ?_ ?_
      · intro key incident found
        have drawn := grounded.linked.drawn found
        exact ⟨Nat.lt_of_lt_of_le drawn due'.drawn, Nat.lt_of_lt_of_le drawn due.drawn⟩
      · rw [foreseen.owner _ made, foreseen'.owner _ made']
        rintro rfl
        exact apart.targets (due.acts.trans due'.acts.symm)
      · intro number low high low' high'
        rw [← foreseen'.supply _ made'] at high
        rw [← foreseen.supply _ made] at high'
        exact apart.draws number ⟨low', high'⟩ ⟨low, high⟩

/-- What belongs to one instance is spared by an errand for another one. -/
theorem Grounded.spares_storedOver (grounded : engine.Grounded) (due : left.Due engine id)
    (different : id ≠ other) {store : MemoryStore} (spares : engine.store.Spares store other) :
    engine.store.Spares (Errand.storedOver engine store left) other := by
  have foreseen := grounded.foreseen due.acts due.drawn
  rw [Errand.storedOver]
  cases made : left.work? engine with
  | none => exact spares
  | some work =>
    refine grounded.spares spares (foreseen.owns _ made) due.drawn ?_
    rwa [foreseen.owner _ made]

/-- Errands for different instances come to what each comes to alone, one after the other. -/
theorem Grounded.each_alone (grounded : engine.Grounded)
    (due : ∀ errand ∈ errands, ∃ id, errand.Due engine id)
    (apart : errands.Pairwise (Errand.Apart engine)) (alike : engine.Resembles later)
    (spares : ∀ errand ∈ errands, ∀ id, errand.Due engine id ->
      engine.store.Spares later.store id) :
    later.answersTo errands = errands.map (fun errand => (errand.perform engine).1) ∧
      (later.afterAll errands).store = errands.foldl (Errand.storedOver engine) later.store := by
  -- Of the engine in between nothing is known but that it resembles the first one and spares the
  -- instances that are still to come; the invariant is that of the first engine throughout.
  induction errands generalizing later with
  | nil => exact ⟨rfl, rfl⟩
  | cons errand rest ih =>
    obtain ⟨id, mine⟩ := due errand List.mem_cons_self
    obtain ⟨others, apart⟩ := List.pairwise_cons.1 apart
    have foreseen := grounded.foreseen mine.acts mine.drawn
    obtain ⟨answer, alike, store⟩ :=
      foreseen.performed alike (spares errand List.mem_cons_self id mine)
    obtain ⟨answers, stored⟩ := ih (fun next listed => due next (List.mem_cons_of_mem _ listed))
      apart alike (fun next listed id' theirs => by
        rw [store]
        refine grounded.spares_storedOver mine ?_
          (spares next (List.mem_cons_of_mem _ listed) id' theirs)
        rintro rfl
        exact (others next listed).targets (mine.acts.trans theirs.acts.symm))
    refine ⟨?_, ?_⟩
    · rw [answersTo, answer, answers]
      rfl
    · rw [afterAll, stored, store]
      rfl

/-- The order of errands for different instances makes no difference. -/
theorem Grounded.any_order (grounded : engine.Grounded)
    (due : ∀ errand ∈ errands, ∃ id, errand.Due engine id)
    (apart : errands.Pairwise (Errand.Apart engine)) (perm : errands.Perm order) :
    engine.answersTo order = order.map (fun errand => (errand.perform engine).1) ∧
      (engine.afterAll order).store = (engine.afterAll errands).store := by
  have due' : ∀ errand ∈ order, ∃ id, errand.Due engine id :=
    fun errand listed => due errand (perm.mem_iff.2 listed)
  have apart' : order.Pairwise (Errand.Apart engine) := perm.pairwise apart Errand.Apart.symm
  obtain ⟨-, stored⟩ := grounded.each_alone due apart (.refl engine) (fun _ _ _ _ => .refl _ _)
  obtain ⟨answers, stored'⟩ :=
    grounded.each_alone due' apart' (.refl engine) (fun _ _ _ _ => .refl _ _)
  refine ⟨answers, ?_⟩
  rw [stored, stored']
  symm
  refine perm.foldl_eq' (fun left listed right listed' store => ?_) engine.store
  by_cases same : left = right
  · rw [same]
  · have : Std.Symm (Errand.Apart engine) := ⟨fun _ _ => Errand.Apart.symm⟩
    obtain ⟨id, mine⟩ := due left listed
    obtain ⟨id', theirs⟩ := due right listed'
    exact grounded.storedOver_comm mine theirs (apart.forall listed listed' same) store

/-- Operations on different instances commute. Wherever an engine stops, two of them, each with a
supply of its own, answer the same and lead to the same store in either order, and so does any
number of them. -/
theorem Fresh.errands_commute {first last : Engine MemoryStore} {entries : List HistoryEntry}
    {operation : EngineOperation} (fresh : first.Fresh) (history : History first entries engine)
    (advances : Advances operation.scope engine last) (bounded : last.supply.next ≤ 2 ^ 128) :
    (∀ left right : Errand, ∀ id other, left.Due last id -> right.Due last other -> id ≠ other ->
      (∀ number, left.Draws last number -> ¬ right.Draws last number) ->
      (left.perform (right.perform last).2).1 = (left.perform last).1 ∧
      (right.perform (left.perform last).2).1 = (right.perform last).1 ∧
      (right.perform (left.perform last).2).2.store =
        (left.perform (right.perform last).2).2.store) ∧
    ∀ errands order : List Errand, (∀ errand ∈ errands, ∃ id, errand.Due last id) ->
      errands.Pairwise (Errand.Apart last) -> errands.Perm order ->
      last.answersTo order = order.map (fun errand => (errand.perform last).1) ∧
      (last.afterAll order).store = (last.afterAll errands).store := by
  have grounded := fresh.grounded history advances bounded
  constructor
  · intro left right id other mine theirs different disjoint
    have apart : Errand.Apart last left right := by
      refine ⟨?_, disjoint⟩
      rw [mine.acts, theirs.acts]
      exact fun same => different (Option.some.inj same)
    have due : ∀ errand ∈ [left, right], ∃ id, errand.Due last id := by
      intro errand listed
      rcases List.mem_pair.1 listed with rfl | rfl
      · exact ⟨id, mine⟩
      · exact ⟨other, theirs⟩
    have pairwise : [left, right].Pairwise (Errand.Apart last) := List.pairwise_pair.2 apart
    obtain ⟨answers, -⟩ := grounded.any_order due pairwise (.refl _)
    obtain ⟨answers', store⟩ := grounded.any_order due pairwise (.swap right left [])
    exact ⟨(List.cons.inj (List.cons.inj answers').2).1,
      (List.cons.inj (List.cons.inj answers).2).1, store.symm⟩
  · intro errands order due apart perm
    exact grounded.any_order due apart perm

end Engine

namespace TaskRun

/-- Two processes of one task each, which wait for their jobs. -/
def waiting : Engine MemoryStore := engine.performAll
  [.install program, .start program.hash .null "", .start program.hash .null ""]

/-- The first job fails for good. -/
def failing : Errand := ⟨.fail key ⟨.transient, "timeout"⟩, ⟨4⟩⟩

/-- The second job is completed. -/
def completing : Errand :=
  ⟨.complete ⟨"00000000-0000-0000-0000-000000000002:t:0:0:34e28a9413014927"⟩ {}, ⟨8⟩⟩

/-- Both have something to store, and what the failure draws comes before what is left for the
completion. -/
theorem bothDue : waiting.supply.next = 4 ∧
    failing.operation.target? waiting.store = some ⟨0⟩ ∧
    completing.operation.target? waiting.store = some ⟨2⟩ ∧
    (failing.perform waiting).2.supply.next ≤ 8 ∧
    (failing.work? waiting).isSome ∧ (completing.work? waiting).isSome := by
  rw [waiting, Engine.performAll_install checkHash_program rfl]
  decide +kernel

end TaskRun

/-- A failure of one task and the completion of another may come in either order. -/
theorem Engine.errands_commute_of_tasks :
    ((TaskRun.failing.work? TaskRun.waiting).isSome ∧
      (TaskRun.completing.work? TaskRun.waiting).isSome) ∧
    (TaskRun.failing.perform (TaskRun.completing.perform TaskRun.waiting).2).1 =
      (TaskRun.failing.perform TaskRun.waiting).1 ∧
    (TaskRun.completing.perform (TaskRun.failing.perform TaskRun.waiting).2).1 =
      (TaskRun.completing.perform TaskRun.waiting).1 ∧
    (TaskRun.completing.perform (TaskRun.failing.perform TaskRun.waiting).2).2.store =
      (TaskRun.failing.perform (TaskRun.completing.perform TaskRun.waiting).2).2.store := by
  obtain ⟨supply, first, second, draws, stores⟩ := TaskRun.bothDue
  have rests : Advances (EngineOperation.scope .recover) TaskRun.waiting TaskRun.waiting := .refl
  have bounded : TaskRun.waiting.supply.next ≤ 2 ^ 128 := by
    rw [supply]
    decide
  obtain ⟨commute, -⟩ := Fresh.errands_commute ⟨rfl, rfl⟩
    (.of_operations TaskRun.engine _) rests bounded
  refine ⟨stores, commute TaskRun.failing TaskRun.completing ⟨0⟩ ⟨2⟩ ⟨first, ?_⟩ ⟨second, ?_⟩
    (by decide) ?_⟩
  · rw [supply]
    decide
  · rw [supply]
    decide
  · rintro number ⟨-, early⟩ ⟨late, -⟩
    exact Nat.not_lt.2 late (Nat.lt_of_lt_of_le early draws)

end ProcessEngine
