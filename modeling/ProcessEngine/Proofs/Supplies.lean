import ProcessEngine.Proofs.JobAgreement

/-!
# Programs that are at hand

The program of every stored instance is stored under its own hash, and whatever is cached is
stored as well (`Engine.Supplied`), so an instance can always be worked on. Only a request that
brings a program has it in the cache for a moment before it is stored.
-/

namespace ProcessEngine

/-- The program has the hash, which was computed from its content. -/
structure Program.Named (program : Program) (hash : ProgramHash) : Prop where
  same : program.hash = hash
  valid : program.checkHash = .ok ()

/-- Programs are found under their own hashes. -/
def Catalogued (programs : OrderedMap ProgramHash Program) : Prop :=
  ∀ hash program, programs.get? hash = some program -> program.Named hash

section

variable {programs : OrderedMap ProgramHash Program} {program : Program}

theorem Catalogued.insert (catalogued : Catalogued programs) (valid : program.checkHash = .ok ()) :
    Catalogued (programs.insert program.hash program) := by
  intro hash found present
  rw [OrderedMap.get?_insert] at present
  split at present
  · rename_i same
    cases present
    exact ⟨same.symm, valid⟩
  · exact catalogued hash found present

theorem Catalogued.insertNew (catalogued : Catalogued programs)
    (valid : program.checkHash = .ok ()) :
    Catalogued (programs.insertNew program.hash program) := by
  rw [OrderedMap.insertNew]
  split
  · exact catalogued
  · exact catalogued.insert valid

/-- What was kept is kept, and so is the program that is added. -/
theorem get?_insertNew_program (programs : OrderedMap ProgramHash Program) (program : Program) :
    (∃ kept, (programs.insertNew program.hash program).get? program.hash = some kept) ∧
      ∀ {hash found}, programs.get? hash = some found ->
        (programs.insertNew program.hash program).get? hash = some found := by
  constructor
  · rw [OrderedMap.get?_insertNew, if_pos rfl]
    cases programs.get? program.hash with
    | none => exact ⟨program, rfl⟩
    | some former => exact ⟨former, rfl⟩
  · intro hash found present
    rw [OrderedMap.get?_insertNew, present, Option.some_or]

end

namespace Engine

open UnitOfWork

/-- The programs that are cached and those that are stored are catalogued. -/
structure Catalogues (engine : Engine MemoryStore) : Prop where
  stored : Catalogued engine.store.programs
  cached : Catalogued engine.programs

/-- What is cached is stored, and so is the program of every instance. -/
structure Supplied (engine : Engine MemoryStore) : Prop extends Catalogues engine where
  kept : ∀ {hash program}, engine.programs.get? hash = some program ->
    ∃ kept, engine.store.programs.get? hash = some kept
  provided : ∀ {id state}, engine.store.states.get? id = some state ->
    ∃ program, engine.store.programs.get? state.record.program = some program

variable {engine next : Engine MemoryStore} {scope : Scope}

/-- A program that is known has its hash. -/
theorem Catalogues.known (catalogues : engine.Catalogues) {program : Program}
    (known : engine.Knows program) : program.Named program.hash := by
  rcases known with ⟨hash, cached⟩ | ⟨hash, stored⟩
  · exact ⟨rfl, (catalogues.cached _ _ cached).valid⟩
  · exact ⟨rfl, (catalogues.stored _ _ stored).valid⟩

/-- A program that is known is stored under its hash. -/
theorem Supplied.known (supplied : engine.Supplied) {program : Program}
    (known : engine.Knows program) :
    ∃ kept, engine.store.programs.get? program.hash = some kept := by
  rcases known with ⟨hash, cached⟩ | ⟨hash, stored⟩
  · obtain ⟨rfl, -⟩ := supplied.cached _ _ cached
    exact supplied.kept cached
  · obtain ⟨rfl, -⟩ := supplied.stored _ _ stored
    exact ⟨program, stored⟩

/-- What is offered for the cache is stored. -/
theorem Supplied.offered (supplied : engine.Supplied) {hash : ProgramHash} {program : Program}
    (offers : engine.Offers hash program) :
    ∃ kept, engine.store.programs.get? hash = some kept := by
  rcases offers with cached | ⟨known, rfl, -⟩
  · exact supplied.kept cached
  · exact supplied.known known

/-- The program of a stored instance can be loaded. -/
theorem Supplied.loads (supplied : engine.Supplied) {id : InstanceId} {state : InstanceState}
    (found : engine.store.states.get? id = some state) :
    ∃ program programs, engine.load state.record.program = .ok (program, programs) ∧
      program.Named state.record.program := by
  rw [load]
  cases cached : engine.programs.get? state.record.program with
  | some program => exact ⟨program, engine.programs, rfl, supplied.cached _ _ cached⟩
  | none =>
    obtain ⟨program, stored⟩ := supplied.provided found
    have named := supplied.stored _ _ stored
    have absent : engine.programs.get? program.hash = none := by rw [named.same, cached]
    have added := add_of_absent named.valid absent
    simp only [stored, added]
    exact ⟨program, _, rfl, named⟩

/-- Nothing enters the cache that is not offered, unless a request brings it. -/
theorem Advance.offers (advance : Advance scope engine next) {hash : ProgramHash}
    {program : Program} (found : next.programs.get? hash = some program) :
    engine.Offers hash program ∨ scope.installs program ∧ program.Named hash := by
  cases advance with
  | rest store supply known => exact .inl (known _ _ found)
  | learn brought added =>
    obtain ⟨valid, ⟨-, rfl⟩ | ⟨-, rfl, rfl⟩⟩ := add_cases added
    · exact .inl (.inl found)
    · dsimp only at found
      rw [OrderedMap.get?_insert] at found
      split at found
      · rename_i same
        cases found
        exact .inr ⟨brought, same.symm, valid⟩
      · exact .inl (.inl found)
  | keep known put => exact .inl (.inl found)
  | claim request => exact .inl (.inl found)
  | purge now => exact .inl (.inl found)
  | create loaded done settled => exact .inl ((offers_of_load loaded).2 _ _ found)
  | slice intended admitted sliced settled =>
    exact .inl ((offers_of_load sliced.loaded).2 _ _ found)

/-- The stored programs stay, except that one that is known may be added. -/
theorem Advance.programs (advance : Advance scope engine next) :
    next.store.programs = engine.store.programs ∨
      ∃ program, engine.Knows program ∧ program.checkHash = .ok () ∧
        next.store.programs = engine.store.programs.insertNew program.hash program := by
  have settles : ∀ {work store}, Settled engine.store work store ->
      store.programs = engine.store.programs := by
    rintro work store (_ | _)
    · rfl
    · rfl
  cases advance with
  | rest store supply known => exact .inl (by rw [store])
  | learn brought added => exact .inl rfl
  | keep known put =>
    rename_i program store
    obtain ⟨valid, rfl⟩ := putProgram_eq_ok_iff.1 put
    exact .inr ⟨program, known, valid, rfl⟩
  | claim request => exact .inl rfl
  | purge now => exact .inl rfl
  | create loaded done settled => exact .inl (settles settled)
  | slice intended admitted sliced settled => exact .inl (settles settled)

/-- Every atomic step keeps programs catalogued. -/
theorem Advance.catalogues (advance : Advance scope engine next)
    (catalogues : engine.Catalogues) : next.Catalogues := by
  constructor
  · rcases advance.programs with same | ⟨added, known, valid, same⟩
    · exact same ▸ catalogues.stored
    · exact same ▸ catalogues.stored.insertNew valid
  · intro hash program found
    rcases advance.offers found with (cached | ⟨known, rfl, -⟩) | ⟨-, named⟩
    · exact catalogues.cached _ _ cached
    · exact catalogues.known known
    · exact named

/-- The program of an instance that is stored afterwards was stored before. -/
theorem Advance.provided (sound : engine.Sound) (supplied : engine.Supplied)
    (advance : Advance scope engine next) {id : InstanceId} {state : InstanceState}
    (found : next.store.states.get? id = some state) :
    ∃ program, engine.store.programs.get? state.record.program = some program := by
  have apply : ∀ {work : UnitOfWork}, engine.Storable work ->
      next.store = engine.store.apply work.finish.1 ->
      (∃ kept, engine.store.programs.get? work.record.program = some kept) ->
      ∃ program, engine.store.programs.get? state.record.program = some program := by
    intro work storable store has
    rw [store, storable.states_apply] at found
    split at found
    · cases found
      exact has
    · exact supplied.provided found
  cases advance.act sound with
  | nothing untouched =>
    rw [untouched.states] at found
    exact supplied.provided found
  | create known absent ran store supply =>
    refine apply (storable_create absent ran) store ?_
    rw [ran.confined.program]
    exact supplied.known known
  | slice known stored own admitted intervened ran store supply =>
    refine apply (storable_slice sound stored intervened ran).1 store ?_
    rw [ran.confined.program, intervened.continues.program]
    exact supplied.provided stored

/-- Every atomic step that brings no program keeps programs at hand. -/
theorem Advance.supplied (sound : engine.Sound) (supplied : engine.Supplied)
    (advance : Advance scope engine next) (brings : ∀ program, ¬ scope.installs program) :
    next.Supplied := by
  have mono : ∀ {hash program}, engine.store.programs.get? hash = some program ->
      next.store.programs.get? hash = some program := by
    intro hash program stored
    rcases advance.programs with same | ⟨added, -, -, same⟩
    · exact same ▸ stored
    · exact same ▸ (get?_insertNew_program _ added).2 stored
  refine ⟨advance.catalogues supplied.toCatalogues, fun found => ?_, fun found => ?_⟩
  · obtain ⟨kept, stored⟩ := supplied.offered
      ((advance.offers found).resolve_right (fun brought => brings _ brought.1))
    exact ⟨kept, mono stored⟩
  · obtain ⟨program, stored⟩ := advance.provided sound supplied found
    exact ⟨program, mono stored⟩

/-- A program that is kept in the cache and then in the store is at hand. -/
theorem Supplied.install (supplied : engine.Supplied) (program : Program) :
    (outcome (install program) engine).2.Supplied := by
  rw [Engine.install, outcome_bind, outcome_keep]
  cases added : engine.programs.add program with
  | error error => exact supplied
  | ok found =>
    obtain ⟨kept, programs⟩ := found
    obtain ⟨valid, entered⟩ := add_cases added
    have named : kept.Named program.hash ∧ Catalogued programs ∧
        ∀ {hash found}, programs.get? hash = some found ->
          engine.programs.get? hash = some found ∨ hash = kept.hash := by
      rcases entered with ⟨cached, rfl⟩ | ⟨-, rfl, rfl⟩
      · exact ⟨supplied.cached _ _ cached, supplied.cached, .inl⟩
      · refine ⟨⟨rfl, valid⟩, supplied.cached.insert valid, fun {hash found} present => ?_⟩
        rw [OrderedMap.get?_insert] at present
        split at present
        · exact .inr ‹_›
        · exact .inl present
    obtain ⟨named, catalogued, origin⟩ := named
    obtain ⟨present, mono⟩ := get?_insertNew_program engine.store.programs kept
    simp only [mapError_ok]
    rw [outcome_bind_ok (outcome_putProgram named.valid _)]
    refine ⟨⟨supplied.stored.insertNew named.valid, catalogued⟩, fun {hash found} cached => ?_,
      fun found => ?_⟩
    · rcases origin cached with before | rfl
      · obtain ⟨program, stored⟩ := supplied.kept before
        exact ⟨program, mono stored⟩
      · exact present
    · obtain ⟨program, stored⟩ := supplied.provided found
      exact ⟨program, mono stored⟩

theorem Fresh.supplied (fresh : engine.Fresh) : engine.Supplied := by
  obtain ⟨store, programs⟩ := fresh
  refine ⟨⟨fun hash found present => ?_, fun hash found present => ?_⟩,
    fun {hash found} present => ?_, fun {id state} present => ?_⟩
  · rw [store] at present
    cases present
  · rw [programs] at present
    cases present
  · rw [programs] at present
    cases present
  · rw [store] at present
    cases present

theorem Supplied.deploy (supplied : engine.Supplied) (graph : ProcessGraph) :
    (outcome (deploy graph) engine).2.Supplied := by
  rw [Engine.deploy, outcome_bind, check, outcome_liftExcept]
  cases graph.compile with
  | error error => exact supplied
  | ok program => exact supplied.install program

/-- Every operation keeps programs at hand. -/
theorem Supplied.perform (supplied : engine.Supplied) (orderly : engine.Orderly)
    (operation : EngineOperation) : (outcome operation.perform engine).2.Supplied := by
  by_cases brings : ∃ program, operation.scope.installs program
  · obtain ⟨program, brings⟩ := brings
    cases operation with
    | deploy graph =>
      rw [show (EngineOperation.deploy graph).perform =
        EngineReply.installed <$> Engine.deploy graph from rfl, outcome_map]
      dsimp only
      exact supplied.deploy graph
    | install program =>
      rw [show (EngineOperation.install program).perform =
        EngineReply.installed <$> Engine.install program from rfl, outcome_map]
      dsimp only
      exact supplied.install program
    | _ => exact False.elim brings
  · have step : ∀ engine next, Advance operation.scope engine next ->
        engine.Orderly ∧ engine.Supplied -> next.Orderly ∧ next.Supplied := by
      rintro engine next advance ⟨orderly, supplied⟩
      exact ⟨advance.orderly orderly, advance.supplied orderly.sound supplied
        (fun program installs => brings ⟨program, installs⟩)⟩
    exact ((operation.advances engine).preserves step ⟨orderly, supplied⟩).2

/-- In an engine that began without anything stored, programs are at hand. -/
theorem History.supplied {first last : Engine MemoryStore} {entries : List HistoryEntry}
    (history : History first entries last) (fresh : first.Fresh) : last.Supplied := by
  induction history with
  | refl => exact fresh.supplied
  | step prior operation ih => exact ih.perform (prior.orderly fresh) operation

end Engine

end ProcessEngine
