import ProcessEngine.Engine.Operation
import ProcessEngine.Store.Memory

/-!
# Outcomes of actions

An action of the engine, of its store or of the machine leaves a state behind whether it
succeeds or fails. `outcome` names both its answer and that state, and one law for each way of
composing actions says how the outcome of the whole follows from the outcomes of its parts.
Installing a program is the one operation whose outcome is needed throughout; it is worked out
here as well (`Engine.outcome_install`).
-/

namespace ProcessEngine

section Laws

variable {ε σ α β : Type}

/-- The answer of an action and the state it leaves behind. -/
def outcome (action : ExceptT ε (StateM σ) α) (state : σ) : Except ε α × σ :=
  action.run.run state

@[simp] theorem outcome_pure (value : α) (state : σ) :
    outcome (pure value : ExceptT ε (StateM σ) α) state = (.ok value, state) := rfl

/-- The second action starts from the state that the first one leaves behind, unless that
failed. -/
theorem outcome_bind (first : ExceptT ε (StateM σ) α) (next : α -> ExceptT ε (StateM σ) β)
    (state : σ) :
    outcome (first >>= next) state =
      match outcome first state with
      | (.ok value, after) => outcome (next value) after
      | (.error error, after) => (.error error, after) := by
  rw [outcome, ExceptT.run_bind, StateT.run_bind]
  rcases found : outcome first state with ⟨result, after⟩
  rw [outcome] at found
  cases result <;> simp [found] <;> rfl

/-- After a success the second action decides. -/
theorem outcome_bind_ok {first : ExceptT ε (StateM σ) α} {next : α -> ExceptT ε (StateM σ) β}
    {state after : σ} {value : α} (succeeds : outcome first state = (.ok value, after)) :
    outcome (first >>= next) state = outcome (next value) after := by
  rw [outcome_bind, succeeds]

/-- After a failure there is no second action. -/
theorem outcome_bind_error {first : ExceptT ε (StateM σ) α}
    {next : α -> ExceptT ε (StateM σ) β} {state after : σ} {error : ε}
    (fails : outcome first state = (.error error, after)) :
    outcome (first >>= next) state = (.error error, after) := by
  rw [outcome_bind, fails]

/-- A handler starts from the state that the failed action leaves behind. -/
theorem outcome_tryCatch (action : ExceptT ε (StateM σ) α)
    (handle : ε -> ExceptT ε (StateM σ) α) (state : σ) :
    outcome (tryCatch action handle) state =
      match outcome action state with
      | (.ok value, after) => (.ok value, after)
      | (.error error, after) => outcome (handle error) after := by
  rcases found : outcome action state with ⟨result, after⟩
  rw [outcome] at found
  rw [outcome]
  simp only [tryCatch, tryCatchThe, MonadExceptOf.tryCatch, ExceptT.tryCatch, ExceptT.run_mk]
  rw [StateT.run_bind]
  change (StateT.run (ExceptT.run action) state >>= _) = _
  rw [found]
  cases result <;> rfl

theorem outcome_map (change : α -> β) (action : ExceptT ε (StateM σ) α) (state : σ) :
    outcome (change <$> action) state =
      ((outcome action state).1.map change, (outcome action state).2) := by
  rw [map_eq_pure_bind, outcome_bind]
  rcases outcome action state with ⟨result, after⟩
  cases result <;> rfl

@[simp] theorem outcome_get (state : σ) :
    outcome (get : ExceptT ε (StateM σ) σ) state = (.ok state, state) := rfl

@[simp] theorem outcome_getThe (state : σ) :
    outcome (getThe σ : ExceptT ε (StateM σ) σ) state = (.ok state, state) := rfl

@[simp] theorem outcome_set (next state : σ) :
    outcome (set next : ExceptT ε (StateM σ) PUnit) state = (.ok ⟨⟩, next) := rfl

@[simp] theorem outcome_modify (change : σ -> σ) (state : σ) :
    outcome (modify change : ExceptT ε (StateM σ) PUnit) state = (.ok ⟨⟩, change state) := rfl

@[simp] theorem outcome_liftExcept (result : Except ε α) (state : σ) :
    outcome (liftExcept result : ExceptT ε (StateM σ) α) state = (result, state) := by
  cases result <;> rfl

@[simp] theorem mapError_ok (change : ε -> β) (value : α) :
    Except.mapError change (.ok value : Except ε α) = .ok value := rfl

@[simp] theorem mapError_error (change : ε -> β) (error : ε) :
    Except.mapError change (.error error : Except ε α) = .error (change error) := rfl

/-! ## Relations along which actions move -/

/-- Whether an action always leaves behind a state that is related to the one it found. -/
def Moves (along : σ -> σ -> Prop) (action : ExceptT ε (StateM σ) α) : Prop :=
  ∀ state, along state (outcome action state).2

namespace Moves

variable {along : σ -> σ -> Prop} (refl : ∀ state, along state state)
  (trans : ∀ first middle last, along first middle -> along middle last -> along first last)

include refl in
theorem pure (value : α) : Moves along (pure value : ExceptT ε (StateM σ) α) := refl

include refl in
theorem throw (error : ε) : Moves along (throw error : ExceptT ε (StateM σ) α) := refl

include trans in
theorem bind {first : ExceptT ε (StateM σ) α} {next : α -> ExceptT ε (StateM σ) β}
    (moves : Moves along first) (moves' : ∀ value, Moves along (next value)) :
    Moves along (first >>= next) := by
  intro state
  have begun := moves state
  rw [outcome_bind]
  rcases found : outcome first state with ⟨result, after⟩
  rw [found] at begun
  cases result with
  | ok value => exact trans _ _ _ begun (moves' value after)
  | error error => exact begun

include trans in
theorem tryCatch {action : ExceptT ε (StateM σ) α} {handle : ε -> ExceptT ε (StateM σ) α}
    (moves : Moves along action) (moves' : ∀ error, Moves along (handle error)) :
    Moves along (tryCatch action handle) := by
  intro state
  have begun := moves state
  rw [outcome_tryCatch]
  rcases found : outcome action state with ⟨result, after⟩
  rw [found] at begun
  cases result with
  | ok value => exact begun
  | error error => exact trans _ _ _ begun (moves' error after)

theorem map {action : ExceptT ε (StateM σ) α} (moves : Moves along action) (change : α -> β) :
    Moves along (change <$> action) := by
  intro state
  rw [outcome_map]
  exact moves state

include refl trans in
theorem mapM {action : α -> ExceptT ε (StateM σ) β} (moves : ∀ item, Moves along (action item))
    (items : List α) : Moves along (items.mapM action) := by
  induction items with
  | nil => exact pure refl _
  | cons head rest ih =>
    rw [List.mapM_cons]
    exact bind trans (moves head) (fun _ => bind trans ih (fun _ => pure refl _))

include refl trans in
theorem forM {action : α -> ExceptT ε (StateM σ) PUnit}
    (moves : ∀ item, Moves along (action item)) (items : List α) :
    Moves along (items.forM action) := by
  induction items with
  | nil => exact pure refl _
  | cons head rest ih => exact bind trans (moves head) (fun _ => ih)

end Moves

end Laws

/-! ## Requests to a store -/

namespace StoreAction

variable {Store : Type}

/-- An update that is accepted replaces the store. -/
theorem outcome_change_ok {update : Store -> Except StoreError Store} {store next : Store}
    (accepted : update store = .ok next) :
    outcome (StoreAction.change update) store = (.ok ⟨⟩, next) := by
  rw [StoreAction.change, outcome_bind_ok (outcome_get store), accepted]
  rfl

/-- An update that is refused keeps the store. -/
theorem outcome_change_error {update : Store -> Except StoreError Store} {store : Store}
    {error : StoreError} (refused : update store = .error error) :
    outcome (StoreAction.change update) store = (.error error, store) := by
  rw [StoreAction.change, outcome_bind_ok (outcome_get store), refused]
  rfl

end StoreAction

/-- A request to the store changes nothing of the engine but its store. -/
theorem Engine.outcome_ask {Store α : Type} (request : StoreAction Store α)
    (engine : Engine Store) :
    outcome (ask request) engine =
      ((outcome request engine.store).1.mapError .store,
        { engine with store := (outcome request engine.store).2 }) := by
  rw [Engine.ask, outcome_bind_ok (outcome_getThe engine)]
  change outcome (do set _; Engine.check _) engine = _
  rw [outcome_bind_ok (outcome_set _ engine)]
  exact outcome_liftExcept _ _

/-! ## Requests to a store in memory -/

namespace Engine

variable {α : Type}

/-- Reading from a store in memory never fails and leaves the engine as it is. -/
theorem outcome_ask_read (answer : MemoryStore -> α) (engine : Engine MemoryStore) :
    outcome (ask (StoreAction.read (fun store => .ok (answer store)))) engine =
      (.ok (answer engine.store), engine) :=
  outcome_ask _ _

/-- What has to be there is found, or its absence is the error. -/
theorem outcome_require (missing : EngineError) (answer : MemoryStore -> Option α)
    (engine : Engine MemoryStore) :
    outcome (require missing (StoreAction.read (fun store => .ok (answer store)))) engine =
      ((answer engine.store).elim (.error missing) .ok, engine) := by
  rw [require, outcome_bind, outcome_ask_read]
  dsimp only
  cases answer engine.store <;> rfl

theorem outcome_stateOf (id : InstanceId) (engine : Engine MemoryStore) :
    outcome (stateOf id) engine =
      ((engine.store.states.get? id).elim (.error (.unknownInstance id)) .ok, engine) :=
  outcome_require (.unknownInstance id) (fun store : MemoryStore => store.states.get? id) engine

theorem outcome_jobOf (key : JobKey) (engine : Engine MemoryStore) :
    outcome (jobOf key) engine =
      ((engine.store.jobs.get? key).elim (.error (.unknownJob key)) .ok, engine) :=
  outcome_require (.unknownJob key) (fun store : MemoryStore => store.jobs.get? key) engine

theorem outcome_incidentOf (id : IncidentId) (engine : Engine MemoryStore) :
    outcome (incidentOf id) engine =
      ((engine.store.incidents.get? id).elim (.error (.unknownIncident id)) .ok, engine) :=
  outcome_require (.unknownIncident id) (fun store : MemoryStore => store.incidents.get? id) engine

theorem outcome_deadLetterAt (place : DeadLetterKey) (engine : Engine MemoryStore) :
    outcome (deadLetterAt place) engine =
      ((engine.store.deadLetters.get? place).elim (.error (.unknownDeadLetter place)) .ok,
        engine) :=
  outcome_require (.unknownDeadLetter place)
    (fun store : MemoryStore => store.deadLetters.get? place) engine

/-- Whether a completion is recorded is asked under a lock. -/
theorem outcome_isCompleted (key : JobKey) (owner : InstanceId) (engine : Engine MemoryStore) :
    outcome (isCompleted key owner) engine =
      (.ok (engine.store.completions.get? key).isSome,
        { engine with locks := engine.locks.insert owner }) := by
  rw [isCompleted, lock, outcome_bind, outcome_modify]
  dsimp only
  rw [outcome_bind]
  have asked := outcome_ask_read (fun store => store.completions.get? key)
    { engine with locks := engine.locks.insert owner }
  rw [show ProcessStore.completion? key = StoreAction.read (fun store : MemoryStore =>
    .ok (store.completions.get? key)) from rfl, asked]
  rfl

/-- A new instance takes the next identifier and is locked. -/
theorem outcome_drawInstance (engine : Engine MemoryStore) :
    outcome drawInstance engine =
      (.ok ⟨engine.supply.next⟩, { engine with
        supply := ⟨engine.supply.next + 1⟩
        locks := engine.locks.insert ⟨engine.supply.next⟩ }) := rfl

/-- The program that an engine finds under a hash, and its cache afterwards. -/
def load (engine : Engine MemoryStore) (hash : ProgramHash) :
    Except EngineError (Program × ProgramCache) :=
  match engine.programs.get? hash with
  | some program => .ok (program, engine.programs)
  | none =>
    match engine.store.programs.get? hash with
    | some program => (engine.programs.add program).mapError .program
    | none => .error (.unknownProgram hash)

theorem outcome_keep (program : Program) (engine : Engine MemoryStore) :
    outcome (keep program) engine =
      match (engine.programs.add program).mapError .program with
      | .ok (kept, programs) => (.ok kept, { engine with programs := programs })
      | .error error => (.error error, engine) := by
  rw [keep, outcome_bind, outcome_getThe]
  dsimp only
  rw [outcome_bind, Engine.check, outcome_liftExcept]
  cases (engine.programs.add program).mapError EngineError.program <;> rfl

/-- A program is found in the cache or brought there from the store. -/
theorem outcome_programOf (hash : ProgramHash) (engine : Engine MemoryStore) :
    outcome (programOf hash) engine =
      match engine.load hash with
      | .ok (program, programs) => (.ok program, { engine with programs := programs })
      | .error error => (.error error, engine) := by
  rw [programOf, outcome_bind, outcome_getThe, load]
  dsimp only
  cases engine.programs.get? hash with
  | some program => rfl
  | none =>
    dsimp only
    rw [outcome_bind, show ProcessStore.program? hash = StoreAction.read (fun store : MemoryStore =>
      .ok (store.programs.get? hash)) from rfl, outcome_require]
    cases engine.store.programs.get? hash with
    | some program =>
      simp only [Option.elim]
      rw [outcome_keep]
    | none => rfl

end Engine

/-! ## Programs that are installed -/

section

variable {program : Program}

/-- A program is kept in the store if it is named by its own hash. -/
theorem putProgram_eq_ok_iff {store next : MemoryStore} :
    store.putProgram program = .ok next ↔ program.checkHash = .ok () ∧
      next = { store with programs := store.programs.insertNew program.hash program } := by
  rw [MemoryStore.putProgram]
  constructor
  · intro put
    cases valid : program.checkHash with
    | error error =>
      rw [valid] at put
      cases put
    | ok done =>
      rw [valid] at put
      cases put
      exact ⟨rfl, rfl⟩
  · rintro ⟨valid, rfl⟩
    rw [valid]
    rfl

/-- A program of a new hash enters the cache. -/
theorem add_of_absent {cache : ProgramCache} (valid : program.checkHash = .ok ())
    (absent : cache.get? program.hash = none) :
    cache.add program = .ok (program, cache.insert program.hash program) := by
  rw [ProgramCache.add, valid]
  simp only [bind, Except.bind, absent]
  rfl

namespace Engine

theorem outcome_putProgram (valid : program.checkHash = .ok ()) (engine : Engine MemoryStore) :
    outcome (ask (ProcessStore.putProgram program)) engine =
      (.ok (), { engine with store := { engine.store with
        programs := engine.store.programs.insertNew program.hash program } }) := by
  let update (store : MemoryStore) := (store.putProgram program).mapError StoreError.program
  have accepted : update engine.store = .ok { engine.store with
      programs := engine.store.programs.insertNew program.hash program } := by
    simp only [update, putProgram_eq_ok_iff.2 ⟨valid, rfl⟩, mapError_ok]
  rw [outcome_ask, show ProcessStore.putProgram program = StoreAction.change update from rfl,
    StoreAction.outcome_change_ok accepted]
  rfl

/-- The engine with a program in its cache and in its store. -/
def holding (engine : Engine MemoryStore) (program : Program) : Engine MemoryStore :=
  { engine with
    programs := engine.programs.insert program.hash program
    store := { engine.store with
      programs := engine.store.programs.insertNew program.hash program } }

/-- A program of a new hash is put into the cache and into the store. -/
theorem outcome_install {engine : Engine MemoryStore} (valid : program.checkHash = .ok ())
    (new : engine.programs.get? program.hash = none) :
    outcome (install program) engine = (.ok program.hash, engine.holding program) := by
  rw [install, outcome_bind, outcome_keep, add_of_absent valid new]
  dsimp only [mapError_ok]
  rw [outcome_bind_ok (outcome_putProgram valid _), outcome_pure]
  rfl

end Engine

end

end ProcessEngine
