import ProcessEngine.Proofs.Attempts

/-!
# Advances of an engine

Whatever an engine over a store in memory is asked, it goes through a sequence of atomic
advances (`EngineOperation.advances`): it stores the result of a slice as a whole, creates an
instance, claims jobs, drops dead letters, keeps a program, or changes nothing that is stored.
A property of stores that every single advance keeps is therefore kept by every operation.
-/

namespace ProcessEngine

/-- Why an engine changes an instance. -/
inductive Purpose where
  | run
  | cancel (id : InstanceId)
  | complete (key : JobKey)
  | fail (key : JobKey)
  | signal
  | settle (incident : IncidentId)
  | requeue (place : DeadLetterKey)
  | abandon (place : DeadLetterKey)

/-- The changes that an engine makes of an instance, with what it has looked up before. -/
inductive Intervention (store : MemoryStore) (config : EngineConfig) (id : InstanceId) :
    Purpose -> {Result : Type} -> Change Result -> Prop where
  | run : Intervention store config id .run .none
  | cancel (reason : String) :
    Intervention store config id (.cancel id) (Engine.cancellation reason)
  | complete {key job} (stored : store.jobs.get? key = some job) (owned : job.owner = id)
      (first : store.completions.get? key = none) (completion : JobCompletion) :
    Intervention store config id (.complete key) (job.complete completion)
  | fail {key job} (stored : store.jobs.get? key = some job) (owned : job.owner = id)
      (first : store.completions.get? key = none) (problem : JobFailure) :
    Intervention store config id (.fail key) (job.fail problem config)
  | signal {wakeUp : WakeSignal} (addressed : wakeUp.owner = id) :
    Intervention store config id .signal wakeUp.change
  | settle {key incident} (stored : store.incidents.get? key = some incident)
      (owned : incident.owner = id) (pending : incident.isOpen = true) (resolution : String) :
    Intervention store config id (.settle key) (incident.settlement resolution)
  | requeue {place letter} (stored : store.deadLetters.get? place = some letter)
      (owned : letter.job.owner = id) :
    Intervention store config id (.requeue place)
      (letter.requeue (letter.incident.bind store.incidents.get?))
  | abandon {place letter} (stored : store.deadLetters.get? place = some letter)
      (owned : letter.job.owner = id) :
    Intervention store config id (.abandon place) letter.abandon

/-- What a request may do: the changes it admits and the programs it brings. -/
structure Scope where
  admits : Purpose -> Prop
  installs : Program -> Prop

namespace Engine

/-- Whether a program is in the cache or in the store. -/
def Knows (engine : Engine MemoryStore) (program : Program) : Prop :=
  (∃ hash, engine.programs.get? hash = some program) ∨
    ∃ hash, engine.store.programs.get? hash = some program

/-- Whether a program is in the cache under a hash, or is known and has that hash. -/
def Offers (engine : Engine MemoryStore) (hash : ProgramHash) (program : Program) : Prop :=
  engine.programs.get? hash = some program ∨
    (engine.Knows program ∧ program.hash = hash ∧ program.checkHash = .ok ())

/-- What becomes of a store when a slice has been made. -/
inductive Settled (store : MemoryStore) (work : UnitOfWork) : MemoryStore -> Prop where
  /-- There is nothing to store, or another writer came before. -/
  | discarded : Settled store work store
  | stored (current : store.version? work.record.id = work.base) :
    Settled store work (store.apply work.finish.1)

/-- One atomic step of an engine. -/
inductive Advance (scope : Scope) (engine : Engine MemoryStore) : Engine MemoryStore -> Prop where
  /-- Nothing that is stored changes. -/
  | rest {next : Engine MemoryStore} (store : next.store = engine.store)
      (supply : engine.supply.next ≤ next.supply.next)
      (known : ∀ hash program, next.programs.get? hash = some program ->
        engine.Offers hash program) :
    Advance scope engine next
  /-- A new program enters the cache. -/
  | learn {program kept programs} (brought : scope.installs program)
      (added : engine.programs.add program = .ok (kept, programs)) :
    Advance scope engine { engine with programs := programs }
  /-- A known program is kept in the store. -/
  | keep {program store} (known : engine.Knows program)
      (put : engine.store.putProgram program = .ok store) :
    Advance scope engine { engine with store := store }
  | claim (request : ClaimRequest) :
    Advance scope engine { engine with store := (engine.store.claim request).2 }
  | purge (now : Instant) :
    Advance scope engine { engine with store := (engine.store.purge now).2 }
  /-- A new instance runs. -/
  | create {hash payload correlation program programs report work store queue locks}
      (loaded : engine.load hash = .ok (program, programs))
      (done : begin.slice program engine.config.maximumSteps
        (.create (.create ⟨engine.supply.next⟩ hash payload correlation engine.now) engine.now
          ⟨engine.supply.next + 1⟩) = .ok ((), report, work))
      (settled : Settled engine.store work store) :
    Advance scope engine { engine with
      programs := programs
      supply := work.supply
      store := store
      queue := queue
      locks := locks }
  /-- A stored instance is changed and runs. -/
  | slice {id purpose} {Result : Type} {change : Change Result}
      {result report work programs state program store queue}
      (intended : Intervention engine.store engine.config id purpose change)
      (admitted : scope.admits purpose)
      (sliced : Sliced engine id change result report work programs state program)
      (settled : Settled engine.store work store) :
    Advance scope engine { engine with
      programs := programs
      supply := work.supply
      store := store
      queue := queue }

/-- A finite sequence of atomic steps. -/
inductive Advances (scope : Scope) (first : Engine MemoryStore) : Engine MemoryStore -> Prop where
  | refl : Advances scope first first
  | step {middle last} (prior : Advances scope first middle)
      (advance : Advance scope middle last) : Advances scope first last

namespace Advances

variable {scope : Scope} {first middle last : Engine MemoryStore}

theorem trans (prior : Advances scope first middle) (later : Advances scope middle last) :
    Advances scope first last := by
  induction later with
  | refl => exact prior
  | step _ advance ih => exact .step ih advance

theorem single (advance : Advance scope first last) : Advances scope first last :=
  .step .refl advance

/-- What every atomic step keeps is kept by sequences of them. -/
theorem preserves {Invariant : Engine MemoryStore -> Prop}
    (step : ∀ engine next, Advance scope engine next -> Invariant engine -> Invariant next)
    (advances : Advances scope first last) (holds : Invariant first) : Invariant last := by
  induction advances with
  | refl => exact holds
  | step _ advance ih => exact step _ _ advance ih

end Advances

/-! ## Actions that advance an engine -/

/-- Whether an action does nothing but advance the engine. -/
abbrev Follows {α : Type} (scope : Scope) (action : EngineAction MemoryStore α) : Prop :=
  Moves (Advances scope) action

variable {scope : Scope} {α β : Type}

theorem Follows.pure (value : α) : Follows scope (pure value) := Moves.pure (fun _ => .refl) value

theorem Follows.throw (error : EngineError) :
    Follows scope (throw error : EngineAction MemoryStore α) :=
  Moves.throw (fun _ => .refl) error

theorem Follows.bind {first : EngineAction MemoryStore α}
    {next : α -> EngineAction MemoryStore β} (follows : Follows scope first)
    (follows' : ∀ value, Follows scope (next value)) : Follows scope (first >>= next) :=
  Moves.bind (fun _ _ _ => .trans) follows follows'

theorem Follows.attempted {request : EngineAction MemoryStore Bool}
    (follows : Follows scope request) : Follows scope (attempted request) :=
  Moves.tryCatch (fun _ _ _ => .trans) follows (fun _ => Follows.pure false)

theorem Follows.mapM {action : α -> EngineAction MemoryStore β}
    (follows : ∀ item, Follows scope (action item)) (items : List α) :
    Follows scope (items.mapM action) :=
  Moves.mapM (fun _ => .refl) (fun _ _ _ => .trans) follows items

theorem Follows.forM {action : α -> EngineAction MemoryStore PUnit}
    (follows : ∀ item, Follows scope (action item)) (items : List α) :
    Follows scope (items.forM action) :=
  Moves.forM (fun _ => .refl) (fun _ _ _ => .trans) follows items

/-- A known program is known as long as cache and store keep it. -/
theorem Knows.of_cached {engine : Engine MemoryStore} {hash : ProgramHash} {program : Program}
    (found : engine.programs.get? hash = some program) : engine.Knows program :=
  .inl ⟨hash, found⟩

/-- An action that changes neither store nor programs only takes identifiers, if anything. -/
theorem Follows.of_modify {change : Engine MemoryStore -> Engine MemoryStore}
    (store : ∀ engine, (change engine).store = engine.store)
    (supply : ∀ engine, (change engine).supply = engine.supply)
    (programs : ∀ engine, (change engine).programs = engine.programs) :
    Follows scope (modify change) := by
  intro engine
  refine .single (.rest (store engine) (Nat.le_of_eq (congrArg IdSupply.next (supply engine)).symm)
    (fun hash program found => ?_))
  have same : (outcome (modify change : EngineAction MemoryStore PUnit) engine).2.programs =
      engine.programs := programs engine
  rw [same] at found
  exact .inl found

theorem follows_lock (id : InstanceId) : Follows scope (lock id) :=
  .of_modify (fun _ => rfl) (fun _ => rfl) (fun _ => rfl)

theorem follows_enqueue (id : InstanceId) : Follows scope (enqueue id) := by
  apply Follows.of_modify
  all_goals
    intro engine
    split
    · rfl
    · rfl

/-- Reading from the store leaves the engine as it is. -/
theorem follows_read (answer : MemoryStore -> α) :
    Follows scope (ask (StoreAction.read (fun store => .ok (answer store)))) := by
  intro engine
  rw [outcome_ask_read]
  exact .refl

theorem follows_get : Follows scope (getThe (Engine MemoryStore)) := fun _ => .refl

theorem follows_require (missing : EngineError) (answer : MemoryStore -> Option α) :
    Follows scope (require missing (StoreAction.read (fun store => .ok (answer store)))) := by
  intro engine
  rw [outcome_require]
  exact .refl

/-! ## Programs -/

/-- A program enters a cache with a checked hash, and stays if it was there before. -/
theorem add_cases {cache : ProgramCache} {program kept : Program} {programs : ProgramCache}
    (added : cache.add program = .ok (kept, programs)) :
    program.checkHash = .ok () ∧
      ((cache.get? program.hash = some kept ∧ programs = cache) ∨
        (cache.get? program.hash = none ∧ kept = program ∧
          programs = cache.insert program.hash program)) := by
  rw [ProgramCache.add] at added
  cases valid : program.checkHash with
  | error error =>
    rw [valid] at added
    cases added
  | ok done =>
    rw [valid] at added
    simp only [bind, Except.bind] at added
    cases found : cache.get? program.hash with
    | some old =>
      rw [found] at added
      cases added
      exact ⟨rfl, .inl ⟨rfl, rfl⟩⟩
    | none =>
      rw [found] at added
      cases added
      exact ⟨rfl, .inr ⟨rfl, rfl, rfl⟩⟩

/-- A program that is loaded was known, and no other program enters the cache. -/
theorem offers_of_load {engine : Engine MemoryStore} {hash : ProgramHash} {program : Program}
    {programs : ProgramCache} (loaded : engine.load hash = .ok (program, programs)) :
    engine.Knows program ∧
      ∀ other found, programs.get? other = some found -> engine.Offers other found := by
  rw [load] at loaded
  cases cached : engine.programs.get? hash with
  | some present =>
    rw [cached] at loaded
    cases loaded
    exact ⟨.of_cached cached, fun _ _ found => .inl found⟩
  | none =>
    rw [cached] at loaded
    cases stored : engine.store.programs.get? hash with
    | none =>
      rw [stored] at loaded
      cases loaded
    | some present =>
      rw [stored] at loaded
      cases added : engine.programs.add present with
      | error error =>
        simp only [added, mapError_error] at loaded
        cases loaded
      | ok found =>
        simp only [added, mapError_ok] at loaded
        cases loaded
        obtain ⟨valid, ⟨kept, rfl⟩ | ⟨-, rfl, rfl⟩⟩ := add_cases added
        · exact ⟨.of_cached kept, fun _ _ found => .inl found⟩
        · refine ⟨.inr ⟨hash, stored⟩, fun other found asked => ?_⟩
          rw [OrderedMap.get?_insert] at asked
          split at asked
          · rename_i same
            cases asked
            exact .inr ⟨.inr ⟨hash, stored⟩, same.symm, valid⟩
          · exact .inl asked

/-- A program that a request brings may be kept, in the cache and then in the store. -/
theorem follows_install {program : Program} (brought : scope.installs program) :
    Follows scope (install program) := by
  intro engine
  rw [install, outcome_bind, outcome_keep]
  cases added : engine.programs.add program with
  | error error => exact .refl
  | ok found =>
    obtain ⟨kept, programs⟩ := found
    have learned : Advances scope engine { engine with programs := programs } :=
      .single (.learn brought added)
    have known : Knows { engine with programs := programs } kept := by
      rcases (add_cases added).2 with ⟨found, rfl⟩ | ⟨-, rfl, rfl⟩
      · exact .of_cached found
      · exact .of_cached (OrderedMap.get?_insert_self _ _ _)
    simp only [mapError_ok]
    refine learned.trans ?_
    let update (store : MemoryStore) := (store.putProgram kept).mapError StoreError.program
    rw [outcome_bind, outcome_ask,
      show ProcessStore.putProgram kept = StoreAction.change update from rfl]
    cases put : engine.store.putProgram kept with
    | error error =>
      have refused : update engine.store = .error (.program error) := by
        simp only [update, put, mapError_error]
      rw [StoreAction.outcome_change_error refused]
      exact .refl
    | ok store =>
      have accepted : update engine.store = .ok store := by
        simp only [update, put, mapError_ok]
      rw [StoreAction.outcome_change_ok accepted]
      exact .single (.keep known put)

/-! ## Changes of instances -/

variable {Result : Type}

/-- An attempt at an intervention is made as one step, or not at all. -/
theorem advances_attempt {id : InstanceId} {purpose : Purpose} {change : Change Result}
    {engine : Engine MemoryStore}
    (intended : Intervention engine.store engine.config id purpose change)
    (admitted : scope.admits purpose) :
    Advances scope engine (outcome (attempt id change) engine).2 := by
  have attempted := attempted_attempt id change engine
  generalize outcome (attempt id change) engine = reached at attempted ⊢
  cases attempted with
  | missing absent => exact .refl
  | unloaded stored failed => exact .refl
  | refused stored loaded failed =>
    exact .single (.rest rfl (Nat.le_refl _) (offers_of_load loaded).2)
  | idle sliced empty => exact .single (.slice intended admitted sliced .discarded)
  | contended sliced nonempty stale =>
    exact .single (.slice intended admitted sliced .discarded)
  | committed sliced nonempty current =>
    exact .single (.slice intended admitted sliced (.stored current))

/-- An attempt that another writer came before leaves the store as it was. -/
theorem store_of_contended {id : InstanceId} {change : Change Result}
    {engine after : Engine MemoryStore}
    (contended : outcome (attempt id change) engine = (.ok none, after)) :
    after.store = engine.store ∧ after.config = engine.config := by
  have attempted := attempted_attempt id change engine
  rw [contended] at attempted
  cases attempted
  exact ⟨rfl, rfl⟩

/-- Attempts are repeated only on a store that they have left as it was. -/
theorem advances_persist {id : InstanceId} {one : EngineAction MemoryStore (Option Result)}
    {engine : Engine MemoryStore}
    (each : ∀ start : Engine MemoryStore, start.store = engine.store ->
      start.config = engine.config ->
      Advances scope start (outcome one start).2 ∧
        ∀ after, outcome one start = (.ok none, after) ->
          after.store = start.store ∧ after.config = start.config) :
    Advances scope engine (outcome (persist id one) engine).2 := by
  rw [persist, outcome_bind_ok (outcome_getThe engine)]
  generalize max 1 engine.config.commitAttempts = remaining
  generalize 0 = made
  suffices ∀ start : Engine MemoryStore, start.store = engine.store ->
      start.config = engine.config ->
      Advances scope start (outcome (insist id one remaining made) start).2 from
    this engine rfl rfl
  intro start store config
  induction remaining generalizing made start with
  | zero => exact .refl
  | succ remaining ih =>
    obtain ⟨advances, retried⟩ := each start store config
    rw [insist, outcome_bind]
    rcases tried : outcome one start with ⟨result, after⟩
    rw [tried] at advances
    cases result with
    | error error => exact advances
    | ok found =>
      cases found with
      | some result => exact advances
      | none =>
        obtain ⟨store', config'⟩ := retried after tried
        exact advances.trans (ih _ after (store'.trans store) (config'.trans config))

/-- An intervention that the stored state calls for may be made. -/
theorem advances_transact {id : InstanceId} {purpose : Purpose} {change : Change Result}
    {engine : Engine MemoryStore}
    (intended : Intervention engine.store engine.config id purpose change)
    (admitted : scope.admits purpose) :
    Advances scope engine (outcome (transact id change) engine).2 := by
  refine advances_persist (fun start store config => ⟨?_, fun after => store_of_contended⟩)
  rw [← store, ← config] at intended
  exact advances_attempt intended admitted

/-! ## Operations -/

theorem follows_start (hash : ProgramHash) (payload : Json) (correlation : String) :
    Follows scope (start hash payload correlation) := by
  intro engine
  rw [start, outcome_bind, outcome_programOf]
  cases loaded : engine.load hash with
  | error error => exact .refl
  | ok found =>
    obtain ⟨program, programs⟩ := found
    have known := (offers_of_load loaded).2
    dsimp only
    rw [outcome_bind_ok (outcome_drawInstance _), outcome_bind_ok (outcome_getThe _), outcome_bind,
      check, outcome_liftExcept]
    dsimp only
    cases done : begin.slice program engine.config.maximumSteps
        (.create (.create ⟨engine.supply.next⟩ hash payload correlation engine.now) engine.now
          ⟨engine.supply.next + 1⟩) with
    | error error => exact .single (.rest rfl (Nat.le_succ _) known)
    | ok made =>
      obtain ⟨⟨⟩, report, work⟩ := made
      dsimp only
      rw [outcome_bind_ok (outcome_set _ _), outcome_bind]
      by_cases current : engine.store.version? work.record.id = work.base
      · obtain ⟨queue, stores⟩ := outcome_commit_of_current work report
          { engine with
            programs := programs
            supply := work.supply
            locks := engine.locks.insert ⟨engine.supply.next⟩ } current
        rw [stores]
        exact .single (.create loaded done (.stored current))
      · rw [outcome_commit_of_stale work report
          { engine with
            programs := programs
            supply := work.supply
            locks := engine.locks.insert ⟨engine.supply.next⟩ } current]
        exact .single (.create loaded done .discarded)

theorem follows_run (admitted : scope.admits .run) (id : InstanceId) : Follows scope (run id) :=
  .bind (follows_lock id) (fun _ _ => advances_transact .run admitted)

theorem follows_recover (admitted : scope.admits .run) : Follows scope recover :=
  .bind (follows_read MemoryStore.runnable) (fun _ =>
    .bind (.mapM (fun id => .attempted (.bind (follows_run admitted id) (fun _ => .pure true))) _)
      (fun _ => .pure _))

theorem follows_cancel {id : InstanceId} (admitted : scope.admits (.cancel id)) (reason : String) :
    Follows scope (cancel id reason) :=
  .bind (follows_lock id) (fun _ _ => advances_transact (.cancel reason) admitted)

theorem follows_signal (admitted : scope.admits .signal) (wakeUp : WakeSignal) :
    Follows scope (signal wakeUp) :=
  .bind (follows_lock wakeUp.owner) (fun _ _ => advances_transact (.signal rfl) admitted)

theorem follows_wakes (admitted : scope.admits .signal) (wakeUp : WakeSignal) :
    Follows scope (wakes wakeUp) :=
  .bind (follows_signal admitted wakeUp) (fun _ => .pure _)

theorem follows_correlate (admitted : scope.admits .signal) (name correlation : String)
    (payload : Option Json) : Follows scope (correlate name correlation payload) :=
  .bind (follows_read (fun store => store.waiters name correlation)) (fun _ =>
    .bind (.mapM (fun _ => follows_wakes admitted _) _) (fun _ => .pure _))

theorem follows_fireTimers (admitted : scope.admits .signal) : Follows scope fireTimers :=
  .bind follows_get (fun _ => .bind (follows_read (fun store => store.dueTimers _)) (fun _ =>
    .bind (.mapM (fun _ => .attempted (follows_wakes admitted _)) _) (fun _ => .pure _)))

theorem follows_dequeue : Follows scope dequeue :=
  fun _ => .single (.rest rfl (Nat.le_refl _) (fun _ _ found => .inl found))

theorem follows_pruneLocks : Follows scope pruneLocks :=
  fun _ => .single (.rest rfl (Nat.le_refl _) (fun _ _ found => .inl found))

theorem follows_sweep (admitted : scope.admits .signal) : Follows scope sweep := by
  refine .bind follows_get (fun engine => ?_)
  have rest : Follows scope (do
      (<- ask ProcessStore.runnable).forM enqueue
      let _ <- pruneLocks : EngineAction MemoryStore Unit) :=
    .bind (follows_read MemoryStore.runnable) (fun _ =>
      .bind (.forM (fun id => follows_enqueue id) _) (fun _ =>
        .bind follows_pruneLocks (fun _ => .pure _)))
  split
  · exact .bind (follows_fireTimers admitted) (fun _ => rest)
  · exact rest

theorem follows_isIdle : Follows scope isIdle := by
  refine .bind follows_get (fun engine => .bind (follows_read MemoryStore.runnable) (fun _ => ?_))
  dsimp only
  split
  · exact .bind (follows_read (fun store => store.dueTimers _)) (fun _ => .pure _)
  · exact .bind (.pure _) (fun _ => .pure _)

theorem follows_work (admitted : scope.admits .run) (admitted' : scope.admits .signal)
    (turns : Nat) : Follows scope (work turns) := by
  induction turns with
  | zero => exact follows_isIdle
  | succ turns ih =>
    refine .bind follows_dequeue (fun next => ?_)
    cases next with
    | some id =>
      exact .bind (.attempted (.bind (follows_run admitted id) (fun _ => .pure true)))
        (fun _ => ih)
    | none =>
      refine .bind (follows_sweep admitted') (fun _ => .bind follows_isIdle (fun idle => ?_))
      cases idle with
      | true => exact .pure true
      | false => exact ih

/-- A change with a job is made with the job that is stored. -/
theorem advances_withJob {key : JobKey} {job : Job} {change : Job -> Change Result}
    {purpose : Purpose} {engine : Engine MemoryStore}
    (stored : engine.store.jobs.get? key = some job)
    (intended : Intervention engine.store engine.config job.owner purpose (change job))
    (admitted : scope.admits purpose) :
    Advances scope engine (outcome (withJob key job.owner change) engine).2 := by
  refine advances_persist (fun start store config => ?_)
  rw [← store] at stored
  rw [← store, ← config] at intended
  rw [outcome_bind, outcome_jobOf, stored]
  exact ⟨advances_attempt intended admitted, fun after => store_of_contended⟩

/-- Locking an instance is no step of its own. -/
theorem advances_locked (engine : Engine MemoryStore) (id : InstanceId) :
    Advances scope engine { engine with locks := engine.locks.insert id } :=
  follows_lock id engine

theorem follows_complete {key : JobKey} (admitted : scope.admits (.complete key))
    (completion : JobCompletion) : Follows scope (complete key completion) := by
  intro engine
  rw [complete, outcome_bind, outcome_jobOf]
  cases stored : engine.store.jobs.get? key with
  | none => exact .refl
  | some job =>
    simp only [Option.elim]
    rw [outcome_bind, outcome_isCompleted]
    refine (advances_locked engine job.owner).trans ?_
    cases first : engine.store.completions.get? key with
    | some record => exact .refl
    | none =>
      simp only [Option.isSome_none]
      rw [if_neg Bool.false_ne_true]
      exact advances_withJob stored (.complete stored rfl first completion) admitted

theorem follows_fail {key : JobKey} (admitted : scope.admits (.fail key))
    (problem : JobFailure) : Follows scope (fail key problem) := by
  intro engine
  rw [fail, outcome_bind, outcome_jobOf]
  cases stored : engine.store.jobs.get? key with
  | none => exact .refl
  | some job =>
    simp only [Option.elim]
    rw [outcome_bind, outcome_isCompleted]
    refine (advances_locked engine job.owner).trans ?_
    cases first : engine.store.completions.get? key with
    | some record => exact .refl
    | none =>
      simp only [Option.isSome_none]
      rw [if_neg Bool.false_ne_true, outcome_bind_ok (outcome_getThe _)]
      exact advances_withJob stored (.fail stored rfl first problem) admitted

theorem follows_resolve {id : IncidentId} (admitted : scope.admits (.settle id))
    (resolution : String) : Follows scope (resolve id resolution) := by
  intro engine
  rw [resolve, outcome_bind, outcome_incidentOf]
  cases stored : engine.store.incidents.get? id with
  | none => exact .refl
  | some incident =>
    simp only [Option.elim]
    rw [lock, outcome_bind_ok (outcome_modify _ _), outcome_bind, outcome_incidentOf]
    refine (advances_locked engine incident.owner).trans ?_
    rw [stored]
    simp only [Option.elim]
    split
    · rename_i pending
      exact advances_transact (.settle stored rfl pending resolution) admitted
    · exact .refl

theorem follows_requeue {place : DeadLetterKey} (admitted : scope.admits (.requeue place)) :
    Follows scope (requeue place) := by
  intro engine
  rw [requeue, outcome_bind, outcome_deadLetterAt]
  cases stored : engine.store.deadLetters.get? place with
  | none => exact .refl
  | some letter =>
    simp only [Option.elim]
    rw [lock, outcome_bind_ok (outcome_modify _ _), outcome_bind, outcome_deadLetterAt]
    refine (advances_locked engine letter.job.owner).trans ?_
    rw [stored]
    simp only [Option.elim]
    have intended : Intervention engine.store engine.config letter.job.owner (.requeue place)
        (letter.requeue (letter.incident.bind engine.store.incidents.get?)) := .requeue stored rfl
    cases linked : letter.incident with
    | none =>
      rw [linked] at intended
      exact advances_transact intended admitted
    | some id =>
      rw [linked] at intended
      dsimp only
      rw [show ProcessStore.incident? id = StoreAction.read (fun store : MemoryStore =>
        .ok (store.incidents.get? id)) from rfl, outcome_bind_ok (outcome_ask_read _ _)]
      exact advances_transact intended admitted

theorem follows_cancelDeadLetter {place : DeadLetterKey}
    (admitted : scope.admits (.abandon place)) : Follows scope (cancelDeadLetter place) := by
  intro engine
  rw [cancelDeadLetter, outcome_bind, outcome_deadLetterAt]
  cases stored : engine.store.deadLetters.get? place with
  | none => exact .refl
  | some letter =>
    simp only [Option.elim]
    rw [lock, outcome_bind_ok (outcome_modify _ _), outcome_bind, outcome_deadLetterAt]
    refine (advances_locked engine letter.job.owner).trans ?_
    rw [stored]
    exact advances_transact (.abandon stored rfl) admitted

end Engine

namespace EngineOperation

open Engine

/-- What an operation may do. -/
def scope (operation : EngineOperation) : Scope where
  admits purpose :=
    match operation with
    | .run _ => purpose = .run
    | .recover => purpose = .run
    | .cancel id _ => purpose = .cancel id
    | .complete key _ => purpose = .complete key
    | .fail key _ => purpose = .fail key
    | .signal _ _ _ _ _ => purpose = .signal
    | .correlate _ _ _ => purpose = .signal
    | .fireTimers => purpose = .signal
    | .resolve id _ => purpose = .settle id
    | .requeue place => purpose = .requeue place
    | .cancelDeadLetter place => purpose = .abandon place
    | .work _ => purpose = .run ∨ purpose = .signal
    | _ => False
  installs program :=
    match operation with
    | .deploy graph => graph.compile = .ok program
    | .install installed => installed = program
    | _ => False

theorem follows_setNow {scope : Scope} (change : Instant -> Instant) :
    Follows scope (setNow change) :=
  fun _ => .single (.rest rfl (Nat.le_refl _) (fun _ _ found => .inl found))

/-- Whatever an engine is asked, it does nothing but advance within the scope of the request. -/
theorem advances (operation : EngineOperation) (engine : Engine MemoryStore) :
    Advances operation.scope engine (outcome operation.perform engine).2 := by
  suffices Follows operation.scope operation.perform from this engine
  cases operation with
  | deploy graph =>
    refine Moves.map (fun engine => ?_) _
    rw [Engine.deploy, outcome_bind, check, outcome_liftExcept]
    cases compiled : graph.compile with
    | error error => exact .refl
    | ok program => exact follows_install compiled engine
  | install program => exact Moves.map (follows_install rfl) _
  | evict hash =>
    refine Moves.map
      (fun engine => .single (.rest rfl (Nat.le_refl _) (fun other program found => ?_))) _
    change (engine.programs.erase hash).get? other = some program at found
    rw [OrderedMap.get?_erase] at found
    split at found
    · cases found
    · exact .inl found
  | start hash payload correlation => exact Moves.map (follows_start hash payload correlation) _
  | run id => exact .bind (follows_run rfl id) (fun _ => .pure _)
  | recover => exact Moves.map (follows_recover rfl) _
  | cancel id reason => exact .bind (follows_cancel rfl reason) (fun _ => .pure _)
  | inspect id => exact Moves.map (follows_require _ (fun store => store.states.get? id)) _
  | events id first =>
    have follows : Follows (events id first).scope (eventsFrom id first) :=
      .bind (follows_require _ (fun store => store.states.get? id))
        (fun _ => follows_read (fun store => store.eventsFrom id first))
    exact follows.map _
  | activate taskTypes worker limit =>
    refine Moves.map (fun engine => ?_) _
    rw [Engine.activate, outcome_bind_ok (outcome_getThe engine)]
    exact .single (.claim _)
  | job key => exact Moves.map (follows_require _ (fun store => store.jobs.get? key)) _
  | jobs id => exact Moves.map (follows_read (fun store => store.jobsOf id)) _
  | complete key completion => exact Moves.map (follows_complete rfl completion) _
  | fail key problem => exact Moves.map (follows_fail rfl problem) _
  | signal id fiber epoch kind inputs =>
    cases epoch with
    | some epoch => exact .bind (.pure epoch) (fun _ => Moves.map (follows_signal rfl _) _)
    | none =>
      refine .bind ?_ (fun _ => Moves.map (follows_signal rfl _) _)
      refine .bind (Moves.tryCatch (fun _ _ _ => .trans) ?_ (fun _ => Follows.pure _))
        (fun _ => .pure _)
      exact Moves.map (follows_require _ (fun store => store.states.get? id)) _
  | correlate name correlation payload =>
    exact Moves.map (follows_correlate rfl name correlation payload) _
  | fireTimers => exact Moves.map (follows_fireTimers rfl) _
  | incident id => exact Moves.map (follows_require _ (fun store => store.incidents.get? id)) _
  | incidents id => exact Moves.map (follows_read (fun store => store.incidentsOf id)) _
  | resolve id resolution => exact .bind (follows_resolve rfl resolution) (fun _ => .pure _)
  | deadLetters => exact Moves.map (follows_read MemoryStore.deadLettersInOrder) _
  | requeue place => exact .bind (follows_requeue rfl) (fun _ => .pure _)
  | cancelDeadLetter place => exact .bind (follows_cancelDeadLetter rfl) (fun _ => .pure _)
  | purge =>
    refine Moves.map (fun engine => ?_) _
    rw [Engine.purge, outcome_bind_ok (outcome_getThe engine)]
    exact .single (.purge _)
  | runnable => exact Moves.map (follows_read MemoryStore.runnable) _
  | dueTimers =>
    exact .bind follows_get (fun engine => Moves.map
      (follows_read (fun store => store.dueTimers engine.now)) _)
  | waiters name correlation =>
    exact Moves.map (follows_read (fun store => store.waiters name correlation)) _
  | advance milliseconds => exact follows_setNow (fun now => now.after milliseconds)
  | setClock now => exact follows_setNow (fun _ => now)
  | restart config keepsPrograms =>
    intro engine
    refine .single (.rest rfl (Nat.le_refl _) (fun other program found => ?_))
    change (if keepsPrograms then engine.programs else .empty).get? other = some program at found
    split at found
    · exact .inl found
    · cases found
  | size => exact .bind (follows_read _) (fun _ => .bind follows_get (fun _ => .pure _))
  | pruneLocks => exact Moves.map follows_pruneLocks _
  | work turns => exact Moves.map (follows_work (Or.inl rfl) (Or.inr rfl) turns) _

end EngineOperation

end ProcessEngine
