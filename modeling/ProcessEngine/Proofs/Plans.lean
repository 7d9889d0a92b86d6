import ProcessEngine.Proofs.Ownership
import ProcessEngine.Proofs.Results
import ProcessEngine.Proofs.Sendings

/-!
# What operations come to

An operation on one instance looks up what it is about, and then answers at once or changes the
instance (`EngineOperation.plan?`). What it answers and what it stores depend on the state of the
instance, its program, the configuration, the time and the supply alone (`Engine.deed`).
-/

namespace ProcessEngine

/-- An answer, and the work that is stored, if any. -/
structure Deed (Answer : Type) where
  answer : Except EngineError Answer
  work : Option UnitOfWork := none

/-- The answer in another form. -/
def Deed.map {Answer Form : Type} (form : Answer -> Form) (deed : Deed Answer) : Deed Form :=
  ⟨deed.answer.map form, deed.work⟩

namespace Engine

variable {engine after other : Engine MemoryStore} {id : InstanceId} {Result : Type}
  {change : Change Result}

/-- The program that an engine finds under a hash. -/
def loaded (engine : Engine MemoryStore) (hash : ProgramHash) : Except EngineError Program :=
  (engine.load hash).map Prod.fst

/-- What comes of a change of an instance if no other writer comes before. -/
def deed (engine : Engine MemoryStore) (id : InstanceId) (change : Change Result) : Deed Result :=
  match engine.store.states.get? id with
  | none => { answer := .error (.unknownInstance id) }
  | some state =>
    match engine.loaded state.record.program with
    | .error error => { answer := .error error }
    | .ok program =>
      match change.slice program engine.config.maximumSteps
        (.begin state engine.now engine.supply) with
      | .error error => { answer := .error error }
      | .ok (result, _, work) =>
        { answer := .ok result, work := if work.isEmpty then none else some work }

/-- What is stored when an operation is done, and what has stayed as it was. -/
structure Leaves (engine : Engine MemoryStore) (work : Option UnitOfWork)
    (after : Engine MemoryStore) : Prop where
  store : after.store = work.elim engine.store (fun work => engine.store.apply work.finish.1)
  config : after.config = engine.config
  now : after.now = engine.now
  supply : ∀ done ∈ work, after.supply = done.supply
  programs : after.programs = engine.programs ∨
    ∃ hash program, engine.load hash = .ok (program, after.programs)

/-- Nothing may be stored, but a program may be loaded. -/
theorem Leaves.unstored {engine after : Engine MemoryStore} (store : after.store = engine.store)
    (config : after.config = engine.config) (now : after.now = engine.now)
    (programs : after.programs = engine.programs ∨
      ∃ hash program, engine.load hash = .ok (program, after.programs)) :
    engine.Leaves none after :=
  ⟨store, config, now, fun _ listed => absurd listed (Option.not_mem_none _), programs⟩

/-- An action comes to a deed. -/
def Does (engine : Engine MemoryStore) (action : EngineAction MemoryStore Result)
    (deed : Deed Result) : Prop :=
  ∃ after, outcome action engine = (deed.answer, after) ∧ engine.Leaves deed.work after

/-- The stored state of an instance, if there is one, is sound. -/
def SoundAt (engine : Engine MemoryStore) (id : InstanceId) : Prop :=
  ∀ state, engine.store.states.get? id = some state -> state.Sound id engine.supply.next

section

variable {purpose : Purpose}

/-- A change of an instance in a sound state is made, since no other writer comes before. -/
theorem outcome_attempt (intended : Intervention engine.store engine.config id purpose change)
    (sound : engine.SoundAt id) :
    ∃ after, outcome (attempt id change) engine = ((engine.deed id change).answer.map some, after) ∧
      engine.Leaves (engine.deed id change).work after := by
  have attempted := attempted_attempt id change engine
  generalize outcome (attempt id change) engine = reached at attempted ⊢
  cases attempted with
  | missing absent =>
    rw [deed, absent]
    exact ⟨_, rfl, .unstored rfl rfl rfl (.inl rfl)⟩
  | unloaded stored failed =>
    simp only [deed, stored, loaded, failed]
    exact ⟨_, rfl, .unstored rfl rfl rfl (.inl rfl)⟩
  | refused stored load failed =>
    simp only [deed, stored, loaded, load, Except.map, failed]
    exact ⟨_, rfl, .unstored rfl rfl rfl (.inr ⟨_, _, load⟩)⟩
  | idle sliced empty =>
    simp only [deed, sliced.stored, loaded, sliced.loaded, Except.map, sliced.done, empty, if_true]
    exact ⟨_, rfl, .unstored rfl rfl rfl (.inr ⟨_, _, sliced.loaded⟩)⟩
  | contended sliced nonempty stale =>
    refine absurd ?_ stale
    have begun := sound _ sliced.stored
    have continues := intended.continues begun sliced.done
    rw [MemoryStore.version?, continues.id.trans begun.keyed, sliced.stored, continues.base]
    rfl
  | committed sliced nonempty current =>
    simp only [deed, sliced.stored, loaded, sliced.loaded, Except.map, sliced.done, nonempty]
    refine ⟨_, rfl, rfl, rfl, rfl, ?_, .inr ⟨_, _, sliced.loaded⟩⟩
    rintro done ⟨⟩
    rfl

/-- The first attempt decides. -/
theorem does_transact (intended : Intervention engine.store engine.config id purpose change)
    (sound : engine.SoundAt id) : engine.Does (transact id change) (engine.deed id change) := by
  obtain ⟨after, first, leaves⟩ := outcome_attempt intended sound
  exact ⟨after, outcome_persist first, leaves⟩

/-- So it does for a change with a job. -/
theorem does_withJob {key : JobKey} {job : Job} {change : Job -> Change Result}
    (stored : engine.store.jobs.get? key = some job)
    (intended : Intervention engine.store engine.config job.owner purpose (change job))
    (sound : engine.SoundAt job.owner) :
    engine.Does (withJob key job.owner change) (engine.deed job.owner (change job)) := by
  obtain ⟨after, first, leaves⟩ := outcome_attempt intended sound
  have looked : outcome (do attempt job.owner (change (<- jobOf key))) engine =
      ((engine.deed job.owner (change job)).answer.map some, after) := by
    rw [outcome_bind, outcome_jobOf, stored]
    exact first
  exact ⟨after, outcome_persist looked, leaves⟩

end

/-- Engines that differ in nothing that a change depends on do the same. -/
theorem deed_congr (states : other.store.states.get? id = engine.store.states.get? id)
    (loads : ∀ hash, other.loaded hash = engine.loaded hash)
    (config : other.config = engine.config) (now : other.now = engine.now)
    (supply : other.supply = engine.supply) : other.deed id change = engine.deed id change := by
  rw [deed, deed, states, config, now, supply]
  cases engine.store.states.get? id with
  | none => rfl
  | some state =>
    dsimp only
    rw [loads]

end Engine

/-! ## Plans -/

/-- What an operation comes to once it has looked up what it is about. -/
inductive Plan where
  | answer (result : Except EngineError EngineReply)
  | change {Result : Type} (id : InstanceId) (change : Change Result)
    (reply : Result -> EngineReply)

/-- What comes of a plan. -/
def Plan.deed (plan : Plan) (engine : Engine MemoryStore) : Deed EngineReply :=
  match plan with
  | .answer result => { answer := result }
  | .change id made reply => (engine.deed id made).map reply

/-- A plan that makes a change makes it of a given instance and as intended. -/
inductive Plan.Intended (store : MemoryStore) (config : EngineConfig) (id : InstanceId) :
    Plan -> Prop where
  | answer (result : Except EngineError EngineReply) : Intended store config id (.answer result)
  | change {purpose} {Result : Type} {change : Change Result} {reply : Result -> EngineReply}
      (intended : Intervention store config id purpose change) :
    Intended store config id (.change id change reply)

namespace EngineOperation

/-- The instance that an operation acts on, if it is one that acts on a single instance: the
instance that is named, or the one of the job, the incident or the dead letter. -/
def target? (store : MemoryStore) : EngineOperation -> Option InstanceId
  | .run id => some id
  | .cancel id _ => some id
  | .signal id _ _ _ _ => some id
  | .complete key _ => (store.jobs.get? key).map Job.owner
  | .fail key _ => (store.jobs.get? key).map Job.owner
  | .resolve key _ => (store.incidents.get? key).map Incident.owner
  | .requeue place => (store.deadLetters.get? place).map (fun letter => letter.job.owner)
  | .cancelDeadLetter place => (store.deadLetters.get? place).map (fun letter => letter.job.owner)
  | _ => none

/-- What an operation on a single instance comes to. -/
def plan? (store : MemoryStore) (config : EngineConfig) : EngineOperation -> Option Plan
  | .run id => some (.change id .none (fun _ => .done))
  | .cancel id reason => some (.change id (Engine.cancellation reason) (fun _ => .done))
  | .signal id fiber epoch kind inputs =>
    let present := ((store.states.get? id).bind (fun state => state.fiber? fiber)).elim 0 Fiber.epoch
    some (.change id (WakeSignal.change
      ⟨id, fiber, epoch.getD present, kind, inputs.flags, inputs.payload⟩) .delivery)
  | .complete key completion => (store.jobs.get? key).map (fun job =>
    if (store.completions.get? key).isSome then .answer (.ok (.completion .duplicate))
    else .change job.owner (job.complete completion) .completion)
  | .fail key problem => (store.jobs.get? key).map (fun job =>
    if (store.completions.get? key).isSome then .answer (.ok (.failure .ignored))
    else .change job.owner (job.fail problem config) .failure)
  | .resolve key resolution => (store.incidents.get? key).map (fun incident =>
    if incident.isOpen then
      .change incident.owner (incident.settlement resolution) (fun _ => .done)
    else .answer (.error (.alreadyResolved key)))
  | .requeue place => (store.deadLetters.get? place).map (fun letter =>
    .change letter.job.owner (letter.requeue (letter.incident.bind store.incidents.get?))
      (fun _ => .done))
  | .cancelDeadLetter place => (store.deadLetters.get? place).map (fun letter =>
    .change letter.job.owner letter.abandon (fun _ => .done))
  | _ => none

variable {operation : EngineOperation} {store later : MemoryStore} {config : EngineConfig}
  {id : InstanceId}

/-- An operation that acts on an instance has a plan for it. -/
theorem planned (acts : operation.target? store = some id) :
    ∃ plan, operation.plan? store config = some plan ∧ plan.Intended store config id := by
  cases operation with
  | run asked =>
    cases acts
    exact ⟨_, rfl, .change .run⟩
  | cancel asked reason =>
    cases acts
    exact ⟨_, rfl, .change (.cancel reason)⟩
  | signal asked fiber epoch kind inputs =>
    cases acts
    exact ⟨_, rfl, .change (.signal rfl)⟩
  | complete key completion =>
    obtain ⟨job, stored, rfl⟩ := Option.map_eq_some_iff.1 acts
    refine ⟨_, congrArg (Option.map _) stored, ?_⟩
    cases first : store.completions.get? key with
    | some record => exact .answer _
    | none => exact .change (.complete stored rfl first completion)
  | fail key problem =>
    obtain ⟨job, stored, rfl⟩ := Option.map_eq_some_iff.1 acts
    refine ⟨_, congrArg (Option.map _) stored, ?_⟩
    cases first : store.completions.get? key with
    | some record => exact .answer _
    | none => exact .change (.fail stored rfl first problem)
  | resolve key resolution =>
    obtain ⟨incident, stored, rfl⟩ := Option.map_eq_some_iff.1 acts
    refine ⟨_, congrArg (Option.map _) stored, ?_⟩
    dsimp only
    by_cases pending : incident.isOpen = true
    · rw [if_pos pending]
      exact .change (.settle stored rfl pending resolution)
    · rw [if_neg pending]
      exact .answer _
  | requeue place =>
    obtain ⟨letter, stored, rfl⟩ := Option.map_eq_some_iff.1 acts
    exact ⟨_, congrArg (Option.map _) stored, .change (.requeue stored rfl)⟩
  | cancelDeadLetter place =>
    obtain ⟨letter, stored, rfl⟩ := Option.map_eq_some_iff.1 acts
    exact ⟨_, congrArg (Option.map _) stored, .change (.abandon stored rfl)⟩
  | _ => cases acts

/-- What an operation comes to depends on nothing but what belongs to its instance. -/
theorem plan?_of_spares (linked : store.Linked) (acts : operation.target? store = some id)
    (spares : store.Spares later id) :
    operation.target? later = some id ∧
      operation.plan? later config = operation.plan? store config := by
  cases operation with
  | run asked => exact ⟨acts, rfl⟩
  | cancel asked reason => exact ⟨acts, rfl⟩
  | signal asked fiber epoch kind inputs =>
    cases acts
    exact ⟨rfl, by rw [plan?, plan?, spares.state]⟩
  | complete key completion =>
    obtain ⟨job, stored, rfl⟩ := Option.map_eq_some_iff.1 acts
    have same := spares.jobs stored rfl
    refine ⟨congrArg (Option.map Job.owner) same, ?_⟩
    simp only [plan?, stored, same, spares.completions stored rfl]
  | fail key problem =>
    obtain ⟨job, stored, rfl⟩ := Option.map_eq_some_iff.1 acts
    have same := spares.jobs stored rfl
    refine ⟨congrArg (Option.map Job.owner) same, ?_⟩
    simp only [plan?, stored, same, spares.completions stored rfl]
  | resolve key resolution =>
    obtain ⟨incident, stored, rfl⟩ := Option.map_eq_some_iff.1 acts
    have same := spares.incidents stored rfl
    exact ⟨congrArg (Option.map Incident.owner) same, by rw [plan?, plan?, stored, same]⟩
  | requeue place =>
    obtain ⟨letter, stored, rfl⟩ := Option.map_eq_some_iff.1 acts
    have same := spares.letters stored rfl
    have linked : letter.incident.bind later.incidents.get? =
        letter.incident.bind store.incidents.get? := by
      cases names : letter.incident with
      | none => rfl
      | some key =>
        obtain ⟨incident, found, owned⟩ := linked.linked stored names
        exact (spares.incidents found owned).trans found.symm
    refine ⟨?_, ?_⟩
    · rw [target?, same, Option.map_some]
    · rw [plan?, plan?, stored, same, Option.map_some, Option.map_some, linked]
  | cancelDeadLetter place =>
    obtain ⟨letter, stored, rfl⟩ := Option.map_eq_some_iff.1 acts
    have same := spares.letters stored rfl
    refine ⟨?_, ?_⟩
    · rw [target?, same, Option.map_some]
    · rw [plan?, plan?, stored, same]
  | _ => cases acts

end EngineOperation

/-! ## Plans are carried out -/

namespace Engine

variable {engine after : Engine MemoryStore} {work : Option UnitOfWork} {plan : Plan}
  {operation : EngineOperation} {id : InstanceId} {Result : Type}

theorem leaves_lock (engine : Engine MemoryStore) (locks : List InstanceId) :
    engine.Leaves none { engine with locks := locks } := .unstored rfl rfl rfl (.inl rfl)

/-- A lock makes no difference. -/
theorem Does.of_locked {action : EngineAction MemoryStore Result} {change : Change Result}
    {locks : List InstanceId}
    (does : Does { engine with locks := locks } action (engine.deed id change)) :
    ∃ after, outcome action { engine with locks := locks } =
        ((engine.deed id change).answer, after) ∧
      engine.Leaves (engine.deed id change).work after := by
  obtain ⟨after, done, leaves⟩ := does
  exact ⟨after, done, leaves.store, leaves.config, leaves.now, leaves.supply, leaves.programs⟩

theorem outcome_lock (id : InstanceId) (next : EngineAction MemoryStore Result)
    (engine : Engine MemoryStore) :
    outcome (do lock id; next) engine =
      outcome next { engine with locks := engine.locks.insert id } :=
  outcome_bind_ok (outcome_modify _ _)

/-- The answer of an action may be put in another form. -/
theorem Does.map {action : EngineAction MemoryStore Result} {deed : Deed Result}
    (does : engine.Does action deed) (form : Result -> EngineReply) :
    engine.Does (form <$> action) (deed.map form) := by
  obtain ⟨after, done, leaves⟩ := does
  refine ⟨after, ?_, leaves⟩
  rw [outcome_map, done]
  rfl

theorem Does.noted {action : EngineAction MemoryStore Unit} {deed : Deed Unit}
    (does : engine.Does action deed) :
    engine.Does (EngineOperation.noted action) (deed.map (fun _ => .done)) := by
  rw [EngineOperation.noted, ← map_eq_pure_bind]
  exact does.map (fun _ => .done)

/-- A change that is made under a lock. -/
theorem outcome_locked {change : Change Result} {purpose : Purpose}
    (intended : Intervention engine.store engine.config id purpose change)
    (sound : engine.SoundAt id) (locks : List InstanceId) :
    ∃ after, outcome (transact id change) { engine with locks := locks } =
        ((engine.deed id change).answer, after) ∧
      engine.Leaves (engine.deed id change).work after := by
  refine Does.of_locked ?_
  exact does_transact intended sound

theorem does_run (sound : engine.SoundAt id) : engine.Does (run id) (engine.deed id .none) := by
  rw [Does, run, outcome_lock]
  exact outcome_locked .run sound _

theorem does_cancel (sound : engine.SoundAt id) (reason : String) :
    engine.Does (cancel id reason) (engine.deed id (cancellation reason)) := by
  rw [Does, cancel, outcome_lock]
  exact outcome_locked (.cancel reason) sound _

theorem does_signal {wakeUp : WakeSignal} (sound : engine.SoundAt wakeUp.owner) :
    engine.Does (signal wakeUp) (engine.deed wakeUp.owner wakeUp.change) := by
  rw [Does, signal, outcome_lock]
  exact outcome_locked (.signal rfl) sound _

theorem does_complete {key : JobKey} {job : Job}
    (stored : engine.store.jobs.get? key = some job)
    (first : engine.store.completions.get? key = none) (completion : JobCompletion)
    (sound : engine.SoundAt job.owner) :
    engine.Does (complete key completion) (engine.deed job.owner (job.complete completion)) := by
  have intended : Intervention engine.store engine.config job.owner (.complete key)
    (job.complete completion) := .complete stored rfl first completion
  rw [Does, outcome_complete_of_first stored first]
  refine Does.of_locked ?_
  exact does_withJob stored intended sound

theorem does_fail {key : JobKey} {job : Job} (stored : engine.store.jobs.get? key = some job)
    (first : engine.store.completions.get? key = none) (problem : JobFailure)
    (sound : engine.SoundAt job.owner) :
    engine.Does (fail key problem) (engine.deed job.owner (job.fail problem engine.config)) := by
  have intended : Intervention engine.store engine.config job.owner (.fail key)
    (job.fail problem engine.config) := .fail stored rfl first problem
  rw [Does, outcome_fail_of_first stored first]
  refine Does.of_locked ?_
  exact does_withJob stored intended sound

/-- A failure after a completion is ignored. -/
theorem outcome_fail_of_recorded {key : JobKey} {job : Job} {record : CompletionRecord}
    (stored : engine.store.jobs.get? key = some job)
    (recorded : engine.store.completions.get? key = some record) (problem : JobFailure) :
    outcome (fail key problem) engine =
      (.ok .ignored, { engine with locks := engine.locks.insert job.owner }) := by
  rw [fail, outcome_bind, outcome_jobOf, stored]
  simp only [Option.elim]
  rw [outcome_bind, outcome_isCompleted, recorded]
  rfl

/-- An incident is looked up before and after its instance is locked. -/
theorem outcome_resolve_of_stored {key : IncidentId} {incident : Incident}
    (stored : engine.store.incidents.get? key = some incident) (resolution : String) :
    outcome (resolve key resolution) engine =
      outcome (if incident.isOpen then transact incident.owner (incident.settlement resolution)
        else throw (.alreadyResolved key))
        { engine with locks := engine.locks.insert incident.owner } := by
  have looked : ∀ locks, outcome (incidentOf key) { engine with locks := locks } =
      (.ok incident, { engine with locks := locks }) := by
    intro locks
    rw [outcome_incidentOf, stored]
    rfl
  rw [resolve, outcome_bind_ok (looked engine.locks), outcome_lock, outcome_bind_ok (looked _)]

theorem does_resolve {key : IncidentId} {incident : Incident}
    (stored : engine.store.incidents.get? key = some incident) (pending : incident.isOpen = true)
    (resolution : String) (sound : engine.SoundAt incident.owner) :
    engine.Does (resolve key resolution)
      (engine.deed incident.owner (incident.settlement resolution)) := by
  rw [Does, outcome_resolve_of_stored stored, if_pos pending]
  exact outcome_locked (.settle stored rfl pending resolution) sound _

section Letters

variable {place : DeadLetterKey} {letter : DeadLetter}
  (stored : engine.store.deadLetters.get? place = some letter)

include stored

theorem outcome_deadLetterAt_of_stored (locks : List InstanceId) :
    outcome (deadLetterAt place) { engine with locks := locks } =
      (.ok letter, { engine with locks := locks }) := by
  rw [outcome_deadLetterAt, stored]
  rfl

theorem does_requeue (sound : engine.SoundAt letter.job.owner) :
    engine.Does (requeue place) (engine.deed letter.job.owner
      (letter.requeue (letter.incident.bind engine.store.incidents.get?))) := by
  have looked := outcome_deadLetterAt_of_stored stored
  have intended : Intervention engine.store engine.config letter.job.owner (.requeue place)
    (letter.requeue (letter.incident.bind engine.store.incidents.get?)) := .requeue stored rfl
  rw [Does, requeue, outcome_bind_ok (looked engine.locks), outcome_lock,
    outcome_bind_ok (looked _)]
  cases names : letter.incident with
  | none =>
    rw [names] at intended
    exact outcome_locked intended sound _
  | some key =>
    have found : ∀ engine : Engine MemoryStore, outcome (ask (ProcessStore.incident? key)) engine =
        (.ok (engine.store.incidents.get? key), engine) :=
      outcome_ask_read (fun store : MemoryStore => store.incidents.get? key)
    rw [names] at intended
    dsimp only
    rw [outcome_bind_ok (found _)]
    exact outcome_locked intended sound _

theorem does_cancelDeadLetter (sound : engine.SoundAt letter.job.owner) :
    engine.Does (cancelDeadLetter place) (engine.deed letter.job.owner letter.abandon) := by
  have looked := outcome_deadLetterAt_of_stored stored
  rw [Does, cancelDeadLetter, outcome_bind_ok (looked engine.locks), outcome_lock,
    outcome_bind_ok (looked _)]
  exact outcome_locked (.abandon stored rfl) sound _

end Letters

/-- An operation on an instance in a sound state carries out its plan. -/
theorem does_planned (acts : operation.target? engine.store = some id)
    (planned : operation.plan? engine.store engine.config = some plan)
    (sound : engine.SoundAt id) : engine.Does operation.perform (plan.deed engine) := by
  cases operation with
  | run asked =>
    cases acts
    cases planned
    exact (does_run sound).noted
  | cancel asked reason =>
    cases acts
    cases planned
    exact (does_cancel sound reason).noted
  | signal asked fiber epoch kind inputs =>
    cases acts
    cases planned
    cases epoch with
    | some epoch =>
      exact (@does_signal _ ⟨id, fiber, epoch, kind, inputs.flags, inputs.payload⟩ sound).map _
    | none =>
      rw [Does, EngineOperation.perform, outcome_bind_ok (outcome_epochOf _ _ _)]
      exact (@does_signal _ ⟨id, fiber, _, kind, inputs.flags, inputs.payload⟩ sound).map _
  | complete key completion =>
    obtain ⟨job, stored, rfl⟩ := Option.map_eq_some_iff.1 planned
    cases acts.symm.trans (congrArg (Option.map Job.owner) stored)
    cases first : engine.store.completions.get? key with
    | some record =>
      refine ⟨_, ?_, leaves_lock engine (engine.locks.insert job.owner)⟩
      rw [EngineOperation.perform, outcome_map, outcome_complete_of_recorded stored first]
      rfl
    | none => exact (does_complete stored first completion sound).map _
  | fail key problem =>
    obtain ⟨job, stored, rfl⟩ := Option.map_eq_some_iff.1 planned
    cases acts.symm.trans (congrArg (Option.map Job.owner) stored)
    cases first : engine.store.completions.get? key with
    | some record =>
      refine ⟨_, ?_, leaves_lock engine (engine.locks.insert job.owner)⟩
      rw [EngineOperation.perform, outcome_map, outcome_fail_of_recorded stored first]
      rfl
    | none => exact (does_fail stored first problem sound).map _
  | resolve key resolution =>
    obtain ⟨incident, stored, rfl⟩ := Option.map_eq_some_iff.1 planned
    cases acts.symm.trans (congrArg (Option.map Incident.owner) stored)
    by_cases pending : incident.isOpen = true
    · rw [if_pos pending]
      exact (does_resolve stored pending resolution sound).noted
    · rw [if_neg pending]
      refine ⟨_, ?_, leaves_lock engine (engine.locks.insert incident.owner)⟩
      rw [EngineOperation.perform, EngineOperation.noted, outcome_bind,
        outcome_resolve_of_stored stored, if_neg pending]
      rfl
  | requeue place =>
    obtain ⟨letter, stored, rfl⟩ := Option.map_eq_some_iff.1 planned
    rw [EngineOperation.target?, stored] at acts
    cases acts
    exact (does_requeue stored sound).noted
  | cancelDeadLetter place =>
    obtain ⟨letter, stored, rfl⟩ := Option.map_eq_some_iff.1 planned
    rw [EngineOperation.target?, stored] at acts
    cases acts
    exact (does_cancelDeadLetter stored sound).noted
  | _ => cases planned

end Engine

end ProcessEngine
