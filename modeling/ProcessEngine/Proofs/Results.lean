import ProcessEngine.Proofs.Transactions

/-!
# Results of jobs

A completion that is recorded stays, and only a request to complete the job records one. What
such a request answers is decided by the record, the job and its fiber (`Engine.Completed`), so
over a whole history a job is completed or routed at most once.
-/

namespace ProcessEngine

open UnitOfWork

/-! ## Completions that are recorded -/

/-- A change records a completion only if that is its purpose. -/
theorem Intervened.completions {store : MemoryStore} {id : InstanceId} {program : Program}
    {state : InstanceState} {now : Instant} {supply : IdSupply} {purpose : Purpose}
    {changed : UnitOfWork} (other : ∀ key, purpose ≠ .complete key)
    (intervened : Intervened store id program (.begin state now supply) purpose changed) :
    changed.completions = [] := by
  cases intervened with
  | run => rfl
  | cancel running closes => exact (confined_close closes).completions
  | complete stored owned first wanted completion => exact absurd rfl (other _)
  | record stored owned first unwanted completion => exact absurd rfl (other _)
  | fail stored owned wanted failed =>
    rename_i key job fiber outcome
    cases failed with
    | retry notBefore problem => rfl
    | bury kind problem expires =>
      rw [Job.buried, Job.completions_shelved]
      exact (job.steady_stopped kind problem fiber.pc (.begin state now supply)).completions
    | route problem leads =>
      rename_i code target
      exact ((steady_dropWatchdog (Job.finished { job with lastError := some problem }
        (.jobErrorRouted job.key code) (.begin state now supply)) fiber).trans
          (steady_wake _ job.fiber target)).completions
  | dismiss => rfl
  | deliver running signal => exact (confined_deliver (.begin state now supply) signal).completions
  | discard => rfl
  | restart stored settles running alone owned closed =>
    exact (((steady_emit _ _).trans (steady_restart _ _ _)).trans
      (steady_putIncident _ _)).completions
  | settle stored settles owned closed => rfl
  | requeue stored owned running found waits settles =>
    rename_i place letter fiber incident settled
    have parked := steady_park (.begin state now supply) letter.job.fiber fiber.pc
      (.job letter.key)
    exact (settles.steady _).completions.trans parked.completions
  | abandon stored owned => rfl

namespace Engine

variable {engine next : Engine MemoryStore} {scope : Scope}

/-- The completions that are stored after a transition. -/
theorem get?_completions_apply (store : MemoryStore) (work : UnitOfWork) (asked : JobKey) :
    (store.apply work.finish.1).completions.get? asked = (store.completions.get? asked).or
      (work.completions.find? (fun record => record.key = asked)) := by
  have stored := OrderedMap.get?_foldl_insertNew CompletionRecord.key (fun record => record)
    work.completions store.completions asked
  rw [Option.map_id'] at stored
  exact stored

/-- A completion that is recorded stays as it is. -/
theorem Advance.completion (sound : engine.Sound) (advance : Advance scope engine next)
    {key : JobKey} {record : CompletionRecord}
    (found : engine.store.completions.get? key = some record) :
    next.store.completions.get? key = some record := by
  cases advance.act sound with
  | nothing untouched =>
    rw [untouched.completions]
    exact found
  | create known absent ran store supply =>
    rw [store, get?_completions_apply, found, Option.some_or]
  | slice known stored own admitted intervened ran store supply =>
    rw [store, get?_completions_apply, found, Option.some_or]

/-- Requests that are not about completions record none. -/
theorem Advance.completions (sound : engine.Sound) (advance : Advance scope engine next)
    (other : ∀ key, ¬ scope.admits (.complete key)) (key : JobKey) :
    next.store.completions.get? key = engine.store.completions.get? key := by
  have nothing : ∀ {work : UnitOfWork}, work.completions = [] ->
      (engine.store.apply work.finish.1).completions.get? key =
        engine.store.completions.get? key := by
    intro work none
    rw [get?_completions_apply, none, List.find?_nil, Option.or_none]
  cases advance.act sound with
  | nothing untouched => rw [untouched.completions]
  | create known absent ran store supply =>
    rw [store]
    exact nothing ran.confined.completions
  | slice known stored own admitted intervened ran store supply =>
    rw [store]
    refine nothing (ran.confined.completions.trans (intervened.completions ?_))
    rintro key rfl
    exact other key admitted

/-! ## Requests to complete a job -/

/-- A slice that takes a completion records it, as applied exactly if the job is completed. -/
theorem recorded_slice {job : Job} {completion : JobCompletion} {state : InstanceState}
    {program : Program} {programs : ProgramCache} {result : CompletionOutcome}
    {report : RunReport} {work : UnitOfWork} (orderly : engine.Orderly)
    (stored : engine.store.jobs.get? job.key = some job)
    (first : engine.store.completions.get? job.key = none)
    (sliced : Sliced engine job.owner (job.complete completion) result report work programs state
      program) :
    (result = .applied ∧ job.status.isOpen = true ∧
        (engine.store.apply work.finish.1).jobs.get? job.key =
          some { job with status := .completed } ∧
        work.completions = [⟨job.key, completion, true, engine.now⟩]) ∨
      (result = .ignored ∧ work.completions = [⟨job.key, completion, false, engine.now⟩]) := by
  obtain ⟨changed, parts⟩ := slice_parts sliced.done
  have intended : Intervention engine.store engine.config job.owner (.complete job.key)
      (job.complete completion) := .complete stored rfl first completion
  have intervened := intended.intervened parts.made
  have begun := orderly.sound _ state sliced.stored
  have ran := parts.ran (intervened.shapely (shapely_begin begun))
  have kept := (refiled_slice orderly.sound orderly.filed sliced.stored intervened ran).2
  rcases Job.complete_cases parts.made with ⟨fiber, wanted, rfl, rfl⟩ | ⟨-, rfl, rfl⟩
  · refine .inl ⟨rfl, wanted.pending, ?_, ran.confined.completions.trans ?_⟩
    · refine kept.closed ?_ rfl
      rw [job.get?_jobsOver_applied rfl, if_pos rfl]
    · exact Job.completions_applied completion fiber.pc
  · exact .inr ⟨rfl, ran.confined.completions⟩

/-- A lock changes nothing that is stored. -/
theorem Orderly.locked (orderly : engine.Orderly) (id : InstanceId) :
    Orderly { engine with locks := engine.locks.insert id } := ⟨orderly.sound, orderly.filed⟩

theorem outcome_complete_of_unknown {key : JobKey} (absent : engine.store.jobs.get? key = none)
    (completion : JobCompletion) :
    outcome (complete key completion) engine = (.error (.unknownJob key), engine) := by
  rw [complete, outcome_bind, outcome_jobOf, absent]
  rfl

/-- After a completion was recorded every other one is a duplicate. -/
theorem outcome_complete_of_recorded {key : JobKey} {job : Job} {record : CompletionRecord}
    (stored : engine.store.jobs.get? key = some job)
    (recorded : engine.store.completions.get? key = some record) (completion : JobCompletion) :
    outcome (complete key completion) engine =
      (.ok .duplicate, { engine with locks := engine.locks.insert job.owner }) := by
  rw [complete, outcome_bind, outcome_jobOf, stored]
  simp only [Option.elim]
  rw [outcome_bind, outcome_isCompleted, recorded]
  rfl

/-- The first completion is taken as a change with the job. -/
theorem outcome_complete_of_first {key : JobKey} {job : Job}
    (stored : engine.store.jobs.get? key = some job)
    (first : engine.store.completions.get? key = none) (completion : JobCompletion) :
    outcome (complete key completion) engine =
      outcome (withJob key job.owner (fun job => job.complete completion))
        { engine with locks := engine.locks.insert job.owner } := by
  rw [complete, outcome_bind, outcome_jobOf, stored]
  simp only [Option.elim]
  rw [outcome_bind, outcome_isCompleted, first]
  rfl

/-- What a request to complete a job comes to. -/
inductive Completed (engine : Engine MemoryStore) (key : JobKey) (completion : JobCompletion) :
    Except EngineError CompletionOutcome × Engine MemoryStore -> Prop where
  | refused {error after} (store : after.store = engine.store) :
    Completed engine key completion (.error error, after)
  | duplicate {job record after} (stored : engine.store.jobs.get? key = some job)
      (recorded : engine.store.completions.get? key = some record)
      (store : after.store = engine.store) :
    Completed engine key completion (.ok .duplicate, after)
  | applied {job after} (stored : engine.store.jobs.get? key = some job)
      (pending : job.status.isOpen = true) (first : engine.store.completions.get? key = none)
      (job' : after.store.jobs.get? key = some { job with status := .completed })
      (recorded : ∀ asked, after.store.completions.get? asked =
        if asked = key then some ⟨key, completion, true, engine.now⟩
        else engine.store.completions.get? asked) :
    Completed engine key completion (.ok .applied, after)
  | ignored {job after} (stored : engine.store.jobs.get? key = some job)
      (first : engine.store.completions.get? key = none)
      (recorded : ∀ asked, after.store.completions.get? asked =
        if asked = key then some ⟨key, completion, false, engine.now⟩
        else engine.store.completions.get? asked) :
    Completed engine key completion (.ok .ignored, after)

/-- A request to complete a job is refused or has one of three answers. -/
theorem completed_complete (orderly : engine.Orderly) (key : JobKey) (completion : JobCompletion) :
    Completed engine key completion (outcome (complete key completion) engine) := by
  cases stored : engine.store.jobs.get? key with
  | none =>
    rw [outcome_complete_of_unknown stored]
    exact .refused rfl
  | some job =>
    cases first : engine.store.completions.get? key with
    | some record =>
      rw [outcome_complete_of_recorded stored first]
      exact .duplicate stored first rfl
    | none =>
      rw [outcome_complete_of_first stored first]
      obtain rfl := orderly.filed.keyed stored
      have intended : Intervention engine.store engine.config job.owner (.complete job.key)
          (job.complete completion) := .complete stored rfl first completion
      have transacted := transacted_withJob (orderly.locked job.owner).sound
        (fun job => job.complete completion) stored intended
      generalize outcome _ _ = reached at transacted ⊢
      have filled : ∀ {wanted : Bool} {work : UnitOfWork} {after : Engine MemoryStore},
          work.completions = [⟨job.key, completion, wanted, engine.now⟩] ->
          after.store = engine.store.apply work.finish.1 -> ∀ asked,
          after.store.completions.get? asked = if asked = job.key then
            some ⟨job.key, completion, wanted, engine.now⟩
            else engine.store.completions.get? asked := by
        intro wanted work after noted store asked
        rw [store, get?_completions_apply, noted]
        by_cases same : asked = job.key
        · simp [same, first]
        · simp [same, Ne.symm same]
      cases transacted with
      | refused store unsliced => exact .refused store
      | idle sliced empty store =>
        rename_i work _ _ _ _
        have nothing : work.completions = [] := by
          simp only [UnitOfWork.isEmpty, Bool.and_eq_true, List.isEmpty_iff] at empty
          exact empty.1.1.1.1.2
        rcases recorded_slice (orderly.locked job.owner) stored first sliced with
          ⟨-, -, -, noted⟩ | ⟨-, noted⟩
        · cases nothing.symm.trans noted
        · cases nothing.symm.trans noted
      | committed sliced store =>
        rcases recorded_slice (orderly.locked job.owner) stored first sliced with
          ⟨rfl, pending, completed, noted⟩ | ⟨rfl, noted⟩
        · refine .applied stored pending first ?_ (filled noted store)
          rw [store]
          exact completed
        · exact .ignored stored first (filled noted store)

/-! ## Requests to fail a job -/

/-- What a request to fail a job comes to, as far as a result is applied. -/
inductive Failing (engine : Engine MemoryStore) (key : JobKey) :
    Except EngineError FailureOutcome × Engine MemoryStore -> Prop where
  | other {answer after} (unrouted : ∀ code, answer ≠ .ok (.routed code)) :
    Failing engine key (answer, after)
  /-- The job was open and is completed by its error route. -/
  | routed {job job' code after} (stored : engine.store.jobs.get? key = some job)
      (pending : job.status.isOpen = true) (first : engine.store.completions.get? key = none)
      (stored' : after.store.jobs.get? key = some job') (completed : job'.status = .completed) :
    Failing engine key (.ok (.routed code), after)

theorem outcome_fail_of_first {key : JobKey} {job : Job}
    (stored : engine.store.jobs.get? key = some job)
    (first : engine.store.completions.get? key = none) (problem : JobFailure) :
    outcome (fail key problem) engine =
      outcome (withJob key job.owner (fun job => job.fail problem engine.config))
        { engine with locks := engine.locks.insert job.owner } := by
  rw [fail, outcome_bind, outcome_jobOf, stored]
  simp only [Option.elim]
  rw [outcome_bind, outcome_isCompleted, first]
  simp only [Option.isSome_none]
  rw [if_neg Bool.false_ne_true, outcome_bind_ok (outcome_getThe _)]

/-- A slice that routes a business error completes the job. -/
theorem routed_slice {job : Job} {problem : JobFailure} {code : String} {state : InstanceState}
    {program : Program} {programs : ProgramCache} {report : RunReport} {work : UnitOfWork}
    (orderly : engine.Orderly) (stored : engine.store.jobs.get? job.key = some job)
    (first : engine.store.completions.get? job.key = none)
    (sliced : Sliced engine job.owner (job.fail problem engine.config) (.routed code) report work
      programs state program) :
    work.isEmpty = false ∧ job.status.isOpen = true ∧ ∃ job',
      (engine.store.apply work.finish.1).jobs.get? job.key = some job' ∧
        job'.status = .completed := by
  obtain ⟨changed, parts⟩ := slice_parts sliced.done
  have intended : Intervention engine.store engine.config job.owner (.fail job.key)
      (job.fail problem engine.config) := .fail stored rfl first problem
  have intervened := intended.intervened parts.made
  have begun := orderly.sound _ state sliced.stored
  have ran := parts.ran (intervened.shapely (shapely_begin begun))
  have kept := (refiled_slice orderly.sound orderly.filed sliced.stored intervened ran).2
  rcases Job.fail_cases parts.made with ⟨fiber, wanted, failed⟩ | ⟨-, answer, -⟩
  · cases failed with
    | route message leads =>
      rename_i target
      have completed : (work.jobsOver engine.store.jobs).get? job.key =
          some { job with lastError := some message, status := .completed } := by
        refine kept.closed ?_ rfl
        rw [job.get?_jobsOver_routed rfl, if_pos rfl]
      refine ⟨?_, wanted.pending, _, completed, rfl⟩
      -- work with nothing to store would have left the job open
      cases empty : work.isEmpty with
      | false => rfl
      | true =>
        simp only [UnitOfWork.isEmpty, Bool.and_eq_true, List.isEmpty_iff] at empty
        rw [jobsOver_of_none _ empty.1.1.1.1.1.1.2 empty.1.1.1.1.1.2, stored] at completed
        have status : job.status = .completed :=
          congrArg Job.status (Option.some.inj completed)
        have pending := wanted.pending
        rw [status] at pending
        cases pending
  · cases answer

/-- Only a failure that is routed applies a result. -/
theorem failing_fail (orderly : engine.Orderly) (key : JobKey) (problem : JobFailure) :
    Failing engine key (outcome (fail key problem) engine) := by
  cases stored : engine.store.jobs.get? key with
  | none =>
    rw [fail, outcome_bind, outcome_jobOf, stored]
    refine .other (fun code => ?_)
    rintro ⟨⟩
  | some job =>
    cases first : engine.store.completions.get? key with
    | some record =>
      rw [fail, outcome_bind, outcome_jobOf, stored]
      simp only [Option.elim]
      rw [outcome_bind, outcome_isCompleted, first]
      refine .other (fun code => ?_)
      rintro ⟨⟩
    | none =>
      rw [outcome_fail_of_first stored first]
      obtain rfl := orderly.filed.keyed stored
      have intended : Intervention engine.store engine.config job.owner (.fail job.key)
          (job.fail problem engine.config) := .fail stored rfl first problem
      have transacted := transacted_withJob (orderly.locked job.owner).sound
        (fun job => job.fail problem engine.config) stored intended
      generalize outcome _ _ = reached at transacted ⊢
      obtain ⟨answer, after⟩ := reached
      by_cases unrouted : ∀ code, answer ≠ .ok (.routed code)
      · exact .other unrouted
      · obtain ⟨code, rfl⟩ := Classical.not_forall_not.1 unrouted
        cases transacted with
        | idle sliced empty store =>
          have noted := (routed_slice (orderly.locked job.owner) stored first sliced).1
          cases noted.symm.trans empty
        | committed sliced store =>
          obtain ⟨-, pending, job', completed, status⟩ :=
            routed_slice (orderly.locked job.owner) stored first sliced
          rw [← show _ = engine.store.apply _ from store] at completed
          exact .routed stored pending first completed status

/-! ## Results over a history -/

variable {engine : Engine MemoryStore} {entries : List HistoryEntry} {key : JobKey}

/-- A job that is completed. -/
def HasCompleted (engine : Engine MemoryStore) (key : JobKey) : Prop :=
  ∃ job, engine.store.jobs.get? key = some job ∧ job.status = .completed

/-- What a history says about the results of a job is what is stored about it. -/
structure Tallied (engine : Engine MemoryStore) (entries : List HistoryEntry) (key : JobKey) :
    Prop where
  applied : (∃ record, engine.store.completions.get? key = some record ∧ record.applied = true) ↔
    ∃ entry ∈ entries, entry.Applies key
  taken : (∃ record, engine.store.completions.get? key = some record) ↔
    ∃ entry ∈ entries, entry.Takes key
  stored : (∃ record, engine.store.completions.get? key = some record) ->
    ∃ job, engine.store.jobs.get? key = some job
  settled : (∃ entry ∈ entries, entry.Settles key) -> engine.HasCompleted key
  once : entries.Pairwise (fun earlier later => ¬ (earlier.Settles key ∧ later.Settles key))

/-- Jobs are never dropped, and a completed one stays completed. -/
theorem Advances.hasCompleted {scope : Scope} {first last : Engine MemoryStore}
    (advances : Advances scope first last) (orderly : first.Orderly)
    (completed : first.HasCompleted key) : last.HasCompleted key := by
  have step : ∀ engine next, Advance scope engine next ->
      engine.Orderly ∧ engine.HasCompleted key -> next.Orderly ∧ next.HasCompleted key := by
    rintro engine next advance ⟨orderly, job, stored, status⟩
    refine ⟨advance.orderly orderly, job, ?_, status⟩
    exact advance.final orderly.sound orderly.filed stored (by rw [status]; rfl)
      (by rw [status]; decide)
  exact (advances.preserves step ⟨orderly, completed⟩).2

theorem Advances.orderly {scope : Scope} {first last : Engine MemoryStore}
    (advances : Advances scope first last) (orderly : first.Orderly) : last.Orderly :=
  advances.preserves (fun _ _ advance => advance.orderly) orderly

theorem Advances.kept {scope : Scope} {first last : Engine MemoryStore}
    (advances : Advances scope first last) (orderly : first.Orderly)
    (stored : ∃ job, first.store.jobs.get? key = some job) :
    ∃ job, last.store.jobs.get? key = some job := by
  have step : ∀ engine next, Advance scope engine next ->
      (engine.Orderly ∧ ∃ job, engine.store.jobs.get? key = some job) ->
      next.Orderly ∧ ∃ job, next.store.jobs.get? key = some job := by
    rintro engine next advance ⟨orderly, job, stored⟩
    exact ⟨advance.orderly orderly, advance.kept orderly.sound orderly.filed stored⟩
  exact (advances.preserves step ⟨orderly, stored⟩).2

/-- Requests that are not about completions record none. -/
theorem Advances.completions {scope : Scope} {first last : Engine MemoryStore}
    (advances : Advances scope first last) (orderly : first.Orderly)
    (other : ∀ key, ¬ scope.admits (.complete key)) :
    last.store.completions.get? key = first.store.completions.get? key := by
  have step : ∀ engine next, Advance scope engine next ->
      (engine.Orderly ∧
        engine.store.completions.get? key = first.store.completions.get? key) ->
      next.Orderly ∧ next.store.completions.get? key = first.store.completions.get? key := by
    rintro engine next advance ⟨orderly, same⟩
    exact ⟨advance.orderly orderly,
      (advance.completions orderly.sound other key).trans same⟩
  exact (advances.preserves step ⟨orderly, rfl⟩).2

/-- A completion that is recorded stays as it is. -/
theorem Advances.completion {scope : Scope} {first last : Engine MemoryStore}
    (advances : Advances scope first last) (orderly : first.Orderly) {record : CompletionRecord}
    (found : first.store.completions.get? key = some record) :
    last.store.completions.get? key = some record := by
  have step : ∀ engine next, Advance scope engine next ->
      (engine.Orderly ∧ engine.store.completions.get? key = some record) ->
      next.Orderly ∧ next.store.completions.get? key = some record := by
    rintro engine next advance ⟨orderly, found⟩
    exact ⟨advance.orderly orderly, advance.completion orderly.sound found⟩
  exact (advances.preserves step ⟨orderly, found⟩).2

/-! ### One more entry -/

theorem exists_mem_append_singleton {Item : Type} {items : List Item} {last : Item}
    {holds : Item -> Prop} :
    (∃ item ∈ items ++ [last], holds item) ↔ (∃ item ∈ items, holds item) ∨ holds last := by
  simp [or_and_right, exists_or]

/-- An entry that does not settle the job leaves the tally right if its record agrees. -/
theorem Tallied.unsettled (tallied : engine.Tallied entries key) {scope : Scope}
    {next : Engine MemoryStore} {entry : HistoryEntry} (orderly : engine.Orderly)
    (advances : Advances scope engine next) (unsettled : ¬ entry.Settles key)
    (applied : (∃ record, next.store.completions.get? key = some record ∧ record.applied = true) ↔
      ∃ record, engine.store.completions.get? key = some record ∧ record.applied = true)
    (taken : (∃ record, next.store.completions.get? key = some record) ↔
      (∃ record, engine.store.completions.get? key = some record) ∨ entry.Takes key)
    (stored : entry.Takes key -> ∃ job, engine.store.jobs.get? key = some job) :
    next.Tallied (entries ++ [entry]) key := by
  have unapplied : ¬ entry.Applies key := fun applies => unsettled (.inl applies)
  refine ⟨?_, ?_, ?_, ?_, ?_⟩
  · rw [applied, exists_mem_append_singleton, tallied.applied]
    exact (or_iff_left unapplied).symm
  · rw [taken, exists_mem_append_singleton, tallied.taken]
  · intro recorded
    exact advances.kept orderly ((taken.1 recorded).elim tallied.stored stored)
  · intro settled
    rw [exists_mem_append_singleton, or_iff_left unsettled] at settled
    exact advances.hasCompleted orderly (tallied.settled settled)
  · rw [List.pairwise_append]
    refine ⟨tallied.once, List.pairwise_singleton _ _, fun earlier listed later is => ?_⟩
    rw [List.mem_singleton] at is
    exact fun both => unsettled (is ▸ both.2)

/-- An entry that is not about results of the job changes nothing that is told about it. -/
theorem Tallied.other (tallied : engine.Tallied entries key) {scope : Scope}
    {next : Engine MemoryStore} {entry : HistoryEntry} (orderly : engine.Orderly)
    (advances : Advances scope engine next)
    (same : next.store.completions.get? key = engine.store.completions.get? key)
    (untaken : ¬ entry.Takes key) (unrouted : ¬ entry.Routes key) :
    next.Tallied (entries ++ [entry]) key := by
  refine tallied.unsettled orderly advances ?_ ?_ ?_ (fun takes => absurd takes untaken)
  · rintro (⟨completion, rfl⟩ | routes)
    · exact untaken ⟨completion, .applied, rfl⟩
    · exact unrouted routes
  · rw [same]
  · rw [same]
    exact (or_iff_left untaken).symm

/-- An entry that settles a job that was open is the first one that does. -/
theorem Tallied.once_append (tallied : engine.Tallied entries key) {entry : HistoryEntry}
    {job : Job} (stored : engine.store.jobs.get? key = some job)
    (pending : job.status.isOpen = true) :
    (entries ++ [entry]).Pairwise
      (fun earlier later => ¬ (earlier.Settles key ∧ later.Settles key)) := by
  rw [List.pairwise_append]
  refine ⟨tallied.once, List.pairwise_singleton _ _, fun earlier listed later is both => ?_⟩
  obtain ⟨job', stored', completed⟩ := tallied.settled ⟨earlier, listed, both.1⟩
  cases stored.symm.trans stored'
  rw [completed] at pending
  cases pending

/-- The tally goes on over a request to complete a job. -/
theorem Tallied.complete (tallied : engine.Tallied entries key) (orderly : engine.Orderly)
    (asked : JobKey) (completion : JobCompletion) :
    (outcome (EngineOperation.complete asked completion).perform engine).2.Tallied
      (entries ++ [(.complete asked completion,
        (outcome (EngineOperation.complete asked completion).perform engine).1)]) key := by
  have advances := (EngineOperation.complete asked completion).advances engine
  have completed := completed_complete orderly asked completion
  rw [show (EngineOperation.complete asked completion).perform =
    EngineReply.completion <$> Engine.complete asked completion from rfl, outcome_map] at *
  generalize outcome (Engine.complete asked completion) engine = reached at *
  obtain ⟨answer, after⟩ := reached
  dsimp only at *
  have unrouted : ∀ answer, ¬ HistoryEntry.Routes (.complete asked completion, answer) key := by
    rintro answer ⟨problem, code, ⟨⟩⟩
  have elsewhere : ∀ {answer}, asked ≠ key ->
      ¬ HistoryEntry.Takes (.complete asked completion, answer) key := by
    rintro answer different ⟨completion', answer', ⟨⟩⟩
    exact different rfl
  have takes : ∀ outcome, HistoryEntry.Takes
      (.complete asked completion, .ok (.completion outcome)) asked :=
    fun outcome => ⟨completion, outcome, rfl⟩
  cases completed with
  | refused store =>
    refine tallied.other orderly advances (by rw [store]) ?_ (unrouted _)
    rintro ⟨completion', answer', ⟨⟩⟩
  | duplicate stored recorded store =>
    rename_i job record
    by_cases about : asked = key
    · subst about
      refine tallied.unsettled orderly advances ?_ (by rw [store]) ?_ (fun _ => ⟨job, stored⟩)
      · rintro (⟨completion', ⟨⟩⟩ | routes)
        exact unrouted _ routes
      · rw [store]
        exact ⟨.inl, fun _ => ⟨record, recorded⟩⟩
    · exact tallied.other orderly advances (by rw [store]) (elsewhere about) (unrouted _)
  | applied stored pending first job' recorded =>
    rename_i job
    by_cases about : asked = key
    · subst about
      have record := recorded asked
      rw [if_pos rfl] at record
      refine ⟨?_, ?_, fun _ => ⟨_, job'⟩, fun _ => ⟨_, job', rfl⟩,
        tallied.once_append stored pending⟩
      · rw [exists_mem_append_singleton]
        exact ⟨fun _ => .inr ⟨completion, rfl⟩, fun _ => ⟨_, record, rfl⟩⟩
      · rw [exists_mem_append_singleton]
        exact ⟨fun _ => .inr (takes _), fun _ => ⟨_, record⟩⟩
    · have same := recorded key
      rw [if_neg (Ne.symm about)] at same
      exact tallied.other orderly advances same (elsewhere about) (unrouted _)
  | ignored stored first recorded =>
    rename_i job
    by_cases about : asked = key
    · subst about
      have record := recorded asked
      rw [if_pos rfl] at record
      refine tallied.unsettled orderly advances ?_ ?_ ?_ (fun _ => ⟨job, stored⟩)
      · rintro (⟨completion', ⟨⟩⟩ | routes)
        exact unrouted _ routes
      · rw [record, first]
        simp
      · rw [record]
        exact ⟨fun _ => .inr (takes _), fun _ => ⟨_, rfl⟩⟩
    · have same := recorded key
      rw [if_neg (Ne.symm about)] at same
      exact tallied.other orderly advances same (elsewhere about) (unrouted _)

/-- The tally goes on over a request to fail a job. -/
theorem Tallied.fail (tallied : engine.Tallied entries key) (orderly : engine.Orderly)
    (asked : JobKey) (problem : JobFailure) :
    (outcome (EngineOperation.fail asked problem).perform engine).2.Tallied
      (entries ++ [(.fail asked problem,
        (outcome (EngineOperation.fail asked problem).perform engine).1)]) key := by
  have advances := (EngineOperation.fail asked problem).advances engine
  have failing := failing_fail orderly asked problem
  have same : (outcome (EngineOperation.fail asked problem).perform engine).2.store.completions.get?
      key = engine.store.completions.get? key := by
    refine advances.completions orderly (fun other admitted => ?_)
    cases admitted
  rw [show (EngineOperation.fail asked problem).perform =
    EngineReply.failure <$> Engine.fail asked problem from rfl, outcome_map] at *
  generalize outcome (Engine.fail asked problem) engine = reached at *
  obtain ⟨answer, after⟩ := reached
  dsimp only at *
  have untaken : ∀ answer, ¬ HistoryEntry.Takes (.fail asked problem, answer) key := by
    rintro answer ⟨completion, outcome, ⟨⟩⟩
  cases failing with
  | other unrouted =>
    refine tallied.other orderly advances same (untaken _) ?_
    rintro ⟨problem', code, entry⟩
    cases answer with
    | error error => cases entry
    | ok found =>
      obtain rfl : found = .routed code := by
        cases entry
        rfl
      exact unrouted code rfl
  | routed stored pending first stored' completed =>
    by_cases about : asked = key
    · subst about
      have unapplied : ∀ answer, ¬ HistoryEntry.Applies (.fail asked problem, answer) asked := by
        rintro answer ⟨completion, ⟨⟩⟩
      refine ⟨?_, ?_, fun _ => ⟨_, stored'⟩, fun _ => ⟨_, stored', completed⟩,
        tallied.once_append stored pending⟩
      · rw [same, exists_mem_append_singleton, tallied.applied]
        exact (or_iff_left (unapplied _)).symm
      · rw [same, exists_mem_append_singleton, tallied.taken]
        exact (or_iff_left (untaken _)).symm
    · refine tallied.other orderly advances same (untaken _) ?_
      rintro ⟨problem', code, ⟨⟩⟩
      exact about rfl

/-- The tally goes on over every request. -/
theorem Tallied.step (tallied : engine.Tallied entries key) (orderly : engine.Orderly)
    (operation : EngineOperation) :
    (outcome operation.perform engine).2.Tallied
      (entries ++ [(operation, (outcome operation.perform engine).1)]) key := by
  by_cases completes : ∃ asked completion, operation = .complete asked completion
  · obtain ⟨asked, completion, rfl⟩ := completes
    exact tallied.complete orderly asked completion
  by_cases fails : ∃ asked problem, operation = .fail asked problem
  · obtain ⟨asked, problem, rfl⟩ := fails
    exact tallied.fail orderly asked problem
  have advances := operation.advances engine
  refine tallied.other orderly advances (advances.completions orderly (fun asked admitted => ?_))
    ?_ ?_
  · cases operation with
    | complete asked completion => exact completes ⟨asked, completion, rfl⟩
    | work turns => exact admitted.elim nofun nofun
    | _ => cases admitted
  · rintro ⟨completion, answer, entry⟩
    exact completes ⟨key, completion, congrArg Prod.fst entry⟩
  · rintro ⟨problem, code, entry⟩
    exact fails ⟨key, problem, congrArg Prod.fst entry⟩

theorem Fresh.tallied (fresh : engine.Fresh) (key : JobKey) : engine.Tallied [] key := by
  have unrecorded : ∀ record, engine.store.completions.get? key ≠ some record := by
    intro record found
    rw [fresh.store] at found
    cases found
  refine ⟨?_, ?_, ?_, ?_, .nil⟩
  · simp [unrecorded]
  · simp [unrecorded]
  · rintro ⟨record, found⟩
    exact absurd found (unrecorded record)
  · rintro ⟨entry, listed, -⟩
    cases listed

theorem History.tallied {first last : Engine MemoryStore} (history : History first entries last)
    (fresh : first.Fresh) (key : JobKey) : last.Tallied entries key := by
  induction history with
  | refl => exact fresh.tallied key
  | step prior operation ih => exact ih.step (prior.orderly fresh) operation

/-- Results are applied once. Over a whole history of an engine, at most one request ends the wait
for a job, by completing it or by taking its error route; a completion that is recorded never
changes and says whether a request has completed the job; and after a completion was taken every
other one is a duplicate that leaves the store as it is. -/
theorem results_applied_once {first last : Engine MemoryStore} {entries : List HistoryEntry}
    (history : History first entries last) (fresh : first.Fresh) (key : JobKey) :
    entries.Pairwise (fun earlier later => ¬ (earlier.Settles key ∧ later.Settles key)) ∧
    (∀ {later final}, History last later final -> ∀ {record},
      last.store.completions.get? key = some record ->
        final.store.completions.get? key = some record) ∧
    (∀ {record}, last.store.completions.get? key = some record ->
      (record.applied = true ↔ ∃ entry ∈ entries, entry.Applies key)) ∧
    ((∃ entry ∈ entries, entry.Takes key) -> ∀ completion, ∃ locks,
      outcome (EngineOperation.complete key completion).perform last =
        (.ok (.completion .duplicate), { last with locks := locks })) := by
  have tallied := history.tallied fresh key
  have orderly := history.orderly fresh
  refine ⟨tallied.once, ?_, ?_, ?_⟩
  · intro later final rest record found
    induction rest with
    | refl => exact found
    | step prior operation ih =>
      exact (operation.advances _).completion ((history.trans prior).orderly fresh) ih
  · intro record found
    rw [← tallied.applied, found]
    simp
  · intro taken completion
    obtain ⟨record, recorded⟩ := tallied.taken.2 taken
    obtain ⟨job, stored⟩ := tallied.stored ⟨record, recorded⟩
    refine ⟨last.locks.insert job.owner, ?_⟩
    rw [show (EngineOperation.complete key completion).perform =
      EngineReply.completion <$> Engine.complete key completion from rfl, outcome_map,
      outcome_complete_of_recorded stored recorded]
    rfl

/-- After the task was taken up again its completion is a duplicate. -/
theorem results_applied_once_of_task : ∃ locks,
    outcome (EngineOperation.complete TaskRun.key {}).perform
        (TaskRun.engine.performAll TaskRun.operations) =
      (.ok (.completion .duplicate),
        { TaskRun.engine.performAll TaskRun.operations with locks := locks }) := by
  obtain ⟨-, -, taken⟩ := TaskRun.reopened
  obtain ⟨-, -, -, duplicate⟩ := results_applied_once
    (.of_operations TaskRun.engine TaskRun.operations) ⟨rfl, rfl⟩ TaskRun.key
  exact duplicate taken {}

end Engine

end ProcessEngine
