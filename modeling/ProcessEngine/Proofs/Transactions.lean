import ProcessEngine.Proofs.Filing

/-!
# Transactions

A store in memory is changed by one request at a time, so no other writer ever comes before:
the first attempt decides what a transaction answers (`Engine.transacted_transact`).
-/

namespace ProcessEngine

namespace Engine

variable {Result : Type} {engine : Engine MemoryStore} {id : InstanceId} {purpose : Purpose}
  {change : Change Result}

open UnitOfWork

/-- A slice of a stored instance begins with the version that is stored. -/
theorem current_of_sliced (sound : engine.Sound)
    (intended : Intervention engine.store engine.config id purpose change) {result : Result}
    {report : RunReport} {work : UnitOfWork} {programs : ProgramCache} {state : InstanceState}
    {program : Program}
    (sliced : Sliced engine id change result report work programs state program) :
    engine.store.version? work.record.id = work.base := by
  obtain ⟨changed, parts⟩ := slice_parts sliced.done
  have intervened := intended.intervened parts.made
  have begun := sound id state sliced.stored
  have ran := parts.ran (intervened.shapely (shapely_begin begun))
  have continues := intervened.continues.trans ran.confined.toContinues
  have owner : work.record.id = id := continues.id.trans begun.keyed
  rw [MemoryStore.version?, owner, sliced.stored, continues.base]
  rfl

/-- Attempts after the first one are made only if it yields nothing. -/
theorem outcome_persist {one : EngineAction MemoryStore (Option Result)}
    {tried : Except EngineError Result} {after : Engine MemoryStore}
    (first : outcome one engine = (tried.map some, after)) :
    outcome (persist id one) engine = (tried, after) := by
  rw [persist, outcome_bind_ok (outcome_getThe engine)]
  obtain ⟨remaining, some⟩ : ∃ remaining, max 1 engine.config.commitAttempts = remaining + 1 :=
    ⟨max 1 engine.config.commitAttempts - 1, by omega⟩
  rw [some, insist]
  cases tried with
  | error error => exact outcome_bind_error first
  | ok result => rw [outcome_bind_ok first, outcome_pure]

/-- What a transaction answers and what it leaves in the store. -/
inductive Transacted (engine : Engine MemoryStore) (id : InstanceId) (change : Change Result) :
    Except EngineError Result × Engine MemoryStore -> Prop where
  /-- The instance or its program is missing, or the change cannot be made. -/
  | refused {error after} (store : after.store = engine.store)
      (unsliced : ∀ {result report work programs state program},
        ¬ Sliced engine id change result report work programs state program) :
    Transacted engine id change (.error error, after)
  /-- There is nothing to store. -/
  | idle {result report work programs state program after}
      (sliced : Sliced engine id change result report work programs state program)
      (empty : work.isEmpty = true) (store : after.store = engine.store) :
    Transacted engine id change (.ok result, after)
  | committed {result report work programs state program after}
      (sliced : Sliced engine id change result report work programs state program)
      (store : after.store = engine.store.apply work.finish.1) :
    Transacted engine id change (.ok result, after)

/-- On a sound engine the first attempt decides. -/
theorem transacted_first (sound : engine.Sound)
    (intended : Intervention engine.store engine.config id purpose change) :
    ∃ (tried : Except EngineError Result) (after : Engine MemoryStore),
      outcome (attempt id change) engine = (tried.map some, after) ∧
        Transacted engine id change (tried, after) := by
  have attempted := attempted_attempt id change engine
  generalize outcome (attempt id change) engine = reached at attempted ⊢
  cases attempted with
  | missing absent =>
    refine ⟨.error _, _, rfl, .refused rfl (fun sliced => ?_)⟩
    rw [sliced.stored] at absent
    cases absent
  | unloaded stored failed =>
    refine ⟨.error _, _, rfl, .refused rfl (fun sliced => ?_)⟩
    cases stored.symm.trans sliced.stored
    cases failed.symm.trans sliced.loaded
  | refused stored loaded failed =>
    refine ⟨.error _, _, rfl, .refused rfl (fun sliced => ?_)⟩
    cases stored.symm.trans sliced.stored
    cases loaded.symm.trans sliced.loaded
    cases failed.symm.trans sliced.done
  | idle sliced empty => exact ⟨.ok _, _, rfl, .idle sliced empty rfl⟩
  | contended sliced nonempty stale => exact absurd (current_of_sliced sound intended sliced) stale
  | committed sliced nonempty current => exact ⟨.ok _, _, rfl, .committed sliced rfl⟩

/-- A transaction ends as its first attempt does. -/
theorem transacted_transact (sound : engine.Sound)
    (intended : Intervention engine.store engine.config id purpose change) :
    Transacted engine id change (outcome (transact id change) engine) := by
  obtain ⟨tried, after, first, transacted⟩ := transacted_first sound intended
  rw [transact, outcome_persist first]
  exact transacted

/-- So does a change with a job. -/
theorem transacted_withJob (sound : engine.Sound) {key : JobKey} {job : Job}
    (change : Job -> Change Result) (stored : engine.store.jobs.get? key = some job)
    (intended : Intervention engine.store engine.config job.owner purpose (change job)) :
    Transacted engine job.owner (change job) (outcome (withJob key job.owner change) engine) := by
  obtain ⟨tried, after, first, transacted⟩ := transacted_first sound intended
  have looked : outcome (do attempt job.owner (change (<- jobOf key))) engine =
      (tried.map some, after) := by
    rw [outcome_bind, outcome_jobOf, stored]
    exact first
  rw [withJob, outcome_persist looked]
  exact transacted

end Engine

end ProcessEngine
