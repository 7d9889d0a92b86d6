import ProcessEngine.Proofs.Anchors
import ProcessEngine.Proofs.Results

/-!
# Completions of jobs that fibers wait for

A completion of a job that a fiber waits for lets the fiber go on after its dispatch, unless a
completion of the job was taken before (`Engine.History.completion_of_awaited`). The latter happens:
a completion that comes while a job is set aside is ignored but recorded, so when the job is put
back its fiber waits for a completion that can only be a duplicate.
-/

namespace ProcessEngine

open UnitOfWork

/-- A change that can be made begins a slice of the program of the instance. -/
theorem Change.slice_of_made {Result : Type} {change : Change Result} {program : Program}
    {work changed : UnitOfWork} {result : Result}
    (made : change program work = .ok (result, changed))
    (own : changed.record.program = program.hash) (maximumSteps : Nat) :
    ∃ report done, change.slice program maximumSteps work = .ok (result, report, done) := by
  rw [Change.slice, made]
  simp only [bind, Except.bind, run, own]
  exact ⟨_, _, rfl⟩

namespace Engine

variable {engine first last : Engine MemoryStore} {entries : List HistoryEntry} {job : Job}
  {key : JobKey} {state : InstanceState} {fiber : Fiber}

/-- A fiber of a stored instance waits for a job, which is open. -/
structure Awaits (engine : Engine MemoryStore) (key : JobKey) (job : Job) (state : InstanceState)
    (fiber : Fiber) : Prop where
  stored : engine.store.jobs.get? key = some job
  pending : job.status.isOpen = true
  present : engine.store.states.get? job.owner = some state
  running : state.record.status = .running
  found : state.fiber? job.fiber = some fiber
  waits : fiber.wait = .job key

/-- A fiber waits for every open job as long as identifiers fit. -/
theorem History.awaits (history : History first entries last) (fresh : first.Fresh)
    (bounded : last.supply.next ≤ 2 ^ 128) (stored : last.store.jobs.get? key = some job)
    (pending : job.status.isOpen = true) : ∃ state fiber, last.Awaits key job state fiber := by
  obtain ⟨state, fiber, present, running, found, waits⟩ :=
    (history.consistent fresh).awaited bounded stored pending
  exact ⟨state, fiber, stored, pending, present, running, found, waits⟩

/-- A completion was applied: the job is completed, its fiber has gone on after the address at
which it waited, and the instance has run from there. -/
structure Resumed (engine : Engine MemoryStore) (key : JobKey) (job : Job) (state : InstanceState)
    (fiber : Fiber) (completion : JobCompletion) (after : Engine MemoryStore) : Prop where
  completed : after.store.jobs.get? key = some { job with status := .completed }
  recorded : after.store.completions.get? key = some ⟨key, completion, true, engine.now⟩
  woken : (job.applied completion fiber.pc (.begin state engine.now engine.supply)).fiber?
    job.fiber = some (fiber.wake (fiber.pc + 1))
  ran : ∃ program work, program.Named state.record.program ∧
    Ran program (job.applied completion fiber.pc (.begin state engine.now engine.supply)) work ∧
    after.store = engine.store.apply work.finish.1

theorem Awaits.wanted (awaits : engine.Awaits key job state fiber) (named : job.key = key) :
    (UnitOfWork.begin state engine.now engine.supply).Wanted job fiber :=
  ⟨awaits.pending, awaits.found, named ▸ awaits.waits⟩

/-- The fiber that is woken goes on at the next instruction, in a new epoch. -/
theorem Awaits.woken (awaits : engine.Awaits key job state fiber) (completion : JobCompletion) :
    (job.applied completion fiber.pc (.begin state engine.now engine.supply)).fiber? job.fiber =
      some (fiber.wake (fiber.pc + 1)) := by
  rw [Job.applied, fiber?_wake, if_pos rfl, fiber?_updateRecord]
  exact congrArg (Option.map _) awaits.found

/-- A slice with the completion can be made. -/
theorem Awaits.sliced (awaits : engine.Awaits key job state fiber) (named : job.key = key)
    (supplied : engine.Supplied) (completion : JobCompletion) :
    ∃ report work programs program, Sliced engine job.owner (job.complete completion) .applied
      report work programs state program := by
  obtain ⟨program, programs, loaded, known⟩ := supplied.loads awaits.present
  have made := @Job.complete_of_wanted _ program _ _ (awaits.wanted named) completion
  have own :
      (job.applied completion fiber.pc (.begin state engine.now engine.supply)).record.program =
        program.hash := (Job.continues_applied completion fiber.pc).program.trans known.same.symm
  obtain ⟨report, work, done⟩ := Change.slice_of_made made own engine.config.maximumSteps
  exact ⟨report, work, programs, program, awaits.present, loaded, done⟩

/-- A slice with the completion applies it and runs from there. -/
theorem Awaits.applied (awaits : engine.Awaits key job state fiber) (named : job.key = key)
    (orderly : engine.Orderly) (supplied : engine.Supplied)
    (first : engine.store.completions.get? key = none) {completion : JobCompletion}
    {result : CompletionOutcome} {report : RunReport} {work : UnitOfWork} {programs : ProgramCache}
    {state' : InstanceState} {program : Program} (sliced : Sliced engine job.owner
      (job.complete completion) result report work programs state' program) :
    result = .applied ∧ program.Named state.record.program ∧
      Ran program (job.applied completion fiber.pc (.begin state engine.now engine.supply))
        work := by
  cases awaits.present.symm.trans sliced.stored
  obtain ⟨changed, parts⟩ := slice_parts sliced.done
  have wanted := awaits.wanted named
  have made := parts.made
  rw [Job.complete_of_wanted wanted] at made
  cases made
  have begun := orderly.sound _ state awaits.present
  have intervened : Intervened engine.store job.owner program
      (.begin state engine.now engine.supply) (.complete key) _ :=
    .complete awaits.stored rfl first wanted completion
  obtain ⟨program', programs', loaded, known⟩ := supplied.loads awaits.present
  cases loaded.symm.trans sliced.loaded
  exact ⟨rfl, known, parts.ran (intervened.shapely (shapely_begin begun))⟩

/-- The first completion of a job that a fiber waits for is applied. -/
theorem Awaits.completes (awaits : engine.Awaits key job state fiber) (orderly : engine.Orderly)
    (supplied : engine.Supplied) (first : engine.store.completions.get? key = none)
    (completion : JobCompletion) :
    ∃ after, outcome (complete key completion) engine = (.ok .applied, after) ∧
      engine.Resumed key job state fiber completion after := by
  have stored := awaits.stored
  obtain rfl := orderly.filed.keyed stored
  have locked := orderly.locked job.owner
  have awaits' : Awaits { engine with locks := engine.locks.insert job.owner } job.key job state
      fiber := ⟨stored, awaits.pending, awaits.present, awaits.running, awaits.found, awaits.waits⟩
  have supplied' : Supplied { engine with locks := engine.locks.insert job.owner } :=
    ⟨⟨supplied.stored, supplied.cached⟩, supplied.kept, supplied.provided⟩
  have intended : Intervention engine.store engine.config job.owner (.complete job.key)
      (job.complete completion) := .complete stored rfl first completion
  have transacted := transacted_withJob locked.sound (fun job => job.complete completion) stored
    intended
  rw [outcome_complete_of_first stored first]
  generalize outcome _ _ = reached at transacted ⊢
  cases transacted with
  | refused store unsliced =>
    obtain ⟨report, work, programs, program, sliced⟩ := awaits'.sliced rfl supplied' completion
    exact absurd sliced unsliced
  | idle sliced empty store =>
    simp only [UnitOfWork.isEmpty, Bool.and_eq_true, List.isEmpty_iff] at empty
    rcases recorded_slice locked stored first sliced with ⟨-, -, -, noted⟩ | ⟨-, noted⟩
    · rw [noted] at empty
      cases empty.1.1.1.1.2
    · rw [noted] at empty
      cases empty.1.1.1.1.2
  | committed sliced store =>
    rename_i work _ _ program after
    obtain ⟨rfl, named, ran⟩ := awaits'.applied rfl locked supplied' first sliced
    rcases recorded_slice locked stored first sliced with ⟨-, -, completed, noted⟩ | ⟨⟨⟩, -⟩
    refine ⟨after, rfl, ?_, ?_, awaits.woken completion, program, work, named, ran, store⟩
    · rw [store]
      exact completed
    · rw [store, get?_completions_apply, first, noted]
      simp

/-- A completion of a job that a fiber of a running instance waits for lets the fiber go on after
its dispatch if no completion of the job was taken before. If one was, the completion is a
duplicate that leaves the store as it is, and so is every later one. -/
theorem History.completion_of_awaited (history : History first entries last) (fresh : first.Fresh)
    (awaits : last.Awaits key job state fiber) (completion : JobCompletion) :
    state.record.program.DispatchesAt fiber.pc ∧
    ((∀ entry ∈ entries, ¬ entry.Takes key) ->
      ∃ after, outcome (EngineOperation.complete key completion).perform last =
          (.ok (.completion .applied), after) ∧
        last.Resumed key job state fiber completion after) ∧
    ((∃ entry ∈ entries, entry.Takes key) ->
      ∃ locks, outcome (EngineOperation.complete key completion).perform last =
        (.ok (.completion .duplicate), { last with locks := locks })) := by
  have orderly := history.orderly fresh
  have tallied := history.tallied fresh key
  have performed : ∀ {answer after}, outcome (complete key completion) last = (.ok answer, after) ->
      outcome (EngineOperation.complete key completion).perform last =
        (.ok (.completion answer), after) := by
    intro answer after answered
    rw [show (EngineOperation.complete key completion).perform =
      EngineReply.completion <$> Engine.complete key completion from rfl, outcome_map, answered]
    rfl
  refine ⟨(history.anchored fresh).parked awaits.present awaits.found awaits.waits,
    fun untaken => ?_, fun taken => ?_⟩
  · have first : last.store.completions.get? key = none := by
      cases recorded : last.store.completions.get? key with
      | none => rfl
      | some record =>
        obtain ⟨entry, listed, takes⟩ := tallied.taken.1 ⟨record, recorded⟩
        exact absurd takes (untaken entry listed)
    obtain ⟨after, answered, resumed⟩ :=
      awaits.completes orderly (history.supplied fresh) first completion
    exact ⟨after, performed answered, resumed⟩
  · obtain ⟨record, recorded⟩ := tallied.taken.2 taken
    exact ⟨_, performed (outcome_complete_of_recorded awaits.stored recorded completion)⟩

/-- The fiber of the task that was taken up again waits for a completion that can only be a
duplicate. -/
theorem completion_of_task : ∃ job state fiber,
    (TaskRun.engine.performAll TaskRun.operations).Awaits TaskRun.key job state fiber ∧
    state.record.program.DispatchesAt fiber.pc ∧ ∀ completion, ∃ locks,
      outcome (EngineOperation.complete TaskRun.key completion).perform
          (TaskRun.engine.performAll TaskRun.operations) =
        (.ok (.completion .duplicate),
          { TaskRun.engine.performAll TaskRun.operations with locks := locks }) := by
  obtain ⟨bounded, reopened, taken⟩ := TaskRun.reopened
  obtain ⟨job, stored, pending⟩ := (Option.any_eq_true _ _).1 reopened
  have history := History.of_operations TaskRun.engine TaskRun.operations
  obtain ⟨state, fiber, awaits⟩ := history.awaits ⟨rfl, rfl⟩ bounded stored pending
  have completed := history.completion_of_awaited ⟨rfl, rfl⟩ awaits
  exact ⟨job, state, fiber, awaits, (completed {}).1,
    fun completion => (completed completion).2.2 taken⟩

end Engine

end ProcessEngine
