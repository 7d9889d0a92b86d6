import Mathlib.Logic.Function.Iterate
import ProcessEngine.Proofs.Filing

/-!
# Reports of failures

A report of a failure that is not for a business reason schedules a retry of the job, sets the job
aside or leaves it (`Job.amends_slice`). What it stores is made of the job that it has read: a retry
counts from there, whatever is stored by then.

To report a failure an engine calls its store several times, and other engines of the same store
may come in between: the owner of the job is looked up, then whether a completion is recorded, and
for each attempt the job, the state of its instance, and last the changes are stored.
`FailCall.step` makes one of these calls; one after another they make the whole report
(`FailCall.leads_fail`).
-/

namespace ProcessEngine

/-! ## Retries -/

/-- The same job after some retries were scheduled. -/
structure Job.Retried (job later : Job) (times : Nat) : Prop where
  key : later.key = job.key
  owner : later.owner = job.owner
  attempt : later.attempt = job.attempt + times
  remaining : later.retriesRemaining + times = job.retriesRemaining

namespace Job

variable {job later last : Job} {times : Nat}

theorem Retried.refl (job : Job) : job.Retried job 0 := ⟨rfl, rfl, rfl, rfl⟩

theorem retried_withdrawn (job : Job) : job.Retried job.withdrawn 0 := by
  cases pending : job.status.isOpen with
  | true =>
    rw [withdrawn_of_open pending]
    exact ⟨rfl, rfl, rfl, rfl⟩
  | false =>
    rw [withdrawn_of_closed pending]
    exact .refl job

theorem Retried.withdrawn (retried : job.Retried later times) :
    job.Retried later.withdrawn times := by
  obtain ⟨key, owner, attempt, remaining⟩ := later.retried_withdrawn
  refine ⟨key.trans retried.key, owner.trans retried.owner, attempt.trans retried.attempt, ?_⟩
  have := retried.remaining
  omega

theorem retried_scheduleRetry (some : 0 < job.retriesRemaining) (notBefore : Instant)
    (problem : String) : job.Retried (job.scheduleRetry notBefore problem) 1 :=
  ⟨rfl, rfl, rfl, Nat.sub_add_cancel some⟩

theorem retried_setAside (job : Job) (problem : String) :
    job.Retried (job.setAside problem) 0 := ⟨rfl, rfl, rfl, rfl⟩

end Job

/-! ## Failures -/

/-- Whether another attempt of the job was scheduled. -/
def FailureOutcome.isRetry : FailureOutcome -> Bool
  | .retryScheduled _ _ => true
  | _ => false

/-- Whether the job was changed. -/
def FailureOutcome.isWritten : FailureOutcome -> Bool
  | .ignored => false
  | _ => true

namespace Job

open UnitOfWork

variable {job : Job} {result : FailureOutcome} {work changed : UnitOfWork} {program : Program}
  {problem : JobFailure} {config : EngineConfig}

/-- What storing a unit of work makes of a job that was read before. -/
inductive Amends (job : Job) (work : UnitOfWork) : FailureOutcome -> Prop where
  /-- A retry of the job as it was read. -/
  | retry {attempt notBefore} (amended : ∀ table, ∃ later,
      (work.jobsOver table).get? job.key = some later ∧ job.Retried later 1) :
    Amends job work (.retryScheduled attempt notBefore)
  /-- The job is set aside as it was read. -/
  | bury {incident} (pending : job.status.isOpen = true) (amended : ∀ table, ∃ later,
      (work.jobsOver table).get? job.key = some later ∧ job.Retried later 0 ∧
        later.status.isOpen = false) :
    Amends job work (.deadLettered incident)
  /-- The job as it is stored is cancelled at most. -/
  | ignore (kept : ∀ {table row}, table.get? job.key = some row -> ∃ later,
      (work.jobsOver table).get? job.key = some later ∧ row.Retried later 0) :
    Amends job work .ignored

/-- A unit of work that changes a job is not empty. -/
theorem Amends.nonempty (amends : job.Amends work result) (written : result.isWritten = true) :
    work.isEmpty = false := by
  cases empty : work.isEmpty with
  | false => rfl
  | true =>
    simp only [isEmpty, Bool.and_eq_true, List.isEmpty_iff] at empty
    obtain ⟨⟨⟨⟨⟨⟨⟨-, jobs⟩, cancelled⟩, -⟩, -⟩, -⟩, -⟩, -⟩ := empty
    have same : (work.jobsOver (OrderedMap.empty.insert job.key job)).get? job.key = some job := by
      rw [jobsOver_of_none _ jobs cancelled]
      exact OrderedMap.get?_insert_self _ _ _
    cases amends with
    | retry amended =>
      obtain ⟨later, found, retried⟩ := amended (OrderedMap.empty.insert job.key job)
      cases same.symm.trans found
      have := retried.attempt
      omega
    | bury pending amended =>
      obtain ⟨later, found, -, closed⟩ := amended (OrderedMap.empty.insert job.key job)
      cases same.symm.trans found
      rw [pending] at closed
      cases closed
    | ignore => cases written

/-- A failure that is not for a business reason amends its job, also after any number of turns. -/
theorem amends_of_made (transient : problem.kind = .transient)
    (none : work.cancelledJobs = [] ∧ work.jobs = [])
    (made : job.fail problem config program work = .ok (result, changed)) {done : UnitOfWork}
    (ran : Ran program changed done) : job.Amends done result := by
  have turns : ∀ {table row times}, (changed.jobsOver table).get? job.key = some row ->
      ∀ {former : Job}, former.Retried row times -> ∃ later,
        (done.jobsOver table).get? job.key = some later ∧ former.Retried later times := by
    intro table row times found former retried
    rcases (ran.withdraws table).kept found with same | withdrawn
    · exact ⟨row, same, retried⟩
    · exact ⟨_, withdrawn, retried.withdrawn⟩
  cases wants : work.wants job with
  | false =>
    rw [fail_of_unwanted wants] at made
    cases made
    refine .ignore (fun {table row} found => turns ?_ (.refl row))
    rw [jobsOver_of_none table none.2 none.1]
    exact found
  | true =>
    obtain ⟨fiber, wanted⟩ := wanted_of_wants wants
    simp only [fail, wants, if_true, bury_of_wanted wanted, transient] at made
    split at made
    · rename_i some
      obtain ⟨notBefore, retried⟩ := retry_of_wanted wanted problem.message config.retry
      cases retried.symm.trans made
      refine .retry (fun table => turns ?_ (retried_scheduleRetry some notBefore problem.message))
      rw [get?_jobsOver_emit_updateJob work none.1]
      exact if_pos rfl
    · cases made
      refine .bury wanted.pending (fun table => ?_)
      have buried := job.get?_jobsOver_buried none.1 table .retryExhausted problem.message
        (work.time.after config.deadLetterLifetime) fiber.pc job.key
      rw [if_pos rfl] at buried
      have closed : (job.setAside problem.message).status.isOpen = false := rfl
      refine ⟨job.setAside problem.message, ?_, job.retried_setAside _, closed⟩
      rcases (ran.withdraws table).kept buried with same | withdrawn
      · exact same
      · rw [withdrawn_of_closed closed] at withdrawn
        exact withdrawn

end Job

/-! ## Call by call -/

/-- What an engine keeps from one attempt to the next. -/
structure Persistence where
  owner : InstanceId
  config : EngineConfig
  /-- How many attempts may still be made. -/
  remaining : Nat
  made : Nat

/-- How far the report of a failure has come: the call of the store that is next. -/
inductive FailCall where
  /-- To look up the owner of the job. -/
  | begin
  /-- To look up whether a completion of the job is recorded. -/
  | asking (owner : InstanceId)
  /-- To look up the job for an attempt. -/
  | looking (tries : Persistence)
  /-- To load the state of the instance. -/
  | loading (tries : Persistence) (job : Job)
  /-- To store the changes. The job as it was stored when the state was loaded is noted as well;
  nothing depends on it. -/
  | storing (tries : Persistence) (job : Job) (present : Option Job) (result : FailureOutcome)
      (report : RunReport) (work : UnitOfWork)
  | returned (answer : Except EngineError FailureOutcome)

namespace FailCall

open Engine

/-- Makes the next call. -/
def step (key : JobKey) (problem : JobFailure) : FailCall -> EngineAction MemoryStore FailCall
  | .begin => return .asking (<- jobOf key).owner
  | .asking owner => do
    if <- isCompleted key owner then return .returned (.ok .ignored)
    let config := (<- getThe (Engine MemoryStore)).config
    return .looking ⟨owner, config, max 1 config.commitAttempts, 0⟩
  | .looking tries =>
    match tries.remaining with
    | 0 => throw (.contention tries.owner tries.made)
    | remaining + 1 => return .loading { tries with remaining := remaining } (<- jobOf key)
  | .loading tries job => do
    let present := (<- getThe (Engine MemoryStore)).store.jobs.get? key
    let (result, report, work) <- prepare tries.owner (job.fail problem tries.config)
    return .storing tries job present result report work
  | .storing tries _ _ result report work => do
    match <- deposit result report work with
    | some result => return .returned (.ok result)
    | none => return .looking { tries with made := tries.made + 1 }
  | .returned answer => return .returned answer

/-- Makes the next call; an error is an answer. -/
def next (key : JobKey) (problem : JobFailure) (call : FailCall) (engine : Engine MemoryStore) :
    FailCall × Engine MemoryStore :=
  match outcome (call.step key problem) engine with
  | (.ok call, after) => (call, after)
  | (.error error, after) => (.returned (.error error), after)

variable {key : JobKey} {problem : JobFailure}

/-- An engine that is alone makes one call after another. -/
def Leads (key : JobKey) (problem : JobFailure)
    (first last : FailCall × Engine MemoryStore) : Prop :=
  ∃ calls, (fun reached : FailCall × Engine MemoryStore =>
    reached.1.next key problem reached.2)^[calls] first = last

theorem Leads.refl (reached : FailCall × Engine MemoryStore) :
    Leads key problem reached reached := ⟨0, rfl⟩

theorem Leads.head {call : FailCall} {engine : Engine MemoryStore}
    {between last : FailCall × Engine MemoryStore}
    (next : call.next key problem engine = between) (rest : Leads key problem between last) :
    Leads key problem (call, engine) last := by
  obtain ⟨calls, same⟩ := rest
  refine ⟨calls + 1, ?_⟩
  rw [Function.iterate_succ_apply, next, same]

/-- What a report answers and leaves behind, as the end of its calls. -/
def finish (reached : Except EngineError FailureOutcome × Engine MemoryStore) :
    FailCall × Engine MemoryStore := (.returned reached.1, reached.2)

theorem next_of_ok {call after : FailCall} {engine reached : Engine MemoryStore}
    (steps : outcome (call.step key problem) engine = (.ok after, reached)) :
    call.next key problem engine = (after, reached) := by
  rw [next, steps]

theorem next_of_error {call : FailCall} {engine reached : Engine MemoryStore} {error : EngineError}
    (steps : outcome (call.step key problem) engine = (.error error, reached)) :
    call.next key problem engine = (.returned (.error error), reached) := by
  rw [next, steps]

/-- Attempts are made until one yields a result. -/
theorem leads_insist (tries : Persistence) (engine : Engine MemoryStore) :
    Leads key problem (.looking tries, engine) (finish (outcome (insist tries.owner
      (do attempt tries.owner ((<- jobOf key).fail problem tries.config))
      tries.remaining tries.made) engine)) := by
  obtain ⟨owner, config, remaining, made⟩ := tries
  induction remaining generalizing made engine with
  | zero => exact .head (next_of_error rfl) (.refl _)
  | succ remaining ih =>
    have looked := outcome_jobOf key engine
    rw [insist, outcome_bind, outcome_bind, looked]
    cases found : engine.store.jobs.get? key with
    | none =>
      rw [found] at looked
      exact .head (next_of_error (outcome_bind_error looked)) (.refl _)
    | some job =>
      rw [found] at looked
      refine .head (next_of_ok (outcome_bind_ok looked)) ?_
      dsimp only [Option.elim]
      rw [attempt_eq, outcome_bind]
      rcases prepared : outcome (prepare owner (job.fail problem config)) engine with
        ⟨made', after⟩
      have loads : outcome (step key problem (.loading ⟨owner, config, remaining, made⟩ job))
          engine = _ := outcome_bind_ok (outcome_getThe engine)
      rw [outcome_bind, prepared] at loads
      cases made' with
      | error error => exact .head (next_of_error loads) (.refl _)
      | ok made' =>
        obtain ⟨result, report, work⟩ := made'
        refine .head (next_of_ok loads) ?_
        dsimp only
        rcases deposited : outcome (deposit result report work) after with ⟨answer, last⟩
        cases answer with
        | error error =>
          exact .head (next_of_error (outcome_bind_error deposited)) (.refl _)
        | ok answer =>
          cases answer with
          | some result => exact .head (next_of_ok (outcome_bind_ok deposited)) (.refl _)
          | none => exact .head (next_of_ok (outcome_bind_ok deposited)) (ih last (made + 1))

/-- The calls make the report. -/
theorem leads_fail (key : JobKey) (problem : JobFailure) (engine : Engine MemoryStore) :
    Leads key problem (.begin, engine) (finish (outcome (fail key problem) engine)) := by
  have looked := outcome_jobOf key engine
  rw [Engine.fail, outcome_bind, looked]
  cases stored : engine.store.jobs.get? key with
  | none =>
    rw [stored] at looked
    exact .head (next_of_error (outcome_bind_error looked)) (.refl _)
  | some job =>
    rw [stored] at looked
    refine .head (next_of_ok (outcome_bind_ok looked)) ?_
    have asked := outcome_isCompleted key job.owner engine
    dsimp only [Option.elim]
    rw [outcome_bind, asked]
    have steps : outcome (step key problem (.asking job.owner)) engine = _ := outcome_bind_ok asked
    cases first : (engine.store.completions.get? key).isSome with
    | true =>
      rw [first] at steps
      exact .head (next_of_ok steps) (.refl _)
    | false =>
      rw [first] at steps
      refine .head (next_of_ok steps) ?_
      dsimp only
      rw [if_neg Bool.false_ne_true, outcome_bind_ok (outcome_getThe _), withJob, persist,
        outcome_bind_ok (outcome_getThe _)]
      exact leads_insist ⟨job.owner, engine.config, max 1 engine.config.commitAttempts, 0⟩ _

end FailCall

end ProcessEngine
