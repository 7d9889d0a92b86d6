import ProcessEngine.Proofs.Budgets
import ProcessEngine.Proofs.Completions
import ProcessEngine.Proofs.Requeues

/-!
# How retries are used up

A failure of an open job for no business reason takes one of the retries that the job has left. If
there is none, it raises one incident and puts down one dead letter (`Engine.Awaits.strains`). So a
job that receives nothing but such failures is tried again as often as it has retries left and is
set aside by the next one (`Engine.Suffers.spends`). After that failures are ignored until the job
is put back (`Engine.History.retry_budget`).
-/

namespace ProcessEngine

open UnitOfWork

/-! ## Incidents of turns -/

namespace UnitOfWork

variable {work next : UnitOfWork} {program : Program}

/-- Incidents that turns raise are not for want of retries. -/
theorem Ran.raises (ran : Ran program work next) : ∃ raised,
    next.incidents = work.incidents ++ raised ∧
      ∀ incident ∈ raised, incident.kind ≠ .retryExhausted := by
  induction ran with
  | refl => exact ⟨[], (List.append_nil _).symm, nofun⟩
  | step prior running found ready turned ih =>
    rename_i middle fiber next
    obtain ⟨raised, appended, kinds⟩ := ih
    rcases turned.incidents with same | ⟨before, kind, message, prepared, cause, rfl⟩
    · exact ⟨raised, same.trans appended, kinds⟩
    · have same : before.incidents = middle.incidents := by
        cases prepared with
        | same => rfl
        | changed => rfl
      let incident : Incident := { Incident.raise ⟨before.supply.next⟩ before.record.id fiber.id
        fiber.pc kind message before.time with node := program.symbols.nodeContaining? fiber.pc }
      refine ⟨raised ++ [incident], ?_, fun other listed => ?_⟩
      · rw [← List.append_assoc, ← appended, ← same]
        exact incidents_halt _ incident
      · rcases List.mem_append.1 listed with earlier | newest
        · exact kinds other earlier
        · rw [List.mem_singleton.1 newest]
          rcases cause with rfl | rfl
          · exact nofun
          · exact nofun

/-- An incident for want of retries that is stored after turns would be stored without them. -/
theorem Ran.exhausted {table : OrderedMap IncidentId Incident} {id : IncidentId}
    {incident : Incident} (ran : Ran program work next)
    (found : (next.incidentsOver table).get? id = some incident)
    (kind : incident.kind = .retryExhausted) :
    (work.incidentsOver table).get? id = some incident := by
  obtain ⟨raised, appended, kinds⟩ := ran.raises
  rw [incidentsOver_append appended] at found
  rcases OrderedMap.get?_foldl_insert_cases Incident.id (fun incident => incident) raised
      (work.incidentsOver table) id with ⟨other, listed, rfl, written⟩ | ⟨-, same⟩
  · cases found.symm.trans written
    exact absurd kind (kinds _ listed)
  · exact same.symm.trans found

end UnitOfWork

/-- Work with nothing to store leads to the tables as they are. -/
theorem UnitOfWork.over_of_isEmpty {work : UnitOfWork} (empty : work.isEmpty = true)
    (store : MemoryStore) : work.jobsOver store.jobs = store.jobs ∧
      work.lettersOver store.deadLetters = store.deadLetters ∧
      work.incidentsOver store.incidents = store.incidents := by
  simp only [isEmpty, Bool.and_eq_true, List.isEmpty_iff] at empty
  obtain ⟨⟨⟨⟨⟨⟨⟨-, jobs⟩, cancelled⟩, -⟩, incidents⟩, letters⟩, removed⟩, -⟩ := empty
  rw [jobsOver_of_none _ jobs cancelled, lettersOver, letters, removed, incidentsOver, incidents]
  exact ⟨rfl, rfl, rfl⟩

/-! ## What is left of a job that is set aside -/

/-- There is no dead letter of an open job. -/
theorem MemoryStore.Filed.unfiled {store : MemoryStore} (filed : store.Filed) {key : JobKey}
    {job : Job} (stored : store.jobs.get? key = some job) (pending : job.status.isOpen = true)
    {place : DeadLetterKey} {letter : DeadLetter}
    (there : store.deadLetters.get? place = some letter) : letter.key ≠ key := by
  rintro rfl
  have held := filed.letters there
  cases stored.symm.trans held.stored
  cases pending.symm.trans held.closed

namespace Job

variable {work : UnitOfWork} (job : Job) (kind : FaultClass) (problem : String) (expires : Instant)
  (pc : Address)

/-- An incident of the job is raised. -/
theorem incidentsOver_buried (table : OrderedMap IncidentId Incident) : ∃ incident,
    incident.kind = kind ∧ incident.jobKey = some job.key ∧ incident.attempts = job.attempt ∧
    incident.isOpen = true ∧ ∀ asked,
      ((job.buried kind problem expires pc work).incidentsOver table).get? asked =
        if asked = ⟨work.supply.next⟩ then some incident
        else (work.incidentsOver table).get? asked := by
  let incident : Incident :=
    { Incident.raise ⟨work.supply.next⟩ job.owner job.fiber pc kind problem work.time with
      node := some job.node
      jobKey := some job.key
      attempts := job.attempt }
  refine ⟨incident, rfl, rfl, rfl, rfl, fun asked => ?_⟩
  rw [buried, incidentsOver_shelved]
  exact get?_incidentsOver_halt _ incident asked

/-- The incident takes an identifier. -/
theorem supply_buried :
    work.supply.next < (job.buried kind problem expires pc work).supply.next :=
  Nat.lt_of_lt_of_le (Nat.lt_succ_self _) (steady_halt { work with
    supply := ⟨work.supply.next + 1⟩ } { Incident.raise ⟨work.supply.next⟩ job.owner job.fiber pc
      kind problem work.time with
      node := some job.node
      jobKey := some job.key
      attempts := job.attempt }).supply

/-- A letter of the job is put down. -/
theorem lettersOver_buried (clean : work.deadLetters = []) (none : work.removedDeadLetters = [])
    (table : OrderedMap DeadLetterKey DeadLetter) (place : DeadLetterKey) :
    ((job.buried kind problem expires pc work).lettersOver table).get? place =
      if place = ⟨job.taskType, job.key⟩ then
        some (job.letter problem ⟨work.supply.next⟩ work.time expires)
      else table.get? place := by
  have steady := job.steady_stopped kind problem pc work
  have letters : (job.buried kind problem expires pc work).deadLetters =
      [job.letter problem ⟨work.supply.next⟩ work.time expires] := by
    rw [buried, deadLetters_shelved, steady.deadLetters, clean]
    rfl
  have removed : (job.buried kind problem expires pc work).removedDeadLetters = [] := by
    rw [buried, removedDeadLetters_shelved, steady.removedDeadLetters, none]
  rw [lettersOver, letters, removed]
  exact OrderedMap.get?_insert _ _ _ _

end Job

/-! ## Reports of failures -/

namespace Engine

variable {engine after first last : Engine MemoryStore} {job : Job} {state : InstanceState}
  {fiber : Fiber} {problem : JobFailure} {key : JobKey}

/-- A report of a failure was answered: the change that it makes of the instance of the job can be
made, and what the turns after it lead to is stored. -/
structure Reported (engine : Engine MemoryStore) (job : Job) (state : InstanceState)
    (problem : JobFailure) (answer : FailureOutcome) (program : Program)
    (changed work : UnitOfWork) (after : Engine MemoryStore) : Prop where
  performed : outcome (EngineOperation.fail job.key problem).perform engine =
    (.ok (.failure answer), after)
  made : job.fail problem engine.config program (.begin state engine.now engine.supply) =
    .ok (answer, changed)
  shapely : changed.Shapely
  ran : Ran program changed work
  jobs : after.store.jobs = work.jobsOver engine.store.jobs
  letters : after.store.deadLetters = work.lettersOver engine.store.deadLetters
  incidents : after.store.incidents = work.incidentsOver engine.store.incidents
  states : work.isEmpty = false -> after.store.states.get? job.owner = some work.finish.2

/-- A change that a failure makes can be made. -/
theorem exists_made (job : Job) (problem : JobFailure) (config : EngineConfig) (program : Program)
    (work : UnitOfWork) :
    ∃ answer changed, job.fail problem config program work = .ok (answer, changed) := by
  cases wants : work.wants job with
  | false => exact ⟨_, _, Job.fail_of_unwanted wants problem config⟩
  | true =>
    obtain ⟨fiber, wanted⟩ := wanted_of_wants wants
    obtain ⟨answer, changed, made, -⟩ := @Job.fail_of_wanted _ program _ _ wanted problem config
    exact ⟨answer, changed, made⟩

/-- A failure of a job of a stored instance is answered unless a completion was taken before. -/
theorem exists_reported (orderly : engine.Orderly) (supplied : engine.Supplied)
    (stored : engine.store.jobs.get? job.key = some job)
    (present : engine.store.states.get? job.owner = some state)
    (first : engine.store.completions.get? job.key = none) (problem : JobFailure) :
    ∃ answer program changed work after,
      engine.Reported job state problem answer program changed work after := by
  obtain ⟨program, programs, loads, known⟩ := supplied.loads present
  obtain ⟨answer, changed, made⟩ := exists_made job problem engine.config program
    (.begin state engine.now engine.supply)
  have intended : Intervention engine.store engine.config job.owner (.fail job.key)
      (job.fail problem engine.config) := .fail stored rfl first problem
  have intervened := intended.intervened made
  have own : changed.record.program = program.hash :=
    intervened.continues.program.trans known.same.symm
  obtain ⟨report, work, sliced⟩ := Change.slice_of_made made own engine.config.maximumSteps
  obtain ⟨changed', parts⟩ := slice_parts sliced
  obtain rfl : changed = changed' := congrArg Prod.snd (Except.ok.inj (made.symm.trans parts.made))
  have shapely := intervened.shapely (shapely_begin (orderly.sound _ _ present))
  have ran := parts.ran shapely
  have deed : engine.deed job.owner (job.fail problem engine.config) =
      ⟨.ok answer, if work.isEmpty then none else some work⟩ := by
    simp only [Engine.deed, present, loaded, loads, Except.map, sliced]
  obtain ⟨after, performed, leaves⟩ := (does_fail stored first problem
    (fun state present => orderly.sound _ state present)).map EngineReply.failure
  rw [deed] at performed leaves
  have store := leaves.store
  refine ⟨answer, program, changed, work, after, ?_⟩
  cases empty : work.isEmpty with
  | false =>
    rw [Deed.map, empty] at store
    have store : after.store = engine.store.apply work.finish.1 := store
    obtain ⟨storable, owner⟩ := storable_slice orderly.sound present intervened ran
    refine ⟨performed, made, shapely, ran, ?_, ?_, ?_, fun _ => ?_⟩
    · rw [store]
      rfl
    · rw [store]
      rfl
    · rw [store]
      rfl
    · rw [store, storable.states_apply, if_pos owner.symm]
  | true =>
    rw [Deed.map, empty] at store
    have store : after.store = engine.store := store
    obtain ⟨jobs, letters, incidents⟩ := over_of_isEmpty empty engine.store
    refine ⟨performed, made, shapely, ran, ?_, ?_, ?_, fun noted => ?_⟩
    · rw [store, jobs]
    · rw [store, letters]
    · rw [store, incidents]
    · cases empty.symm.trans noted

/-- A retry of a job was scheduled, unless the instance was terminated in the same slice, which has
cancelled the job. No incident for want of retries is new, and no dead letter. -/
structure Retries (engine : Engine MemoryStore) (job : Job) (problem : JobFailure)
    (notBefore : Instant) (after : Engine MemoryStore) : Prop where
  row : after.store.jobs.get? job.key = some (job.scheduleRetry notBefore problem.message) ∨
    ∃ state, after.store.states.get? job.owner = some state ∧
      state.record.status = .terminated ∧ after.store.jobs.get? job.key =
        some { job.scheduleRetry notBefore problem.message with status := .cancelled }
  incidents : ∀ {id incident}, after.store.incidents.get? id = some incident ->
    incident.kind = .retryExhausted -> engine.store.incidents.get? id = some incident
  letters : after.store.deadLetters = engine.store.deadLetters

/-- A job was set aside. Just one incident for want of retries is new, and just one dead letter. -/
structure Exhausts (engine : Engine MemoryStore) (job : Job) (problem : JobFailure)
    (id : IncidentId) (after : Engine MemoryStore) : Prop where
  row : after.store.jobs.get? job.key = some (job.setAside problem.message)
  unknown : engine.store.incidents.get? id = none
  raised : ∃ incident, after.store.incidents.get? id = some incident ∧
    incident.kind = .retryExhausted ∧ incident.jobKey = some job.key ∧
    incident.attempts = job.attempt ∧ incident.isOpen = true
  only : ∀ {other incident}, other ≠ id -> after.store.incidents.get? other = some incident ->
    incident.kind = .retryExhausted -> engine.store.incidents.get? other = some incident
  unfiled : ∀ {place letter}, engine.store.deadLetters.get? place = some letter ->
    letter.key ≠ job.key
  letters : ∀ place, after.store.deadLetters.get? place =
    if place = ⟨job.taskType, job.key⟩ then
      some (job.letter problem.message id engine.now
        (engine.now.after engine.config.deadLetterLifetime))
    else engine.store.deadLetters.get? place

/-- What comes of a failure of an open job for no business reason. -/
inductive Strains (engine : Engine MemoryStore) (job : Job) (problem : JobFailure) :
    Except EngineError EngineReply × Engine MemoryStore -> Prop where
  | retried {notBefore after} (left : 0 < job.retriesRemaining)
      (retries : engine.Retries job problem notBefore after) :
    Strains engine job problem
      (.ok (.failure (.retryScheduled (job.attempt + 1) notBefore)), after)
  | setAside {id after} (none : job.retriesRemaining = 0)
      (exhausts : engine.Exhausts job problem id after) :
    Strains engine job problem (.ok (.failure (.deadLettered id)), after)

/-- A failure that is ignored leaves the job as it is. -/
structure Ignores (engine : Engine MemoryStore) (key : JobKey) (problem : JobFailure)
    (after : Engine MemoryStore) : Prop where
  performed : outcome (EngineOperation.fail key problem).perform engine =
    (.ok (.failure .ignored), after)
  row : after.store.jobs.get? key = engine.store.jobs.get? key
  incidents : ∀ {id incident}, after.store.incidents.get? id = some incident ->
    incident.kind = .retryExhausted -> engine.store.incidents.get? id = some incident
  letters : after.store.deadLetters = engine.store.deadLetters

section

variable {answer : FailureOutcome} {program : Program} {changed work : UnitOfWork}

/-- What a report writes for a job is stored, unless the turns after it cancel the job. -/
theorem Reported.row
    (reported : engine.Reported job state problem answer program changed work after) {later : Job}
    (written : (changed.jobsOver engine.store.jobs).get? job.key = some later) :
    after.store.jobs.get? job.key = some later ∨
      after.store.jobs.get? job.key = some later.withdrawn := by
  rw [reported.jobs]
  exact (reported.ran.withdraws engine.store.jobs).kept written

/-- An incident for want of retries is stored because the change raises it, if it is new. -/
theorem Reported.exhausted
    (reported : engine.Reported job state problem answer program changed work after)
    {id : IncidentId} {incident : Incident}
    (found : after.store.incidents.get? id = some incident)
    (kind : incident.kind = .retryExhausted) :
    (changed.incidentsOver engine.store.incidents).get? id = some incident :=
  reported.ran.exhausted (reported.incidents ▸ found) kind

/-- The letters that a report puts down are those of its change. -/
theorem Reported.deadLetters
    (reported : engine.Reported job state problem answer program changed work after) :
    after.store.deadLetters = changed.lettersOver engine.store.deadLetters :=
  reported.letters.trans (reported.ran.confined.lettersOver _)

/-- A failure of a job that is not open is ignored. -/
theorem Reported.ignores
    (reported : engine.Reported job state problem answer program changed work after)
    (stored : engine.store.jobs.get? job.key = some job) (closed : job.status.isOpen = false) :
    engine.Ignores job.key problem after := by
  have made := reported.made
  have unwanted : (UnitOfWork.begin state engine.now engine.supply).wants job = false := by
    rw [UnitOfWork.wants, closed, Bool.false_and]
  rw [Job.fail_of_unwanted unwanted] at made
  obtain ⟨rfl, rfl⟩ := Prod.mk.inj (Except.ok.inj made)
  refine ⟨reported.performed, ?_, reported.exhausted, reported.deadLetters⟩
  have written : ((UnitOfWork.begin state engine.now engine.supply).jobsOver
      engine.store.jobs).get? job.key = some job := stored
  rw [stored]
  rcases reported.row written with same | withdrawn
  · exact same
  · rw [withdrawn, Job.withdrawn_of_closed closed]

/-- A report that schedules a retry. -/
theorem Reported.retries (awaits : engine.Awaits job.key job state fiber) {notBefore : Instant}
    (reported : engine.Reported job state problem answer program
      (((UnitOfWork.begin state engine.now engine.supply).updateJob
        (job.scheduleRetry notBefore problem.message)).emit (.jobRetryScheduled job.key
          (job.scheduleRetry notBefore problem.message).attempt notBefore)) work after) :
    engine.Retries job problem notBefore after := by
  have written := get?_jobsOver_emit_updateJob (.begin state engine.now engine.supply) rfl
    engine.store.jobs (job.scheduleRetry notBefore problem.message) (.jobRetryScheduled job.key
      (job.scheduleRetry notBefore problem.message).attempt notBefore) job.key
  refine ⟨?_, reported.exhausted, reported.deadLetters⟩
  rw [reported.jobs]
  rcases reported.ran.awaited reported.shapely ((fiber?_emit _ _ _).trans awaits.found) awaits.waits
      (written.trans (if_pos rfl)) rfl with ⟨later, -, -, still⟩ | ⟨terminated, -, withdrawn⟩
  · exact .inl still
  · refine .inr ⟨work.finish.2, reported.states ?_, terminated, withdrawn⟩
    cases empty : work.isEmpty with
    | false => rfl
    | true =>
      -- Work that is not stored would have left the job with its attempts.
      rw [(over_of_isEmpty empty engine.store).1, awaits.stored] at withdrawn
      exact absurd (congrArg Job.attempt (Option.some.inj withdrawn)) (Nat.succ_ne_self _).symm

/-- A report that sets the job aside. -/
theorem Reported.exhausts (orderly : engine.Orderly) (anchored : engine.Anchored)
    (stored : engine.store.jobs.get? job.key = some job) (pending : job.status.isOpen = true)
    (reported : engine.Reported job state problem answer program
      (job.buried .retryExhausted problem.message
        (engine.now.after engine.config.deadLetterLifetime) fiber.pc
        (.begin state engine.now engine.supply)) work after) :
    engine.Exhausts job problem ⟨engine.supply.next⟩ after := by
  obtain ⟨incident, kind, about, attempts, opened, raised⟩ :=
    @Job.incidentsOver_buried (.begin state engine.now engine.supply) job .retryExhausted
      problem.message (engine.now.after engine.config.deadLetterLifetime) fiber.pc
      engine.store.incidents
  have drawn := @Job.supply_buried (.begin state engine.now engine.supply) job .retryExhausted
    problem.message (engine.now.after engine.config.deadLetterLifetime) fiber.pc
  have closed : (job.setAside problem.message).status.isOpen = false := rfl
  refine ⟨?_, ?_, ⟨incident, ?_, kind, about, attempts, opened⟩, ?_, ?_, fun place => ?_⟩
  · have written := @Job.get?_jobsOver_buried (.begin state engine.now engine.supply) rfl
      engine.store.jobs job .retryExhausted problem.message
      (engine.now.after engine.config.deadLetterLifetime) fiber.pc job.key
    rcases reported.row (written.trans (if_pos rfl)) with same | withdrawn
    · exact same
    · rw [withdrawn, Job.withdrawn_of_closed closed]
  · cases known : engine.store.incidents.get? ⟨engine.supply.next⟩ with
    | none => rfl
    | some former => exact absurd (anchored.keyed _ _ known).2 (Nat.lt_irrefl _)
  · rw [reported.incidents, reported.ran.get?_incidentsOver reported.shapely drawn]
    exact (raised _).trans (if_pos rfl)
  · intro other former different found kind
    have before := (raised other).symm.trans (reported.exhausted found kind)
    exact (if_neg different).symm.trans before
  · exact fun there => orderly.filed.unfiled stored pending there
  · rw [reported.deadLetters]
    exact job.lettersOver_buried .retryExhausted problem.message _ fiber.pc rfl rfl _ place

end

/-- A failure for no business reason takes a retry, or sets the job aside. -/
theorem Awaits.strains (awaits : engine.Awaits job.key job state fiber) (orderly : engine.Orderly)
    (anchored : engine.Anchored) (supplied : engine.Supplied)
    (first : engine.store.completions.get? job.key = none) (transient : problem.kind = .transient) :
    engine.Strains job problem (outcome (EngineOperation.fail job.key problem).perform engine) := by
  obtain ⟨answer, program, changed, work, after, reported⟩ :=
    exists_reported orderly supplied awaits.stored awaits.present first problem
  have wanted := awaits.wanted rfl
  have made := reported.made
  simp only [Job.fail, wants_of_wanted wanted, if_true, Job.bury_of_wanted wanted, transient]
    at made
  rw [reported.performed]
  split at made
  · rename_i left
    obtain ⟨notBefore, retried⟩ := Job.retry_of_wanted wanted problem.message engine.config.retry
    obtain ⟨rfl, rfl⟩ := Prod.mk.inj (Except.ok.inj (retried.symm.trans made))
    exact .retried left (reported.retries awaits)
  · rename_i none
    obtain ⟨rfl, rfl⟩ := Prod.mk.inj (Except.ok.inj made)
    exact .setAside (Nat.eq_zero_of_not_pos none)
      (reported.exhausts orderly anchored awaits.stored awaits.pending)

end Engine

/-! ## Operations in between -/

namespace EngineOperation

variable {operation : EngineOperation} {key : JobKey}

/-- The operation reports a result of a job. -/
def ReportsOn (operation : EngineOperation) (key : JobKey) : Prop :=
  (∃ completion, operation = .complete key completion) ∨ ∃ problem, operation = .fail key problem

/-- The operation puts a job back that was set aside. -/
def PutsBack (operation : EngineOperation) (key : JobKey) : Prop :=
  ∃ taskType, operation = .requeue ⟨taskType, key⟩

theorem reportsOn_of_admits (admits : operation.scope.admits (.fail key)) :
    operation.ReportsOn key := by
  cases operation with
  | fail asked problem =>
    cases admits
    exact .inr ⟨problem, rfl⟩
  | work turns =>
    rcases admits with ran | woken
    · cases ran
    · cases woken
  | _ => cases admits

theorem putsBack_of_admits {taskType : String}
    (admits : operation.scope.admits (.requeue ⟨taskType, key⟩)) : operation.PutsBack key := by
  cases operation with
  | requeue place =>
    cases admits
    exact ⟨taskType, rfl⟩
  | work turns =>
    rcases admits with ran | woken
    · cases ran
    · cases woken
  | _ => cases admits

end EngineOperation

namespace Engine

variable {engine first last : Engine MemoryStore} {job : Job} {key : JobKey}
  {operation : EngineOperation}

/-- While a job is open there is nothing to put back. -/
theorem outcome_requeue_of_open (orderly : engine.Orderly)
    (stored : engine.store.jobs.get? key = some job) (pending : job.status.isOpen = true)
    (putsBack : operation.PutsBack key) : (outcome operation.perform engine).2 = engine := by
  obtain ⟨taskType, rfl⟩ := putsBack
  have absent : engine.store.deadLetters.get? ⟨taskType, key⟩ = none := by
    cases there : engine.store.deadLetters.get? ⟨taskType, key⟩ with
    | none => rfl
    | some letter =>
      have filed := orderly.filed.letters there
      exact absurd (congrArg DeadLetterKey.job filed.place)
        (orderly.filed.unfiled stored pending there)
  rw [show (EngineOperation.requeue ⟨taskType, key⟩).perform =
    EngineOperation.noted (Engine.requeue ⟨taskType, key⟩) from rfl, EngineOperation.noted,
    outcome_bind, Engine.requeue, outcome_bind, outcome_deadLetterAt, absent]
  rfl

/-- An operation that reports no result of an open job keeps its account. -/
theorem account_of_perform (orderly : engine.Orderly)
    (stored : engine.store.jobs.get? key = some job) (pending : job.status.isOpen = true)
    (silent : ¬ operation.ReportsOn key) :
    accountIn (outcome operation.perform engine).2.store.jobs key = some job.account := by
  have account : accountIn engine.store.jobs key = some job.account :=
    congrArg (Option.map Job.account) stored
  by_cases putsBack : operation.PutsBack key
  · rw [outcome_requeue_of_open orderly stored pending putsBack]
    exact account
  · have step : ∀ engine next, Advance operation.scope engine next ->
        engine.Orderly ∧ accountIn engine.store.jobs key = some job.account ->
          next.Orderly ∧ accountIn next.store.jobs key = some job.account := by
      rintro engine next advance ⟨orderly, account⟩
      refine ⟨advance.orderly orderly, ?_⟩
      rcases advance.tries orderly key with lasts | ⟨_, _, _, _, _, admits, tried⟩
      · exact lasts.account account
      · cases tried.purpose with
        | retried => exact absurd (EngineOperation.reportsOn_of_admits admits) silent
        | requeued => exact absurd (EngineOperation.putsBack_of_admits admits) putsBack
    exact ((operation.advances engine).preserves step ⟨orderly, account⟩).2

/-- A job that is not open stays so unless it is put back. -/
theorem shut_of_perform (orderly : engine.Orderly) (shut : ShutIn engine.store.jobs key)
    (left : ¬ operation.PutsBack key) :
    ShutIn (outcome operation.perform engine).2.store.jobs key := by
  have step : ∀ engine next, Advance operation.scope engine next ->
      engine.Orderly ∧ ShutIn engine.store.jobs key ->
        next.Orderly ∧ ShutIn next.store.jobs key := by
    rintro engine next advance ⟨orderly, shut⟩
    refine ⟨advance.orderly orderly, ?_⟩
    rcases advance.tries orderly key with lasts | ⟨_, job, _, _, _, admits, tried⟩
    · exact lasts.shut shut
    · cases tried.purpose with
      | retried =>
        obtain ⟨former, stored, closed⟩ := shut
        cases stored.symm.trans tried.stored
        cases closed.symm.trans (tried.pending rfl)
      | requeued => exact absurd (EngineOperation.putsBack_of_admits admits) left
  exact ((operation.advances engine).preserves step ⟨orderly, shut⟩).2

theorem History.shut {entries : List HistoryEntry} (history : History first entries last)
    (orderly : first.Orderly) (shut : ShutIn first.store.jobs key)
    (left : ∀ entry ∈ entries, ¬ entry.1.PutsBack key) : ShutIn last.store.jobs key := by
  induction history with
  | refl => exact shut
  | step prior operation ih =>
    have reached := prior.preserves (fun _ _ _ advance => advance.orderly) orderly
    refine shut_of_perform reached (ih (fun entry listed => left entry ?_)) ?_
    · exact List.mem_append_left _ listed
    · exact left _ (List.mem_append_right _ List.mem_cons_self)

/-- Identifiers that are drawn are not given back. -/
theorem supply_le_of_perform (sound : engine.Sound) (operation : EngineOperation) :
    engine.supply.next ≤ (outcome operation.perform engine).2.supply.next := by
  have step : ∀ reached next, Advance operation.scope reached next ->
      reached.Sound ∧ engine.supply.next ≤ reached.supply.next ->
        next.Sound ∧ engine.supply.next ≤ next.supply.next :=
    fun _ _ advance ⟨sound, below⟩ =>
      ⟨advance.sound sound, Nat.le_trans below (advance.supply sound)⟩
  exact ((operation.advances engine).preserves step ⟨sound, Nat.le_refl _⟩).2

/-! ## Runs of failures -/

/-- An engine goes on as long as a job is open. The results of the job that are reported are
failures for no business reason, and their answers are listed. -/
inductive Suffers (first : Engine MemoryStore) (key : JobKey) :
    List (Except EngineError EngineReply) -> Engine MemoryStore -> Prop where
  | refl : Suffers first key [] first
  | fail {answers engine job} (prior : Suffers first key answers engine)
      (stored : engine.store.jobs.get? key = some job) (pending : job.status.isOpen = true)
      (problem : JobFailure) (transient : problem.kind = .transient) :
    Suffers first key
      (answers ++ [(outcome (EngineOperation.fail key problem).perform engine).1])
      (outcome (EngineOperation.fail key problem).perform engine).2
  | other {answers engine job} (prior : Suffers first key answers engine)
      (stored : engine.store.jobs.get? key = some job) (pending : job.status.isOpen = true)
      (operation : EngineOperation) (silent : ¬ operation.ReportsOn key) :
    Suffers first key answers (outcome operation.perform engine).2

/-- The failures of a job are answered by a retry as often as the job has retries left, and then
the job is set aside. -/
structure Spends (job : Job) (key : JobKey) (answers : List (Except EngineError EngineReply))
    (engine : Engine MemoryStore) : Prop where
  within : answers.length ≤ job.retriesRemaining + 1
  retried : ∀ {count answer}, answers[count]? = some answer -> count < job.retriesRemaining ->
    ∃ notBefore, answer = .ok (.failure (.retryScheduled (job.attempt + count + 1) notBefore))
  account : answers.length ≤ job.retriesRemaining -> accountIn engine.store.jobs key =
    some ⟨job.owner, job.maximumRetries, job.attempt + answers.length,
      job.retriesRemaining - answers.length⟩
  aside : answers.length = job.retriesRemaining + 1 ->
    ∃ (former : Engine MemoryStore) (row : Job) (problem : JobFailure) (id : IncidentId),
    answers[job.retriesRemaining]? = some (.ok (.failure (.deadLettered id))) ∧
    row.attempt = job.attempt + job.retriesRemaining ∧ row.key = key ∧
    former.Exhausts row problem id engine

/-- While the job is open, not all is spent. -/
theorem Spends.left {answers : List (Except EngineError EngineReply)} {row : Job}
    (spends : Spends job key answers engine) (stored : engine.store.jobs.get? key = some row)
    (pending : row.status.isOpen = true) : answers.length ≤ job.retriesRemaining ∧
      row.account = ⟨job.owner, job.maximumRetries, job.attempt + answers.length,
        job.retriesRemaining - answers.length⟩ := by
  have left : answers.length ≤ job.retriesRemaining := by
    refine Nat.le_of_lt_succ (Nat.lt_of_le_of_ne spends.within (fun all => ?_))
    obtain ⟨former, last, problem, id, -, -, rfl, exhausts⟩ := spends.aside all
    cases stored.symm.trans exhausts.row
    cases pending
  have account := spends.account left
  rw [accountIn, stored] at account
  exact ⟨left, Option.some.inj account⟩

variable {origin : Engine MemoryStore} {entries : List HistoryEntry} {problem : JobFailure}
  {answers : List (Except EngineError EngineReply)}

/-- In the course of a history a failure of an open job strains it unless a completion was taken. -/
theorem History.strains (history : History origin entries engine) (fresh : origin.Fresh)
    (bounded : engine.supply.next ≤ 2 ^ 128) (untaken : ∀ entry ∈ entries, ¬ entry.Takes key)
    (stored : engine.store.jobs.get? key = some job) (pending : job.status.isOpen = true)
    (transient : problem.kind = .transient) : job.key = key ∧
      engine.Strains job problem (outcome (EngineOperation.fail key problem).perform engine) := by
  have orderly := history.orderly fresh
  obtain rfl := orderly.filed.keyed stored
  obtain ⟨state, fiber, awaits⟩ := history.awaits fresh bounded stored pending
  have first : engine.store.completions.get? job.key = none := by
    cases recorded : engine.store.completions.get? job.key with
    | none => rfl
    | some record =>
      obtain ⟨entry, listed, takes⟩ :=
        (history.tallied fresh job.key).taken.1 ⟨record, recorded⟩
      exact absurd takes (untaken entry listed)
  exact ⟨rfl, awaits.strains orderly (history.anchored fresh) (history.supplied fresh) first
    transient⟩

/-- A run of failures is a history in which no completion of the job is taken. -/
theorem Suffers.history (suffers : Suffers first key answers last) :
    ∃ entries, History first entries last ∧ ∀ entry ∈ entries, ¬ entry.Takes key := by
  have step : ∀ {entries engine}, History first entries engine ->
      (∀ entry ∈ entries, ¬ entry.Takes key) -> ∀ operation : EngineOperation,
        (∀ completion, operation ≠ .complete key completion) ->
          ∃ entries, History first entries (outcome operation.perform engine).2 ∧
            ∀ entry ∈ entries, ¬ entry.Takes key := by
    intro entries engine history untaken operation other
    refine ⟨_, history.step operation, fun entry listed => ?_⟩
    rcases List.mem_append.1 listed with earlier | newest
    · exact untaken entry earlier
    · rw [List.mem_singleton.1 newest]
      rintro ⟨completion, answer, same⟩
      exact other completion (Prod.mk.inj same).1
  induction suffers with
  | refl => exact ⟨[], .refl, fun entry listed => absurd listed List.not_mem_nil⟩
  | fail prior stored pending problem transient ih =>
    obtain ⟨entries, history, untaken⟩ := ih
    exact step history untaken (.fail key problem) (fun completion => EngineOperation.noConfusion)
  | other prior stored pending operation silent ih =>
    obtain ⟨entries, history, untaken⟩ := ih
    exact step history untaken operation (fun completion same => silent (.inl ⟨completion, same⟩))

/-- One more failure of the job. -/
theorem Spends.fail {row : Job} {reached : Except EngineError EngineReply × Engine MemoryStore}
    (spends : Spends job key answers engine) (stored : engine.store.jobs.get? key = some row)
    (pending : row.status.isOpen = true) (named : row.key = key)
    (strains : engine.Strains row problem reached) :
    Spends job key (answers ++ [reached.1]) reached.2 := by
  obtain ⟨left, account⟩ := spends.left stored pending
  have attempt : row.attempt = job.attempt + answers.length := congrArg Account.attempt account
  have remaining : row.retriesRemaining = job.retriesRemaining - answers.length :=
    congrArg Account.remaining account
  cases strains with
  | retried remains retries =>
    rename_i notBefore after
    refine ⟨?_, fun {count answer} listed few => ?_, fun _ => ?_, fun all => ?_⟩
    · rw [List.length_append, List.length_singleton]
      omega
    · rw [List.getElem?_append] at listed
      split at listed
      · exact spends.retried listed few
      · rw [List.getElem?_singleton] at listed
        split at listed
        · cases listed
          obtain rfl : count = answers.length := by omega
          exact ⟨notBefore, by rw [attempt]⟩
        · cases listed
    · have retry : accountIn after.store.jobs key = some (row.account.after .retried) := by
        rw [accountIn, ← named]
        rcases retries.row with same | ⟨_, -, -, withdrawn⟩
        · rw [same]
          rfl
        · rw [withdrawn]
          rfl
      rw [retry, account, List.length_append, List.length_singleton]
      rfl
    · rw [List.length_append, List.length_singleton] at all
      omega
  | setAside none exhausts =>
    rename_i id after
    refine ⟨?_, fun {count answer} listed few => ?_, fun fits => ?_, fun _ => ?_⟩
    · rw [List.length_append, List.length_singleton]
      omega
    · rw [List.getElem?_append_left (by omega)] at listed
      exact spends.retried listed few
    · rw [List.length_append, List.length_singleton] at fits
      omega
    · have all : job.retriesRemaining = answers.length := by omega
      refine ⟨engine, row, problem, id, ?_, ?_, named, exhausts⟩
      · rw [all]
        exact List.getElem?_concat_length
      · rw [attempt, all]

/-- A job that suffers nothing but failures for no business reason spends its retries. -/
theorem Suffers.spends (suffers : Suffers first key answers last)
    (history : History origin entries first) (fresh : origin.Fresh)
    (untaken : ∀ entry ∈ entries, ¬ entry.Takes key)
    (stored : first.store.jobs.get? key = some job) (bounded : last.supply.next ≤ 2 ^ 128) :
    Spends job key answers last := by
  induction suffers with
  | refl =>
    exact ⟨Nat.zero_le _, nofun, fun _ => congrArg (Option.map Job.account) stored, nofun⟩
  | fail prior there pending problem transient ih =>
    rename_i answers engine row
    obtain ⟨more, goes, untaken'⟩ := prior.history
    have reached := history.trans goes
    have orderly := reached.orderly fresh
    have bounded := Nat.le_trans (supply_le_of_perform orderly.sound _) bounded
    obtain ⟨named, strains⟩ := reached.strains fresh bounded (fun entry listed => by
      rcases List.mem_append.1 listed with before | after
      · exact untaken entry before
      · exact untaken' entry after) there pending transient
    exact (ih bounded).fail there pending named strains
  | other prior there pending operation silent ih =>
    rename_i answers engine row
    obtain ⟨more, goes, -⟩ := prior.history
    have orderly := (history.trans goes).orderly fresh
    have spends := ih (Nat.le_trans (supply_le_of_perform orderly.sound operation) bounded)
    obtain ⟨left, account⟩ := spends.left there pending
    refine ⟨spends.within, spends.retried, fun _ => ?_, fun all => ?_⟩
    · rw [account_of_perform orderly there pending silent, account]
    · omega

/-! ## Failures that come too late -/

/-- Failures of a job that is not open are ignored. -/
theorem Consistent.ignores (consistent : engine.Consistent) (supplied : engine.Supplied)
    (bounded : engine.supply.next ≤ 2 ^ 128) (shut : ShutIn engine.store.jobs key)
    (problem : JobFailure) : ∃ after, engine.Ignores key problem after := by
  obtain ⟨job, stored, closed⟩ := shut
  obtain rfl := consistent.orderly.filed.keyed stored
  cases first : engine.store.completions.get? job.key with
  | none =>
    obtain ⟨state, present, -⟩ := (consistent.agrees bounded).issued stored
    obtain ⟨answer, program, changed, work, after, reported⟩ :=
      exists_reported consistent.orderly supplied stored present first problem
    exact ⟨after, reported.ignores stored closed⟩
  | some record =>
    refine ⟨{ engine with locks := engine.locks.insert job.owner }, ?_, rfl,
      fun found _ => found, rfl⟩
    rw [show (EngineOperation.fail job.key problem).perform =
      EngineReply.failure <$> Engine.fail job.key problem from rfl, outcome_map,
      outcome_fail_of_recorded stored first]
    rfl

/-- The trials of a job that the log of its instance tells of. -/
def trialsFor (engine : Engine MemoryStore) (job : Job) (key : JobKey) : List Trial :=
  trialsOf key (engine.store.eventsOf job.owner)

end Engine

/-! ## A task that is tried twice -/

theorem Engine.performAll_concat (engine : Engine MemoryStore) (earlier : List EngineOperation)
    (operation : EngineOperation) : engine.performAll (earlier ++ [operation]) =
      (outcome operation.perform (engine.performAll earlier)).2 :=
  engine.performAll_append earlier [operation]

namespace RetriedTask

open Engine

/-- A process of one task, whose job has one retry. -/
def program : Program where
  instructions := [.dispatch 0 0 1 [], .finish]
  symbols := { nodes := [⟨"t", Eq.refl true⟩], taskTypes := ["work"] }
  hash := ⟨"01090e1038b64d98f9b1362e01894db323f3afed21895b8922f199983731e95d", by decide +kernel⟩

theorem checkHash_program : program.checkHash = .ok () := by decide +kernel

/-- The job of the task is handed out. -/
def operations : List EngineOperation := [.install program, .start program.hash .null ""]

/-- The job fails. -/
def failure : EngineOperation := .fail TaskRun.key ⟨.transient, "down"⟩

/-- The job is open before and after its first failure, and identifiers fit. -/
theorem pending :
    ((TaskRun.engine.performAll operations).store.jobs.get? TaskRun.key).any
      (fun job => job.status.isOpen && job.retriesRemaining = 1) ∧
    ((TaskRun.engine.performAll (operations ++ [failure])).store.jobs.get? TaskRun.key).any
      (fun job => job.status.isOpen) ∧
    (TaskRun.engine.performAll (operations ++ [failure] ++ [failure])).supply.next ≤ 2 ^ 128 := by
  have installed (rest : List EngineOperation) :
      TaskRun.engine.performAll (.install program :: rest) =
        (TaskRun.engine.holding program).performAll rest :=
    performAll_install checkHash_program rfl rest
  simp only [operations, List.cons_append, List.nil_append, installed]
  decide +kernel

end RetriedTask

end ProcessEngine
