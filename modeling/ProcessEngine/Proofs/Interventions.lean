import ProcessEngine.Proofs.Advances
import ProcessEngine.Proofs.Scheduling

/-!
# What the changes of an engine do

A change either fails or has one of a few effects on the unit of work it is made in.
`Intervention.intervened` lists these effects together with what was looked up in the store
before, so that a property of changes is proved by one case for each effect.
-/

namespace ProcessEngine

/-- The unit of work after a job was completed. -/
def Job.finished (job : Job) (event : RuntimeEvent) (work : UnitOfWork) : UnitOfWork :=
  (work.updateJob { job with status := .completed }).emit event

namespace UnitOfWork

/-- The fiber waits for just this job, which is open. -/
structure Wanted (work : UnitOfWork) (job : Job) (fiber : Fiber) : Prop where
  pending : job.status.isOpen = true
  found : work.fiber? job.fiber = some fiber
  waits : fiber.wait = .job job.key

variable {work : UnitOfWork} {job : Job}

theorem wanted_of_wants (wants : work.wants job = true) : ∃ fiber, work.Wanted job fiber := by
  rw [UnitOfWork.wants, Bool.and_eq_true, awaits, Option.any_eq_true_iff_get] at wants
  obtain ⟨pending, present, waits⟩ := wants
  exact ⟨_, pending, (Option.some_get present).symm, eq_of_beq waits⟩

theorem wants_of_wanted {fiber : Fiber} (wanted : work.Wanted job fiber) :
    work.wants job = true := by
  rw [UnitOfWork.wants, Bool.and_eq_true, awaits, wanted.found]
  exact ⟨wanted.pending, beq_iff_eq.2 wanted.waits⟩

/-- An open job may take any status. -/
theorem change_of_open {status target : JobStatus} (pending : status.isOpen = true) :
    status.change target = .ok () := by
  cases status with
  | pending => rfl
  | claimed => rfl
  | completed => cases pending
  | deadLettered => cases pending
  | cancelled => cases pending

theorem finishJob_of_open (work : UnitOfWork) (pending : job.status.isOpen = true)
    (event : RuntimeEvent) :
    work.finishJob job event = .ok (job.finished event work) := by
  rw [finishJob, change_of_open pending]
  rfl

theorem resumeJob_of_found (work : UnitOfWork) {id : FiberId} {fiber : Fiber}
    (found : work.fiber? id = some fiber) (completion : JobCompletion) :
    work.resumeJob id completion =
      .ok ((work.updateRecord (fun record =>
        record.accept completion.flags completion.payload)).wake id (fiber.pc + 1)) := by
  rw [resumeJob, found]

theorem routeError_of_found (work : UnitOfWork) {id : FiberId} {fiber : Fiber}
    (found : work.fiber? id = some fiber) (target : Address) :
    work.routeError id target = .ok ((work.dropWatchdog fiber).wake id target) := by
  rw [routeError, found]

end UnitOfWork

namespace Job

open UnitOfWork

variable {job : Job} {program : Program} {work changed : UnitOfWork}

/-- The unit of work after a wanted completion: it is recorded as applied, the job is completed
and its fiber goes on at the next instruction. -/
def applied (job : Job) (completion : JobCompletion) (pc : Address) (work : UnitOfWork) :
    UnitOfWork :=
  ((job.finished (.jobCompleted job.key)
    (work.recordCompletion ⟨job.key, completion, true, work.time⟩)).updateRecord
      (fun record => record.accept completion.flags completion.payload)).wake job.fiber (pc + 1)

/-- The unit of work after a completion that nothing waits for: it is recorded. -/
def ignored (job : Job) (completion : JobCompletion) (work : UnitOfWork) : UnitOfWork :=
  (work.recordCompletion ⟨job.key, completion, false, work.time⟩).emit (.completionIgnored job.key)

/-- A completion that is wanted is applied. -/
theorem complete_of_wanted {fiber : Fiber} (wanted : work.Wanted job fiber)
    (completion : JobCompletion) :
    job.complete completion program work =
      .ok (.applied, job.applied completion fiber.pc work) := by
  simp only [complete, wants_of_wanted wanted, if_true, finishJob_of_open _ wanted.pending]
  simp only [bind, Except.bind]
  rw [resumeJob_of_found]
  · rfl
  · exact wanted.found

/-- A completion is recorded, and applied exactly when it is wanted. -/
theorem complete_cases {completion : JobCompletion} {outcome : CompletionOutcome}
    (made : job.complete completion program work = .ok (outcome, changed)) :
    (∃ fiber, work.Wanted job fiber ∧ outcome = .applied ∧
        changed = job.applied completion fiber.pc work) ∨
      (work.wants job = false ∧ outcome = .ignored ∧ changed = job.ignored completion work) := by
  cases wants : work.wants job with
  | false =>
    rw [complete, wants] at made
    cases made
    exact .inr ⟨rfl, rfl, rfl⟩
  | true =>
    obtain ⟨fiber, wanted⟩ := wanted_of_wants wants
    rw [complete_of_wanted wanted] at made
    cases made
    exact .inl ⟨fiber, wanted, rfl, rfl⟩

/-- The unit of work after the fiber of a job was halted on a new incident. -/
def stopped (job : Job) (kind : FaultClass) (problem : String) (address : Address)
    (work : UnitOfWork) : UnitOfWork :=
  { work with supply := ⟨work.supply.next + 1⟩ }.halt
    { Incident.raise ⟨work.supply.next⟩ job.owner job.fiber address kind problem work.time with
      node := some job.node
      jobKey := some job.key
      attempts := job.attempt }

/-- The dead letter of a job whose fiber was halted on an incident. -/
def letter (job : Job) (problem : String) (incident : IncidentId) (now expires : Instant) :
    DeadLetter :=
  ⟨job.taskType, job.key, job.setAside problem, problem, some incident, now, expires⟩

/-- The unit of work after a dead letter was stored and its job was set aside. -/
def shelved (letter : DeadLetter) (work : UnitOfWork) : UnitOfWork :=
  ((work.putDeadLetter letter).updateJob letter.job).emit (.jobDeadLettered letter.key)

/-- The unit of work after a job was set aside: its fiber waits for a new incident to be
resolved. -/
def buried (job : Job) (kind : FaultClass) (problem : String) (expires : Instant)
    (address : Address) (work : UnitOfWork) : UnitOfWork :=
  shelved (job.letter problem ⟨work.supply.next⟩ work.time expires)
    (job.stopped kind problem address work)

section Shelved

variable (letter : DeadLetter) (work : UnitOfWork)

@[simp] theorem state_shelved : (shelved letter work).state = work.state := rfl

@[simp] theorem fiber?_shelved (asked : FiberId) :
    (shelved letter work).fiber? asked = work.fiber? asked := by
  rw [shelved, fiber?_emit, fiber?_updateJob, fiber?_putDeadLetter]

@[simp] theorem cancelledJobs_shelved :
    (shelved letter work).cancelledJobs = work.cancelledJobs := rfl

@[simp] theorem completions_shelved : (shelved letter work).completions = work.completions := rfl

@[simp] theorem incidents_shelved : (shelved letter work).incidents = work.incidents := rfl

@[simp] theorem deadLetters_shelved :
    (shelved letter work).deadLetters = work.deadLetters ++ [letter] := rfl

@[simp] theorem removedDeadLetters_shelved :
    (shelved letter work).removedDeadLetters = work.removedDeadLetters := rfl

end Shelved

/-- The fiber of a job that is set aside is halted on the incident that is raised. -/
theorem fiber?_buried (job : Job) (kind : FaultClass) (problem : String) (expires : Instant)
    (address : Address) (work : UnitOfWork) (asked : FiberId) :
    (job.buried kind problem expires address work).fiber? asked =
      if asked = job.fiber then (work.fiber? asked).map (fun former =>
        { former with pc := address, wait := .incident ⟨work.supply.next⟩ })
      else work.fiber? asked := by
  rw [buried, fiber?_shelved, stopped, halt, fiber?_putIncident, fiber?_park]
  rfl

/-- The unit of work after a wanted business error: the job is completed and its fiber goes on at
the target of its error route, without its watchdog. -/
def routed (job : Job) (problem code : String) (target : Address) (fiber : Fiber)
    (work : UnitOfWork) : UnitOfWork :=
  ((Job.finished { job with lastError := some problem } (.jobErrorRouted job.key code)
    work).dropWatchdog fiber).wake job.fiber target

/-- What comes of a failure that is wanted, with the change it makes. -/
inductive Failed (job : Job) (program : Program) (work : UnitOfWork) (fiber : Fiber) :
    FailureOutcome -> UnitOfWork -> Prop where
  | retry (notBefore : Instant) (problem : String) (left : 0 < job.retriesRemaining) :
    Failed job program work fiber
      (.retryScheduled (job.scheduleRetry notBefore problem).attempt notBefore)
      ((work.updateJob (job.scheduleRetry notBefore problem)).emit
        (.jobRetryScheduled job.key (job.scheduleRetry notBefore problem).attempt notBefore))
  | bury (kind : FaultClass) (problem : String) (expires : Instant)
      (cause : kind ≠ .machineFault ∧ kind ≠ .noRoute) :
    Failed job program work fiber (.deadLettered ⟨work.supply.next⟩)
      (job.buried kind problem expires fiber.pc work)
  | route {code : String} {target : Address} (problem : String)
      (leads : errorRoute? program fiber code = some target) :
    Failed job program work fiber (.routed code) (job.routed problem code target fiber work)

theorem bury_of_wanted {fiber : Fiber} (wanted : work.Wanted job fiber) (kind : FaultClass)
    (problem : String) (lifetime : Nat) :
    job.bury kind problem lifetime work = .ok (.deadLettered ⟨work.supply.next⟩,
      job.buried kind problem (work.time.after lifetime) fiber.pc work) := by
  simp only [bury, change_of_open wanted.pending, wanted.found]
  rfl

theorem retry_of_wanted {fiber : Fiber} (wanted : work.Wanted job fiber) (problem : String)
    (policy : RetryPolicy) :
    ∃ notBefore, job.retry problem policy work = .ok
      (.retryScheduled (job.scheduleRetry notBefore problem).attempt notBefore,
        (work.updateJob (job.scheduleRetry notBefore problem)).emit
          (.jobRetryScheduled job.key (job.scheduleRetry notBefore problem).attempt
            notBefore)) := by
  simp only [retry, change_of_open wanted.pending]
  exact ⟨_, rfl⟩

/-- A failure that is wanted has one of these effects. -/
theorem fail_of_wanted {fiber : Fiber} (wanted : work.Wanted job fiber) (problem : JobFailure)
    (config : EngineConfig) :
    ∃ outcome changed, job.fail problem config program work = .ok (outcome, changed) ∧
      job.Failed program work fiber outcome changed := by
  simp only [fail, wants_of_wanted wanted, if_true, bury_of_wanted wanted]
  cases problem.kind with
  | transient =>
    dsimp only
    split
    · rename_i left
      obtain ⟨notBefore, retried⟩ := retry_of_wanted wanted problem.message config.retry
      exact ⟨_, _, retried, .retry notBefore problem.message left⟩
    · exact ⟨_, _, rfl, .bury _ _ _ (by simp)⟩
  | business code =>
    simp only [wanted.found, Option.bind_eq_bind, Option.bind_some]
    cases leads : errorRoute? program fiber code with
    | none => exact ⟨_, _, rfl, .bury _ _ _ (by simp)⟩
    | some target =>
      have pending : ({ job with lastError := some problem.message } : Job).status.isOpen = true :=
        wanted.pending
      have routes := routeError_of_found (Job.finished { job with
        lastError := some problem.message } (.jobErrorRouted job.key code) work)
          wanted.found target
      simp only [finishJob_of_open work pending, bind, Except.bind, routes]
      exact ⟨_, _, rfl, .route problem.message leads⟩

theorem fail_of_unwanted (unwanted : work.wants job = false) (problem : JobFailure)
    (config : EngineConfig) : job.fail problem config program work = .ok (.ignored, work) := by
  simp only [fail, unwanted]
  rfl

/-- A failure changes something exactly when it is wanted. -/
theorem fail_cases {problem : JobFailure} {config : EngineConfig} {outcome : FailureOutcome}
    (made : job.fail problem config program work = .ok (outcome, changed)) :
    (∃ fiber, work.Wanted job fiber ∧ job.Failed program work fiber outcome changed) ∨
      (work.wants job = false ∧ outcome = .ignored ∧ changed = work) := by
  cases wants : work.wants job with
  | false =>
    rw [fail_of_unwanted wants] at made
    cases made
    exact .inr ⟨rfl, rfl, rfl⟩
  | true =>
    obtain ⟨fiber, wanted⟩ := wanted_of_wants wants
    obtain ⟨_, _, failed, effect⟩ := @fail_of_wanted _ program _ _ wanted problem config
    cases failed.symm.trans made
    exact .inl ⟨fiber, wanted, effect⟩

end Job

/-! ## Incidents and dead letters -/

namespace Incident

variable {incident : Incident} {work changed : UnitOfWork}

/-- The incident as it is after an operator has dealt with it. -/
def Settles (incident resolved : Incident) : Prop :=
  ∃ status, resolved = { incident with status := status }

/-- An open incident becomes a resolved one of the same job. -/
theorem resolve_of_open (pending : incident.isOpen = true) (resolution : String) (now : Instant) :
    incident.resolve resolution now =
      .ok { incident with status := .resolved resolution now } := if_pos pending

/-- An open incident is settled: what is to be done before is done, then it is stored. -/
theorem settle_of_open (pending : incident.isOpen = true) (resolution : String)
    (before : Incident -> UnitOfWork -> UnitOfWork) :
    incident.settle resolution work before =
      .ok ((before { incident with status := .resolved resolution work.time }
        (work.emit (.incidentResolved incident.id))).putIncident
          { incident with status := .resolved resolution work.time }) := by
  rw [settle, resolve_of_open pending]
  rfl

end Incident

namespace DeadLetter

variable {letter : DeadLetter} {work changed : UnitOfWork}

/-- The unit of work after the job was put back; its fiber waits for it again. -/
def requeued (letter : DeadLetter) (pc : Address) (work : UnitOfWork) : UnitOfWork :=
  ((work.park letter.job.fiber pc (.job letter.key)).updateJob
    (letter.renewed work.time)).removeDeadLetter letter.place

/-- The unit of work after the job was given up. -/
def abandoned (letter : DeadLetter) (work : UnitOfWork) : UnitOfWork :=
  ((work.updateJob { letter.job with status := .cancelled }).removeDeadLetter
    letter.place).emit (.jobCancelled letter.key)

/-- The unit of work after the incident that is linked to a dead letter was settled, if there is
something to settle. -/
inductive Settled (linked : Option Incident) (work : UnitOfWork) : UnitOfWork -> Prop where
  | nothing : Settled linked work work
  | incident {incident resolved} (found : linked = some incident)
      (settles : incident.Settles resolved) (closed : resolved.isOpen = false) :
    Settled linked work ((work.emit (.incidentResolved incident.id)).putIncident resolved)

section Requeued

variable (letter : DeadLetter) (pc : Address) (work : UnitOfWork)

@[simp] theorem state_requeued : (letter.requeued pc work).state =
    (work.park letter.job.fiber pc (.job letter.key)).state := rfl

@[simp] theorem deadLetters_requeued : (letter.requeued pc work).deadLetters =
    (work.park letter.job.fiber pc (.job letter.key)).deadLetters := rfl

@[simp] theorem removedDeadLetters_requeued : (letter.requeued pc work).removedDeadLetters =
    (work.park letter.job.fiber pc (.job letter.key)).removedDeadLetters ++ [letter.place] := rfl

/-- The fiber of a job that is put back waits for it again. -/
theorem fiber?_requeued (asked : FiberId) : (letter.requeued pc work).fiber? asked =
    if asked = letter.job.fiber then
      (work.fiber? asked).map (fun fiber => { fiber with pc := pc, wait := .job letter.key })
    else work.fiber? asked := by
  rw [requeued, UnitOfWork.fiber?_removeDeadLetter, UnitOfWork.fiber?_updateJob,
    UnitOfWork.fiber?_park]

end Requeued

/-- An incident that is settled after a job was put back leaves the state as it is. -/
theorem Settled.state_emit {linked : Option Incident} {settled : UnitOfWork}
    (settles : Settled linked work settled) (event : RuntimeEvent) :
    (settled.emit event).state = work.state := by
  cases settles with
  | nothing => rfl
  | incident found settles closed => rfl

theorem Settled.fibers_emit {linked : Option Incident} {settled : UnitOfWork}
    (settles : Settled linked work settled) (event : RuntimeEvent) (asked : FiberId) :
    (settled.emit event).fiber? asked = work.fiber? asked :=
  congrArg (InstanceState.fiber? · asked) (settles.state_emit event)

/-- A fiber where the job can be put back waits for an incident. -/
theorem halted_some {pc : Address} (halted : letter.halted? work = some pc) :
    ∃ fiber incident, work.fiber? letter.job.fiber = some fiber ∧
      fiber.wait = .incident incident ∧ fiber.pc = pc := by
  rw [halted?] at halted
  obtain ⟨fiber, found, waits⟩ := Option.bind_eq_some_iff.1 halted
  split at waits
  · rename_i incident same
    cases waits
    exact ⟨fiber, incident, found, same, rfl⟩
  · cases waits

/-- A job is put back only where a fiber of a running instance waits for an incident; the incident
that is linked to it may be settled. -/
theorem requeue_cases {linked : Option Incident} {program : Program}
    (made : letter.requeue linked program work = .ok ((), changed)) :
    work.record.isRunning = true ∧ ∃ fiber incident,
      work.fiber? letter.job.fiber = some fiber ∧ fiber.wait = .incident incident ∧
        ∃ settled, Settled linked (letter.requeued fiber.pc work) settled ∧
        changed = settled.emit (.jobRequeued letter.key) := by
  rw [requeue, UnitOfWork.ensureRunning] at made
  cases running : work.record.isRunning with
  | false =>
    rw [running] at made
    cases made
  | true =>
    simp only [running, if_true, bind, Except.bind] at made
    refine ⟨rfl, ?_⟩
    cases halted : letter.halted? work with
    | none =>
      rw [halted] at made
      cases made
    | some pc =>
      obtain ⟨fiber, incident, found, waits, rfl⟩ := halted_some halted
      refine ⟨fiber, incident, found, waits, ?_⟩
      simp only [halted] at made
      cases still : linked.filter Incident.isOpen with
      | none =>
        simp only [still] at made
        cases made
        exact ⟨_, .nothing, rfl⟩
      | some incident =>
        obtain ⟨linked, pending⟩ := Option.filter_eq_some_iff.1 still
        simp only [still, Incident.settle_of_open pending] at made
        cases made
        exact ⟨_, .incident linked ⟨_, rfl⟩ rfl, rfl⟩

end DeadLetter

/-! ## All changes -/

/-- What an engine makes of a unit of work before fibers take turns. -/
inductive Intervened (store : MemoryStore) (id : InstanceId) (program : Program)
    (work : UnitOfWork) : Purpose -> UnitOfWork -> Prop where
  | run : Intervened store id program work .run work
  | cancel {reason next} (running : work.record.isRunning = true)
      (closes : work.close .cancelled (.instanceCancelled reason) = .ok next) :
    Intervened store id program work (.cancel id) next
  | complete {key job fiber} (stored : store.jobs.get? key = some job) (owned : job.owner = id)
      (first : store.completions.get? key = none) (wanted : work.Wanted job fiber)
      (completion : JobCompletion) :
    Intervened store id program work (.complete key) (job.applied completion fiber.pc work)
  | record {key job} (stored : store.jobs.get? key = some job) (owned : job.owner = id)
      (first : store.completions.get? key = none) (unwanted : work.wants job = false)
      (completion : JobCompletion) :
    Intervened store id program work (.complete key) (job.ignored completion work)
  | fail {key job fiber outcome next} (stored : store.jobs.get? key = some job)
      (owned : job.owner = id) (wanted : work.Wanted job fiber)
      (failed : job.Failed program work fiber outcome next) :
    Intervened store id program work (.fail key) next
  | dismiss {key} : Intervened store id program work (.fail key) work
  | deliver (running : work.record.isRunning = true) (signal : WakeSignal) :
    Intervened store id program work .signal (work.deliver signal).2
  | discard : Intervened store id program work .signal work
  | restart {key} {incident resolved : Incident}
      (stored : store.incidents.get? key = some incident) (settles : incident.Settles resolved)
      (running : work.record.isRunning = true) (alone : resolved.jobKey = none)
      (owned : incident.owner = id) (closed : resolved.isOpen = false) :
    Intervened store id program work (.settle key)
      (((work.emit (.incidentResolved incident.id)).restart program resolved).2.putIncident
        resolved)
  | settle {key} {incident resolved : Incident}
      (stored : store.incidents.get? key = some incident) (settles : incident.Settles resolved)
      (owned : incident.owner = id) (closed : resolved.isOpen = false) :
    Intervened store id program work (.settle key)
      ((work.emit (.incidentResolved incident.id)).putIncident resolved)
  | requeue {place letter fiber incident settled}
      (stored : store.deadLetters.get? place = some letter) (owned : letter.job.owner = id)
      (running : work.record.isRunning = true)
      (found : work.fiber? letter.job.fiber = some fiber) (waits : fiber.wait = .incident incident)
      (settles : DeadLetter.Settled (letter.incident.bind store.incidents.get?)
        (letter.requeued fiber.pc work) settled) :
    Intervened store id program work (.requeue place) (settled.emit (.jobRequeued letter.key))
  | abandon {place letter} (stored : store.deadLetters.get? place = some letter)
      (owned : letter.job.owner = id) :
    Intervened store id program work (.abandon place) (letter.abandoned work)

/-- Every change that an engine makes has one of these effects. -/
theorem Intervention.intervened {store : MemoryStore} {config : EngineConfig} {id : InstanceId}
    {purpose : Purpose} {Result : Type} {change : Change Result}
    (intended : Intervention store config id purpose change) {program : Program}
    {work changed : UnitOfWork} {result : Result}
    (made : change program work = .ok (result, changed)) :
    Intervened store id program work purpose changed := by
  cases intended with
  | run =>
    cases made
    exact .run
  | cancel reason =>
    rw [Engine.cancellation, UnitOfWork.ensureRunning] at made
    cases running : work.record.isRunning with
    | false =>
      rw [running] at made
      cases made
    | true =>
      simp only [running, if_true, bind, Except.bind, UnitOfWork.cancel] at made
      cases closes : work.close .cancelled (.instanceCancelled reason) with
      | error error =>
        rw [closes] at made
        cases made
      | ok next =>
        rw [closes] at made
        cases made
        exact .cancel running closes
  | complete stored owned first completion =>
    rcases Job.complete_cases made with ⟨fiber, wanted, -, rfl⟩ | ⟨unwanted, -, rfl⟩
    · exact .complete stored owned first wanted completion
    · exact .record stored owned first unwanted completion
  | fail stored owned first problem =>
    rcases Job.fail_cases made with ⟨fiber, wanted, failed⟩ | ⟨-, -, rfl⟩
    · exact .fail stored owned wanted failed
    · exact .dismiss
  | signal addressed =>
    rw [WakeSignal.change] at made
    split at made
    · rename_i running
      obtain rfl : (work.deliver _).2 = changed := congrArg Prod.snd (Except.ok.inj made)
      exact .deliver running _
    · cases made
      exact .discard
  | settle stored owned pending resolution =>
    rw [Incident.settlement, Incident.settle_of_open pending] at made
    simp only [bind, Except.bind] at made
    split at made
    · rename_i alone
      cases made
      rw [Bool.and_eq_true] at alone
      exact .restart stored ⟨_, rfl⟩ alone.2 (Option.isNone_iff_eq_none.1 alone.1) owned rfl
    · cases made
      exact .settle stored ⟨_, rfl⟩ owned rfl
  | requeue stored owned =>
    obtain ⟨running, fiber, incident, found, waits, settled, settles, rfl⟩ :=
      DeadLetter.requeue_cases made
    exact .requeue stored owned running found waits settles
  | abandon stored owned =>
    cases made
    exact .abandon stored owned

/-- A change that cannot be made is never refused for a fault of the machine. -/
theorem Intervention.refused {store : MemoryStore} {config : EngineConfig} {id : InstanceId}
    {purpose : Purpose} {Result : Type} {change : Change Result}
    (intended : Intervention store config id purpose change) {program : Program}
    {work : UnitOfWork} {error : EngineError} (refused : change program work = .error error) :
    ∀ fault, error ≠ .machine fault := by
  cases intended with
  | run => cases refused
  | cancel reason =>
    rw [Engine.cancellation, UnitOfWork.ensureRunning] at refused
    cases running : work.record.isRunning with
    | false =>
      rw [running] at refused
      cases refused
      exact nofun
    | true =>
      simp only [running, if_true, bind, Except.bind, UnitOfWork.cancel] at refused
      cases closes : work.close .cancelled (.instanceCancelled reason) with
      | error error =>
        rw [closes] at refused
        cases refused
        exact nofun
      | ok next =>
        rw [closes] at refused
        cases refused
  | complete stored owned first completion =>
    cases wants : UnitOfWork.wants work _ with
    | false =>
      rw [Job.complete, wants] at refused
      cases refused
    | true =>
      obtain ⟨fiber, wanted⟩ := UnitOfWork.wanted_of_wants wants
      rw [Job.complete_of_wanted wanted] at refused
      cases refused
  | fail stored owned first problem =>
    cases wants : UnitOfWork.wants work _ with
    | false =>
      rw [Job.fail_of_unwanted wants] at refused
      cases refused
    | true =>
      obtain ⟨fiber, wanted⟩ := UnitOfWork.wanted_of_wants wants
      obtain ⟨_, _, made, -⟩ := @Job.fail_of_wanted _ program _ _ wanted problem config
      cases made.symm.trans refused
  | signal addressed =>
    rw [WakeSignal.change] at refused
    split at refused
    · cases refused
    · cases refused
  | settle stored owned pending resolution =>
    rw [Incident.settlement, Incident.settle_of_open pending] at refused
    cases refused
  | requeue stored owned =>
    rename_i place letter
    rw [DeadLetter.requeue, UnitOfWork.ensureRunning] at refused
    cases running : work.record.isRunning with
    | false =>
      rw [running] at refused
      cases refused
      exact nofun
    | true =>
      simp only [running, if_true, bind, Except.bind] at refused
      cases halted : letter.halted? work with
      | none =>
        rw [halted] at refused
        cases refused
        exact nofun
      | some pc =>
        simp only [halted] at refused
        cases still : (letter.incident.bind store.incidents.get?).filter Incident.isOpen with
        | none =>
          simp only [still] at refused
          cases refused
        | some incident =>
          obtain ⟨-, pending⟩ := Option.filter_eq_some_iff.1 still
          simp only [still, Incident.settle_of_open pending] at refused
          cases refused
  | abandon stored owned => cases refused

/-! ## What every change keeps -/

namespace UnitOfWork

variable {work : UnitOfWork} {fiber : Fiber}

/-- Notes about jobs, completions and dead letters touch neither fibers nor numbers. -/
theorem continues_updateJob (work : UnitOfWork) (job : Job) :
    work.Continues (work.updateJob job) :=
  ⟨rfl, rfl, rfl, rfl, Nat.le_refl _, Nat.le_refl _, fun _ noted => noted⟩

theorem continues_recordCompletion (work : UnitOfWork) (completion : CompletionRecord) :
    work.Continues (work.recordCompletion completion) :=
  ⟨rfl, rfl, rfl, rfl, Nat.le_refl _, Nat.le_refl _, fun _ noted => noted⟩

theorem continues_putDeadLetter (work : UnitOfWork) (letter : DeadLetter) :
    work.Continues (work.putDeadLetter letter) :=
  ⟨rfl, rfl, rfl, rfl, Nat.le_refl _, Nat.le_refl _, fun _ noted => noted⟩

theorem continues_removeDeadLetter (work : UnitOfWork) (place : DeadLetterKey) :
    work.Continues (work.removeDeadLetter place) :=
  ⟨rfl, rfl, rfl, rfl, Nat.le_refl _, Nat.le_refl _, fun _ noted => noted⟩

theorem continues_emit (work : UnitOfWork) (event : RuntimeEvent) :
    work.Continues (work.emit event) := (steady_emit work event).toContinues

theorem continues_putIncident (work : UnitOfWork) (incident : Incident) :
    work.Continues (work.putIncident incident) := (steady_putIncident work incident).toContinues

end UnitOfWork

open UnitOfWork

section

variable {work changed : UnitOfWork} {job : Job} {fiber : Fiber} {program : Program}
  {letter : DeadLetter}

theorem Job.continues_finished (job : Job) (event : RuntimeEvent) (work : UnitOfWork) :
    work.Continues (job.finished event work) :=
  (continues_updateJob work _).trans (continues_emit _ _)

theorem Job.continues_applied (completion : JobCompletion) (pc : Address) :
    work.Continues (job.applied completion pc work) :=
  (((continues_recordCompletion work _).trans (job.continues_finished _ _)).trans
    (steady_accept _ _ _).toContinues).trans (steady_wake _ _ _).toContinues

theorem Job.continues_ignored (completion : JobCompletion) :
    work.Continues (job.ignored completion work) :=
  (continues_recordCompletion work _).trans (continues_emit _ _)

theorem Job.continues_shelved (letter : DeadLetter) (work : UnitOfWork) :
    work.Continues (Job.shelved letter work) :=
  ((continues_putDeadLetter work _).trans (continues_updateJob _ _)).trans (continues_emit _ _)

theorem Job.steady_stopped (job : Job) (kind : FaultClass) (problem : String)
    (address : Address) (work : UnitOfWork) :
    work.Steady (job.stopped kind problem address work) :=
  (steady_draw work).trans (steady_halt _ _)

/-- A wanted completion is recorded as applied. -/
theorem Job.completions_applied (completion : JobCompletion) (pc : Address) :
    (job.applied completion pc work).completions =
      work.completions ++ [⟨job.key, completion, true, work.time⟩] :=
  ((steady_accept (job.finished (.jobCompleted job.key)
    (work.recordCompletion ⟨job.key, completion, true, work.time⟩)) completion.flags
      completion.payload).trans (steady_wake _ job.fiber (pc + 1))).completions

theorem Job.Failed.continues {outcome : FailureOutcome}
    (failed : job.Failed program work fiber outcome changed) : work.Continues changed := by
  cases failed with
  | retry notBefore problem => exact (continues_updateJob work _).trans (continues_emit _ _)
  | bury kind problem expires =>
    exact (job.steady_stopped kind problem fiber.pc work).toContinues.trans
      (Job.continues_shelved _ _)
  | route problem leads =>
    exact ((Job.continues_finished _ _ work).trans
      (steady_dropWatchdog _ _).toContinues).trans (steady_wake _ _ _).toContinues

theorem DeadLetter.continues_requeued (letter : DeadLetter) (pc : Address) :
    work.Continues (letter.requeued pc work) :=
  ((steady_park work _ _ _).toContinues.trans (continues_updateJob _ _)).trans
    (continues_removeDeadLetter _ _)

/-- After a job was put back, at most an incident is settled. -/
theorem DeadLetter.Settled.steady {linked : Option Incident} {settled : UnitOfWork}
    (settles : DeadLetter.Settled linked work settled) (event : RuntimeEvent) :
    work.Steady (settled.emit event) := by
  cases settles with
  | nothing => exact steady_emit _ _
  | incident found settles closed =>
    exact ((steady_emit _ _).trans (steady_putIncident _ _)).trans (steady_emit _ _)

/-- Every change goes on with the same instance. -/
theorem Intervened.continues {store : MemoryStore} {id : InstanceId} {purpose : Purpose}
    (intervened : Intervened store id program work purpose changed) : work.Continues changed := by
  cases intervened with
  | run => exact .refl work
  | cancel running closes => exact (confined_close closes).toContinues
  | complete stored owned first wanted completion => exact Job.continues_applied completion _
  | record stored owned first unwanted completion => exact Job.continues_ignored completion
  | fail stored owned wanted failed => exact failed.continues
  | dismiss => exact .refl work
  | deliver running signal => exact (confined_deliver work signal).toContinues
  | discard => exact .refl work
  | restart stored settles running alone owned closed =>
    exact ((continues_emit work _).trans (steady_restart _ _ _).toContinues).trans
      (continues_putIncident _ _)
  | settle stored settles owned closed =>
    exact (continues_emit work _).trans (continues_putIncident _ _)
  | requeue stored owned running found waits settles =>
    exact (DeadLetter.continues_requeued _ _).trans
      (settles.steady _).toContinues
  | abandon stored owned =>
    exact ((continues_updateJob work _).trans (continues_removeDeadLetter _ _)).trans
      (continues_emit _ _)

/-- A fiber that waits for a job is no watchdog. -/
theorem UnitOfWork.Wanted.unwatched (wanted : work.Wanted job fiber) (shapely : work.Shapely) :
    ∀ other, work.fiber? job.fiber = some other -> other.watch = none := by
  intro other found
  cases wanted.found.symm.trans found
  exact WellFormed.unwatched shapely found (by simp [wanted.waits])

theorem Job.shapely_finished (shapely : work.Shapely) (job : Job) (event : RuntimeEvent) :
    (job.finished event work).Shapely :=
  shapely.of_same (fun _ => rfl) (job.continues_finished event work)

theorem Job.shapely_shelved (shapely : work.Shapely) (letter : DeadLetter) :
    (Job.shelved letter work).Shapely :=
  shapely.of_same (fun _ => rfl) (Job.continues_shelved letter work)

theorem Job.shapely_stopped (shapely : work.Shapely)
    (unwatched : ∀ other, work.fiber? job.fiber = some other -> other.watch = none)
    (kind : FaultClass) (problem : String) (address : Address) :
    (job.stopped kind problem address work).Shapely := by
  have drawn : Shapely { work with supply := ⟨work.supply.next + 1⟩ } :=
    shapely.of_same (fun _ => rfl) (steady_draw work).toContinues
  exact drawn.halt _ unwatched

theorem Job.Failed.shapely {outcome : FailureOutcome}
    (failed : job.Failed program work fiber outcome changed) (wanted : work.Wanted job fiber)
    (shapely : work.Shapely) : changed.Shapely := by
  have free := wanted.unwatched shapely
  cases failed with
  | retry notBefore problem => exact shapely
  | bury kind problem expires =>
    have stopped := Job.shapely_stopped shapely free kind problem fiber.pc
    exact Job.shapely_shelved stopped _
  | route problem leads =>
    rename_i code target
    have finished := Job.shapely_finished shapely { job with lastError := some problem }
      (.jobErrorRouted job.key code)
    refine (finished.dropWatchdog fiber).wake _ (fun other found => ?_)
    rw [fiber?_dropWatchdog] at found
    split at found
    · cases found
    · obtain ⟨former, before, rfl⟩ := Option.map_eq_some_iff.1 found
      split
      · exact free former before
      · exact free former before

theorem UnitOfWork.Shapely.putIncident (shapely : work.Shapely) (incident : Incident) :
    (work.putIncident incident).Shapely :=
  shapely.of_same (fun _ => rfl) (continues_putIncident work incident)

theorem DeadLetter.shapely_requeued (shapely : work.Shapely) {incident : IncidentId}
    (found : work.fiber? letter.job.fiber = some fiber) (waits : fiber.wait = .incident incident) :
    (letter.requeued fiber.pc work).Shapely := by
  have parked : (work.park letter.job.fiber fiber.pc (.job letter.key)).Shapely := by
    refine shapely.park _ _ (fun other found' => ?_)
    cases found.symm.trans found'
    exact WellFormed.unwatched shapely found (by simp [waits])
  refine parked.of_same (fun asked => ?_)
    ((continues_updateJob _ _).trans (continues_removeDeadLetter _ _))
  rw [DeadLetter.requeued, fiber?_removeDeadLetter, fiber?_updateJob]

/-- Every change keeps the shape of fibers. -/
theorem Intervened.shapely {store : MemoryStore} {id : InstanceId} {purpose : Purpose}
    (intervened : Intervened store id program work purpose changed) (shapely : work.Shapely) :
    changed.Shapely := by
  cases intervened with
  | run => exact shapely
  | cancel running closes => exact shapely.close closes
  | complete stored owned first wanted completion =>
    rename_i key job fiber
    have recorded : (work.recordCompletion ⟨job.key, completion, true, work.time⟩).Shapely :=
      shapely
    have finished := Job.shapely_finished recorded job (.jobCompleted job.key)
    exact (finished.accept completion.flags completion.payload).wake _ (wanted.unwatched shapely)
  | record stored owned first unwanted completion => exact shapely
  | fail stored owned wanted failed => exact failed.shapely wanted shapely
  | dismiss => exact shapely
  | deliver running signal => exact shapely.deliver signal
  | discard => exact shapely
  | restart stored settles running alone owned closed =>
    exact ((shapely.emit _).restart program _).putIncident _
  | settle stored settles owned closed => exact (shapely.emit _).putIncident _
  | requeue stored owned running found waits settles =>
    have requeued := DeadLetter.shapely_requeued shapely found waits
    cases settles with
    | nothing => exact requeued.emit _
    | incident found settles closed => exact ((requeued.emit _).putIncident _).emit _
  | abandon stored owned => exact shapely

end

end ProcessEngine
