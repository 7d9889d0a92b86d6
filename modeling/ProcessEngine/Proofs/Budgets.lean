import Mathlib.Data.List.TakeWhile
import ProcessEngine.Proofs.Leases
import ProcessEngine.Proofs.Logs
import ProcessEngine.Proofs.Phases

/-!
# Retry budgets

The log of an instance tells of every further trial of a job, whether the job was tried again by
itself or was put back by an operator. What is stored of a job balances with that: its attempts are
one more than its trials, and the retries that it has left are those that it may have less the ones
since it was put back last (`Engine.History.balanced`).
-/

namespace ProcessEngine

/-! ## Accounts -/

/-- Why a job is tried once more. -/
inductive Trial where
  /-- It has failed and had a retry left. -/
  | retried
  /-- It was put back after it had been set aside. -/
  | requeued
deriving DecidableEq, Repr

/-- The trial of a job that an event tells of. -/
def RuntimeEvent.trialOf? (key : JobKey) : RuntimeEvent -> Option Trial
  | .jobRetryScheduled told _ _ => if told = key then some .retried else none
  | .jobRequeued told => if told = key then some .requeued else none
  | _ => none

/-- The trials of a job that a log tells of, in order. -/
def trialsOf (key : JobKey) (events : List RuntimeEvent) : List Trial :=
  events.filterMap (RuntimeEvent.trialOf? key)

/-- How often the job was retried since it was put back last. -/
def Trial.latest (trials : List Trial) : Nat :=
  (trials.reverse.takeWhile (fun trial => trial = .retried)).length

/-- A job that was never put back was retried as often as it was tried once more. -/
theorem Trial.latest_of_notMem {trials : List Trial} (never : .requeued ∉ trials) :
    Trial.latest trials = trials.count .retried := by
  have retried : ∀ trial ∈ trials, trial = .retried := by
    intro trial listed
    cases trial with
    | retried => rfl
    | requeued => exact absurd listed never
  have all : trials.reverse.takeWhile (fun trial => trial = .retried) = trials.reverse :=
    List.takeWhile_eq_self_iff.2 (fun trial listed =>
      decide_eq_true (retried trial (List.mem_reverse.1 listed)))
  rw [Trial.latest, all, List.length_reverse]
  exact (List.count_eq_length.2 (fun trial listed => (retried trial listed).symm)).symm

/-- What is kept of the trials of a job. -/
structure Account where
  owner : InstanceId
  /-- How many retries there may be. -/
  maximum : Nat
  attempt : Nat
  remaining : Nat

/-- The account of a job. -/
def Job.account (job : Job) : Account :=
  ⟨job.owner, job.maximumRetries, job.attempt, job.retriesRemaining⟩

namespace Account

variable {account : Account} {trials : List Trial} {trial : Trial}

/-- The account of a job that is handed out. -/
def opened (owner : InstanceId) (maximum : Nat) : Account := ⟨owner, maximum, 1, maximum⟩

/-- The account after one more trial. -/
def after (account : Account) : Trial -> Account
  | .retried =>
    { account with
      attempt := account.attempt + 1
      remaining := account.remaining - 1 }
  | .requeued =>
    { account with
      attempt := account.attempt + 1
      remaining := account.maximum }

theorem after_owner (account : Account) (trial : Trial) :
    (account.after trial).owner = account.owner := by
  cases trial with
  | retried => rfl
  | requeued => rfl

/-- The account balances with the trials of the job. -/
structure Balances (account : Account) (trials : List Trial) : Prop where
  attempt : account.attempt = 1 + trials.count .retried + trials.count .requeued
  remaining : account.remaining + Trial.latest trials = account.maximum

theorem balances_opened (owner : InstanceId) (maximum : Nat) : (opened owner maximum).Balances [] :=
  ⟨rfl, rfl⟩

/-- Before a job is put back, attempts and retries that are left are one more than the retries that
there may be. -/
theorem Balances.total (balances : account.Balances trials) (never : .requeued ∉ trials) :
    account.attempt + account.remaining = account.maximum + 1 := by
  have attempt := balances.attempt
  have remaining := balances.remaining
  rw [List.count_eq_zero_of_not_mem never] at attempt
  rw [Trial.latest_of_notMem never] at remaining
  omega

/-- One more trial keeps the balance if there is a retry left for it. -/
theorem Balances.after (balances : account.Balances trials)
    (left : trial = .retried -> 0 < account.remaining) :
    (account.after trial).Balances (trials ++ [trial]) := by
  obtain ⟨attempt, remaining⟩ := balances
  cases trial with
  | retried =>
    have left := left rfl
    constructor
    · simp only [Account.after, attempt, List.count_append, List.count_singleton_self]
      simp
      omega
    · simp only [Account.after, Trial.latest, List.reverse_append, List.reverse_singleton,
        List.singleton_append, List.takeWhile_cons, decide_true, if_true, List.length_cons]
      rw [Trial.latest] at remaining
      omega
  | requeued =>
    constructor
    · simp only [Account.after, attempt, List.count_append, List.count_singleton_self]
      simp
      omega
    · simp [Account.after, Trial.latest]

end Account

/-- The account of the job that is found under a key. -/
def accountIn (jobs : OrderedMap JobKey Job) (key : JobKey) : Option Account :=
  (jobs.get? key).map Job.account

/-- A job that is not open is found under a key. -/
def ShutIn (jobs : OrderedMap JobKey Job) (key : JobKey) : Prop :=
  ∃ job, jobs.get? key = some job ∧ job.status.isOpen = false

theorem TableDevelops.shut {owner : InstanceId} {jobs later : OrderedMap JobKey Job}
    (develops : TableDevelops owner jobs later) {key : JobKey} (shut : ShutIn jobs key) :
    ShutIn later key := by
  obtain ⟨job, found, closed⟩ := shut
  exact ⟨job, develops.closed found closed, closed⟩

theorem Job.account_withdrawn (job : Job) : job.withdrawn.account = job.account := by
  cases pending : job.status.isOpen with
  | true =>
    rw [withdrawn_of_open pending]
    rfl
  | false => rw [withdrawn_of_closed pending]

/-! ## What is told of trials -/

/-- An event that is not about a job tells of no trial. -/
theorem RuntimeEvent.trialOf?_of_jobPhase? {event : RuntimeEvent} (key : JobKey)
    (silent : event.jobPhase? = none) : event.trialOf? key = none := by
  cases event with
  | jobRetryScheduled | jobRequeued => cases silent
  | _ => rfl

theorem RuntimeEvent.covers_untried (key : JobKey) :
    Covers (fun event => event.trialOf? key = none) :=
  ⟨fun plain => trialOf?_of_jobPhase? key plain.job, fun _ => rfl⟩

namespace UnitOfWork

variable {first middle last work next : UnitOfWork} {table : OrderedMap JobKey Job} {key : JobKey}
  {fiber : Fiber} {program : Program} {job updated : Job}

/-- Where a job that is tried once more would be told of as pending, and none is, there is no
trial. -/
theorem Reports.no_trial {phases : List (JobKey × JobPhase)}
    (reports : Reports RuntimeEvent.jobPhase? work next phases)
    (settled : ∀ phase ∈ phases, phase.2 ≠ .pending) (key : JobKey) :
    Reports (RuntimeEvent.trialOf? key) work next [] := by
  obtain ⟨events, added, rfl⟩ := reports
  refine ⟨events, added, List.filterMap_eq_nil_iff.2 (fun event listed => ?_)⟩
  cases event with
  | jobRetryScheduled | jobRequeued =>
    exact absurd rfl (settled _ (List.mem_filterMap.2 ⟨_, listed, rfl⟩))
  | _ => rfl

theorem Reports.no_trial_of_nil (reports : Reports RuntimeEvent.jobPhase? work next [])
    (key : JobKey) : Reports (RuntimeEvent.trialOf? key) work next [] :=
  reports.no_trial (fun _ listed => absurd listed List.not_mem_nil) key

theorem Steady.accountIn (steady : work.Steady next) :
    accountIn (next.jobsOver table) key = accountIn (work.jobsOver table) key := by
  rw [steady.jobsOver]

theorem accountIn_cancelJob (work : UnitOfWork) (cancelled : JobKey) :
    accountIn ((work.cancelJob cancelled).jobsOver table) key =
      accountIn (work.jobsOver table) key := by
  rw [accountIn, accountIn, get?_jobsOver_cancelJob]
  split
  · rw [Option.map_map]
    congr 1
    funext job
    exact job.account_withdrawn
  · rfl

theorem accountIn_cancelAwaitedJob (work : UnitOfWork) (fiber : Fiber) :
    accountIn ((work.cancelAwaitedJob fiber).jobsOver table) key =
      accountIn (work.jobsOver table) key := by
  rw [cancelAwaitedJob]
  split
  · exact accountIn_cancelJob work _
  · rfl

theorem accountIn_close {status : InstanceStatus} {event : RuntimeEvent}
    (closes : work.close status event = .ok next) :
    accountIn (next.jobsOver table) key = accountIn (work.jobsOver table) key :=
  @close_keeps work (fun reached =>
      accountIn (reached.jobsOver table) key = accountIn (work.jobsOver table) key)
    (fun {reached} fiber same => ((steady_endFiber _ _).accountIn.trans
      (accountIn_cancelAwaitedJob reached fiber)).trans same)
    (fun _ _ same => (steady_conclude _ _ _).accountIn.trans same) rfl _ _ _ closes

/-- Nothing is told of trials of the job, and its account stays as it is, unless the job is handed
out and gets one. If the job is not open, it stays so. -/
structure Untried (key : JobKey) (table : OrderedMap JobKey Job) (work next : UnitOfWork) :
    Prop where
  id : next.record.id = work.record.id
  reports : Reports (RuntimeEvent.trialOf? key) work next []
  account : accountIn (next.jobsOver table) key = accountIn (work.jobsOver table) key ∨
    accountIn (work.jobsOver table) key = none ∧
      ∃ maximum, accountIn (next.jobsOver table) key = some (.opened work.record.id maximum)
  shut : ShutIn (work.jobsOver table) key -> ShutIn (next.jobsOver table) key

theorem Untried.refl (key : JobKey) (table : OrderedMap JobKey Job) (work : UnitOfWork) :
    Untried key table work work := ⟨rfl, reports_of_same rfl, .inl rfl, fun shut => shut⟩

theorem Untried.trans (earlier : Untried key table first middle)
    (rest : Untried key table middle last) : Untried key table first last := by
  refine ⟨rest.id.trans earlier.id, earlier.reports.trans rest.reports, ?_,
    fun shut => rest.shut (earlier.shut shut)⟩
  rcases earlier.account with same | ⟨absent, maximum, opened⟩
  · have after := rest.account
    rw [same, earlier.id] at after
    exact after
  · rcases rest.account with same | ⟨absent', -⟩
    · exact .inr ⟨absent, maximum, same.trans opened⟩
    · cases absent'.symm.trans opened

theorem Steady.untried (steady : work.Steady next)
    (reports : Reports (RuntimeEvent.trialOf? key) work next []) : Untried key table work next :=
  ⟨steady.id, reports, .inl steady.accountIn, (steady.develops table ⟨0⟩).shut⟩

theorem Calm.untried (calm : work.Calm next) : Untried key table work next :=
  calm.toSteady.untried (calm.reportsNoJob.no_trial_of_nil key)

theorem untried_cancelAwaitedJob (work : UnitOfWork) (fiber : Fiber) :
    Untried key table work (work.cancelAwaitedJob fiber) :=
  ⟨(confined_cancelAwaitedJob work fiber).id,
    (tells_cancelAwaitedJob (RuntimeEvent.covers_untried key) work fiber).reports
      (fun silent => silent),
    .inl (accountIn_cancelAwaitedJob work fiber),
    (withdraws_cancelAwaitedJob table work fiber ⟨0⟩).develops.shut⟩

theorem untried_close {status : InstanceStatus} {event : RuntimeEvent}
    (ends : event.ending? = some status) (closes : work.close status event = .ok next) :
    Untried key table work next := by
  refine ⟨(confined_close closes).id, ?_, .inl (accountIn_close closes),
    (withdraws_close table closes ⟨0⟩).develops.shut⟩
  obtain ⟨-, rfl⟩ := close_cases closes
  have ended := tells_endFibers (RuntimeEvent.covers_untried key) work.state.fibersInOrder work
  exact (ended.reports (fun silent => silent)).trans (reports_emit _
    (RuntimeEvent.trialOf?_of_jobPhase? key (RuntimeEvent.jobPhase_of_ending ends)))

/-! ## Turns -/

/-- A job that is handed out gets an account unless there is a job of its key. -/
theorem untried_handOut (work : UnitOfWork) (fiber : Fiber) (node : NodeKey) (taskType : String)
    (retries : Nat) (now : Instant) :
    Untried key table work
      (work.handOut fiber (.first work.record fiber node taskType retries now)) := by
  let job := Job.first work.record fiber node taskType retries now
  have parked : (work.dispatch job).Calm (work.handOut fiber job) := calm_park _ _ _ _
  refine ⟨parked.id.trans (confined_dispatch work job).id,
    Reports.trans ⟨[_], rfl, rfl⟩ (parked.reportsNoJob.no_trial_of_nil key), ?_, ?_⟩
  · rw [parked.toSteady.jobsOver, accountIn, accountIn, get?_jobsOver_dispatch]
    cases (work.jobsOver table).get? key with
    | some former => exact .inl rfl
    | none =>
      rw [Option.none_or]
      split
      · refine .inr ⟨rfl, retries, ?_⟩
        split
        · exact congrArg some job.account_withdrawn
        · rfl
      · exact .inl rfl
  · rintro ⟨former, found, closed⟩
    refine ⟨former, ?_, closed⟩
    rw [parked.toSteady.jobsOver, get?_jobsOver_dispatch, found]
    rfl

/-- No turn tries a job once more. -/
theorem Turned.untried (turned : Turned program fiber work next)
    (found : work.fiber? fiber.id = some fiber) : Untried key table work next := by
  rcases turned.narrated found with ⟨middle, calm, rfl | rfl⟩ | ⟨node, name, _, _, rfl, -⟩ |
    ⟨node, closes⟩ | ⟨before, kind, message, calm, rfl⟩
  · exact calm.untried
  · exact calm.untried.trans ((steady_completeIfIdle middle).untried
      ((completeIfIdle_reportsNoJob middle).no_trial_of_nil key))
  · exact untried_handOut work fiber _ _ _ _
  · exact untried_close rfl closes
  · have drawn : Reports RuntimeEvent.jobPhase? before
        { before with supply := ⟨before.supply.next + 1⟩ } [] := reports_of_same rfl
    exact calm.untried.trans ((steady_raise _ _ _ _ _ _).untried
      ((drawn.trans (reportsNoJob_halt _ _)).no_trial_of_nil key))

theorem Ran.untried (ran : Ran program work next) : Untried key table work next := by
  induction ran with
  | refl => exact .refl key table work
  | step prior running found ready turned ih => exact ih.trans (turned.untried found)

/-! ## Changes -/

/-- Work that replaces a job by one with the same account that is not open. -/
theorem untried_of_write {told : JobKey} (updated : Job) (id : next.record.id = work.record.id)
    (stored : (work.jobsOver table).get? told = some job) (same : updated.account = job.account)
    (closed : updated.status.isOpen = false)
    (written : ∀ asked, (next.jobsOver table).get? asked =
      if asked = told then some updated else (work.jobsOver table).get? asked)
    (reports : Reports (RuntimeEvent.trialOf? key) work next []) : Untried key table work next := by
  refine ⟨id, reports, .inl ?_, fun ⟨former, found, shut⟩ => ?_⟩
  · rw [accountIn, accountIn, written]
    split
    · rename_i equal
      rw [equal, stored]
      exact congrArg some same
    · rfl
  · rw [ShutIn, written]
    split
    · exact ⟨updated, rfl, closed⟩
    · exact ⟨former, found, shut⟩

/-- Work that replaces another job. -/
theorem untried_of_other {told : JobKey} (other : told ≠ key)
    (id : next.record.id = work.record.id)
    (written : ∀ asked, (next.jobsOver table).get? asked =
      if asked = told then some updated else (work.jobsOver table).get? asked)
    (reports : Reports (RuntimeEvent.trialOf? key) work next []) : Untried key table work next := by
  refine ⟨id, reports, .inl ?_, fun shut => ?_⟩
  · rw [accountIn, accountIn, written, if_neg other.symm]
  · rw [ShutIn, written, if_neg other.symm]
    exact shut

theorem untried_interrupt (work : UnitOfWork) (host : FiberId) :
    Untried key table work (work.interrupt host).2 := by
  rw [interrupt]
  split
  · exact .refl key table work
  · exact (untried_cancelAwaitedJob work _).trans (calm_endFiber _ _).untried

theorem untried_fire (work : UnitOfWork) (watchdog : FiberId) (watch : Watch) :
    Untried key table work (work.fire watchdog watch) := by
  have logged : work.Calm (work.emit (.boundaryFired watch.boundary watch.interrupting)) :=
    calm_emit work ⟨rfl, rfl, rfl⟩ rfl
  rw [fire]
  dsimp only
  refine .trans ?_ ((calm_updateFiber _ _ _).trans (calm_wake _ _ _)).untried
  split
  · exact logged.untried.trans (untried_interrupt _ _)
  · exact (logged.trans (calm_updateFiber _ _ _)).untried

theorem untried_deliver (work : UnitOfWork) (signal : WakeSignal) :
    Untried key table work (work.deliver signal).2 := by
  rcases deliver_narrated work signal with calm | ⟨watch, accepted, -, rfl, same⟩
  · exact calm.untried
  · rw [same]
    exact (calm_accept work signal.flags signal.payload).untried.trans (untried_fire _ _ _)

end UnitOfWork

open UnitOfWork

/-- What a job is tried once more for. -/
inductive Trial.IsFor (key : JobKey) : Trial -> Purpose -> Prop where
  | retried : IsFor key .retried (.fail key)
  | requeued (taskType : String) : IsFor key .requeued (.requeue ⟨taskType, key⟩)

/-- The job is tried once more, which is told of and entered into its account. -/
structure Job.Tried (job : Job) (key : JobKey) (store : MemoryStore) (purpose : Purpose)
    (work next : UnitOfWork) (trial : Trial) : Prop where
  stored : store.jobs.get? key = some job
  owned : job.owner = work.record.id
  purpose : trial.IsFor key purpose
  pending : trial = .retried -> job.status.isOpen = true
  left : trial = .retried -> 0 < job.retriesRemaining
  reports : Reports (RuntimeEvent.trialOf? key) work next [trial]
  account : accountIn (next.jobsOver store.jobs) key = some (job.account.after trial)

section

variable {store : MemoryStore} {work changed : UnitOfWork} {job : Job} {fiber : Fiber}
  {program : Program}

/-- A failure is followed by another trial of its job only if a retry is left. -/
theorem Job.Failed.tries {outcome : FailureOutcome}
    (failed : job.Failed program work fiber outcome changed) (none : work.cancelledJobs = [])
    (begun : work.jobsOver store.jobs = store.jobs) (owned : job.owner = work.record.id)
    (stored : store.jobs.get? job.key = some job) (pending : job.status.isOpen = true)
    (key : JobKey) :
    Untried key store.jobs work changed ∨
      ∃ trial, job.Tried key store (.fail job.key) work changed trial := by
  have id := failed.continues.id
  have there : (work.jobsOver store.jobs).get? job.key = some job := begun.symm ▸ stored
  cases failed with
  | retry notBefore problem left =>
    have written := get?_jobsOver_emit_updateJob work none store.jobs
      (job.scheduleRetry notBefore problem)
      (.jobRetryScheduled job.key (job.scheduleRetry notBefore problem).attempt notBefore)
    by_cases same : job.key = key
    · subst same
      refine .inr ⟨.retried, stored, owned, .retried, fun _ => pending, fun _ => left,
        ⟨[_], rfl, ?_⟩, ?_⟩
      · exact List.filterMap_cons_some (if_pos rfl)
      · rw [accountIn, written]
        exact congrArg (Option.map Job.account) (if_pos rfl)
    · refine .inl (untried_of_other same id written ⟨[_], rfl, ?_⟩)
      exact List.filterMap_cons_none (if_neg same)
  | bury kind problem expires =>
    have stopped := (job.reports_stopped kind problem fiber.pc work).no_trial_of_nil key
    exact .inl (untried_of_write (job.setAside problem) id there rfl rfl
      (job.get?_jobsOver_buried none store.jobs kind problem expires fiber.pc)
      (stopped.trans ⟨[_], rfl, rfl⟩))
  | route problem leads =>
    rename_i code target
    have finished : Reports (RuntimeEvent.trialOf? key) work (Job.finished { job with
      lastError := some problem } (.jobErrorRouted job.key code) work) [] := ⟨[_], rfl, rfl⟩
    have woken := (calm_dropWatchdog (Job.finished { job with lastError := some problem }
      (.jobErrorRouted job.key code) work) fiber).trans (calm_wake _ job.fiber target)
    exact .inl (untried_of_write { job with lastError := some problem, status := .completed } id
      there rfl rfl (job.get?_jobsOver_routed none store.jobs problem code target fiber)
      (finished.trans (woken.reportsNoJob.no_trial_of_nil key)))

/-- A job that is put back is tried once more. -/
theorem DeadLetter.Settled.tries {letter : DeadLetter} {linked : Option Incident}
    {settled : UnitOfWork} {place : DeadLetterKey}
    (settles : DeadLetter.Settled linked (letter.requeued fiber.pc work) settled)
    (filed : letter.Filed place store.jobs) (keyed : letter.job.key = letter.key)
    (id : settled.record.id = work.record.id) (none : work.cancelledJobs = [])
    (owned : letter.job.owner = work.record.id) (key : JobKey) :
    Untried key store.jobs work (settled.emit (.jobRequeued letter.key)) ∨
      letter.job.Tried key store (.requeue place) work (settled.emit (.jobRequeued letter.key))
        .requeued := by
  have parked := calm_park work letter.job.fiber fiber.pc (.job letter.key)
  have still : Reports (RuntimeEvent.trialOf? key) work settled [] := by
    have requeued : Reports (RuntimeEvent.trialOf? key) work (letter.requeued fiber.pc work) [] :=
      (parked.reportsNoJob.no_trial_of_nil key).trans (reports_of_same rfl)
    cases settles with
    | nothing => exact requeued
    | incident found settles closed =>
      exact requeued.trans ((reports_emit _ rfl).trans (reports_of_same rfl))
  have written : ∀ asked, ((settled.emit (.jobRequeued letter.key)).jobsOver store.jobs).get?
      asked = if asked = letter.key then some (letter.renewed work.time)
        else (work.jobsOver store.jobs).get? asked := by
    rw [(settles.steady (.jobRequeued letter.key)).jobsOver, ← keyed]
    exact letter.get?_jobsOver_requeued none store.jobs fiber.pc
  by_cases same : letter.key = key
  · subst same
    have told : (RuntimeEvent.jobRequeued letter.key).trialOf? letter.key = some .requeued :=
      if_pos rfl
    refine .inr ⟨filed.stored, owned, ?_, nofun, nofun, still.trans (reports_event told rfl), ?_⟩
    · rw [← filed.place]
      exact .requeued letter.taskType
    · rw [accountIn, written, if_pos rfl]
      rfl
  · exact .inl (untried_of_other same id written (still.trans (reports_emit _ (if_neg same))))

/-- A change tries a job once more for the sake of just this job, or it tries none. -/
theorem Intervened.tries {id : InstanceId} {purpose : Purpose}
    (intervened : Intervened store id program work purpose changed) (filed : store.Filed)
    (same : work.record.id = id) (clean : work.jobs = []) (none : work.cancelledJobs = [])
    (key : JobKey) :
    Untried key store.jobs work changed ∨
      ∃ job trial, Job.Tried job key store purpose work changed trial := by
  have continues := intervened.continues
  have begun : work.jobsOver store.jobs = store.jobs := jobsOver_of_none store.jobs clean none
  cases intervened with
  | run | dismiss | discard => exact .inl (.refl key _ work)
  | cancel running closes => exact .inl (untried_close rfl closes)
  | complete stored owned first wanted completion =>
    rename_i told job fiber
    obtain rfl := filed.keyed stored
    have there : (work.jobsOver store.jobs).get? job.key = some job := begun.symm ▸ stored
    refine .inl (untried_of_write { job with status := .completed } continues.id there rfl rfl
      (job.get?_jobsOver_applied none store.jobs completion fiber.pc)
      ((job.reports_applied completion fiber.pc work).no_trial (fun phase listed => ?_) key))
    rw [List.mem_singleton.1 listed]
    exact nofun
  | record stored owned first unwanted completion =>
    exact .inl ⟨rfl, reports_emit _ rfl, .inl rfl, fun shut => shut⟩
  | fail stored owned wanted failed =>
    obtain rfl := filed.keyed stored
    rcases failed.tries none begun (owned.trans same.symm) stored wanted.pending key with
      untried | ⟨trial, tried⟩
    · exact .inl untried
    · exact .inr ⟨_, trial, tried⟩
  | deliver running signal => exact .inl (untried_deliver work signal)
  | restart stored settles running alone owned closed =>
    rename_i told incident resolved
    have restarted := calm_restart (work.emit (.incidentResolved incident.id)) program resolved
    have steady := ((steady_emit work _).trans restarted.toSteady).trans
      (steady_putIncident _ resolved)
    exact .inl (steady.untried (((reports_emit work rfl).trans
      (restarted.reportsNoJob.no_trial_of_nil key)).trans (reports_of_same rfl)))
  | settle stored settles owned closed =>
    exact .inl (((steady_emit work _).trans (steady_putIncident _ _)).untried
      (reports_emit work rfl))
  | requeue stored owned running found waits settles =>
    have letter := filed.letters stored
    rcases settles.tries letter (filed.keyed letter.stored) continues.id none
      (owned.trans same.symm) key with untried | tried
    · exact .inl untried
    · exact .inr ⟨_, .requeued, tried⟩
  | abandon stored owned =>
    rename_i place letter
    have kept := (filed.letters stored).stored
    rw [← filed.keyed kept, ← begun] at kept
    exact .inl (untried_of_write { letter.job with status := .cancelled } continues.id kept rfl rfl
      (letter.get?_jobsOver_abandoned none store.jobs) ⟨[_], rfl, rfl⟩)

end

/-! ## Histories -/

/-- The trials that are reported are added to those that the events tell of. -/
theorem UnitOfWork.Reports.trialsOf {work next : UnitOfWork} {key : JobKey} {told : List Trial}
    (reports : Reports (RuntimeEvent.trialOf? key) work next told) :
    trialsOf key next.events = ProcessEngine.trialsOf key work.events ++ told := by
  obtain ⟨events, added, rfl⟩ := reports
  rw [ProcessEngine.trialsOf, added, List.filterMap_append]
  rfl

namespace Engine

variable {engine next first last : Engine MemoryStore} {entries : List HistoryEntry}
  {key : JobKey} {work changed begun : UnitOfWork} {scope : Scope}

/-- What is stored of a job balances with what the logs tell of its trials. -/
structure Balanced (engine : Engine MemoryStore) (key : JobKey) : Prop where
  stored : ∀ {account}, accountIn engine.store.jobs key = some account ->
    account.Balances (trialsOf key (engine.store.eventsOf account.owner))
  absent : accountIn engine.store.jobs key = none -> ∀ owner,
    trialsOf key (engine.store.eventsOf owner) = []

theorem Fresh.balanced (fresh : first.Fresh) (key : JobKey) : first.Balanced key := by
  refine ⟨fun {account} stored => ?_, fun _ owner => ?_⟩
  · rw [fresh.store] at stored
    cases stored
  · rw [fresh.store]
    rfl

theorem Balanced.of_same (balanced : engine.Balanced key)
    (jobs : accountIn next.store.jobs key = accountIn engine.store.jobs key)
    (logs : ∀ owner, next.store.eventsOf owner = engine.store.eventsOf owner) :
    next.Balanced key := by
  refine ⟨fun {account} stored => ?_, fun none owner => ?_⟩
  · rw [logs]
    exact balanced.stored (jobs ▸ stored)
  · rw [logs]
    exact balanced.absent (jobs ▸ none) owner

/-- What is told of trials after work was stored. -/
theorem trialsOf_apply (store : next.store = engine.store.apply work.finish.1)
    (owner : InstanceId) : trialsOf key (next.store.eventsOf owner) =
      trialsOf key (engine.store.eventsOf owner) ++
        if owner = work.record.id then trialsOf key work.events else [] := by
  rw [store, eventsOf_apply_finish, trialsOf, List.filterMap_append]
  congr 1
  split
  · rfl
  · rfl

/-- Work without trials of the job keeps the balance. -/
theorem Balanced.untried (balanced : engine.Balanced key)
    (untried : Untried key engine.store.jobs begun work)
    (silent : trialsOf key begun.events = [])
    (begins : begun.jobsOver engine.store.jobs = engine.store.jobs)
    (store : next.store = engine.store.apply work.finish.1) : next.Balanced key := by
  have told : trialsOf key work.events = [] := by
    rw [untried.reports.trialsOf, silent]
    rfl
  have trials : ∀ owner, trialsOf key (next.store.eventsOf owner) =
      trialsOf key (engine.store.eventsOf owner) := by
    intro owner
    rw [trialsOf_apply store, told, ite_self, List.append_nil]
  have jobs : accountIn next.store.jobs key = accountIn (work.jobsOver engine.store.jobs) key := by
    rw [store]
    rfl
  have account := untried.account
  rw [begins, ← jobs] at account
  rcases account with same | ⟨absent, maximum, opened⟩
  · refine ⟨fun {account} stored => ?_, fun none owner => ?_⟩
    · rw [trials]
      exact balanced.stored (same ▸ stored)
    · rw [trials]
      exact balanced.absent (same ▸ none) owner
  · refine ⟨fun {account} stored => ?_, fun none => ?_⟩
    · cases opened.symm.trans stored
      rw [trials, balanced.absent absent]
      exact Account.balances_opened _ _
    · cases opened.symm.trans none

/-- Work that tries the job once more enters the trial into the account and the log. -/
theorem Balanced.tried (balanced : engine.Balanced key) {job : Job} {purpose : Purpose}
    {trial : Trial} (tried : job.Tried key engine.store purpose begun changed trial)
    (rest : Untried key engine.store.jobs changed work) (silent : trialsOf key begun.events = [])
    (id : changed.record.id = begun.record.id)
    (store : next.store = engine.store.apply work.finish.1) : next.Balanced key := by
  have told : trialsOf key work.events = [trial] := by
    rw [rest.reports.trialsOf, tried.reports.trialsOf, silent]
    rfl
  have jobs : accountIn next.store.jobs key = some (job.account.after trial) := by
    rw [store]
    rcases rest.account with same | ⟨absent, -⟩
    · exact same.trans tried.account
    · cases absent.symm.trans tried.account
  refine ⟨fun {account} stored => ?_, fun none => ?_⟩
  · cases jobs.symm.trans stored
    have owner : (job.account.after trial).owner = work.record.id :=
      ((job.account.after_owner trial).trans tried.owned).trans (rest.id.trans id).symm
    rw [trialsOf_apply store, told, if_pos owner, Account.after_owner]
    exact (balanced.stored (congrArg (Option.map Job.account) tried.stored)).after tried.left
  · cases jobs.symm.trans none

/-- Every atomic step keeps the balance. -/
theorem Advance.balanced (advance : Advance scope engine next) (orderly : engine.Orderly)
    (balanced : engine.Balanced key) : next.Balanced key := by
  cases advance.effect orderly.sound with
  | same programs store supply =>
    exact balanced.of_same (by rw [store]) (fun _ => by rw [store]; rfl)
  | claim request store supply =>
    refine balanced.of_same ?_ (fun _ => by rw [store]; rfl)
    rw [store]
    have keyed : engine.store.Keyed := fun _ _ found => orderly.filed.keyed found
    rcases engine.store.claim_cases request key with ⟨former, listed, rfl, later⟩ | ⟨-, later⟩
    · rw [accountIn, accountIn, later, (keyed.mem_claimable listed).1]
      rfl
    · rw [accountIn, accountIn, later]
  | purge now store supply =>
    exact balanced.of_same (by rw [store]; rfl) (fun _ => by rw [store]; rfl)
  | create known absent ran store supply => exact balanced.untried ran.untried rfl rfl store
  | slice known stored own admitted intervened ran store supply =>
    have keyed := (orderly.sound _ _ stored).keyed
    rcases intervened.tries orderly.filed keyed rfl rfl key with untried | ⟨job, trial, tried⟩
    · exact balanced.untried (untried.trans ran.untried) rfl rfl store
    · exact balanced.tried tried ran.untried rfl intervened.continues.id store

/-- A job that is stored keeps its account, and if it is not open it stays so. -/
structure Lasts (key : JobKey) (engine next : Engine MemoryStore) : Prop where
  account : ∀ {account}, accountIn engine.store.jobs key = some account ->
    accountIn next.store.jobs key = some account
  shut : ShutIn engine.store.jobs key -> ShutIn next.store.jobs key

theorem lasts_of_same (same : next.store.jobs = engine.store.jobs) : Lasts key engine next := by
  constructor
  all_goals
    rw [same]
    exact fun held => held

/-- Work without trials of the job lets it last. -/
theorem lasts_of_untried (untried : Untried key engine.store.jobs begun work)
    (begins : begun.jobsOver engine.store.jobs = engine.store.jobs)
    (store : next.store = engine.store.apply work.finish.1) : Lasts key engine next := by
  have jobs : next.store.jobs = work.jobsOver engine.store.jobs := by
    rw [store]
    rfl
  have account := untried.account
  have shut := untried.shut
  rw [begins, ← jobs] at account shut
  refine ⟨fun stored => ?_, shut⟩
  rcases account with same | ⟨absent, -⟩
  · exact same.trans stored
  · cases absent.symm.trans stored

/-- In a step a job lasts unless it is tried once more for a purpose that is admitted. -/
theorem Advance.tries (advance : Advance scope engine next) (orderly : engine.Orderly)
    (key : JobKey) : Lasts key engine next ∨ ∃ purpose job trial work changed,
      scope.admits purpose ∧ Job.Tried job key engine.store purpose work changed trial := by
  cases advance.effect orderly.sound with
  | same programs store supply => exact .inl (lasts_of_same (by rw [store]))
  | claim request store supply =>
    refine .inl ⟨fun stored => ?_, fun shut => ?_⟩
    · rw [store]
      rcases get?_claim orderly.filed request key with ⟨former, found, -, later⟩ | same
      · rw [accountIn, later]
        rw [accountIn, found] at stored
        exact stored
      · rw [accountIn, same]
        exact stored
    · rw [store]
      exact (develops_claim orderly.filed request ⟨0⟩).shut shut
  | purge now store supply => exact .inl (lasts_of_same (by rw [store]; rfl))
  | create known absent ran store supply => exact .inl (lasts_of_untried ran.untried rfl store)
  | slice known stored own admitted intervened ran store supply =>
    have keyed := (orderly.sound _ _ stored).keyed
    rcases intervened.tries orderly.filed keyed rfl rfl key with untried | ⟨job, trial, tried⟩
    · exact .inl (lasts_of_untried (untried.trans ran.untried) rfl store)
    · exact .inr ⟨_, job, trial, _, _, admitted, tried⟩

/-- In the course of a history the attempts of a job are one more than the trials that the log of
its instance tells of, and it has left the retries that it may have less those since it was put
back last. -/
theorem History.balanced (history : History first entries last) (fresh : first.Fresh)
    (key : JobKey) : last.Balanced key := by
  have step : ∀ scope engine next, Advance scope engine next ->
      engine.Orderly ∧ engine.Balanced key -> next.Orderly ∧ next.Balanced key :=
    fun _ _ _ advance ⟨orderly, balanced⟩ =>
      ⟨advance.orderly orderly, advance.balanced orderly balanced⟩
  exact (history.preserves step ⟨fresh.orderly, fresh.balanced key⟩).2

end Engine

end ProcessEngine
