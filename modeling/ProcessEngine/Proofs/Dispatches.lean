import ProcessEngine.Proofs.Phases

/-!
# Dispatches and the log

An event tells of every job that is handed out. What work on an instance adds to the log tells of
just the jobs that it adds to the table, and no two of them were made for one fiber in one epoch
(`UnitOfWork.Dispatches`). Changes add no jobs at all, so only turns do.
-/

namespace ProcessEngine

namespace RuntimeEvent

/-- The job that an event tells the dispatch of, by its key and what it is for. -/
def dispatch? : RuntimeEvent -> Option (JobKey × String)
  | .jobDispatched key taskType => some (key, taskType)
  | _ => none

theorem dispatch?_eq_some_iff {event : RuntimeEvent} {key : JobKey} {taskType : String} :
    event.dispatch? = some (key, taskType) ↔ event = .jobDispatched key taskType := by
  cases event <;> simp [dispatch?]

/-- A dispatch is about a job. -/
theorem dispatch?_of_jobPhase? {event : RuntimeEvent} (silent : event.jobPhase? = none) :
    event.dispatch? = none := by
  cases event with
  | jobDispatched key taskType => cases silent
  | _ => rfl

theorem covers_idle : Covers (fun event => event.dispatch? = none) :=
  ⟨fun plain => dispatch?_of_jobPhase? plain.job, fun _ => rfl⟩

end RuntimeEvent

/-- The two keys were not made for one fiber of the instance in one epoch. -/
def JobKey.Apart (owner : InstanceId) (key other : JobKey) : Prop :=
  ∀ ⦃node node' sequence epoch input input'⦄, key = .generate owner node sequence epoch input ->
    other ≠ .generate owner node' sequence epoch input'

/-! ## Issues of jobs -/

/-- The instance that has handed a job out, and what for. -/
def Job.issue (job : Job) : InstanceId × String := (job.owner, job.taskType)

theorem Job.issue_withdrawn (job : Job) : job.withdrawn.issue = job.issue := by
  have develops := job.develops_withdrawn
  rw [issue, issue, develops.owner, develops.taskType]

/-- The issue of the job that is found under a key. -/
def issueIn (jobs : OrderedMap JobKey Job) (key : JobKey) : Option (InstanceId × String) :=
  (jobs.get? key).map Job.issue

section

variable {jobs later : OrderedMap JobKey Job} {key : JobKey} {job : Job}

theorem issueIn_eq_some_iff {owner : InstanceId} {taskType : String} :
    issueIn jobs key = some (owner, taskType) ↔
      ∃ job, jobs.get? key = some job ∧ job.owner = owner ∧ job.taskType = taskType := by
  rw [issueIn, Option.map_eq_some_iff]
  simp [Job.issue]

theorem issueIn_eq_none_iff : issueIn jobs key = none ↔ jobs.get? key = none :=
  Option.map_eq_none_iff

/-- A job that is replaced by one of the same issue leaves all issues alone. -/
theorem issueIn_of_write {updated : Job} (stored : jobs.get? key = some job)
    (same : updated.issue = job.issue)
    (written : ∀ asked, later.get? asked = if asked = key then some updated else jobs.get? asked)
    (asked : JobKey) : issueIn later asked = issueIn jobs asked := by
  rw [issueIn, issueIn, written]
  by_cases is : asked = key
  · rw [if_pos is, is, stored]
    exact congrArg some same
  · rw [if_neg is]

end

namespace UnitOfWork

variable {first middle last work next : UnitOfWork} {table : OrderedMap JobKey Job}
  {fiber : Fiber} {program : Program} {told more : List (JobKey × String)}

/-- Of which job is known who has handed it out when the work is stored. -/
def issue (work : UnitOfWork) (table : OrderedMap JobKey Job) (key : JobKey) :
    Option (InstanceId × String) := issueIn (work.jobsOver table) key

theorem Steady.issue (steady : work.Steady next) (key : JobKey) :
    next.issue table key = work.issue table key := by
  rw [UnitOfWork.issue, UnitOfWork.issue, steady.jobsOver]

theorem issue_cancelJob (work : UnitOfWork) (cancelled key : JobKey) :
    (work.cancelJob cancelled).issue table key = work.issue table key := by
  rw [issue, issue, issueIn, issueIn, get?_jobsOver_cancelJob]
  by_cases same : key = cancelled
  · rw [if_pos same, Option.map_map]
    congr 1
    funext job
    exact job.issue_withdrawn
  · rw [if_neg same]

theorem issue_cancelAwaitedJob (work : UnitOfWork) (fiber : Fiber) (key : JobKey) :
    (work.cancelAwaitedJob fiber).issue table key = work.issue table key := by
  rw [cancelAwaitedJob]
  split
  · exact issue_cancelJob work _ key
  · rfl

/-! ## What is told of dispatches -/

/-- The events that were added tell of just the jobs that were handed out. Each of them is new, and
neither two of them nor one and a job that the instance had before are for one fiber in one
epoch. -/
structure Dispatches (table : OrderedMap JobKey Job) (work next : UnitOfWork)
    (told : List (JobKey × String)) : Prop where
  id : next.record.id = work.record.id
  reports : Reports RuntimeEvent.dispatch? work next told
  issued : ∀ key owner taskType, next.issue table key = some (owner, taskType) ↔
    work.issue table key = some (owner, taskType) ∨
      owner = work.record.id ∧ (key, taskType) ∈ told
  new : ∀ dispatch ∈ told, work.issue table dispatch.1 = none
  later : ∀ dispatch ∈ told, ∀ key taskType,
    work.issue table key = some (work.record.id, taskType) ->
      key.Apart work.record.id dispatch.1
  apart : told.Pairwise (fun one other => one.1.Apart work.record.id other.1)

/-- Work that hands out nothing must not tell of a dispatch. -/
theorem dispatches_of_same (id : next.record.id = work.record.id)
    (same : ∀ key, next.issue table key = work.issue table key)
    (reports : Reports RuntimeEvent.dispatch? work next []) : Dispatches table work next [] where
  id := id
  reports := reports
  issued key owner taskType := by
    rw [same]
    simp
  new := fun _ listed => absurd listed List.not_mem_nil
  later := fun _ listed => absurd listed List.not_mem_nil
  apart := .nil

/-- So must work that replaces a job by one of the same issue. -/
theorem dispatches_of_write {key : JobKey} {job : Job} (updated : Job)
    (id : next.record.id = work.record.id) (stored : (work.jobsOver table).get? key = some job)
    (same : updated.issue = job.issue)
    (written : ∀ asked, (next.jobsOver table).get? asked =
      if asked = key then some updated else (work.jobsOver table).get? asked)
    (reports : Reports RuntimeEvent.dispatch? work next []) : Dispatches table work next [] :=
  dispatches_of_same id (issueIn_of_write stored same written) reports

theorem Steady.dispatches (steady : work.Steady next)
    (reports : Reports RuntimeEvent.dispatch? work next []) : Dispatches table work next [] :=
  dispatches_of_same steady.id steady.issue reports

theorem Dispatches.refl (table : OrderedMap JobKey Job) (work : UnitOfWork) :
    Dispatches table work work [] := dispatches_of_same rfl (fun _ => rfl) (reports_of_same rfl)

theorem Dispatches.trans (earlier : Dispatches table first middle told)
    (rest : Dispatches table middle last more) : Dispatches table first last (told ++ more) where
  id := rest.id.trans earlier.id
  reports := earlier.reports.trans rest.reports
  issued key owner taskType := by
    rw [rest.issued, earlier.issued, earlier.id, List.mem_append, or_assoc, ← and_or_left]
  new dispatch listed := by
    rcases List.mem_append.1 listed with before | after
    · exact earlier.new dispatch before
    · cases had : first.issue table dispatch.1 with
      | none => rfl
      | some issue =>
        obtain ⟨owner, taskType⟩ := issue
        have still := (earlier.issued _ _ _).2 (.inl had)
        cases (rest.new dispatch after).symm.trans still
  later dispatch listed key taskType had := by
    rcases List.mem_append.1 listed with before | after
    · exact earlier.later dispatch before key taskType had
    · have still := (earlier.issued _ _ _).2 (.inl had)
      rw [← earlier.id] at still ⊢
      exact rest.later dispatch after key taskType still
  apart := by
    refine List.pairwise_append.2 ⟨earlier.apart, earlier.id ▸ rest.apart, ?_⟩
    intro one before other after
    have there := (earlier.issued one.1 _ one.2).2 (.inr ⟨rfl, before⟩)
    rw [← earlier.id] at there ⊢
    exact rest.later other after one.1 one.2 there

/-- Nothing more is told of by work that hands out nothing. -/
theorem Dispatches.trans_nil (earlier : Dispatches table first middle told)
    (rest : Dispatches table middle last []) : Dispatches table first last told :=
  List.append_nil told ▸ earlier.trans rest

/-- Where a job that was handed out would be told of as pending, and none is, there is no
dispatch. -/
theorem Reports.no_dispatch {phases : List (JobKey × JobPhase)}
    (reports : Reports RuntimeEvent.jobPhase? work next phases)
    (settled : ∀ phase ∈ phases, phase.2 ≠ .pending) :
    Reports RuntimeEvent.dispatch? work next [] := by
  obtain ⟨events, added, rfl⟩ := reports
  refine ⟨events, added, List.filterMap_eq_nil_iff.2 (fun event listed => ?_)⟩
  cases event with
  | jobDispatched key taskType =>
    exact absurd rfl (settled _ (List.mem_filterMap.2 ⟨_, listed, rfl⟩))
  | _ => rfl

theorem Reports.no_dispatch_of_nil (reports : Reports RuntimeEvent.jobPhase? work next []) :
    Reports RuntimeEvent.dispatch? work next [] :=
  reports.no_dispatch (fun _ listed => absurd listed List.not_mem_nil)

theorem Calm.dispatches (calm : work.Calm next) : Dispatches table work next [] :=
  calm.toSteady.dispatches calm.reportsNoJob.no_dispatch_of_nil

theorem dispatches_cancelAwaitedJob (work : UnitOfWork) (fiber : Fiber) :
    Dispatches table work (work.cancelAwaitedJob fiber) [] := by
  refine dispatches_of_same (confined_cancelAwaitedJob work fiber).id
    (issue_cancelAwaitedJob work fiber) ?_
  exact (tells_cancelAwaitedJob RuntimeEvent.covers_idle work fiber).reports (fun silent => silent)

/-! ## Turns -/

theorem dispatches_close {status : InstanceStatus} {event : RuntimeEvent}
    (ends : event.ending? = some status) (closes : work.close status event = .ok next) :
    Dispatches table work next [] := by
  obtain ⟨-, rfl⟩ := close_cases closes
  have each (work : UnitOfWork) (fiber : Fiber) : Dispatches table work
      ((work.cancelAwaitedJob fiber).endFiber fiber.id) [] :=
    (dispatches_cancelAwaitedJob work fiber).trans_nil (calm_endFiber _ _).dispatches
  have ended := @related_foldl _ (fun work next => Dispatches table work next [])
    (Dispatches.refl table) .trans_nil _ each work.state.fibersInOrder work
  refine ended.trans_nil ((steady_conclude _ status event).dispatches (reports_emit _ ?_))
  exact RuntimeEvent.dispatch?_of_jobPhase? (RuntimeEvent.jobPhase_of_ending ends)

/-- No key of the instance was made for a fiber that can run in its epoch. -/
theorem Agrees.apart (agrees : work.Agrees table) (fits : work.record.id.Fits)
    (found : work.fiber? fiber.id = some fiber) (ready : fiber.wait = .ready) {key : JobKey}
    {taskType : String} (had : work.issue table key = some (work.record.id, taskType))
    (node : NodeKey) (input : Json) :
    key.Apart work.record.id
      (.generate work.record.id node fiber.sequence fiber.epoch input) := by
  obtain ⟨job, stored, owned, -⟩ := issueIn_eq_some_iff.1 had
  intro node' node'' sequence epoch input' input'' made made'
  obtain ⟨_, number, epoch', _, issued, -, left⟩ := agrees.issued stored owned
  obtain ⟨-, -, rfl, rfl⟩ := JobKey.generate_inj fits fits (made.symm.trans issued)
  obtain ⟨-, -, sequence, same⟩ := JobKey.generate_inj fits fits made'
  have passed := (left found sequence).2 ready
  omega

/-- A job of a new key that is handed out is told of. -/
theorem Agrees.dispatches_handOut (agrees : work.Agrees table) {job : Job}
    (owned : job.owner = work.record.id) (absent : (work.jobsOver table).get? job.key = none)
    (apart : ∀ {key taskType}, work.issue table key = some (work.record.id, taskType) ->
      key.Apart work.record.id job.key) :
    Dispatches table work (work.handOut fiber job) [(job.key, job.taskType)] := by
  have parked : (work.dispatch job).Calm (work.handOut fiber job) := calm_park _ _ _ _
  have after := @Agrees.get?_jobsOver_handOut work table fiber job agrees absent
  constructor
  case id => exact parked.id.trans (confined_dispatch work job).id
  case reports =>
    exact Reports.trans_nil (reports_event rfl rfl) parked.reportsNoJob.no_dispatch_of_nil
  case issued =>
    intro key owner taskType
    rw [issue, issue, issueIn, issueIn, after, List.mem_singleton, Prod.mk.injEq]
    by_cases same : key = job.key
    · rw [if_pos same, same, absent]
      simp [Job.issue, owned, eq_comm]
    · rw [if_neg same]
      simp [same]
  case new =>
    intro dispatch listed
    rw [List.mem_singleton.1 listed]
    exact issueIn_eq_none_iff.2 absent
  case later =>
    intro dispatch listed key taskType had
    rw [List.mem_singleton.1 listed]
    exact apart had
  case apart => exact List.pairwise_singleton _ _

/-- A turn tells of the job that it hands out, if it hands one out. -/
theorem Turned.dispatches (turned : Turned program fiber work next) (fits : work.record.id.Fits)
    (found : work.fiber? fiber.id = some fiber) (ready : fiber.wait = .ready)
    (agrees : work.Agrees table) : ∃ told, Dispatches table work next told := by
  rcases turned.narrated found with ⟨middle, calm, rfl | rfl⟩ | ⟨key, name, _, _, rfl, -⟩ |
    ⟨node, closes⟩ | ⟨before, kind, message, calm, rfl⟩
  · exact ⟨_, calm.dispatches⟩
  · exact ⟨_, calm.dispatches.trans ((steady_completeIfIdle middle).dispatches
      (completeIfIdle_reportsNoJob middle).no_dispatch_of_nil)⟩
  · have absent := agrees.unissued fits found ready key work.record.jobInput
    exact ⟨_, agrees.dispatches_handOut rfl absent
      (fun had => agrees.apart fits found ready had key _)⟩
  · exact ⟨_, dispatches_close rfl closes⟩
  · have drawn : Reports RuntimeEvent.jobPhase? before
        { before with supply := ⟨before.supply.next + 1⟩ } [] := reports_of_same rfl
    exact ⟨_, calm.dispatches.trans ((steady_raise _ _ _ _ _ _).dispatches
      (drawn.trans (reportsNoJob_halt _ _)).no_dispatch_of_nil)⟩

/-- A sequence of turns tells of the jobs that it hands out. -/
theorem Ran.dispatches (ran : Ran program work next) (shapely : work.Shapely)
    (fits : work.record.id.Fits) (agrees : work.Agrees table) :
    ∃ told, Dispatches table work next told := by
  induction ran with
  | refl => exact ⟨[], .refl table work⟩
  | step prior running found ready turned ih =>
    obtain ⟨told, before⟩ := ih
    obtain ⟨more, after⟩ := turned.dispatches (prior.confined.id ▸ fits) found ready
      (prior.agrees shapely fits agrees)
    exact ⟨told ++ more, before.trans after⟩

/-! ## Changes -/

theorem dispatches_interrupt (work : UnitOfWork) (host : FiberId) :
    Dispatches table work (work.interrupt host).2 [] := by
  rw [interrupt]
  split
  · exact .refl table work
  · exact (dispatches_cancelAwaitedJob work _).trans_nil (calm_endFiber _ _).dispatches

theorem dispatches_fire (work : UnitOfWork) (watchdog : FiberId) (watch : Watch) :
    Dispatches table work (work.fire watchdog watch) [] := by
  have logged : work.Calm (work.emit (.boundaryFired watch.boundary watch.interrupting)) :=
    calm_emit work ⟨rfl, rfl, rfl⟩ rfl
  rw [fire]
  dsimp only
  refine .trans_nil ?_ ((calm_updateFiber _ _ _).trans (calm_wake _ _ _)).dispatches
  split
  · exact logged.dispatches.trans_nil (dispatches_interrupt _ _)
  · exact (logged.trans (calm_updateFiber _ _ _)).dispatches

theorem dispatches_deliver (work : UnitOfWork) (signal : WakeSignal) :
    Dispatches table work (work.deliver signal).2 [] := by
  rcases deliver_narrated work signal with calm | ⟨watch, accepted, -, rfl, same⟩
  · exact calm.dispatches
  · rw [same]
    exact (calm_accept work signal.flags signal.payload).dispatches.trans_nil
      (dispatches_fire _ _ _)

end UnitOfWork

open UnitOfWork

section

variable {store : MemoryStore} {work changed : UnitOfWork} {job : Job} {fiber : Fiber}
  {program : Program}

/-- A failure hands out nothing. -/
theorem Job.Failed.dispatches {outcome : FailureOutcome}
    (failed : job.Failed program work fiber outcome changed) (none : work.cancelledJobs = [])
    (stored : (work.jobsOver store.jobs).get? job.key = some job) :
    Dispatches store.jobs work changed [] := by
  have id := failed.continues.id
  cases failed with
  | retry notBefore problem =>
    exact dispatches_of_write (job.scheduleRetry notBefore problem) id stored rfl
      (get?_jobsOver_emit_updateJob work none store.jobs _ _) ⟨[_], rfl, rfl⟩
  | bury kind problem expires =>
    have stopped := (job.reports_stopped kind problem fiber.pc work).no_dispatch_of_nil
    exact dispatches_of_write (job.setAside problem) id stored rfl
      (job.get?_jobsOver_buried none store.jobs kind problem expires fiber.pc)
      (stopped.trans ⟨[_], rfl, rfl⟩)
  | route problem leads =>
    rename_i code target
    have finished : Reports RuntimeEvent.dispatch? work (Job.finished { job with
      lastError := some problem } (.jobErrorRouted job.key code) work) [] := ⟨[_], rfl, rfl⟩
    have woken := (calm_dropWatchdog (Job.finished { job with lastError := some problem }
      (.jobErrorRouted job.key code) work) fiber).trans (calm_wake _ job.fiber target)
    exact dispatches_of_write { job with lastError := some problem, status := .completed } id stored
      rfl (job.get?_jobsOver_routed none store.jobs problem code target fiber)
      (finished.trans woken.reportsNoJob.no_dispatch_of_nil)

/-- No change hands out anything. -/
theorem Intervened.dispatches {id : InstanceId} {purpose : Purpose}
    (intervened : Intervened store id program work purpose changed) (filed : store.Filed)
    (clean : work.jobs = []) (none : work.cancelledJobs = []) :
    Dispatches store.jobs work changed [] := by
  have continues := intervened.continues
  have begun : work.jobsOver store.jobs = store.jobs := jobsOver_of_none store.jobs clean none
  cases intervened with
  | run | dismiss | discard => exact .refl _ work
  | cancel running closes => exact dispatches_close rfl closes
  | complete stored owned first wanted completion =>
    rename_i key job fiber
    obtain rfl := filed.keyed stored
    have there : (work.jobsOver store.jobs).get? job.key = some job := begun.symm ▸ stored
    refine dispatches_of_write { job with status := .completed } continues.id there rfl
      (job.get?_jobsOver_applied none store.jobs completion fiber.pc)
      ((job.reports_applied completion fiber.pc work).no_dispatch (fun phase listed => ?_))
    rw [List.mem_singleton.1 listed]
    exact nofun
  | record stored owned first unwanted completion =>
    exact dispatches_of_same rfl (fun _ => rfl) (reports_emit _ rfl)
  | fail stored owned wanted failed =>
    obtain rfl := filed.keyed stored
    exact failed.dispatches none (begun.symm ▸ stored)
  | deliver running signal => exact dispatches_deliver work signal
  | restart stored settles running alone owned closed =>
    rename_i key incident resolved
    have restarted := calm_restart (work.emit (.incidentResolved incident.id)) program resolved
    have steady := ((steady_emit work _).trans restarted.toSteady).trans
      (steady_putIncident _ resolved)
    exact steady.dispatches (((reports_emit work rfl).trans
      restarted.reportsNoJob.no_dispatch_of_nil).trans (reports_of_same rfl))
  | settle stored settles owned closed =>
    exact ((steady_emit work _).trans (steady_putIncident _ _)).dispatches (reports_emit work rfl)
  | requeue stored owned running found waits settles =>
    rename_i place letter fiber incident settled
    have kept := (filed.letters stored).stored
    rw [← filed.keyed kept, ← begun] at kept
    have steady := settles.steady (.jobRequeued letter.key)
    have parked := calm_park work letter.job.fiber fiber.pc (.job letter.key)
    have requeued : Reports RuntimeEvent.dispatch? work (letter.requeued fiber.pc work) [] :=
      parked.reportsNoJob.no_dispatch_of_nil.trans (reports_of_same rfl)
    have still : Reports RuntimeEvent.dispatch? work settled [] := by
      cases settles with
      | nothing => exact requeued
      | incident found settles closed =>
        exact requeued.trans ((reports_emit _ rfl).trans (reports_of_same rfl))
    refine dispatches_of_write (letter.renewed work.time) continues.id kept rfl ?_
      (still.trans (reports_emit _ rfl))
    rw [steady.jobsOver]
    exact letter.get?_jobsOver_requeued none store.jobs fiber.pc
  | abandon stored owned =>
    rename_i place letter
    have kept := (filed.letters stored).stored
    rw [← filed.keyed kept, ← begun] at kept
    exact dispatches_of_write { letter.job with status := .cancelled } continues.id kept rfl
      (letter.get?_jobsOver_abandoned none store.jobs) ⟨[_], rfl, rfl⟩

end

end ProcessEngine
