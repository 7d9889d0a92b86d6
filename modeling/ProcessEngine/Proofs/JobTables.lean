import ProcessEngine.Proofs.Commits

/-!
# The jobs that a unit of work leads to

A transition lists the jobs that are written and those that are cancelled afterwards, so what
a unit of work has done to the stored jobs is a table of its own (`UnitOfWork.jobsOver`). Every
turn only adds jobs and cancels open ones: a job that is not open stays as it is.
-/

namespace ProcessEngine

/-! ## Cancelling jobs -/

/-- The job, cancelled if it is open. -/
def Job.withdrawn (job : Job) : Job :=
  if job.status.isOpen then { job with status := .cancelled } else job

namespace Job

variable {job later last : Job}

@[simp] theorem withdrawn_of_open (pending : job.status.isOpen = true) :
    job.withdrawn = { job with status := .cancelled } := if_pos pending

@[simp] theorem withdrawn_of_closed (closed : job.status.isOpen = false) :
    job.withdrawn = job := by
  rw [withdrawn, if_neg (by simp [closed])]

theorem withdrawn_closed (job : Job) : job.withdrawn.status.isOpen = false := by
  cases pending : job.status.isOpen with
  | true =>
    rw [withdrawn_of_open pending]
    rfl
  | false =>
    rw [withdrawn_of_closed pending]
    exact pending

/-- A job as it may be later: it is the same dispatch, and unless it was open nothing changed. -/
structure Develops (job later : Job) : Prop where
  key : later.key = job.key
  owner : later.owner = job.owner
  fiber : later.fiber = job.fiber
  taskType : later.taskType = job.taskType
  closed : job.status.isOpen = false -> later = job

theorem Develops.refl (job : Job) : job.Develops job := ⟨rfl, rfl, rfl, rfl, fun _ => rfl⟩

theorem Develops.trans (earlier : job.Develops later) (rest : later.Develops last) :
    job.Develops last where
  key := rest.key.trans earlier.key
  owner := rest.owner.trans earlier.owner
  fiber := rest.fiber.trans earlier.fiber
  taskType := rest.taskType.trans earlier.taskType
  closed closed := by
    have same := earlier.closed closed
    subst same
    exact rest.closed closed

/-- An open job may become anything that is the same dispatch. -/
theorem Develops.of_open (pending : job.status.isOpen = true) (key : later.key = job.key)
    (owner : later.owner = job.owner) (fiber : later.fiber = job.fiber)
    (taskType : later.taskType = job.taskType) : job.Develops later :=
  ⟨key, owner, fiber, taskType, fun closed => by rw [closed] at pending; cases pending⟩

theorem develops_withdrawn (job : Job) : job.Develops job.withdrawn := by
  cases pending : job.status.isOpen with
  | true =>
    rw [withdrawn_of_open pending]
    exact .of_open pending rfl rfl rfl rfl
  | false =>
    rw [withdrawn_of_closed pending]
    exact .refl job

end Job

namespace MemoryStore

theorem get?_cancelJob (jobs : OrderedMap JobKey Job) (key asked : JobKey) :
    (cancelJob jobs key).get? asked =
      if asked = key then (jobs.get? asked).map Job.withdrawn else jobs.get? asked :=
  OrderedMap.get?_modify jobs key _ asked

/-- Of the jobs, the named ones are cancelled. -/
theorem get?_foldl_cancelJob (keys : List JobKey) (jobs : OrderedMap JobKey Job)
    (asked : JobKey) :
    (keys.foldl cancelJob jobs).get? asked =
      if asked ∈ keys then (jobs.get? asked).map Job.withdrawn else jobs.get? asked := by
  induction keys generalizing jobs with
  | nil => simp
  | cons head rest ih =>
    rw [List.foldl_cons, ih, get?_cancelJob]
    by_cases same : asked = head
    · subst same
      simp only [if_true, List.mem_cons, true_or, Option.map_map]
      split
      · congr 1
        funext job
        exact Job.withdrawn_of_closed job.withdrawn_closed
      · rfl
    · simp [same]

end MemoryStore

/-! ## The table that a unit of work leads to -/

namespace UnitOfWork

/-- What becomes of a table of jobs when the work is stored. -/
def jobsOver (work : UnitOfWork) (table : OrderedMap JobKey Job) : OrderedMap JobKey Job :=
  work.cancelledJobs.foldl MemoryStore.cancelJob (work.jobs.foldl MemoryStore.writeJob table)

variable {work next : UnitOfWork} {job : Job} (table : OrderedMap JobKey Job)

theorem jobs_apply (work : UnitOfWork) (store : MemoryStore) :
    (store.apply work.finish.1).jobs = work.jobsOver store.jobs := rfl

theorem jobsOver_eq (jobs : next.jobs = work.jobs)
    (cancelled : next.cancelledJobs = work.cancelledJobs) :
    next.jobsOver table = work.jobsOver table := by
  rw [jobsOver, jobsOver, jobs, cancelled]

theorem Steady.jobsOver (steady : work.Steady next) :
    next.jobsOver table = work.jobsOver table :=
  jobsOver_eq table steady.jobs steady.cancelledJobs

/-- Work that begins has not changed any job. -/
theorem jobsOver_of_none (jobs : work.jobs = []) (cancelled : work.cancelledJobs = []) :
    work.jobsOver table = table := by
  rw [UnitOfWork.jobsOver, jobs, cancelled]
  rfl

theorem get?_jobsOver_cancelJob (work : UnitOfWork) (key asked : JobKey) :
    ((work.cancelJob key).jobsOver table).get? asked =
      if asked = key then ((work.jobsOver table).get? asked).map Job.withdrawn
      else (work.jobsOver table).get? asked := by
  rw [UnitOfWork.jobsOver]
  change ((work.cancelledJobs ++ [key]).foldl MemoryStore.cancelJob _).get? asked = _
  rw [List.foldl_append]
  exact MemoryStore.get?_cancelJob _ key asked

/-- A dispatch adds a job unless there is one of the same key. -/
theorem get?_jobsOver_dispatch (work : UnitOfWork) (job : Job) (asked : JobKey) :
    ((work.dispatch job).jobsOver table).get? asked =
      ((work.jobsOver table).get? asked).or (if asked = job.key then
        some (if asked ∈ work.cancelledJobs then job.withdrawn else job) else none) := by
  rw [UnitOfWork.jobsOver, UnitOfWork.jobsOver]
  change (work.cancelledJobs.foldl MemoryStore.cancelJob
    ((work.jobs ++ [JobWrite.dispatch job]).foldl MemoryStore.writeJob table)).get? asked = _
  rw [List.foldl_append, List.foldl_cons, List.foldl_nil, MemoryStore.writeJob,
    MemoryStore.get?_foldl_cancelJob, MemoryStore.get?_foldl_cancelJob,
    OrderedMap.get?_insertNew]
  by_cases same : asked = job.key
  · cases (work.jobs.foldl MemoryStore.writeJob table).get? asked <;> split <;> simp_all
  · cases (work.jobs.foldl MemoryStore.writeJob table).get? asked <;> split <;> simp_all

/-- An update replaces a job while none is noted as cancelled. -/
theorem get?_jobsOver_updateJob (work : UnitOfWork) (none : work.cancelledJobs = []) (job : Job)
    (asked : JobKey) :
    ((work.updateJob job).jobsOver table).get? asked =
      if asked = job.key then some job else (work.jobsOver table).get? asked := by
  rw [UnitOfWork.jobsOver, UnitOfWork.jobsOver]
  change (work.cancelledJobs.foldl MemoryStore.cancelJob ((work.jobs ++ [JobWrite.update job]).foldl
    MemoryStore.writeJob table)).get? asked = _
  rw [none, List.foldl_append]
  exact OrderedMap.get?_insert _ _ _ _

end UnitOfWork

/-! ## How tables of jobs develop -/

/-- A table as it may be after work on an instance: jobs develop, and new ones are the
instance's. -/
structure TableDevelops (owner : InstanceId) (jobs later : OrderedMap JobKey Job) : Prop where
  kept : ∀ {key job}, jobs.get? key = some job ->
    ∃ job', later.get? key = some job' ∧ job.Develops job'
  added : ∀ {key job}, jobs.get? key = none -> later.get? key = some job ->
    job.key = key ∧ job.owner = owner

namespace TableDevelops

variable {owner : InstanceId} {jobs later last : OrderedMap JobKey Job}

theorem refl (owner : InstanceId) (jobs : OrderedMap JobKey Job) :
    TableDevelops owner jobs jobs := by
  constructor
  · intro key job found
    exact ⟨job, found, .refl job⟩
  · intro key job absent found
    rw [absent] at found
    cases found

theorem trans (earlier : TableDevelops owner jobs later) (rest : TableDevelops owner later last) :
    TableDevelops owner jobs last := by
  constructor
  · intro key job found
    obtain ⟨job', found', develops⟩ := earlier.kept found
    obtain ⟨job'', found'', develops'⟩ := rest.kept found'
    exact ⟨job'', found'', develops.trans develops'⟩
  · intro key job absent found
    cases middle : later.get? key with
    | none => exact rest.added middle found
    | some job' =>
      obtain ⟨named, owned⟩ := earlier.added absent middle
      obtain ⟨job'', found', develops⟩ := rest.kept middle
      rw [found] at found'
      cases found'
      exact ⟨develops.key.trans named, develops.owner.trans owned⟩

/-- A job that is not open stays. -/
theorem closed (develops : TableDevelops owner jobs later) {key : JobKey} {job : Job}
    (found : jobs.get? key = some job) (closed : job.status.isOpen = false) :
    later.get? key = some job := by
  obtain ⟨job', found', same⟩ := develops.kept found
  rw [found', same.closed closed]

/-- Every later job was there or is the instance's. -/
theorem origin (develops : TableDevelops owner jobs later) {key : JobKey} {job : Job}
    (found : later.get? key = some job) :
    (∃ former, jobs.get? key = some former ∧ former.Develops job) ∨
      job.key = key ∧ job.owner = owner := by
  cases before : jobs.get? key with
  | none => exact .inr (develops.added before found)
  | some former =>
    obtain ⟨job', found', same⟩ := develops.kept before
    rw [found] at found'
    cases found'
    exact .inl ⟨former, rfl, same⟩

end TableDevelops

/-- A table after turns of an instance: of the jobs that were there some are cancelled, and new ones
are the instance's. -/
structure TableWithdraws (owner : InstanceId) (jobs later : OrderedMap JobKey Job) : Prop where
  kept : ∀ {key job}, jobs.get? key = some job ->
    later.get? key = some job ∨ later.get? key = some job.withdrawn
  added : ∀ {key job}, jobs.get? key = none -> later.get? key = some job ->
    job.key = key ∧ job.owner = owner

namespace TableWithdraws

variable {owner : InstanceId} {jobs later last : OrderedMap JobKey Job}

theorem refl (owner : InstanceId) (jobs : OrderedMap JobKey Job) :
    TableWithdraws owner jobs jobs := by
  refine ⟨.inl, ?_⟩
  intro key job absent found
  rw [absent] at found
  cases found

theorem trans (earlier : TableWithdraws owner jobs later)
    (rest : TableWithdraws owner later last) : TableWithdraws owner jobs last := by
  constructor
  · intro key job found
    rcases earlier.kept found with same | withdrawn
    · exact rest.kept same
    · have still := rest.kept withdrawn
      rw [Job.withdrawn_of_closed job.withdrawn_closed, or_self] at still
      exact .inr still
  · intro key job absent found
    cases middle : later.get? key with
    | none => exact rest.added middle found
    | some job' =>
      obtain ⟨named, owned⟩ := earlier.added absent middle
      rcases rest.kept middle with same | withdrawn
      · cases same.symm.trans found
        exact ⟨named, owned⟩
      · cases withdrawn.symm.trans found
        have develops := job'.develops_withdrawn
        exact ⟨develops.key.trans named, develops.owner.trans owned⟩

/-- To be cancelled is a development. -/
theorem develops (withdraws : TableWithdraws owner jobs later) :
    TableDevelops owner jobs later := by
  refine ⟨fun {key job} found => ?_, withdraws.added⟩
  rcases withdraws.kept found with same | withdrawn
  · exact ⟨job, same, .refl job⟩
  · exact ⟨_, withdrawn, job.develops_withdrawn⟩

end TableWithdraws

namespace UnitOfWork

variable {work next : UnitOfWork} {program : Program} {fiber : Fiber}
  (table : OrderedMap JobKey Job)

theorem Steady.withdraws (steady : work.Steady next) (owner : InstanceId) :
    TableWithdraws owner (work.jobsOver table) (next.jobsOver table) := by
  rw [steady.jobsOver]
  exact .refl owner _

theorem Steady.develops (steady : work.Steady next) (owner : InstanceId) :
    TableDevelops owner (work.jobsOver table) (next.jobsOver table) :=
  (steady.withdraws table owner).develops

theorem withdraws_cancelJob (work : UnitOfWork) (key : JobKey) (owner : InstanceId) :
    TableWithdraws owner (work.jobsOver table) ((work.cancelJob key).jobsOver table) := by
  constructor
  · intro asked job found
    rw [get?_jobsOver_cancelJob, found]
    split
    · exact .inr rfl
    · exact .inl rfl
  · intro asked job absent found
    rw [get?_jobsOver_cancelJob, absent] at found
    split at found
    · cases found
    · cases found

theorem withdraws_dispatch (work : UnitOfWork) (job : Job) :
    TableWithdraws job.owner (work.jobsOver table) ((work.dispatch job).jobsOver table) := by
  constructor
  · intro asked present found
    rw [get?_jobsOver_dispatch, found]
    exact .inl rfl
  · intro asked other absent found
    rw [get?_jobsOver_dispatch, absent, Option.none_or] at found
    split at found
    · rename_i same
      cases found
      split
      · exact ⟨job.develops_withdrawn.key.trans same.symm, job.develops_withdrawn.owner⟩
      · exact ⟨same.symm, rfl⟩
    · cases found

theorem withdraws_cancelAwaitedJob (work : UnitOfWork) (fiber : Fiber) (owner : InstanceId) :
    TableWithdraws owner (work.jobsOver table) ((work.cancelAwaitedJob fiber).jobsOver table) := by
  rw [cancelAwaitedJob]
  split
  · exact withdraws_cancelJob table work _ owner
  · exact .refl owner _

theorem withdraws_close {status : InstanceStatus} {event : RuntimeEvent}
    (closes : work.close status event = .ok next) (owner : InstanceId) :
    TableWithdraws owner (work.jobsOver table) (next.jobsOver table) := by
  refine @close_keeps work
    (fun reached => TableWithdraws owner (work.jobsOver table) (reached.jobsOver table))
    (fun {reached} fiber withdraws => ?_)
    (fun _ _ withdraws => withdraws.trans ((steady_conclude _ _ _).withdraws table owner))
    (.refl owner _) _ _ _ closes
  exact (withdraws.trans (withdraws_cancelAwaitedJob table reached fiber owner)).trans
    ((steady_endFiber _ _).withdraws table owner)

/-- A turn only adds jobs and cancels open ones. -/
theorem Turned.withdraws (turned : Turned program fiber work next) :
    TableWithdraws work.record.id (work.jobsOver table) (next.jobsOver table) := by
  rcases turned.reaches with steady | ⟨key, name, node, retries, rfl, -⟩ | ⟨node, closes⟩
  · exact steady.withdraws table _
  · let job := Job.first work.record fiber key name retries work.time
    have parked := steady_park (work.dispatch job) fiber.id fiber.pc (.job job.key)
    exact (withdraws_dispatch table work job).trans (parked.withdraws table _)
  · exact withdraws_close table closes _

/-- A sequence of turns only adds jobs and cancels open ones. -/
theorem Ran.withdraws (ran : Ran program work next) :
    TableWithdraws work.record.id (work.jobsOver table) (next.jobsOver table) := by
  induction ran with
  | refl => exact .refl _ _
  | step prior running found ready turned ih =>
    have withdraws := turned.withdraws table
    rw [prior.confined.id] at withdraws
    exact ih.trans withdraws

end UnitOfWork

end ProcessEngine
