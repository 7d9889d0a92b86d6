import ProcessEngine.Proofs.JobTables

/-!
# Filed jobs and dead letters

Every stored job is found under its own key, and a dead letter holds its job just as it is
stored (`MemoryStore.Filed`). A job that is completed or cancelled therefore stays as it is
forever: only what a dead letter holds is ever taken up again, and that is set aside.
-/

namespace ProcessEngine

/-- A dead letter at its place, which holds a stored job that is set aside. -/
structure DeadLetter.Filed (letter : DeadLetter) (place : DeadLetterKey)
    (jobs : OrderedMap JobKey Job) : Prop where
  place : letter.place = place
  taskType : letter.taskType = letter.job.taskType
  stored : jobs.get? letter.key = some letter.job
  aside : letter.job.status = .deadLettered

/-- Jobs are found under their keys and dead letters hold them as they are stored. -/
structure MemoryStore.Filed (store : MemoryStore) : Prop where
  keyed : ∀ {key job}, store.jobs.get? key = some job -> job.key = key
  letters : ∀ {place letter}, store.deadLetters.get? place = some letter ->
    letter.Filed place store.jobs

namespace DeadLetter

variable {letter letter' : DeadLetter} {place place' : DeadLetterKey}
  {jobs jobs' : OrderedMap JobKey Job}

/-- A job is set aside in one place only. -/
theorem Filed.unique (filed : letter.Filed place jobs) (filed' : letter'.Filed place' jobs)
    (same : letter.key = letter'.key) : place = place' := by
  have stored := filed.stored
  rw [same, filed'.stored] at stored
  have job : letter'.job = letter.job := Option.some.inj stored
  rw [← filed.place, ← filed'.place, DeadLetter.place, DeadLetter.place, filed.taskType,
    filed'.taskType, job, same]

/-- A letter stays filed as long as its job stays. -/
theorem Filed.of_same (filed : letter.Filed place jobs)
    (same : jobs'.get? letter.key = some letter.job) : letter.Filed place jobs' :=
  ⟨filed.place, filed.taskType, same, filed.aside⟩

theorem Filed.closed (filed : letter.Filed place jobs) : letter.job.status.isOpen = false := by
  rw [filed.aside]
  rfl

end DeadLetter

/-! ## What a change files -/

/-- An update is a development if the job that it replaces may develop into it. -/
theorem TableDevelops.of_update {jobs later : OrderedMap JobKey Job} {former : Job} (job : Job)
    (found : jobs.get? job.key = some former) (develops : former.Develops job)
    (update : ∀ asked, later.get? asked = if asked = job.key then some job else jobs.get? asked)
    (owner : InstanceId) : TableDevelops owner jobs later := by
  constructor
  · intro asked present stored
    rw [update]
    split
    · rename_i same
      rw [same, found] at stored
      cases stored
      exact ⟨job, rfl, develops⟩
    · exact ⟨present, stored, .refl present⟩
  · intro asked other absent stored
    rw [update] at stored
    split at stored
    · rename_i same
      rw [same, found] at absent
      cases absent
    · rw [absent] at stored
      cases stored

namespace UnitOfWork

variable {work next : UnitOfWork} {job : Job} (table : OrderedMap JobKey Job)

theorem develops_interrupt (work : UnitOfWork) (host : FiberId) (owner : InstanceId) :
    TableDevelops owner (work.jobsOver table) ((work.interrupt host).2.jobsOver table) := by
  rw [interrupt]
  split
  · exact .refl owner _
  · exact (withdraws_cancelAwaitedJob table work _ owner).develops.trans
      ((steady_endFiber _ _).develops table owner)

theorem develops_fire (work : UnitOfWork) (watchdog : FiberId) (watch : Watch)
    (owner : InstanceId) :
    TableDevelops owner (work.jobsOver table) ((work.fire watchdog watch).jobsOver table) := by
  rw [fire]
  dsimp only
  refine .trans ?_ (((steady_updateFiber _ _ _).trans (steady_wake _ _ _)).develops table owner)
  split
  · exact ((steady_emit work _).develops table owner).trans (develops_interrupt table _ _ owner)
  · exact ((steady_emit work _).trans (steady_updateFiber _ _ _)).develops table owner

theorem develops_deliver (work : UnitOfWork) (signal : WakeSignal) (owner : InstanceId) :
    TableDevelops owner (work.jobsOver table) ((work.deliver signal).2.jobsOver table) := by
  rw [deliver]
  split
  · exact (steady_emit work _).develops table owner
  · rename_i how _
    refine ((steady_accept work signal.flags signal.payload).develops table owner).trans ?_
    cases how with
    | goOn pc => exact (steady_wake _ _ pc).develops table owner
    | win race winner losers =>
      have cancelled := related_foldl Steady.refl Steady.trans
        (fun work target => steady_emit work (.raceArmCancelled race target)) losers
      exact (((steady_emit _ _).trans (cancelled _)).trans (steady_wake _ _ _)).develops table owner
    | fire watch => exact develops_fire table _ _ watch owner

end UnitOfWork

open UnitOfWork

theorem UnitOfWork.get?_jobsOver_emit_updateJob (work : UnitOfWork)
    (none : work.cancelledJobs = []) (table : OrderedMap JobKey Job) (job : Job)
    (event : RuntimeEvent) (asked : JobKey) :
    (((work.updateJob job).emit event).jobsOver table).get? asked =
      if asked = job.key then some job else (work.jobsOver table).get? asked := by
  rw [(steady_emit _ event).jobsOver, get?_jobsOver_updateJob table work none]

section

variable {work : UnitOfWork} (none : work.cancelledJobs = []) (table : OrderedMap JobKey Job)

include none

/-- A completion completes its job. -/
theorem Job.get?_jobsOver_applied (job : Job) (completion : JobCompletion) (pc : Address)
    (asked : JobKey) :
    ((job.applied completion pc work).jobsOver table).get? asked =
      if asked = job.key then some { job with status := .completed }
      else (work.jobsOver table).get? asked := by
  have recorded := UnitOfWork.get?_jobsOver_emit_updateJob
    (work.recordCompletion ⟨job.key, completion, true, work.time⟩) none table
    { job with status := .completed } (.jobCompleted job.key) asked
  rw [Job.applied, (steady_wake _ _ _).jobsOver, (steady_accept _ _ _).jobsOver]
  exact recorded

/-- A business error that is routed completes its job. -/
theorem Job.get?_jobsOver_routed (job : Job) (problem code : String) (target : Address)
    (fiber : Fiber) (asked : JobKey) :
    ((job.routed problem code target fiber work).jobsOver table).get? asked =
      if asked = job.key then some { job with lastError := some problem, status := .completed }
      else (work.jobsOver table).get? asked := by
  rw [Job.routed, (steady_wake _ _ _).jobsOver, (steady_dropWatchdog _ _).jobsOver]
  exact get?_jobsOver_emit_updateJob work none table _ _ asked

/-- A job that fails for good is set aside. -/
theorem Job.get?_jobsOver_buried (job : Job) (kind : FaultClass) (problem : String)
    (expires : Instant) (pc : Address) (asked : JobKey) :
    ((job.buried kind problem expires pc work).jobsOver table).get? asked =
      if asked = job.key then some (job.setAside problem)
      else (work.jobsOver table).get? asked := by
  have steady := job.steady_stopped kind problem pc work
  have still : ((job.stopped kind problem pc work).putDeadLetter
      (job.letter problem ⟨work.supply.next⟩ work.time expires)).cancelledJobs = [] :=
    steady.cancelledJobs.trans none
  rw [Job.buried, Job.shelved, (steady_emit _ _).jobsOver, get?_jobsOver_updateJob table _ still,
    ← steady.jobsOver]
  rfl

/-- A job that is put back is pending again. -/
theorem DeadLetter.get?_jobsOver_requeued (letter : DeadLetter) (pc : Address) (asked : JobKey) :
    ((letter.requeued pc work).jobsOver table).get? asked =
      if asked = letter.job.key then some (letter.renewed work.time)
      else (work.jobsOver table).get? asked := by
  have steady := steady_park work letter.job.fiber pc (.job letter.key)
  rw [← steady.jobsOver]
  exact get?_jobsOver_updateJob table _ (steady.cancelledJobs.trans none) _ asked

/-- A job that is given up is cancelled. -/
theorem DeadLetter.get?_jobsOver_abandoned (letter : DeadLetter) (asked : JobKey) :
    ((letter.abandoned work).jobsOver table).get? asked =
      if asked = letter.job.key then some { letter.job with status := .cancelled }
      else (work.jobsOver table).get? asked := by
  exact get?_jobsOver_emit_updateJob work none table { letter.job with status := .cancelled }
    (.jobCancelled letter.key) asked

end

/-- What a change does to jobs and dead letters. -/
inductive Refiled (store : MemoryStore) (id : InstanceId) (work : UnitOfWork) : Prop where
  /-- No dead letter is touched. -/
  | aside (develops : TableDevelops id store.jobs (work.jobsOver store.jobs))
      (letters : work.deadLetters = []) (removed : work.removedDeadLetters = [])
  /-- An open job is set aside. -/
  | bury {job : Job} {problem : String} {incident : IncidentId} {now expires : Instant}
      (stored : store.jobs.get? job.key = some job) (pending : job.status.isOpen = true)
      (jobs : ∀ asked, (work.jobsOver store.jobs).get? asked =
        if asked = job.key then some (job.setAside problem) else store.jobs.get? asked)
      (letters : work.deadLetters = [job.letter problem incident now expires])
      (removed : work.removedDeadLetters = [])
  /-- The job of a dead letter is put back or given up. -/
  | take {place : DeadLetterKey} {letter : DeadLetter} (job : Job)
      (stored : store.deadLetters.get? place = some letter) (key : job.key = letter.job.key)
      (jobs : ∀ asked, (work.jobsOver store.jobs).get? asked =
        if asked = job.key then some job else store.jobs.get? asked)
      (letters : work.deadLetters = []) (removed : work.removedDeadLetters = [letter.place])

/-- Every change of work that begins has one of these effects. -/
theorem Intervened.refiled {store : MemoryStore} {id : InstanceId} {program : Program}
    {state : InstanceState} {now : Instant} {supply : IdSupply} {purpose : Purpose}
    {changed : UnitOfWork} (filed : store.Filed)
    (intervened : Intervened store id program (.begin state now supply) purpose changed) :
    Refiled store id changed := by
  have calm : ∀ {next : UnitOfWork}, (UnitOfWork.begin state now supply).Steady next ->
      Refiled store id next := by
    intro next steady
    exact .aside (steady.develops store.jobs id) steady.deadLetters steady.removedDeadLetters
  cases intervened with
  | run => exact calm (.refl _)
  | cancel running closes =>
    have confined := confined_close closes
    exact .aside (withdraws_close store.jobs closes id).develops confined.deadLetters
      confined.removedDeadLetters
  | complete stored owned first wanted completion =>
    rename_i key job fiber
    obtain rfl := filed.keyed stored
    refine .aside (.of_update { job with status := .completed } stored
      (.of_open wanted.pending rfl rfl rfl rfl) ?_ id) ?_ ?_
    · exact job.get?_jobsOver_applied rfl store.jobs completion fiber.pc
    all_goals
      have steady := (steady_accept (job.finished (.jobCompleted job.key)
        ((UnitOfWork.begin state now supply).recordCompletion
          ⟨job.key, completion, true, now⟩)) completion.flags completion.payload).trans
        (steady_wake _ job.fiber (fiber.pc + 1))
    · exact steady.deadLetters
    · exact steady.removedDeadLetters
  | record stored owned first unwanted completion =>
    exact .aside (.refl id store.jobs) rfl rfl
  | fail stored owned wanted failed =>
    rename_i key job fiber outcome
    obtain rfl := filed.keyed stored
    cases failed with
    | retry notBefore problem =>
      refine .aside (.of_update (job.scheduleRetry notBefore problem) stored
        (.of_open wanted.pending rfl rfl rfl rfl) ?_ id) rfl rfl
      exact get?_jobsOver_emit_updateJob _ rfl store.jobs (job.scheduleRetry notBefore problem) _
    | bury kind problem expires =>
      have steady := job.steady_stopped kind problem fiber.pc (.begin state now supply)
      have letters : (job.buried kind problem expires fiber.pc
          (.begin state now supply)).deadLetters =
            [job.letter problem ⟨supply.next⟩ now expires] := by
        rw [Job.buried, Job.deadLetters_shelved, steady.deadLetters]
        rfl
      have removed : (job.buried kind problem expires fiber.pc
          (.begin state now supply)).removedDeadLetters = [] := by
        rw [Job.buried, Job.removedDeadLetters_shelved]
        exact steady.removedDeadLetters
      exact .bury stored wanted.pending
        (job.get?_jobsOver_buried rfl store.jobs kind problem expires fiber.pc) letters removed
    | route problem leads =>
      rename_i code target
      refine .aside (.of_update { job with
          lastError := some problem
          status := .completed } stored
        (.of_open wanted.pending rfl rfl rfl rfl) ?_ id) ?_ ?_
      · exact job.get?_jobsOver_routed rfl store.jobs problem code target fiber
      all_goals
        have steady := (steady_dropWatchdog (Job.finished { job with lastError := some problem }
          (.jobErrorRouted job.key code) (.begin state now supply)) fiber).trans
          (steady_wake _ job.fiber target)
      · exact steady.deadLetters
      · exact steady.removedDeadLetters
  | dismiss => exact calm (.refl _)
  | deliver running signal =>
    have confined := confined_deliver (.begin state now supply) signal
    exact .aside (develops_deliver store.jobs (.begin state now supply) signal id)
      confined.deadLetters confined.removedDeadLetters
  | discard => exact calm (.refl _)
  | restart stored settles running alone owned closed =>
    exact calm (((steady_emit _ _).trans (steady_restart _ _ _)).trans (steady_putIncident _ _))
  | settle stored settles owned closed =>
    exact calm ((steady_emit _ _).trans (steady_putIncident _ _))
  | requeue stored owned running found waits settles =>
    rename_i place letter fiber incident settled
    have steady := settles.steady (.jobRequeued letter.key)
    have parked := steady_park (.begin state now supply) letter.job.fiber fiber.pc
      (.job letter.key)
    refine .take (letter.renewed now) stored rfl ?_ ?_ ?_
    · rw [steady.jobsOver]
      exact letter.get?_jobsOver_requeued rfl store.jobs fiber.pc
    · rw [steady.deadLetters, letter.deadLetters_requeued]
      exact parked.deadLetters
    · rw [steady.removedDeadLetters, letter.removedDeadLetters_requeued, parked.removedDeadLetters]
      rfl
  | abandon stored owned =>
    rename_i place letter
    refine .take { letter.job with status := .cancelled } stored rfl ?_ rfl rfl
    exact letter.get?_jobsOver_abandoned rfl store.jobs

namespace Refiled

variable {store : MemoryStore} {id : InstanceId} {changed work : UnitOfWork}

/-- Jobs are still found under their keys. -/
theorem keyed (refiled : Refiled store id changed) (filed : store.Filed) {key : JobKey} {job : Job}
    (found : (changed.jobsOver store.jobs).get? key = some job) : job.key = key := by
  cases refiled with
  | aside develops letters removed =>
    rcases develops.origin found with ⟨former, before, same⟩ | ⟨named, -⟩
    · exact same.key.trans (filed.keyed before)
    · exact named
  | bury stored pending jobs letters removed =>
    rw [jobs] at found
    split at found
    · rename_i same
      cases found
      exact same.symm
    · exact filed.keyed found
  | take job' stored key jobs letters removed =>
    rw [jobs] at found
    split at found
    · rename_i same
      cases found
      exact same.symm
    · exact filed.keyed found

/-- No job is dropped. -/
theorem kept (refiled : Refiled store id changed) {key : JobKey} {job : Job}
    (found : store.jobs.get? key = some job) :
    ∃ job', (changed.jobsOver store.jobs).get? key = some job' := by
  cases refiled with
  | aside develops letters removed =>
    obtain ⟨job', found', -⟩ := develops.kept found
    exact ⟨job', found'⟩
  | bury stored pending jobs letters removed =>
    rw [jobs]
    split
    · exact ⟨_, rfl⟩
    · exact ⟨job, found⟩
  | take job' stored key' jobs letters removed =>
    rw [jobs]
    split
    · exact ⟨_, rfl⟩
    · exact ⟨job, found⟩

/-- A job that is neither open nor set aside stays as it is. -/
theorem final (refiled : Refiled store id changed) (filed : store.Filed) {key : JobKey} {job : Job}
    (found : store.jobs.get? key = some job) (closed : job.status.isOpen = false)
    (final : job.status ≠ .deadLettered) :
    (changed.jobsOver store.jobs).get? key = some job := by
  cases refiled with
  | aside develops letters removed => exact develops.closed found closed
  | bury stored pending jobs letters removed =>
    rw [jobs, if_neg]
    · exact found
    · rintro rfl
      cases stored.symm.trans found
      rw [closed] at pending
      cases pending
  | take other stored key' jobs letters removed =>
    rename_i place letter
    have held := filed.letters stored
    rw [jobs, if_neg]
    · exact found
    · rintro rfl
      have same : letter.job.key = letter.key := filed.keyed held.stored
      rw [key', same, held.stored] at found
      cases found
      exact final held.aside

/-- What a change files is kept by the turns that follow it. -/
theorem filed (refiled : Refiled store id changed) (filed : store.Filed)
    (confined : changed.Confined work)
    (develops : TableDevelops id (changed.jobsOver store.jobs) (work.jobsOver store.jobs)) :
    (store.apply work.finish.1).Filed := by
  constructor
  · intro key job found
    rcases develops.origin found with ⟨former, before, same⟩ | ⟨named, -⟩
    · exact same.key.trans (refiled.keyed filed before)
    · exact named
  · intro place letter found
    have kept : ∀ {letter : DeadLetter}, letter.Filed place (changed.jobsOver store.jobs) ->
        letter.Filed place (work.jobsOver store.jobs) :=
      fun held => held.of_same (develops.closed held.stored held.closed)
    change OrderedMap.get? (work.deadLetters.foldl _ (work.removedDeadLetters.foldl _ _)) place =
      some letter at found
    rw [confined.deadLetters, confined.removedDeadLetters] at found
    cases refiled with
    | aside develops letters removed =>
      rw [letters, removed] at found
      have held := filed.letters found
      exact kept (held.of_same (develops.closed held.stored held.closed))
    | bury stored pending jobs letters removed =>
      rename_i job problem incident now expires
      rw [letters, removed, List.foldl_cons, List.foldl_nil, List.foldl_nil,
        OrderedMap.get?_insert] at found
      split at found
      · rename_i same
        cases found
        refine kept ⟨same.symm, rfl, ?_, rfl⟩
        exact (jobs job.key).trans (if_pos rfl)
      · have held := filed.letters found
        refine kept (held.of_same ?_)
        rw [jobs, if_neg]
        · exact held.stored
        · intro same
          have closed := held.closed
          rw [← same, held.stored] at stored
          cases stored
          rw [closed] at pending
          cases pending
    | take job stored key jobs letters removed =>
      rename_i place' letter'
      have held' := filed.letters stored
      rw [letters, removed, List.foldl_cons, List.foldl_nil, List.foldl_nil,
        OrderedMap.get?_erase] at found
      split at found
      · cases found
      · rename_i different
        have held := filed.letters found
        refine kept (held.of_same ?_)
        rw [jobs, if_neg]
        · exact held.stored
        · intro same
          have named : letter'.job.key = letter'.key := filed.keyed held'.stored
          rw [held'.place] at different
          exact different (held.unique held' (same.trans (key.trans named)))

end Refiled

namespace Engine

/-- A job is claimed while it is open, or stays as it is. -/
theorem get?_claim {store : MemoryStore} (filed : store.Filed) (request : ClaimRequest)
    (key : JobKey) :
    (∃ former, store.jobs.get? key = some former ∧ former.status.isOpen = true ∧
      (store.claim request).2.jobs.get? key = some (former.claim request.worker request.now)) ∨
    (store.claim request).2.jobs.get? key = store.jobs.get? key := by
  have cases : (∃ item ∈ (store.claimable request).map
        (fun job => job.claim request.worker request.now),
        item.key = key ∧ (store.claim request).2.jobs.get? key = some item) ∨
      (∀ item ∈ (store.claimable request).map
        (fun job => job.claim request.worker request.now), item.key ≠ key) ∧
        (store.claim request).2.jobs.get? key = store.jobs.get? key :=
    OrderedMap.get?_foldl_insert_cases Job.key (fun job => job) _ store.jobs key
  rcases cases with ⟨item, listed, rfl, later⟩ | ⟨-, same⟩
  · obtain ⟨former, wanted, rfl⟩ := List.mem_map.1 listed
    have sorted := List.mem_of_mem_take wanted
    rw [mem_sortOn, mem_sortOn, List.mem_filter, OrderedMap.mem_values_iff] at sorted
    obtain ⟨⟨key, stored⟩, answers⟩ := sorted
    obtain rfl := filed.keyed stored
    rw [MemoryStore.answers, Bool.and_eq_true] at answers
    refine .inl ⟨former, stored, ?_, later⟩
    have claimable := answers.2
    rw [Job.isClaimable] at claimable
    cases status : former.status with
    | pending => rfl
    | claimed => rfl
    | _ =>
      rw [status] at claimable
      cases claimable
  · exact .inr same

/-- Claimed jobs were open, and are the same dispatches. -/
theorem develops_claim {store : MemoryStore} (filed : store.Filed) (request : ClaimRequest)
    (owner : InstanceId) : TableDevelops owner store.jobs (store.claim request).2.jobs := by
  constructor
  · intro key job found
    rcases get?_claim filed request key with ⟨former, stored, pending, later⟩ | same
    · cases found.symm.trans stored
      exact ⟨_, later, .of_open pending rfl rfl rfl rfl⟩
    · exact ⟨job, same.trans found, .refl job⟩
  · intro key job absent found
    rcases get?_claim filed request key with ⟨former, stored, -⟩ | same
    · rw [absent] at stored
      cases stored
    · rw [same, absent] at found
      cases found

/-- What a step that stores a slice does to the job table, in two parts: the change and the
turns. -/
theorem refiled_slice {engine : Engine MemoryStore} {id : InstanceId} {purpose : Purpose}
    {state : InstanceState} {program : Program} {changed work : UnitOfWork}
    (sound : engine.Sound) (filed : engine.store.Filed)
    (stored : engine.store.states.get? id = some state)
    (intervened : Intervened engine.store id program
      (.begin state engine.now engine.supply) purpose changed)
    (ran : Ran program changed work) :
    Refiled engine.store id changed ∧
      TableDevelops id (changed.jobsOver engine.store.jobs) (work.jobsOver engine.store.jobs) := by
  have owner : changed.record.id = id :=
    intervened.continues.id.trans (sound id state stored).keyed
  exact ⟨intervened.refiled filed, owner ▸ (ran.withdraws engine.store.jobs).develops⟩

theorem refiled_create (store : MemoryStore) {record : ProcessInstance}
    {program : Program} {work : UnitOfWork} {now : Instant} {supply : IdSupply}
    (ran : Ran program (UnitOfWork.create record now supply).start.2 work) :
    Refiled store record.id (UnitOfWork.create record now supply).start.2 ∧
      TableDevelops record.id ((UnitOfWork.create record now supply).start.2.jobsOver store.jobs)
        (work.jobsOver store.jobs) :=
  ⟨.aside (.refl _ _) rfl rfl, (ran.withdraws store.jobs).develops⟩

/-- Jobs stay filed. -/
theorem Advance.filed {scope : Scope} {engine next : Engine MemoryStore} (sound : engine.Sound)
    (filed : engine.store.Filed) (advance : Advance scope engine next) : next.store.Filed := by
  cases advance.effect sound with
  | same programs store supply =>
    rw [store]
    exact ⟨filed.keyed, filed.letters⟩
  | claim request store supply =>
    have develops := develops_claim filed request ⟨0⟩
    rw [store]
    refine ⟨fun found => ?_, fun found => ?_⟩
    · rcases develops.origin found with ⟨former, before, same⟩ | ⟨named, -⟩
      · exact same.key.trans (filed.keyed before)
      · exact named
    · have held := filed.letters found
      exact held.of_same (develops.closed held.stored held.closed)
  | purge now store supply =>
    rw [store]
    refine ⟨filed.keyed, fun found => ?_⟩
    change (engine.store.deadLetters.filter _).get? _ = _ at found
    rw [OrderedMap.get?_filter, Option.filter_eq_some_iff] at found
    exact filed.letters found.1
  | create known absent ran store supply =>
    rw [store]
    have parts := refiled_create engine.store ran
    exact parts.1.filed filed ran.confined parts.2
  | slice known stored own admitted intervened ran store supply =>
    rw [store]
    have parts := refiled_slice sound filed stored intervened ran
    exact parts.1.filed filed ran.confined parts.2

/-- No stored job is dropped. -/
theorem Advance.kept {scope : Scope} {engine next : Engine MemoryStore} (sound : engine.Sound)
    (filed : engine.store.Filed) (advance : Advance scope engine next) {key : JobKey} {job : Job}
    (found : engine.store.jobs.get? key = some job) :
    ∃ job', next.store.jobs.get? key = some job' := by
  cases advance.effect sound with
  | same programs store supply =>
    rw [store]
    exact ⟨job, found⟩
  | claim request store supply =>
    rw [store]
    obtain ⟨job', found', -⟩ := (develops_claim filed request ⟨0⟩).kept found
    exact ⟨job', found'⟩
  | purge now store supply =>
    rw [store]
    exact ⟨job, found⟩
  | create known absent ran store supply =>
    rw [store, jobs_apply]
    obtain ⟨job', found', -⟩ := (refiled_create engine.store ran).2.kept found
    exact ⟨job', found'⟩
  | slice known stored own admitted intervened ran store supply =>
    rw [store, jobs_apply]
    have parts := refiled_slice sound filed stored intervened ran
    obtain ⟨middle, between⟩ := parts.1.kept found
    obtain ⟨job', found', -⟩ := parts.2.kept between
    exact ⟨job', found'⟩

/-- A job that is completed or cancelled stays as it is. -/
theorem Advance.final {scope : Scope} {engine next : Engine MemoryStore} (sound : engine.Sound)
    (filed : engine.store.Filed) (advance : Advance scope engine next) {key : JobKey} {job : Job}
    (found : engine.store.jobs.get? key = some job) (closed : job.status.isOpen = false)
    (final : job.status ≠ .deadLettered) : next.store.jobs.get? key = some job := by
  cases advance.effect sound with
  | same programs store supply =>
    rw [store]
    exact found
  | claim request store supply =>
    rw [store]
    exact (develops_claim filed request ⟨0⟩).closed found closed
  | purge now store supply =>
    rw [store]
    exact found
  | create known absent ran store supply =>
    rw [store, jobs_apply]
    have parts := refiled_create engine.store ran
    exact parts.2.closed (parts.1.final filed found closed final) closed
  | slice known stored own admitted intervened ran store supply =>
    rw [store, jobs_apply]
    have parts := refiled_slice sound filed stored intervened ran
    exact parts.2.closed (parts.1.final filed found closed final) closed

theorem Fresh.filed {engine : Engine MemoryStore} (fresh : engine.Fresh) : engine.store.Filed := by
  rw [fresh.store]
  constructor
  · intro key job found
    cases found
  · intro place letter found
    cases found

/-- A sound engine whose jobs are filed. -/
structure Orderly (engine : Engine MemoryStore) : Prop where
  sound : engine.Sound
  filed : engine.store.Filed

theorem Fresh.orderly {engine : Engine MemoryStore} (fresh : engine.Fresh) : engine.Orderly :=
  ⟨fresh.sound, fresh.filed⟩

theorem Advance.orderly {scope : Scope} {engine next : Engine MemoryStore}
    (advance : Advance scope engine next) (orderly : engine.Orderly) : next.Orderly :=
  ⟨advance.sound orderly.sound, advance.filed orderly.sound orderly.filed⟩

/-- Every engine that began without anything stored is orderly. -/
theorem History.orderly {first last : Engine MemoryStore} {entries : List HistoryEntry}
    (history : History first entries last) (fresh : first.Fresh) : last.Orderly :=
  history.preserves (fun _ _ _ advance => advance.orderly) fresh.orderly

end Engine

end ProcessEngine
