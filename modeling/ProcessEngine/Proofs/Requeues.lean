import ProcessEngine.Proofs.Origins
import ProcessEngine.Proofs.Plans

/-!
# Jobs that are put back

A dead letter holds the job as it is stored, and the fiber of the job, if it lives, is halted on
just the incident of the letter where it has handed the job out. So a job that is put back is the
one that was set aside, with all of its retries, and the fiber waits for it again, unless another
fiber terminates the instance in the same slice (`Engine.History.letters_consistent`).
-/

namespace ProcessEngine

open UnitOfWork

/-! ## Waits during turns -/

namespace UnitOfWork

variable {work next : UnitOfWork} {program : Program} {fiber : Fiber} {id : FiberId}
  {key : JobKey} {job : Job} {table : OrderedMap JobKey Job}

/-- When an instance is closed, the jobs that its fibers wait for are cancelled. -/
theorem cancelled_of_close {status : InstanceStatus} {event : RuntimeEvent}
    (closes : work.close status event = .ok next) (waits : work.WaitsFor id key) :
    key ∈ next.cancelledJobs := by
  have cancels : ∀ (fibers : List Fiber) (start : UnitOfWork),
      (key ∈ start.cancelledJobs ∨ ∃ fiber ∈ fibers, fiber.wait = .job key) ->
        key ∈ (fibers.foldl (fun (work : UnitOfWork) fiber =>
          (work.cancelAwaitedJob fiber).endFiber fiber.id) start).cancelledJobs := by
    intro fibers
    induction fibers with
    | nil =>
      rintro start (noted | ⟨fiber, listed, -⟩)
      · exact noted
      · cases listed
    | cons first rest ih =>
      intro start due
      refine ih _ ?_
      rw [(steady_endFiber _ _).cancelledJobs, cancelAwaitedJob]
      rcases due with noted | ⟨fiber, listed, wait⟩
      · left
        split
        · exact List.mem_append_left _ noted
        · exact noted
      · rcases List.mem_cons.1 listed with rfl | later
        · rw [wait]
          exact .inl (List.mem_append_right _ List.mem_cons_self)
        · exact .inr ⟨fiber, later, wait⟩
  obtain ⟨-, rfl⟩ := close_cases closes
  obtain ⟨fiber, found, wait⟩ := waits
  rw [(steady_conclude _ _ _).cancelledJobs]
  refine cancels _ work (.inr ⟨fiber, ?_, wait⟩)
  exact mem_sortOn.2 ((OrderedMap.mem_values_iff _ _).2 ⟨id, found⟩)

theorem closed_of_cancelled (cancelled : key ∈ work.cancelledJobs)
    (found : (work.jobsOver table).get? key = some job) : job.status.isOpen = false := by
  rw [jobsOver, MemoryStore.get?_foldl_cancelJob, if_pos cancelled] at found
  obtain ⟨former, -, rfl⟩ := Option.map_eq_some_iff.1 found
  exact former.withdrawn_closed

/-- An open job that a fiber waits for stays as it is and the fiber goes on to wait for it, however
many turns others take, unless one of them terminates the instance and thereby cancels the job. -/
theorem Ran.awaited (ran : Ran program work next) (shapely : work.Shapely)
    (found : work.fiber? id = some fiber) (waits : fiber.wait = .job key)
    (stored : (work.jobsOver table).get? key = some job) (pending : job.status.isOpen = true) :
    (∃ later, next.fiber? id = some later ∧ fiber.Stays later ∧
        (next.jobsOver table).get? key = some job) ∨
      next.record.status = .terminated ∧ next.Vacant ∧
        (next.jobsOver table).get? key = some job.withdrawn := by
  have lasts : (next.WaitsFor id key ∧ (next.jobsOver table).get? key = some job) ∨
      next.record.status = .terminated ∧ next.Vacant ∧
        (next.jobsOver table).get? key = some job.withdrawn := by
    induction ran with
    | refl => exact .inl ⟨⟨fiber, found, waits⟩, stored⟩
    | step prior running acts ready turned ih =>
      rename_i middle actor next
      have shapely := prior.shapely shapely
      rcases ih with ⟨waits, stored⟩ | ⟨terminated, -⟩
      · rcases turned.idles shapely acts ready with
          ⟨steady, idles⟩ | ⟨_, _, _, _, rfl, -⟩ | ⟨node, closes⟩
        · exact .inl ⟨(idles id key).2 waits, (congrArg (OrderedMap.get? · key)
            (steady.jobsOver table)).trans stored⟩
        · obtain ⟨waiter, there, wait⟩ := waits
          have other : id ≠ actor.id := by
            rintro rfl
            cases acts.symm.trans there
            cases ready.symm.trans wait
          refine .inl ⟨⟨waiter, ((fiber?_park ..).trans (if_neg other)).trans there, wait⟩, ?_⟩
          rw [handOut, suspend, (steady_park _ _ _ _).jobsOver, get?_jobsOver_dispatch, stored]
          rfl
        · refine .inr ⟨?_, vacant_close shapely closes, ?_⟩
          · obtain ⟨-, rfl⟩ := close_cases closes
            rfl
          · rcases (withdraws_close table closes job.owner).kept stored with kept | withdrawn
            · have closed := closed_of_cancelled (cancelled_of_close closes waits) kept
              exact absurd (pending.symm.trans closed) (by decide)
            · exact withdrawn
      · -- An instance that was terminated takes no turn.
        have running : middle.record.status = .running := eq_of_beq running
        exact absurd (terminated.symm.trans running) (by decide)
  rcases lasts with ⟨⟨later, there, -⟩, stored⟩ | ended
  · exact .inl ⟨later, there, ran.stays shapely found (by simp [waits]) there, stored⟩
  · exact .inr ended

/-- Incidents that are there stay as they are while turns are taken. -/
theorem Ran.get?_incidentsOver {table : OrderedMap IncidentId Incident}
    (ran : Ran program work next) (shapely : work.Shapely) {key : IncidentId}
    (drawn : key.number < work.supply.next) :
    (next.incidentsOver table).get? key = (work.incidentsOver table).get? key := by
  induction ran with
  | refl => rfl
  | step prior running acts ready turned ih =>
    obtain ⟨raised, appended, fresh⟩ := (turned.spares (prior.shapely shapely)).raised
    refine Eq.trans ?_ ih
    rw [incidentsOver_append appended]
    refine OrderedMap.get?_foldl_insert_of_notMem Incident.id (fun incident => incident)
      (fun incident listed => ?_) _
    rintro rfl
    exact absurd (Nat.lt_of_lt_of_le drawn prior.confined.supply)
      (Nat.not_lt.2 (fresh incident listed).2.1)

end UnitOfWork

/-! ## The change -/

namespace DeadLetter

variable {letter : DeadLetter} {work changed : UnitOfWork} {program : Program}

/-- When a job is put back, the incident that is linked to it is not open any more. -/
theorem requeue_settles {incident : Incident} {table : OrderedMap IncidentId Incident}
    (made : letter.requeue (some incident) program work = .ok ((), changed))
    (stored : (work.incidentsOver table).get? incident.id = some incident) :
    ∃ settled, (changed.incidentsOver table).get? incident.id = some settled ∧
      incident.Settles settled ∧ settled.isOpen = false := by
  obtain ⟨running, -⟩ := requeue_cases made
  rw [requeue, UnitOfWork.ensureRunning, running] at made
  simp only [if_true, bind, Except.bind] at made
  cases halted : letter.halted? work with
  | none =>
    rw [halted] at made
    cases made
  | some pc =>
    simp only [halted, Option.filter] at made
    have kept (event : RuntimeEvent) :
        (((letter.requeued pc work).emit event).incidentsOver table).get? incident.id =
          some incident := by
      rw [incidentsOver_of_same (letter.incidents_requeued pc event)]
      exact stored
    cases pending : incident.isOpen with
    | false =>
      simp only [pending] at made
      cases made
      exact ⟨incident, kept _, .refl _, pending⟩
    | true =>
      simp only [pending, if_true, Incident.settle_of_open pending] at made
      cases made
      refine ⟨_, (get?_incidentsOver_putIncident _ _ _).trans (if_pos rfl), ⟨_, rfl⟩, rfl⟩

section

variable {fiber : Fiber} {linked : Option Incident} {settled : UnitOfWork}
  (settles : Settled linked (letter.requeued fiber.pc work) settled) (event : RuntimeEvent)

include settles

theorem Settled.fiber? (asked : FiberId) :
    (settled.emit event).fiber? asked =
      if asked = letter.job.fiber then
        (work.fiber? asked).map (fun former =>
          { former with pc := fiber.pc, wait := .job letter.key })
      else work.fiber? asked :=
  (settles.fibers_emit event asked).trans (letter.fiber?_requeued fiber.pc work asked)

/-- The fiber waits for the job again, where it was. -/
theorem Settled.waits (found : work.fiber? letter.job.fiber = some fiber) :
    (settled.emit event).fiber? letter.job.fiber =
      some { fiber with wait := .job letter.key } := by
  rw [settles.fiber?, if_pos rfl, found]
  rfl

/-- The job is pending again. -/
theorem Settled.renews (none : work.cancelledJobs = []) (table : OrderedMap JobKey Job)
    (same : letter.job.key = letter.key) :
    ((settled.emit event).jobsOver table).get? letter.key = some (letter.renewed work.time) := by
  rw [(settles.steady event).jobsOver, letter.get?_jobsOver_requeued none, if_pos same.symm]

/-- The letter is taken away. -/
theorem Settled.removes (clean : work.deadLetters = []) (none : work.removedDeadLetters = []) :
    (settled.emit event).deadLetters = [] ∧
      (settled.emit event).removedDeadLetters = [letter.place] := by
  have parked := steady_park work letter.job.fiber fiber.pc (.job letter.key)
  have steady := settles.steady event
  exact ⟨(steady.deadLetters.trans parked.deadLetters).trans clean,
    steady.removedDeadLetters.trans
      (congrArg (· ++ [letter.place]) (parked.removedDeadLetters.trans none))⟩

end

end DeadLetter

namespace Engine

variable {engine after first last : Engine MemoryStore} {entries : List HistoryEntry}
  {letter : DeadLetter} {place : DeadLetterKey}
  {Origin : InstanceId -> FiberId -> JobKey -> Address -> Prop}

/-- A change of a stored instance that is answered comes from a slice of it, which is stored if
there is something to store. -/
theorem slice_of_answer {Result : Type} {change : Change Result} {id : InstanceId}
    {result : Result} (answered : (engine.deed id change).answer = .ok result) :
    ∃ state program report work, engine.store.states.get? id = some state ∧
      change.slice program engine.config.maximumSteps (.begin state engine.now engine.supply) =
        .ok (result, report, work) ∧
      (engine.deed id change).work = if work.isEmpty then none else some work := by
  rw [deed] at answered ⊢
  cases stored : engine.store.states.get? id with
  | none =>
    rw [stored] at answered
    cases answered
  | some state =>
    simp only [stored] at answered ⊢
    cases loads : engine.loaded state.record.program with
    | error error =>
      rw [loads] at answered
      cases answered
    | ok program =>
      simp only [loads] at answered ⊢
      cases sliced : change.slice program engine.config.maximumSteps
          (.begin state engine.now engine.supply) with
      | error error =>
        rw [sliced] at answered
        cases answered
      | ok done =>
        obtain ⟨found, report, work⟩ := done
        rw [sliced] at answered
        cases answered
        exact ⟨state, program, report, work, rfl, sliced, rfl⟩

/-- So does an operation that is answered and that comes down to such a change. -/
theorem slice_of_done {Result Answer : Type} {change : Change Result} {id : InstanceId}
    {form : Result -> Answer} {action : EngineAction MemoryStore Answer} {answer : Answer}
    (does : engine.Does action ((engine.deed id change).map form))
    (done : outcome action engine = (.ok answer, after)) :
    ∃ result state program report work, engine.store.states.get? id = some state ∧
      change.slice program engine.config.maximumSteps (.begin state engine.now engine.supply) =
        .ok (result, report, work) ∧
      after.store = if work.isEmpty then engine.store else engine.store.apply work.finish.1 := by
  obtain ⟨reached, does, leaves⟩ := does
  rw [does] at done
  obtain ⟨answered, rfl⟩ := Prod.mk.inj done
  cases made : (engine.deed id change).answer with
  | error error =>
    rw [Deed.map, made] at answered
    cases answered
  | ok result =>
    obtain ⟨state, program, report, work, present, sliced, noted⟩ := slice_of_answer made
    refine ⟨result, state, program, report, work, present, sliced, ?_⟩
    rw [leaves.store, Deed.map, noted]
    split <;> rfl

/-- The job of a dead letter was put back: its fiber was halted on the incident of the letter, the
letter is gone and the incident is settled. The job is pending with all of its retries and the fiber
waits for it where it was, unless the instance was terminated, which has cancelled the job. -/
structure PutsBack (engine : Engine MemoryStore) (letter : DeadLetter) (fiber : Fiber)
    (id : IncidentId) (after : Engine MemoryStore) : Prop where
  found : engine.fiber? letter.job.owner letter.job.fiber = some fiber
  halted : fiber.wait = .incident id
  named : letter.incident = some id
  removed : after.store.deadLetters.get? letter.place = none
  settled : ∃ incident, after.store.incidents.get? id = some incident ∧ incident.isOpen = false
  resumed : (∃ later, after.fiber? letter.job.owner letter.job.fiber = some later ∧
      later.wait = .job letter.key ∧ later.pc = fiber.pc ∧
      after.store.jobs.get? letter.key = some (letter.renewed engine.now)) ∨
    ∃ state, after.store.states.get? letter.job.owner = some state ∧
      state.record.status = .terminated ∧
      after.fiber? letter.job.owner letter.job.fiber = none ∧
      after.store.jobs.get? letter.key =
        some { letter.renewed engine.now with status := .cancelled }

/-- If a job can be put back, it was set aside, and this is what comes of it. -/
theorem putsBack_of_requeue (orderly : engine.Orderly) (anchored : engine.Anchored)
    (rooted : engine.Rooted Origin) {reply : EngineReply}
    (done : outcome (EngineOperation.requeue place).perform engine = (.ok reply, after)) :
    ∃ letter fiber id, engine.store.deadLetters.get? place = some letter ∧
      engine.PutsBack letter fiber id after := by
  have sound := orderly.sound
  rw [show (EngineOperation.requeue place).perform =
    EngineOperation.noted (Engine.requeue place) from rfl] at done
  cases stored : engine.store.deadLetters.get? place with
  | none =>
    rw [EngineOperation.noted, outcome_bind, Engine.requeue, outcome_bind,
      outcome_deadLetterAt, stored] at done
    cases done
  | some letter =>
    have does := (does_requeue stored (fun state present => sound _ state present)).noted
    obtain ⟨result, state, program, report, work, present, sliced, kept⟩ :=
      slice_of_done does done
    obtain ⟨changed, parts⟩ := slice_parts sliced
    obtain ⟨running, fiber, incident, found, waits, settled, settles, same⟩ :=
      DeadLetter.requeue_cases parts.made
    have here : engine.fiber? letter.job.owner letter.job.fiber = some fiber := by
      rw [Engine.fiber?, present]
      exact found
    obtain ⟨id, named, halted, -⟩ := rooted.held stored fiber here
    obtain rfl : incident = id := Wait.incident.inj (waits.symm.trans halted)
    have begun := sound _ state present
    have shapely := @shapely_begin _ _ engine.now _ begun
    have intervened : Intervened engine.store letter.job.owner program
        (.begin state engine.now engine.supply) (.requeue place) changed :=
      same ▸ .requeue stored rfl running found waits settles
    have changedShapely := intervened.shapely shapely
    have ran := parts.ran changedShapely
    obtain ⟨storable, owner⟩ := storable_slice sound present intervened ran
    have filed := orderly.filed.letters stored
    have key : letter.job.key = letter.key := orderly.filed.keyed filed.stored
    -- What the change makes of the letter, the job and the fiber.
    have waiting := settles.waits (.jobRequeued letter.key) found
    have job := settles.renews (.jobRequeued letter.key) rfl engine.store.jobs key
    obtain ⟨letters, removed⟩ := settles.removes (.jobRequeued letter.key) rfl rfl
    rw [← same] at waiting job letters removed
    rw [if_neg (by simp [UnitOfWork.isEmpty, ran.confined.removedDeadLetters, removed])] at kept
    have fibers := storable.fiber?_apply kept letter.job.owner
    rw [if_pos owner.symm] at fibers
    have jobs : after.store.jobs = work.jobsOver engine.store.jobs := by
      rw [kept]
      rfl
    refine ⟨letter, fiber, incident, rfl, here, waits, named, ?_, ?_, ?_⟩
    · rw [kept]
      change (work.lettersOver engine.store.deadLetters).get? _ = _
      rw [ran.confined.lettersOver, UnitOfWork.lettersOver, letters, removed]
      exact (OrderedMap.get?_erase _ _ _).trans (if_pos rfl)
    · obtain ⟨-, state', present', holds⟩ := anchored.held stored
      cases present.symm.trans present'
      obtain ⟨⟨other, halted', linked, raised, -⟩, -⟩ := holds found
      obtain rfl : incident = other := Wait.incident.inj (waits.symm.trans halted')
      obtain ⟨rfl, drawn⟩ := anchored.keyed _ _ raised
      have made := parts.made
      rw [named, Option.bind_some, raised] at made
      obtain ⟨settled, found', -, closed⟩ := DeadLetter.requeue_settles made raised
      refine ⟨settled, ?_, closed⟩
      rw [kept]
      change (work.incidentsOver engine.store.incidents).get? _ = _
      rw [ran.get?_incidentsOver changedShapely
        (Nat.lt_of_lt_of_le drawn intervened.continues.supply)]
      exact found'
    · rw [fibers, jobs]
      rcases ran.awaited changedShapely waiting rfl job rfl with
        ⟨later, there, stays, still⟩ | ⟨terminated, vacant, withdrawn⟩
      · exact .inl ⟨later, there, stays.wait, stays.pc, still⟩
      · refine .inr ⟨work.finish.2, ?_, terminated, vacant _, withdrawn⟩
        rw [kept, storable.states_apply, if_pos owner.symm]

/-- Dead letters stay consistent in the course of a history. Each holds its job as it is stored, set
aside and of the task type of the letter, and the fiber of the job, if it lives, is halted on just
the incident of the letter where it has handed out the job. So a job that can be put back is the
newest one, and its fiber was halted for its sake. -/
theorem History.letters_consistent (history : History first entries last) (fresh : first.Fresh) :
    (∀ place letter, last.store.deadLetters.get? place = some letter ->
      letter.Filed place last.store.jobs ∧
      letter.Roots (first.HasHandedOut entries letter.job.owner)
        (last.fiber? letter.job.owner)) ∧
    ∀ place reply after,
      outcome (EngineOperation.requeue place).perform last = (.ok reply, after) ->
      ∃ letter fiber id, last.store.deadLetters.get? place = some letter ∧
        first.HasHandedOut entries letter.job.owner letter.job.fiber letter.key fiber.pc ∧
        last.PutsBack letter fiber id after := by
  have orderly := history.orderly fresh
  have rooted := history.rooted fresh
  refine ⟨fun place letter stored => ⟨orderly.filed.letters stored, rooted.held stored⟩,
    fun place reply after done => ?_⟩
  obtain ⟨letter, fiber, id, stored, putsBack⟩ :=
    putsBack_of_requeue orderly (history.anchored fresh) rooted done
  obtain ⟨_, -, -, origin⟩ := rooted.held stored fiber putsBack.found
  exact ⟨letter, fiber, id, stored, origin, putsBack⟩

end Engine

/-! ## A job that is put back as its instance is terminated -/

namespace WatchedTask

open Engine

/-- A process of a task and of a timer beside it, which terminates the process. -/
def program : Program where
  instructions := [.watch 0 1000 false 3, .dispatch 0 1 0 [], .finish, .jump 4, .terminate]
  symbols := { nodes := [⟨"b", Eq.refl true⟩, ⟨"t", Eq.refl true⟩], taskTypes := ["work"] }
  hash := ⟨"fa5adb4f2cec1eff2d23426e5e34e0961c5d40a54b505f1583c85b0daf07c855", by decide +kernel⟩

theorem checkHash_program : program.checkHash = .ok () := by decide +kernel

/-- An engine whose slices are single turns. -/
def engine : Engine MemoryStore := { TaskRun.engine with config := { maximumSteps := 1 } }

/-- The job of the task is set aside, and the timer fires. -/
def operations : List EngineOperation :=
  [.install program, .start program.hash .null "", .run ⟨0⟩,
    .fail TaskRun.key ⟨.transient, "down"⟩, .advance 1000, .fireTimers]

/-- An operator puts the job back. -/
def requeue : EngineOperation := .requeue ⟨"work", TaskRun.key⟩

theorem requeued :
    (outcome requeue.perform (engine.performAll operations)).1.isOk ∧
    ((outcome requeue.perform (engine.performAll operations)).2.store.jobs.get?
      TaskRun.key).any (fun job => job.status = .cancelled) := by
  rw [operations, performAll_install checkHash_program rfl]
  decide +kernel

/-- The job can be put back, but in the same slice the instance is terminated, which cancels it. -/
theorem requeue_cancels : engine.Fresh ∧
    (outcome requeue.perform (engine.performAll operations)).1.isOk ∧
    ¬ ((outcome requeue.perform (engine.performAll operations)).2.store.jobs.get?
      TaskRun.key).any (fun job => job.status = .pending) := by
  obtain ⟨granted, cancelled⟩ := requeued
  refine ⟨⟨rfl, rfl⟩, granted, fun pending => ?_⟩
  obtain ⟨job, stored, status⟩ := (Option.any_eq_true _ _).1 cancelled
  obtain ⟨job', stored', status'⟩ := (Option.any_eq_true _ _).1 pending
  cases stored.symm.trans stored'
  exact absurd ((of_decide_eq_true status).symm.trans (of_decide_eq_true status')) (by decide)

/-- The letter of the job was consistent, and what came of it is one of what may come of it. -/
theorem letters_consistent_of_watchedTask : engine.Fresh ∧
    ∃ letter fiber id reply after,
      outcome requeue.perform (engine.performAll operations) = (.ok reply, after) ∧
      (engine.performAll operations).store.deadLetters.get? ⟨"work", TaskRun.key⟩ = some letter ∧
      engine.HasHandedOut (engine.entriesOf operations) letter.job.owner letter.job.fiber
        letter.key fiber.pc ∧
      (engine.performAll operations).PutsBack letter fiber id after := by
  have fresh : engine.Fresh := ⟨rfl, rfl⟩
  obtain ⟨granted, -⟩ := requeued
  cases done : outcome requeue.perform (engine.performAll operations) with
  | mk answer after =>
    rw [done] at granted
    cases answer with
    | error error => cases granted
    | ok reply =>
      have consistent := (History.of_operations engine operations).letters_consistent fresh
      obtain ⟨letter, fiber, id, stored, origin, putsBack⟩ := consistent.2 _ reply after done
      exact ⟨fresh, letter, fiber, id, reply, after, rfl, stored, origin, putsBack⟩

end WatchedTask

end ProcessEngine
