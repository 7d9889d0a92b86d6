import ProcessEngine.Proofs.Agreement
import ProcessEngine.Proofs.Narration

/-!
# What the log tells about jobs

An event about a job gives the job a phase. Work on an instance adds just the events that lead
from the phases that the jobs of the instance had before to those that they have afterwards
(`UnitOfWork.TellsJobs`). This rests on the agreement of jobs and fibers: a job that is handed
out is new, and a job that is cancelled with its fiber is open.
-/

namespace ProcessEngine

/-! ## Phases -/

section

universe u v w

variable {Key : Type u} {Value : Type v} {Phase : Type w} [Ord Key]

/-- The phases of the entries that belong to an instance. -/
def phasesOf (ownerOf : Value -> InstanceId) (phase : Value -> Phase) (owner : InstanceId)
    (table : OrderedMap Key Value) : OrderedMap Key Phase :=
  (table.filter (fun _ value => ownerOf value == owner)).map (fun _ value => phase value)

variable [Std.TransOrd Key] [Std.LawfulEqOrd Key]

/-- The phases after another one was told. -/
def noted (phases : OrderedMap Key Phase) (told : Key × Phase) : OrderedMap Key Phase :=
  phases.insert told.1 told.2

variable {ownerOf : Value -> InstanceId} {phase : Value -> Phase} {owner : InstanceId}
  {table later : OrderedMap Key Value}

theorem get?_phasesOf (table : OrderedMap Key Value) (key : Key) :
    (phasesOf ownerOf phase owner table).get? key =
      ((table.get? key).filter (fun value => ownerOf value == owner)).map phase := by
  rw [phasesOf, OrderedMap.get?_map, OrderedMap.get?_filter]

/-- Only the entries of the instance matter. -/
theorem phasesOf_congr (same : ∀ key value, ownerOf value = owner ->
    (later.get? key = some value ↔ table.get? key = some value)) :
    phasesOf ownerOf phase owner later = phasesOf ownerOf phase owner table := by
  apply OrderedMap.ext_get?
  intro key
  rw [get?_phasesOf, get?_phasesOf]
  refine congrArg (Option.map phase) (Option.ext fun value => ?_)
  rw [Option.filter_eq_some_iff, Option.filter_eq_some_iff, beq_iff_eq]
  exact and_congr_left (same key value)

theorem phasesOf_of_none (none : ∀ {key value}, table.get? key = some value ->
    ownerOf value ≠ owner) : phasesOf ownerOf phase owner table = .empty := by
  apply OrderedMap.ext_get?
  intro key
  rw [get?_phasesOf, OrderedMap.get?_empty, Option.map_eq_none_iff, Option.filter_eq_none_iff]
  intro value found
  rw [beq_iff_eq]
  exact none found

/-- An entry of the instance that is written gets its phase. -/
theorem phasesOf_write [DecidableEq Key] {key : Key} {value : Value} (owned : ownerOf value = owner)
    (written : ∀ asked, later.get? asked = if asked = key then some value else table.get? asked) :
    phasesOf ownerOf phase owner later =
      noted (phasesOf ownerOf phase owner table) (key, phase value) := by
  apply OrderedMap.ext_get?
  intro asked
  rw [noted, OrderedMap.get?_insert, get?_phasesOf, get?_phasesOf, written]
  split
  · rw [Option.filter_some, if_pos (beq_iff_eq.2 owned)]
    rfl
  · rfl

/-- Entries of the instance that are written one after another get their phases in this order. -/
theorem phasesOf_foldl [DecidableEq Key] (key : Value -> Key) (values : List Value)
    (owned : ∀ value ∈ values, ownerOf value = owner) (table : OrderedMap Key Value) :
    phasesOf ownerOf phase owner
        (values.foldl (fun table value => table.insert (key value) value) table) =
      (values.map (fun value => (key value, phase value))).foldl noted
        (phasesOf ownerOf phase owner table) := by
  induction values generalizing table with
  | nil => rfl
  | cons value rest ih =>
    rw [List.foldl_cons, ih (fun other listed => owned other (List.mem_cons_of_mem _ listed)),
      phasesOf_write (owned value List.mem_cons_self) (OrderedMap.get?_insert _ _ _)]
    rfl

end

/-- The phases of the jobs of an instance. -/
def jobPhasesOf (owner : InstanceId) (jobs : OrderedMap JobKey Job) : OrderedMap JobKey JobPhase :=
  phasesOf Job.owner (fun job => job.status.phase) owner jobs

namespace UnitOfWork

/-! ## What is reported -/

/-- Of what is read from the events that were added, this is all. -/
def Reports {Told : Type} (read : RuntimeEvent -> Option Told) (work next : UnitOfWork)
    (told : List Told) : Prop :=
  ∃ events, next.events = work.events ++ events ∧ events.filterMap read = told

section

variable {Told : Type} {read : RuntimeEvent -> Option Told}
  {first middle last work next : UnitOfWork} {told more : List Told} {kind : RuntimeEvent -> Prop}

theorem Reports.trans (earlier : Reports read first middle told)
    (later : Reports read middle last more) : Reports read first last (told ++ more) := by
  obtain ⟨events, added, said⟩ := earlier
  obtain ⟨events', added', said'⟩ := later
  exact ⟨events ++ events', by rw [added', added, List.append_assoc],
    by rw [List.filterMap_append, said, said']⟩

/-- More of which nothing is read adds nothing. -/
theorem Reports.trans_nil (earlier : Reports read first middle told)
    (later : Reports read middle last []) : Reports read first last told :=
  List.append_nil told ▸ earlier.trans later

theorem reports_of_same (events : next.events = work.events) : Reports read work next [] :=
  ⟨[], events.trans (List.append_nil _).symm, rfl⟩

/-- An event reports what is read from it. -/
theorem reports_event {event : RuntimeEvent} {said : Told} (is : read event = some said)
    (events : next.events = work.events ++ [event]) : Reports read work next [said] :=
  ⟨[event], events, List.filterMap_cons_some is⟩

/-- Events of a kind from which nothing is read report nothing. -/
theorem Tells.reports (tells : Tells kind work next) (silent : ∀ {event}, kind event ->
    read event = none) : Reports read work next [] := by
  obtain ⟨events, added, -, fits⟩ := tells
  exact ⟨events, added, List.filterMap_eq_nil_iff.2 (fun event listed => silent (fits event listed))⟩

theorem reports_emit {event : RuntimeEvent} (work : UnitOfWork) (silent : read event = none) :
    Reports read work (work.emit event) [] :=
  ⟨[event], rfl, List.filterMap_cons_none silent⟩

end

/-- The phases that the jobs of the instance will have when the work is stored. -/
def jobPhases (work : UnitOfWork) (table : OrderedMap JobKey Job) : OrderedMap JobKey JobPhase :=
  jobPhasesOf work.record.id (work.jobsOver table)

/-- The events that were added lead from the phases that jobs had before to those that they have
now. -/
def TellsJobs (table : OrderedMap JobKey Job) (work next : UnitOfWork) : Prop :=
  ∃ told, Reports RuntimeEvent.jobPhase? work next told ∧
    told.foldl noted (work.jobPhases table) = next.jobPhases table

variable {first middle last work next : UnitOfWork} {table : OrderedMap JobKey Job}
  {fiber : Fiber} {program : Program}

theorem TellsJobs.refl (table : OrderedMap JobKey Job) (work : UnitOfWork) :
    TellsJobs table work work := ⟨[], reports_of_same rfl, rfl⟩

theorem TellsJobs.trans (earlier : TellsJobs table first middle)
    (later : TellsJobs table middle last) : TellsJobs table first last := by
  obtain ⟨told, reports, leads⟩ := earlier
  obtain ⟨more, reports', leads'⟩ := later
  exact ⟨told ++ more, reports.trans reports', by rw [List.foldl_append, leads, leads']⟩

/-- Work that changes no job must not report anything about jobs. -/
theorem tellsJobs_of_same (id : next.record.id = work.record.id)
    (jobs : next.jobsOver table = work.jobsOver table)
    (reports : Reports RuntimeEvent.jobPhase? work next []) : TellsJobs table work next :=
  ⟨[], reports, by rw [jobPhases, jobPhases, id, jobs]; rfl⟩

theorem Steady.tellsJobs (steady : work.Steady next)
    (reports : Reports RuntimeEvent.jobPhase? work next []) : TellsJobs table work next :=
  tellsJobs_of_same steady.id (steady.jobsOver table) reports

/-- What is calm is not about jobs. -/
theorem Calm.reportsNoJob (calm : work.Calm next) : Reports RuntimeEvent.jobPhase? work next [] :=
  calm.tells.reports RuntimeEvent.IsPlain.job

theorem Calm.tellsJobs (calm : work.Calm next) : TellsJobs table work next :=
  calm.toSteady.tellsJobs calm.reportsNoJob

/-- Work that writes a job of the instance must report which phase the job gets. -/
theorem tellsJobs_of_write (key : JobKey) (job : Job) (owned : job.owner = work.record.id)
    (id : next.record.id = work.record.id)
    (jobs : ∀ asked, (next.jobsOver table).get? asked =
      if asked = key then some job else (work.jobsOver table).get? asked)
    (reports : Reports RuntimeEvent.jobPhase? work next [(key, job.status.phase)]) :
    TellsJobs table work next := by
  refine ⟨_, reports, ?_⟩
  have written : jobPhasesOf work.record.id (next.jobsOver table) =
      noted (jobPhasesOf work.record.id (work.jobsOver table)) (key, job.status.phase) :=
    phasesOf_write owned jobs
  rw [jobPhases, jobPhases, id, written]
  rfl

theorem reportsNoJob_halt (work : UnitOfWork) (incident : Incident) :
    Reports RuntimeEvent.jobPhase? work (work.halt incident) [] :=
  (reports_emit work rfl).trans ((calm_park _ incident.fiber incident.address
    (.incident incident.id)).reportsNoJob.trans_nil (reports_of_same rfl))

/-! ## Turns -/

/-- A fiber that ends takes the job with it that it waits for. -/
theorem Agrees.tellsJobs_endFiber (agrees : work.Agrees table) {id : FiberId}
    (found : work.fiber? id = some fiber) :
    TellsJobs table work ((work.cancelAwaitedJob fiber).endFiber id) := by
  have ended := calm_endFiber (work.cancelAwaitedJob fiber) id
  rcases cancelAwaitedJob_cases work fiber with ⟨key, waits, same⟩ | ⟨free, same⟩
  · rw [same] at ended ⊢
    obtain ⟨former, stored, mine, -, pending⟩ :=
      agrees.awaited ((waitsFor_of_found found).2 waits)
    refine .trans ?_ ended.tellsJobs
    refine tellsJobs_of_write key former.withdrawn ?_ rfl (fun asked => ?_) ?_
    · exact former.develops_withdrawn.owner.trans mine
    · rw [get?_jobsOver_cancelJob]
      split
      · rename_i equal
        rw [equal, stored]
        rfl
      · rfl
    · rw [Job.withdrawn_of_open pending]
      exact reports_event rfl rfl
  · rw [same] at ended ⊢
    exact ended.tellsJobs

theorem Agrees.tellsJobs_interrupt (agrees : work.Agrees table) (host : FiberId) :
    TellsJobs table work (work.interrupt host).2 := by
  rw [UnitOfWork.interrupt]
  split
  · exact .refl table work
  · exact agrees.tellsJobs_endFiber ‹_›

/-- Closing an instance takes the jobs that its fibers wait for. -/
theorem Agrees.tellsJobs_close (agrees : work.Agrees table) (shapely : work.Shapely)
    {status : InstanceStatus} {event : RuntimeEvent} (ends : event.ending? = some status)
    (closes : work.close status event = .ok next) : TellsJobs table work next := by
  obtain ⟨-, rfl⟩ := close_cases closes
  obtain ⟨-, tells⟩ := agrees.endFibers shapely (TellsJobs.refl table) .trans
    (fun agrees found => agrees.tellsJobs_endFiber found)
  exact tells.trans ((steady_conclude _ status event).tellsJobs
    (reports_emit _ (RuntimeEvent.jobPhase_of_ending ends)))

theorem completeIfIdle_reportsNoJob (work : UnitOfWork) :
    Reports RuntimeEvent.jobPhase? work work.completeIfIdle [] := by
  rw [completeIfIdle]
  split
  · exact reports_emit _ rfl
  · exact reports_of_same rfl

/-- A job that is handed out is new. -/
theorem Agrees.tellsJobs_handOut (agrees : work.Agrees table) (fits : work.record.id.Fits)
    (found : work.fiber? fiber.id = some fiber) (ready : fiber.wait = .ready) (node : NodeKey)
    (taskType : String) (retries : Nat) (now : Instant) :
    TellsJobs table work
      (work.handOut fiber (.first work.record fiber node taskType retries now)) := by
  have absent := agrees.unissued fits found ready node work.record.jobInput
  let job := Job.first work.record fiber node taskType retries now
  have parked : (work.dispatch job).Calm (work.handOut fiber job) := calm_park _ _ _ _
  have dispatched : work.Confined (work.dispatch job) := confined_dispatch work job
  refine tellsJobs_of_write job.key job rfl (parked.id.trans dispatched.id)
    (agrees.get?_jobsOver_handOut absent) ?_
  exact Reports.trans_nil (reports_event rfl rfl) parked.reportsNoJob

/-- A turn tells what becomes of jobs. -/
theorem Turned.tellsJobs (turned : Turned program fiber work next) (shapely : work.Shapely)
    (fits : work.record.id.Fits) (found : work.fiber? fiber.id = some fiber)
    (ready : fiber.wait = .ready) (agrees : work.Agrees table) : TellsJobs table work next := by
  rcases turned.narrated found with ⟨middle, calm, rfl | rfl⟩ | ⟨_, _, _, _, rfl, -⟩ |
    ⟨node, closes⟩ | ⟨before, kind, message, calm, rfl⟩
  · exact calm.tellsJobs
  · exact calm.tellsJobs.trans
      ((steady_completeIfIdle middle).tellsJobs (completeIfIdle_reportsNoJob middle))
  · exact agrees.tellsJobs_handOut fits found ready _ _ _ _
  · exact agrees.tellsJobs_close shapely rfl closes
  · have drawn : Reports RuntimeEvent.jobPhase? before
        { before with supply := ⟨before.supply.next + 1⟩ } [] := reports_of_same rfl
    exact calm.tellsJobs.trans ((steady_raise _ _ _ _ _ _).tellsJobs
      (drawn.trans (reportsNoJob_halt _ _)))

/-- A sequence of turns tells what becomes of jobs. -/
theorem Ran.tellsJobs (ran : Ran program work next) (shapely : work.Shapely)
    (fits : work.record.id.Fits) (agrees : work.Agrees table) : TellsJobs table work next := by
  induction ran with
  | refl => exact .refl table work
  | step prior running found ready turned ih =>
    exact ih.trans (turned.tellsJobs (prior.shapely shapely) (prior.confined.id ▸ fits) found ready
      (prior.agrees shapely fits agrees))

/-! ## Changes -/

theorem Agrees.tellsJobs_fire (agrees : work.Agrees table) (watchdog : FiberId) (watch : Watch) :
    TellsJobs table work (work.fire watchdog watch) := by
  have logged : work.Calm (work.emit (.boundaryFired watch.boundary watch.interrupting)) :=
    calm_emit work ⟨rfl, rfl, rfl⟩ rfl
  have agrees' := agrees.emit (.boundaryFired watch.boundary watch.interrupting)
  rw [UnitOfWork.fire]
  dsimp only
  refine .trans ?_ ((calm_updateFiber _ _ _).trans (calm_wake _ _ _)).tellsJobs
  split
  · exact logged.tellsJobs.trans (agrees'.tellsJobs_interrupt _)
  · exact (logged.trans (calm_updateFiber _ _ _)).tellsJobs

theorem Agrees.tellsJobs_deliver (agrees : work.Agrees table) (signal : WakeSignal) :
    TellsJobs table work (work.deliver signal).2 := by
  rcases deliver_narrated work signal with calm | ⟨watch, accepted, -, rfl, same⟩
  · exact calm.tellsJobs
  · rw [same]
    have accepts := calm_accept work signal.flags signal.payload
    have accepted := agrees.calm accepts.toSteady (idles_of_same (fun _ => rfl))
      (accepts.toContinues.ages (fun _ => rfl))
    exact accepts.tellsJobs.trans (accepted.tellsJobs_fire _ _)

end UnitOfWork

open UnitOfWork

variable {work changed : UnitOfWork} {job : Job} {fiber : Fiber} {program : Program}
  {store : MemoryStore}

theorem Job.reports_applied (job : Job) (completion : JobCompletion) (pc : Address)
    (work : UnitOfWork) : Reports RuntimeEvent.jobPhase? work (job.applied completion pc work)
      [(job.key, .completed)] := by
  have finished : Reports RuntimeEvent.jobPhase? work (job.finished (.jobCompleted job.key)
      (work.recordCompletion ⟨job.key, completion, true, work.time⟩)) [(job.key, .completed)] :=
    reports_event rfl rfl
  exact finished.trans_nil ((calm_accept _ _ _).trans (calm_wake _ _ _)).reportsNoJob

theorem Job.reports_stopped (job : Job) (kind : FaultClass) (problem : String) (pc : Address)
    (work : UnitOfWork) :
    Reports RuntimeEvent.jobPhase? work (job.stopped kind problem pc work) [] := by
  have drawn : Reports RuntimeEvent.jobPhase? work
      { work with supply := ⟨work.supply.next + 1⟩ } [] := reports_of_same rfl
  exact drawn.trans (reportsNoJob_halt _ _)

/-- A failure tells what becomes of its job. -/
theorem Job.Failed.tellsJobs {outcome : FailureOutcome}
    (failed : job.Failed program work fiber outcome changed) (none : work.cancelledJobs = [])
    (owned : job.owner = work.record.id) : TellsJobs store.jobs work changed := by
  have id := failed.continues.id
  cases failed with
  | retry notBefore problem =>
    refine tellsJobs_of_write job.key (job.scheduleRetry notBefore problem) owned id ?_ ?_
    · exact get?_jobsOver_emit_updateJob work none store.jobs _ _
    · exact reports_event rfl rfl
  | bury kind problem expires =>
    refine tellsJobs_of_write job.key (job.setAside problem) owned id ?_ ?_
    · exact job.get?_jobsOver_buried none store.jobs kind problem expires fiber.pc
    · exact (job.reports_stopped kind problem fiber.pc work).trans (reports_event rfl rfl)
  | route problem leads =>
    rename_i code target
    refine tellsJobs_of_write job.key { job with
      lastError := some problem
      status := .completed } owned id ?_ ?_
    · exact job.get?_jobsOver_routed none store.jobs problem code target fiber
    · have finished : Reports RuntimeEvent.jobPhase? work (Job.finished { job with
          lastError := some problem } (.jobErrorRouted job.key code) work)
            [(job.key, .completed)] := reports_event rfl rfl
      exact finished.trans_nil ((calm_dropWatchdog _ _).trans (calm_wake _ _ _)).reportsNoJob

/-- Every change tells what becomes of jobs. -/
theorem Intervened.tellsJobs {id : InstanceId} {purpose : Purpose}
    (intervened : Intervened store id program work purpose changed) (filed : store.Filed)
    (shapely : work.Shapely) (same : work.record.id = id) (none : work.cancelledJobs = [])
    (agrees : work.Agrees store.jobs) : TellsJobs store.jobs work changed := by
  have continues := intervened.continues
  cases intervened with
  | run => exact .refl _ work
  | cancel running closes => exact agrees.tellsJobs_close shapely rfl closes
  | complete stored owned first wanted completion =>
    rename_i key job fiber
    obtain rfl := filed.keyed stored
    exact tellsJobs_of_write job.key { job with status := .completed } (owned.trans same.symm)
      continues.id (job.get?_jobsOver_applied none store.jobs completion fiber.pc)
      (job.reports_applied completion fiber.pc work)
  | record stored owned first unwanted completion =>
    exact tellsJobs_of_same rfl rfl (reports_emit _ rfl)
  | fail stored owned wanted failed =>
    obtain rfl := filed.keyed stored
    exact failed.tellsJobs none (owned.trans same.symm)
  | dismiss => exact .refl _ work
  | deliver running signal => exact agrees.tellsJobs_deliver signal
  | discard => exact .refl _ work
  | restart stored settles running alone owned closed =>
    rename_i key incident resolved
    have restarted := calm_restart (work.emit (.incidentResolved incident.id)) program resolved
    have steady := ((steady_emit work _).trans restarted.toSteady).trans
      (steady_putIncident _ resolved)
    exact steady.tellsJobs (Reports.trans_nil
      ((reports_emit work rfl).trans restarted.reportsNoJob) (reports_of_same rfl))
  | settle stored settles owned closed =>
    exact ((steady_emit work _).trans (steady_putIncident _ _)).tellsJobs (reports_emit work rfl)
  | requeue stored owned running found waits settles =>
    rename_i place letter fiber incident settled
    have key : letter.job.key = letter.key := filed.keyed (filed.letters stored).stored
    have steady := settles.steady (.jobRequeued letter.key)
    have parked := calm_park work letter.job.fiber fiber.pc (.job letter.key)
    have still : Reports RuntimeEvent.jobPhase? work settled [] := by
      have requeued : Reports RuntimeEvent.jobPhase? work (letter.requeued fiber.pc work) [] :=
        parked.reportsNoJob.trans (reports_of_same rfl)
      cases settles with
      | nothing => exact requeued
      | incident found settles closed =>
        exact requeued.trans (Reports.trans_nil (reports_emit _ rfl) (reports_of_same rfl))
    refine tellsJobs_of_write letter.job.key (letter.renewed work.time) (owned.trans same.symm)
      continues.id ?_ (still.trans (reports_event ?_ rfl))
    · rw [steady.jobsOver]
      exact letter.get?_jobsOver_requeued none store.jobs fiber.pc
    · rw [key]
      rfl
  | abandon stored owned =>
    rename_i place letter
    have key : letter.job.key = letter.key := filed.keyed (filed.letters stored).stored
    refine tellsJobs_of_write letter.job.key { letter.job with status := .cancelled }
      (owned.trans same.symm) continues.id (letter.get?_jobsOver_abandoned none store.jobs) ?_
    rw [key]
    exact reports_event rfl rfl

end ProcessEngine
