import ProcessEngine.Proofs.JobAgreement
import ProcessEngine.Proofs.Logs
import ProcessEngine.Proofs.Notices

/-!
# Logs replay to what is stored

What is stored of an instance can be told from its log alone: the events in their order lead from
an instance of which nothing is known to its status, its fibers, counters and joins, and to the
phases of its jobs and incidents (`Engine.History.replays`). So no operation changes any of this
without an event, and no event speaks of a change that was not made.
-/

namespace ProcessEngine

/-- Everything that the log of an instance tells: its course, the phases of its jobs, and which of
its incidents are open. -/
structure Replay where
  course : Course
  jobs : OrderedMap JobKey JobPhase
  incidents : OrderedMap IncidentId Bool
deriving DecidableEq

namespace Replay

/-- Nothing was told yet. -/
def blank : Replay := ⟨⟨.running, .empty, .empty, .empty, .empty⟩, .empty, .empty⟩

/-- What is known after an event. -/
def after (replay : Replay) (event : RuntimeEvent) : Replay where
  course := replay.course.after event
  jobs := event.jobPhase?.elim replay.jobs (noted replay.jobs)
  incidents := event.incidentPhase?.elim replay.incidents (noted replay.incidents)

/-- Of every event each part takes what is about it. -/
theorem foldl_after (events : List RuntimeEvent) (replay : Replay) :
    events.foldl after replay =
      ⟨events.foldl Course.after replay.course,
        (events.filterMap RuntimeEvent.jobPhase?).foldl noted replay.jobs,
        (events.filterMap RuntimeEvent.incidentPhase?).foldl noted replay.incidents⟩ := by
  induction events generalizing replay with
  | nil => rfl
  | cons event rest ih =>
    rw [List.foldl_cons, ih, List.foldl_cons, List.filterMap_cons, List.filterMap_cons, after]
    cases event.jobPhase? <;> cases event.incidentPhase? <;> rfl

end Replay

/-- What a log tells in the end. -/
def replay (events : List RuntimeEvent) : Replay := events.foldl Replay.after .blank

/-- What is stored of an instance and can be told from its log. -/
def MemoryStore.account (store : MemoryStore) (id : InstanceId) (state : InstanceState) :
    Replay where
  course := state.course
  jobs := jobPhasesOf id store.jobs
  incidents := incidentPhasesOf id store.incidents

namespace UnitOfWork

variable {start work : UnitOfWork} {store : MemoryStore}

/-- The events that were added lead to the course that the instance has taken, also if it has
ended. -/
theorem Concludes.tells (concludes : start.Concludes work) : Tells (fun _ => True) start work := by
  rcases concludes with ⟨events, added, leads, -⟩ | ⟨middle, status, event, lasts, -, ends, rfl⟩
  · exact ⟨events, added, leads, fun _ _ => trivial⟩
  · obtain ⟨events, added, leads, -⟩ := lasts
    have middles : Tells (fun _ => True) start middle := ⟨events, added, leads, fun _ _ => trivial⟩
    exact middles.trans (tells_event trivial rfl (course_conclude middle ends))

/-- What the work will account for when it is stored. -/
def account (work : UnitOfWork) (store : MemoryStore) : Replay where
  course := work.state.course
  jobs := work.jobPhases store.jobs
  incidents := incidentPhasesOf work.record.id (work.incidentsOver store.incidents)

/-- Work begins with what is stored. -/
theorem account_begin {state : InstanceState} {id : InstanceId} {now : Instant} {supply : IdSupply}
    (keyed : state.record.id = id) :
    (UnitOfWork.begin state now supply).account store = store.account id state := by
  subst keyed
  rfl

/-- The events that were added lead from what was stored to what will be stored. -/
theorem leads_of_parts (concludes : start.Concludes work) (jobs : TellsJobs store.jobs start work)
    (notices : Notices store.incidents start work) (clean : start.incidents = []) :
    ∃ events, work.events = start.events ++ events ∧
      events.foldl Replay.after (start.account store) = work.account store := by
  obtain ⟨events, added, leads, -⟩ := concludes.tells
  obtain ⟨told, ⟨events', added', rfl⟩, leads'⟩ := jobs
  obtain ⟨told, ⟨events'', added'', rfl⟩, leads''⟩ := notices.tells clean
  obtain rfl := List.append_cancel_left (added'.symm.trans added)
  obtain rfl := List.append_cancel_left (added''.symm.trans added)
  refine ⟨_, added, ?_⟩
  have none : start.incidentsOver store.incidents = store.incidents := by
    rw [incidentsOver, clean]
    rfl
  rw [Replay.foldl_after, account, account, none, leads, leads', leads'', notices.id]

end UnitOfWork

namespace Engine

open UnitOfWork

variable {engine next first middle last : Engine MemoryStore} {scope : Scope}
  {entries later : List HistoryEntry} {start work : UnitOfWork}

/-- What is stored of an instance is what its log tells. -/
def Replays (engine : Engine MemoryStore) : Prop :=
  ∀ id state, engine.store.states.get? id = some state ->
    replay (engine.store.eventsOf id) = engine.store.account id state

theorem Fresh.replaying (fresh : engine.Fresh) : engine.Replays := by
  intro id state stored
  rw [fresh.store] at stored
  cases stored

/-- Work that tells its events keeps it so. -/
theorem Replays.apply (replays : engine.Replays) (storable : engine.Storable work)
    (linked : engine.Linked) (begun : engine.supply.next ≤ start.supply.next)
    (clean : start.incidents = []) (agrees : work.Agrees engine.store.jobs)
    (concludes : start.Concludes work) (jobs : TellsJobs engine.store.jobs start work)
    (notices : Notices engine.store.incidents start work)
    (before : replay (engine.store.eventsOf work.record.id ++ start.events) =
      start.account engine.store)
    (store : next.store = engine.store.apply work.finish.1) : next.Replays := by
  intro id state stored
  rw [store, storable.states_apply] at stored
  rw [store, eventsOf_apply_finish]
  by_cases same : id = work.record.id
  · rw [if_pos same] at stored ⊢
    cases stored
    obtain ⟨events, added, leads⟩ := leads_of_parts concludes jobs notices clean
    rw [same, added, ← List.append_assoc, replay, List.foldl_append, ← replay, before, leads]
    rfl
  · rw [if_neg same] at stored ⊢
    rw [List.append_nil, replays id state stored, MemoryStore.account, MemoryStore.account]
    have incidents : incidentPhasesOf id (work.incidentsOver engine.store.incidents) =
        incidentPhasesOf id engine.store.incidents :=
      notices.others clean (fun found => Nat.lt_of_lt_of_le (linked.drawn found) begun)
        (notices.id ▸ same)
    have jobs : jobPhasesOf id (work.jobsOver engine.store.jobs) =
        jobPhasesOf id engine.store.jobs :=
      phasesOf_congr (fun key job owned => agrees.others key job (owned ▸ same))
    exact congr (congrArg _ jobs.symm) incidents.symm

/-- Who claims a job does not matter for its phase. -/
theorem jobPhasesOf_claim {store : MemoryStore} (filed : store.Filed) (request : ClaimRequest)
    (owner : InstanceId) :
    jobPhasesOf owner (store.claim request).2.jobs = jobPhasesOf owner store.jobs := by
  apply OrderedMap.ext_get?
  intro key
  rw [jobPhasesOf, jobPhasesOf, get?_phasesOf, get?_phasesOf]
  rcases get?_claim filed request key with ⟨former, stored, pending, later⟩ | same
  · have phase : former.status.phase = .pending := by
      cases status : former.status with
      | pending | claimed => rfl
      | _ =>
        rw [status] at pending
        cases pending
    rw [later, stored, Option.filter_some, Option.filter_some,
      show (former.claim request.worker request.now).owner = former.owner from rfl]
    split
    · exact congrArg some phase.symm
    · rfl
  · rw [same]

/-- Of what is not there nothing is told. -/
theorem account_create (linked : engine.Linked) (agrees : engine.Agrees) {hash : ProgramHash}
    {payload : Json} {correlation : String} {id : InstanceId} {supply : IdSupply}
    (absent : engine.store.states.get? id = none) :
    (UnitOfWork.create (.create id hash payload correlation engine.now) engine.now
      supply).account engine.store = .blank := by
  have jobs : jobPhasesOf id engine.store.jobs = .empty := by
    refine phasesOf_of_none (fun found owned => ?_)
    obtain ⟨state, stored, -⟩ := agrees.issued found
    rw [owned, absent] at stored
    cases stored
  have incidents : incidentPhasesOf id engine.store.incidents = .empty := by
    refine phasesOf_of_none (fun found owned => ?_)
    obtain ⟨state, stored⟩ := linked.owned found
    rw [owned, absent] at stored
    cases stored
  exact congr (congrArg (Replay.mk _) jobs) incidents

/-- Logs go on telling what is stored. -/
theorem Advance.replaying (advance : Advance scope engine next) (consistent : engine.Consistent)
    (linked : engine.Linked) (logged : engine.Logged) (later : next.Bounded)
    (replays : engine.Replays) : next.Replays := by
  have orderly := consistent.orderly
  have bounded : engine.Bounded := Nat.le_trans (advance.supply orderly.sound) later
  have agrees := consistent.agrees bounded
  cases advance.effect orderly.sound with
  | same programs store supply =>
    intro id state stored
    rw [store] at stored ⊢
    exact replays id state stored
  | claim request store supply =>
    intro id state stored
    rw [store] at stored ⊢
    refine (replays id state stored).trans ?_
    exact congrArg (Replay.mk _ · _) (jobPhasesOf_claim orderly.filed request id).symm
  | purge now store supply =>
    intro id state stored
    rw [store] at stored ⊢
    exact replays id state stored
  | create known absent ran store supply took =>
    rename_i payload correlation program work
    have storable := storable_create absent ran
    have started : Calm (.create (.create ⟨engine.supply.next⟩ program.hash payload correlation
        engine.now) engine.now ⟨engine.supply.next + 1⟩) _ := calm_spawn _ 0 none
    have fits : (⟨engine.supply.next⟩ : InstanceId).Fits := by
      have drawn := storable.drawn
      rw [ran.confined.id, ← supply] at drawn
      exact Nat.lt_of_lt_of_le drawn later
    have begun := @Agrees.start _ agrees orderly.sound bounded (.create ⟨engine.supply.next⟩
      program.hash payload correlation engine.now) engine.now ⟨engine.supply.next + 1⟩ absent
    refine replays.apply storable linked (Nat.le_succ _) rfl
      (ran.agrees (shapely_start _) fits begun) (started.lasts.trans_concludes ran.concludes)
      (started.tellsJobs.trans (ran.tellsJobs (shapely_start _) fits begun))
      (notices_create ran) ?_ store
    have empty : engine.store.eventsOf work.record.id = [] := by
      rw [show work.record.id = ⟨engine.supply.next⟩ from ran.confined.id, MemoryStore.eventsOf,
        logged.absent _ absent]
      rfl
    rw [empty, account_create linked agrees absent]
    rfl
  | slice known stored own admitted intervened ran store supply took =>
    rename_i id purpose state program changed work
    have sound := orderly.sound _ _ stored
    have shapely := @shapely_begin _ _ engine.now _ sound
    have begun := agrees.begin orderly.sound bounded engine.now engine.supply stored
    have changes := intervened.agrees orderly.filed shapely sound.keyed rfl rfl begun
    have fits : changed.record.id.Fits := by
      rw [intervened.continues.id]
      exact Nat.lt_of_lt_of_le (sound.keyed ▸ sound.drawn) bounded
    have turns := intervened.shapely shapely
    obtain ⟨storable, keyed⟩ := storable_slice orderly.sound stored intervened ran
    have concludes := intervened.concludes.trans_ran ran
    refine replays.apply storable linked (Nat.le_refl _) rfl (ran.agrees turns fits changes)
      concludes
      ((intervened.tellsJobs orderly.filed shapely sound.keyed rfl begun).trans
        (ran.tellsJobs turns fits changes))
      ((intervened.notices linked.toLinked sound.keyed).trans ran.notices) ?_ store
    rw [keyed, account_begin sound.keyed, ← replays _ _ stored]
    exact congrArg replay (List.append_nil _)

/-- An engine whose logs tell what it stores. -/
structure Recounted (engine : Engine MemoryStore) : Prop where
  consistent : engine.Consistent
  linked : engine.Linked
  logged : engine.Logged
  replays : engine.Bounded -> engine.Replays

theorem Fresh.recounted (fresh : engine.Fresh) : engine.Recounted :=
  ⟨fresh.consistent, fresh.linked, fresh.logged, fun _ => fresh.replaying⟩

theorem Advance.recounted (advance : Advance scope engine next) (recounted : engine.Recounted) :
    next.Recounted := by
  have sound := recounted.consistent.orderly.sound
  refine ⟨advance.consistent recounted.consistent, advance.linked sound recounted.linked,
    advance.logged sound recounted.logged, fun bounded => ?_⟩
  exact advance.replaying recounted.consistent recounted.linked recounted.logged bounded
    (recounted.replays (Nat.le_trans (advance.supply sound) bounded))

/-- Records of a log are never changed. -/
theorem History.extends (history : History middle later last) (sound : middle.Sound)
    (id : InstanceId) : middle.store.log id <+: last.store.log id := by
  have step : ∀ scope engine next, Advance scope engine next ->
      (engine.Sound ∧ middle.store.log id <+: engine.store.log id) ->
      next.Sound ∧ middle.store.log id <+: next.store.log id := by
    rintro scope engine next advance ⟨sound, grown⟩
    exact ⟨advance.sound sound, grown.trans (advance.extends sound id)⟩
  exact (history.preserves step ⟨sound, List.prefix_rfl⟩).2

/-- Whatever an engine is asked, the log of an instance is numbered from one without gaps and only
grows, and to replay it gives what is stored: the status, the fibers that live, the counters, the
joins with their activations, arrivals and expectations, the phases of the jobs, and which
incidents are open. -/
theorem History.replays (history : History first entries middle)
    (continued : History middle later last) (fresh : first.Fresh)
    (bounded : last.supply.next ≤ 2 ^ 128) :
    (∀ id, NumberedFor id (last.store.log id) ∧ middle.store.log id <+: last.store.log id) ∧
      ∀ id state, last.store.states.get? id = some state ->
        replay (last.store.eventsOf id) = last.store.account id state := by
  have recounts : ∀ scope engine next, Advance scope engine next -> engine.Recounted ->
      next.Recounted := fun _ _ _ advance => advance.recounted
  have recounted := history.preserves recounts fresh.recounted
  have recounted' := continued.preserves recounts recounted
  exact ⟨fun id => ⟨recounted'.logged.numbered id,
    continued.extends recounted.consistent.orderly.sound id⟩, recounted'.replays bounded⟩

/-- The log of the task that was taken up again tells all that is stored of its instance. -/
theorem replays_of_task : ∃ job state,
    (TaskRun.engine.performAll TaskRun.operations).store.jobs.get? TaskRun.key = some job ∧
      (TaskRun.engine.performAll TaskRun.operations).store.states.get? job.owner = some state ∧
      replay ((TaskRun.engine.performAll TaskRun.operations).store.eventsOf job.owner) =
        (TaskRun.engine.performAll TaskRun.operations).store.account job.owner state := by
  obtain ⟨bounded, reopened, -⟩ := TaskRun.reopened
  obtain ⟨job, stored, pending⟩ := (Option.any_eq_true _ _).1 reopened
  have history := History.of_operations TaskRun.engine TaskRun.operations
  obtain ⟨state, -, present, -⟩ :=
    (history.consistent ⟨rfl, rfl⟩).awaited bounded stored pending
  obtain ⟨-, replays⟩ := History.replays history .refl ⟨rfl, rfl⟩ bounded
  exact ⟨job, state, stored, present, replays _ _ present⟩

end Engine

end ProcessEngine
