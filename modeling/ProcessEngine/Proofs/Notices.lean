import ProcessEngine.Proofs.Phases

/-!
# What the log tells about incidents

Work on an instance writes incidents of this instance only: new ones, and others that it had
before. The events that are added tell of them in the same order (`UnitOfWork.Notices`). That an
incident which is settled along with a dead letter belongs to the instance of the job is an
invariant of the store (`Engine.Attributed`).
-/

namespace ProcessEngine

/-- What the log tells about an incident. -/
def Incident.told (incident : Incident) : IncidentId × Bool := (incident.id, incident.isOpen)

/-- The incidents of an instance, and whether they are open. -/
def incidentPhasesOf (owner : InstanceId) (incidents : OrderedMap IncidentId Incident) :
    OrderedMap IncidentId Bool :=
  phasesOf Incident.owner Incident.isOpen owner incidents

/-- Incidents are found under their identifiers, and an incident that a dead letter names is there
and belongs to the instance of the letter's job. -/
structure MemoryStore.Linked (store : MemoryStore) : Prop where
  keyed : ∀ {key incident}, store.incidents.get? key = some incident -> incident.id = key
  linked : ∀ {place letter key}, store.deadLetters.get? place = some letter ->
    letter.incident = some key ->
      ∃ incident, store.incidents.get? key = some incident ∧ incident.owner = letter.job.owner

namespace UnitOfWork

/-- Incidents of the instance were written, new ones and ones that it had, and the events that were
added tell of them in this order. -/
structure Notices (table : OrderedMap IncidentId Incident) (work next : UnitOfWork) : Prop where
  id : next.record.id = work.record.id
  supply : work.supply.next ≤ next.supply.next
  noticed : ∃ noticed, next.incidents = work.incidents ++ noticed ∧
    Reports RuntimeEvent.incidentPhase? work next (noticed.map Incident.told) ∧
    ∀ incident ∈ noticed, incident.owner = work.record.id ∧
      (work.supply.next ≤ incident.id.number ∧ incident.id.number < next.supply.next ∨
        ∃ former, table.get? incident.id = some former ∧ former.owner = work.record.id)

variable {first middle last work next : UnitOfWork} {table : OrderedMap IncidentId Incident}
  {fiber : Fiber} {program : Program}

/-- Work that writes no incident must not report any. -/
theorem notices_of_same (continues : work.Continues next)
    (incidents : next.incidents = work.incidents)
    (reports : Reports RuntimeEvent.incidentPhase? work next []) : Notices table work next :=
  ⟨continues.id, continues.supply, [], incidents.trans (List.append_nil _).symm, reports,
    fun _ listed => absurd listed List.not_mem_nil⟩

theorem Notices.refl (table : OrderedMap IncidentId Incident) (work : UnitOfWork) :
    Notices table work work := notices_of_same (.refl work) rfl (reports_of_same rfl)

theorem Notices.trans (earlier : Notices table first middle) (later : Notices table middle last) :
    Notices table first last := by
  obtain ⟨noticed, appended, reports, known⟩ := earlier.noticed
  obtain ⟨more, appended', reports', known'⟩ := later.noticed
  have begun := earlier.supply
  have ended := later.supply
  refine ⟨later.id.trans earlier.id, Nat.le_trans begun ended, noticed ++ more, ?_, ?_, ?_⟩
  · rw [appended', appended, List.append_assoc]
  · rw [List.map_append]
    exact reports.trans reports'
  · intro incident listed
    rcases List.mem_append.1 listed with listed | listed
    · obtain ⟨owned, ⟨late, drawn⟩ | had⟩ := known incident listed
      · exact ⟨owned, .inl ⟨late, Nat.lt_of_lt_of_le drawn ended⟩⟩
      · exact ⟨owned, .inr had⟩
    · obtain ⟨owned, ⟨late, drawn⟩ | had⟩ := known' incident listed
      · exact ⟨owned.trans earlier.id, .inl ⟨Nat.le_trans begun late, drawn⟩⟩
      · rw [earlier.id] at owned had
        exact ⟨owned, .inr had⟩

theorem Calm.notices (calm : work.Calm next) : Notices table work next :=
  notices_of_same calm.toContinues calm.incidents (calm.tells.reports RuntimeEvent.IsPlain.incident)

/-- A fiber may be halted on a new incident. -/
theorem notices_halt (work : UnitOfWork) (incident : Incident)
    (owned : incident.owner = work.record.id) (fresh : incident.id = ⟨work.supply.next⟩)
    (pending : incident.isOpen = true) :
    Notices table work ({ work with supply := ⟨work.supply.next + 1⟩ }.halt incident) := by
  have halted := (steady_draw work).trans (steady_halt _ incident)
  have supply : work.supply.next + 1 ≤ ({ work with supply := ⟨work.supply.next + 1⟩ }.halt
      incident).supply.next := (steady_halt { work with
        supply := ⟨work.supply.next + 1⟩ } incident).supply
  refine ⟨halted.id, halted.supply, [incident], ?_, ?_, ?_⟩
  · exact incidents_halt _ incident
  · have raised : Reports RuntimeEvent.incidentPhase? work ({ work with
        supply := ⟨work.supply.next + 1⟩ }.emit (.incidentRaised incident.id incident.kind))
          [incident.told] := by
      rw [Incident.told, pending]
      exact reports_event rfl rfl
    have parked := calm_park ({ work with supply := ⟨work.supply.next + 1⟩ }.emit
      (.incidentRaised incident.id incident.kind)) incident.fiber incident.address
        (.incident incident.id)
    exact (raised.trans_nil (parked.tells.reports RuntimeEvent.IsPlain.incident)).trans_nil
      (reports_of_same rfl)
  · intro other listed
    rw [List.mem_singleton.1 listed, fresh]
    exact ⟨owned, .inl ⟨Nat.le_refl _, supply⟩⟩

/-- An incident that the instance had may be settled, and other things be done before it is
written. -/
theorem notices_settle {incident resolved : Incident}
    (stored : table.get? incident.id = some incident) (owned : incident.owner = work.record.id)
    (settles : incident.Settles resolved) (closed : resolved.isOpen = false)
    (calm : (work.emit (.incidentResolved incident.id)).Calm middle) :
    Notices table work (middle.putIncident resolved) := by
  have continues := ((continues_emit work (.incidentResolved incident.id)).trans
    calm.toContinues).trans (continues_putIncident _ resolved)
  obtain ⟨status, rfl⟩ := settles
  refine ⟨continues.id, continues.supply, [{ incident with status := status }], ?_, ?_, ?_⟩
  · exact congrArg (· ++ [{ incident with status := status }]) calm.incidents
  · rw [List.map_singleton, Incident.told, closed]
    have settled : Reports RuntimeEvent.incidentPhase? work
        (work.emit (.incidentResolved incident.id)) [(incident.id, false)] := reports_event rfl rfl
    exact (settled.trans_nil (calm.tells.reports RuntimeEvent.IsPlain.incident)).trans_nil
      (reports_of_same rfl)
  · intro other listed
    rw [List.mem_singleton.1 listed]
    exact ⟨owned, .inr ⟨incident, stored, owned⟩⟩

/-! ## Turns -/

theorem notices_completeIfIdle (work : UnitOfWork) : Notices table work work.completeIfIdle := by
  refine notices_of_same (steady_completeIfIdle work).toContinues
    (incidents_completeIfIdle work) ?_
  rw [completeIfIdle]
  split
  · exact reports_emit _ rfl
  · exact reports_of_same rfl

theorem notices_close {status : InstanceStatus} {event : RuntimeEvent}
    (ends : event.ending? = some status) (closes : work.close status event = .ok next) :
    Notices table work next := by
  refine notices_of_same (confined_close closes).toContinues (incidents_close closes) ?_
  obtain ⟨-, rfl⟩ := close_cases closes
  have ended := (tells_endFibers RuntimeEvent.covers_incidents work.state.fibersInOrder
    work).reports (fun silent => silent)
  exact ended.trans (reports_emit _ (RuntimeEvent.incidentPhase_of_ending ends))

theorem Turned.notices (turned : Turned program fiber work next)
    (found : work.fiber? fiber.id = some fiber) : Notices table work next := by
  rcases turned.narrated found with ⟨middle, calm, rfl | rfl⟩ | ⟨_, _, _, _, rfl, -⟩ |
    ⟨node, closes⟩ | ⟨before, kind, message, calm, rfl⟩
  · exact calm.notices
  · exact calm.notices.trans (notices_completeIfIdle middle)
  · have dispatched : ∀ job, Notices table work (work.dispatch job) :=
      fun job => notices_of_same (confined_dispatch work job).toContinues rfl (reports_emit _ rfl)
    exact (dispatched _).trans (calm_park _ _ _ _).notices
  · exact notices_close rfl closes
  · exact calm.notices.trans (notices_halt before _ rfl rfl rfl)

theorem Ran.notices (ran : Ran program work next) : Notices table work next := by
  induction ran with
  | refl => exact .refl table work
  | step prior running found ready turned ih => exact ih.trans (turned.notices found)

/-! ## Changes -/

theorem notices_deliver (work : UnitOfWork) (signal : WakeSignal) :
    Notices table work (work.deliver signal).2 :=
  notices_of_same (confined_deliver work signal).toContinues (incidents_deliver work signal)
    ((tells_deliver RuntimeEvent.covers_incidents work signal).reports (fun silent => silent))

end UnitOfWork

open UnitOfWork

section

variable {store : MemoryStore} {work changed : UnitOfWork} {job : Job} {fiber : Fiber}
  {program : Program} {id : InstanceId} {purpose : Purpose}
  {table : OrderedMap IncidentId Incident}

theorem Job.notices_shelved (letter : DeadLetter) (work : UnitOfWork) :
    Notices table work (Job.shelved letter work) :=
  notices_of_same (Job.continues_shelved letter work) rfl (reports_emit _ rfl)

theorem Job.Failed.notices {outcome : FailureOutcome}
    (failed : job.Failed program work fiber outcome changed)
    (owned : job.owner = work.record.id) : Notices table work changed := by
  have continues := failed.continues
  cases failed with
  | retry notBefore problem => exact notices_of_same continues rfl (reports_emit _ rfl)
  | bury kind problem expires =>
    have stopped : Notices table work (job.stopped kind problem fiber.pc work) :=
      notices_halt work _ owned rfl rfl
    exact stopped.trans (Job.notices_shelved _ _)
  | route problem leads =>
    rename_i code target
    have finished : Notices table work (Job.finished { job with lastError := some problem }
        (.jobErrorRouted job.key code) work) :=
      notices_of_same (Job.continues_finished _ _ work) rfl (reports_emit _ rfl)
    exact finished.trans ((calm_dropWatchdog _ _).trans (calm_wake _ _ _)).notices

/-- Every change writes incidents of the instance only. -/
theorem Intervened.notices (intervened : Intervened store id program work purpose changed)
    (linked : store.Linked) (same : work.record.id = id) :
    Notices store.incidents work changed := by
  have continues := intervened.continues
  cases intervened with
  | run => exact .refl _ work
  | cancel running closes => exact notices_close rfl closes
  | complete stored owned first wanted completion =>
    rename_i key job fiber
    have finished : Notices store.incidents work (job.finished (.jobCompleted job.key)
        (work.recordCompletion ⟨job.key, completion, true, work.time⟩)) :=
      notices_of_same ((continues_recordCompletion _ _).trans (job.continues_finished _ _)) rfl
        (reports_emit _ rfl)
    exact finished.trans ((calm_accept _ _ _).trans (calm_wake _ _ _)).notices
  | record stored owned first unwanted completion =>
    exact notices_of_same continues rfl (reports_emit _ rfl)
  | fail stored owned wanted failed => exact failed.notices (owned.trans same.symm)
  | dismiss => exact .refl _ work
  | deliver running signal => exact notices_deliver work signal
  | discard => exact .refl _ work
  | restart stored settles running alone owned closed =>
    obtain rfl := linked.keyed stored
    exact notices_settle stored (owned.trans same.symm) settles closed (calm_restart _ _ _)
  | settle stored settles owned closed =>
    obtain rfl := linked.keyed stored
    exact notices_settle stored (owned.trans same.symm) settles closed (.refl _)
  | requeue stored owned running found waits settles =>
    rename_i place letter fiber incident settled
    have requeued : Notices store.incidents work (letter.requeued fiber.pc work) :=
      (calm_park work letter.job.fiber fiber.pc (.job letter.key)).notices.trans
        (notices_of_same ((continues_updateJob _ _).trans (continues_removeDeadLetter _ _)) rfl
          (reports_of_same rfl))
    have logged : ∀ work : UnitOfWork,
        Notices store.incidents work (work.emit (.jobRequeued letter.key)) :=
      fun work => notices_of_same (continues_emit work _) rfl (reports_emit work rfl)
    cases settles with
    | nothing => exact requeued.trans (logged _)
    | incident found settles closed =>
      obtain ⟨key, names, present⟩ := Option.bind_eq_some_iff.1 found
      obtain ⟨_, present', mine⟩ := linked.linked stored names
      cases present.symm.trans present'
      obtain rfl := linked.keyed present
      refine (requeued.trans (notices_settle present ?_ settles closed (.refl _))).trans (logged _)
      rw [requeued.id]
      exact (mine.trans owned).trans same.symm
  | abandon stored owned => exact notices_of_same continues rfl (reports_emit _ rfl)

/-- A job that is set aside leaves a letter, which names the incident that is raised for it. -/
theorem Job.shelves_buried (clean : work.deadLetters = []) (kind : FaultClass) (problem : String)
    (expires : Instant) (pc : Address) :
    ∀ letter ∈ (job.buried kind problem expires pc work).deadLetters,
      letter.job.owner = job.owner ∧ ∀ key, letter.incident = some key ->
        ∃ incident ∈ (job.buried kind problem expires pc work).incidents, incident.id = key := by
  have raised : ∃ incident ∈ (job.stopped kind problem pc work).incidents,
      incident.id = ⟨work.supply.next⟩ := by
    rw [Job.stopped, halt]
    exact ⟨_, List.mem_append_right _ (List.mem_singleton.2 rfl), rfl⟩
  rw [buried, deadLetters_shelved, incidents_shelved,
    (job.steady_stopped kind problem pc work).deadLetters, clean]
  intro letter listed
  obtain rfl := List.mem_singleton.1 listed
  refine ⟨rfl, fun key names => ?_⟩
  obtain rfl := Option.some.inj names
  exact raised

/-- A letter that is put down names an incident that is noted beside it. -/
theorem Intervened.shelves (intervened : Intervened store id program work purpose changed)
    (clean : work.deadLetters = []) : ∀ letter ∈ changed.deadLetters, letter.job.owner = id ∧
      ∀ key, letter.incident = some key -> ∃ incident ∈ changed.incidents, incident.id = key := by
  have none : ∀ {next : UnitOfWork}, next.deadLetters = work.deadLetters ->
      ∀ letter ∈ next.deadLetters, letter.job.owner = id ∧ ∀ key, letter.incident = some key ->
        ∃ incident ∈ next.incidents, incident.id = key := by
    intro next same
    rw [same, clean]
    exact fun letter listed => absurd listed List.not_mem_nil
  cases intervened with
  | run | dismiss | discard => exact none rfl
  | cancel running closes => exact none (confined_close closes).deadLetters
  | complete stored owned first wanted completion =>
    rename_i key job fiber
    have steady := (steady_accept (job.finished (.jobCompleted job.key) (work.recordCompletion
      ⟨job.key, completion, true, work.time⟩)) completion.flags completion.payload).trans
        (steady_wake _ job.fiber (fiber.pc + 1))
    exact none steady.deadLetters
  | record stored owned first unwanted completion => exact none rfl
  | fail stored owned wanted failed =>
    rename_i key job fiber outcome
    cases failed with
    | retry notBefore problem => exact none rfl
    | bury kind problem expires =>
      intro letter listed
      obtain ⟨same, beside⟩ := job.shelves_buried clean kind problem expires fiber.pc letter listed
      exact ⟨same.trans owned, beside⟩
    | route problem leads =>
      rename_i code target
      have steady := (steady_dropWatchdog (Job.finished { job with lastError := some problem }
        (.jobErrorRouted job.key code) work) fiber).trans (steady_wake _ job.fiber target)
      exact none steady.deadLetters
  | deliver running signal => exact none (confined_deliver work signal).deadLetters
  | restart stored settles running alone owned closed =>
    exact none (((steady_emit work _).trans (steady_restart _ _ _)).trans
      (steady_putIncident _ _)).deadLetters
  | settle stored settles owned closed => exact none rfl
  | requeue stored owned running found waits settles =>
    rename_i place letter fiber incident settled
    have parked := steady_park work letter.job.fiber fiber.pc (.job letter.key)
    exact none ((settles.steady (.jobRequeued letter.key)).deadLetters.trans parked.deadLetters)
  | abandon stored owned => exact none rfl

end

/-! ## What was noticed -/

namespace UnitOfWork

namespace Notices

variable {start work : UnitOfWork} {table : OrderedMap IncidentId Incident}

/-- The events lead from the incidents of the instance before to those that will be stored. -/
theorem tells (notices : Notices table start work) (clean : start.incidents = []) :
    ∃ told, Reports RuntimeEvent.incidentPhase? start work told ∧
      told.foldl noted (incidentPhasesOf start.record.id table) =
        incidentPhasesOf start.record.id (work.incidentsOver table) := by
  obtain ⟨noticed, appended, reports, known⟩ := notices.noticed
  rw [clean] at appended
  refine ⟨_, reports, ?_⟩
  rw [incidentsOver, appended]
  exact (phasesOf_foldl Incident.id noticed (fun incident listed => (known incident listed).1)
    table).symm

/-- An incident that will be stored was there, or belongs to the instance and is a new one or one
that it had. -/
theorem origin (notices : Notices table start work) (clean : start.incidents = [])
    {key : IncidentId} {incident : Incident}
    (found : (work.incidentsOver table).get? key = some incident) :
    table.get? key = some incident ∨ incident.id = key ∧ incident.owner = start.record.id ∧
      (start.supply.next ≤ key.number ∧ key.number < work.supply.next ∨
        ∃ former, table.get? key = some former ∧ former.owner = start.record.id) := by
  obtain ⟨noticed, appended, -, known⟩ := notices.noticed
  rw [clean, List.nil_append] at appended
  rw [incidentsOver, appended] at found
  rcases OrderedMap.get?_foldl_insert_cases Incident.id (fun incident => incident) noticed table
    key with ⟨other, listed, rfl, written⟩ | ⟨-, same⟩
  · cases found.symm.trans written
    exact .inr ⟨rfl, known incident listed⟩
  · exact .inl (same.symm.trans found)

/-- An incident that was there stays that of its instance, and as it is unless the instance is the
one that was worked on. -/
theorem kept (notices : Notices table start work) (clean : start.incidents = [])
    (drawn : ∀ {key incident}, table.get? key = some incident -> key.number < start.supply.next)
    {key : IncidentId} {incident : Incident} (found : table.get? key = some incident) :
    ∃ later, (work.incidentsOver table).get? key = some later ∧ later.owner = incident.owner ∧
      (incident.owner ≠ start.record.id -> later = incident) := by
  obtain ⟨noticed, appended, -, known⟩ := notices.noticed
  rw [clean, List.nil_append] at appended
  rw [incidentsOver, appended]
  rcases OrderedMap.get?_foldl_insert_cases Incident.id (fun incident => incident) noticed table
    key with ⟨other, listed, rfl, written⟩ | ⟨-, same⟩
  · obtain ⟨owned, ⟨late, -⟩ | ⟨former, had, mine⟩⟩ := known other listed
    · exact absurd (drawn found) (Nat.not_lt.2 late)
    · cases found.symm.trans had
      exact ⟨other, written, owned.trans mine.symm, fun foreign => absurd mine foreign⟩
  · exact ⟨incident, same.trans found, rfl, fun _ => rfl⟩

/-- Nothing becomes of the incidents of other instances. -/
theorem others (notices : Notices table start work) (clean : start.incidents = [])
    (drawn : ∀ {key incident}, table.get? key = some incident -> key.number < start.supply.next)
    {owner : InstanceId} (other : owner ≠ start.record.id) :
    incidentPhasesOf owner (work.incidentsOver table) = incidentPhasesOf owner table := by
  refine phasesOf_congr (fun key incident owned => ⟨fun found => ?_, fun found => ?_⟩)
  · rcases notices.origin clean found with same | ⟨-, mine, -⟩
    · exact same
    · exact absurd (owned.symm.trans mine) other
  · obtain ⟨later, found', -, same⟩ := notices.kept clean drawn found
    rw [found', same (fun mine => other (owned.symm.trans mine))]

end Notices

end UnitOfWork

/-! ## Engines -/

namespace Engine

/-- Incidents are found under their identifiers, which were drawn, and belong to stored instances.
An incident that a dead letter names belongs to the instance of the letter's job. -/
structure Linked (engine : Engine MemoryStore) : Prop extends engine.store.Linked where
  drawn : ∀ {key incident}, engine.store.incidents.get? key = some incident ->
    key.number < engine.supply.next
  owned : ∀ {key incident}, engine.store.incidents.get? key = some incident ->
    ∃ state, engine.store.states.get? incident.owner = some state

variable {engine next : Engine MemoryStore} {scope : Scope} {start changed work : UnitOfWork}
  {program : Program}

theorem Fresh.linked (fresh : engine.Fresh) : engine.Linked := by
  have incidents : ∀ key, engine.store.incidents.get? key = none := by
    rw [fresh.store]
    exact fun _ => rfl
  have letters : ∀ place, engine.store.deadLetters.get? place = none := by
    rw [fresh.store]
    exact fun _ => rfl
  refine ⟨⟨fun found => ?_, fun found => ?_⟩, fun found => ?_, fun found => ?_⟩
  · cases (incidents _).symm.trans found
  · cases (letters _).symm.trans found
  · cases (incidents _).symm.trans found
  · cases (incidents _).symm.trans found

/-- Work that is stored keeps the incidents linked. -/
theorem Linked.apply (linked : engine.Linked) (storable : engine.Storable work)
    (begun : engine.supply.next ≤ start.supply.next) (clean : start.incidents = [])
    (notices : Notices engine.store.incidents start work)
    (letters : ∀ letter ∈ work.deadLetters, letter.job.owner = start.record.id ∧
      ∀ key, letter.incident = some key -> ∃ incident ∈ work.incidents, incident.id = key)
    (store : next.store = engine.store.apply work.finish.1) (supply : next.supply = work.supply) :
    next.Linked := by
  have incidents : next.store.incidents = work.incidentsOver engine.store.incidents := by
    rw [store]
    rfl
  have drawn : ∀ {key incident}, engine.store.incidents.get? key = some incident ->
      key.number < start.supply.next := fun found => Nat.lt_of_lt_of_le (linked.drawn found) begun
  refine ⟨⟨fun {key incident} found => ?_, fun {place letter key} stored names => ?_⟩,
    fun {key incident} found => ?_, fun {key incident} found => ?_⟩
  · rw [incidents] at found
    rcases notices.origin clean found with before | ⟨named, -⟩
    · exact linked.keyed before
    · exact named
  · rw [incidents]
    rw [store] at stored
    change OrderedMap.get? (work.deadLetters.foldl _ (work.removedDeadLetters.foldl _ _)) place =
      some letter at stored
    rcases OrderedMap.get?_foldl_insert_cases DeadLetter.place (fun letter => letter)
      work.deadLetters (work.removedDeadLetters.foldl OrderedMap.erase engine.store.deadLetters)
        place with ⟨other, listed, -, written⟩ | ⟨-, same⟩
    · cases stored.symm.trans written
      obtain ⟨owned, beside⟩ := letters letter listed
      obtain ⟨noticed, there, rfl⟩ := beside key names
      rcases OrderedMap.get?_foldl_insert_cases Incident.id (fun incident => incident)
        work.incidents engine.store.incidents noticed.id with
          ⟨incident, listed, -, found⟩ | ⟨absent, -⟩
      · obtain ⟨noticed, appended, -, known⟩ := notices.noticed
        rw [appended, clean] at listed
        exact ⟨incident, found, (known incident listed).1.trans owned.symm⟩
      · exact absurd rfl (absent noticed there)
    · have before := same.symm.trans stored
      rw [OrderedMap.get?_foldl_erase] at before
      split at before
      · cases before
      · obtain ⟨incident, found, mine⟩ := linked.linked before names
        obtain ⟨later, found', same, -⟩ := notices.kept clean drawn found
        exact ⟨later, found', same.trans mine⟩
  · rw [incidents] at found
    rw [supply]
    rcases notices.origin clean found with before | ⟨-, -, ⟨-, new⟩ | ⟨former, before, -⟩⟩
    · exact Nat.lt_of_lt_of_le (drawn before) notices.supply
    · exact new
    · exact Nat.lt_of_lt_of_le (drawn before) notices.supply
  · rw [incidents] at found
    rw [store, storable.states_apply]
    split
    · exact ⟨_, rfl⟩
    · rename_i other
      rcases notices.origin clean found with before | ⟨-, mine, -⟩
      · exact linked.owned before
      · exact absurd (mine.trans notices.id.symm) other

/-- What a new instance notices up to the end of its first turns. -/
theorem notices_create {record : ProcessInstance} {now : Instant} {supply : IdSupply}
    {table : OrderedMap IncidentId Incident}
    (ran : Ran program (UnitOfWork.create record now supply).start.2 work) :
    Notices table (UnitOfWork.create record now supply) work := by
  have started : (UnitOfWork.create record now supply).Calm
      (UnitOfWork.create record now supply).start.2 := calm_spawn _ 0 none
  exact started.notices.trans ran.notices

theorem Advance.linked (advance : Advance scope engine next) (sound : engine.Sound)
    (linked : engine.Linked) : next.Linked := by
  cases advance.effect sound with
  | same programs store supply =>
    have drawn := fun {key incident} found =>
      Nat.lt_of_lt_of_le (@Linked.drawn _ linked key incident found) supply
    refine ⟨?_, ?_, ?_⟩
    all_goals rw [store]
    · exact ⟨linked.keyed, linked.linked⟩
    · exact drawn
    · exact linked.owned
  | claim request store supply =>
    refine ⟨?_, ?_, ?_⟩
    all_goals rw [store]
    · exact ⟨linked.keyed, linked.linked⟩
    · rw [supply]
      exact linked.drawn
    · exact linked.owned
  | purge now store supply =>
    refine ⟨?_, ?_, ?_⟩
    all_goals rw [store]
    · refine ⟨linked.keyed, fun stored => ?_⟩
      change (engine.store.deadLetters.filter _).get? _ = _ at stored
      rw [OrderedMap.get?_filter, Option.filter_eq_some_iff] at stored
      exact linked.linked stored.1
    · rw [supply]
      exact linked.drawn
    · exact linked.owned
  | create known absent ran store supply =>
    refine linked.apply (storable_create absent ran) (Nat.le_succ _) rfl (notices_create ran) ?_
      store supply
    rw [ran.confined.deadLetters]
    exact fun letter listed => absurd listed List.not_mem_nil
  | slice known stored own admitted intervened ran store supply took =>
    rename_i id purpose state program changed work
    have keyed := (sound _ _ stored).keyed
    have turns : Notices engine.store.incidents changed work := ran.notices
    have notices := (intervened.notices linked.toLinked keyed).trans turns
    have storable := (storable_slice sound stored intervened ran).1
    refine linked.apply storable (Nat.le_refl _) rfl notices (fun letter listed => ?_) store supply
    rw [ran.confined.deadLetters] at listed
    obtain ⟨owned, beside⟩ := intervened.shelves rfl letter listed
    refine ⟨owned.trans keyed.symm, fun key names => ?_⟩
    obtain ⟨incident, there, same⟩ := beside key names
    obtain ⟨noticed, appended, -⟩ := turns.noticed
    exact ⟨incident, appended ▸ List.mem_append_left _ there, same⟩

end Engine

end ProcessEngine
