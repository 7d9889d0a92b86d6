import ProcessEngine.Proofs.JobAgreement
import ProcessEngine.Proofs.Sparing
import ProcessEngine.Proofs.Supplies

/-!
# Fibers at the dispatches of their jobs

A fiber that waits for a job has stayed at the instruction that handed the job out, also if the
job was set aside and put back in between. While a job is set aside its fiber, as long as it
lives, is halted there on an incident of this job, which no operator can resolve away
(`UnitOfWork.Anchored`).
-/

namespace ProcessEngine

/-- A program of a hash hands out a job at an address. -/
def ProgramHash.DispatchesAt (hash : ProgramHash) (pc : Address) : Prop :=
  ∃ program taskType node retries routes, Program.Named program hash ∧
    program.instruction? pc = some (.dispatch taskType node retries routes)

/-- An incident was raised for a job. -/
def RaisedFor (incidents : OrderedMap IncidentId Incident) (id : IncidentId) (key : JobKey) :
    Prop :=
  ∃ incident, incidents.get? id = some incident ∧ incident.jobKey = some key

theorem RaisedFor.recalled {incidents later : OrderedMap IncidentId Incident} {id : IncidentId}
    {key : JobKey} (raised : RaisedFor incidents id key) (recalled : Recalled incidents later) :
    RaisedFor later id key := by
  obtain ⟨incident, found, about⟩ := raised
  obtain ⟨resolved, found', status, rfl⟩ := recalled _ _ found
  exact ⟨_, found', about⟩

/-- The fiber of the letter's job is halted at a dispatch, on an incident of the job. -/
def DeadLetter.Holds (letter : DeadLetter) (fibers : FiberId -> Option Fiber)
    (incidents : OrderedMap IncidentId Incident) (hash : ProgramHash) : Prop :=
  ∀ {fiber}, fibers letter.job.fiber = some fiber ->
    (∃ id, fiber.wait = .incident id ∧ RaisedFor incidents id letter.key) ∧
      hash.DispatchesAt fiber.pc

namespace UnitOfWork

/-- The dead letters as they will be stored. -/
def lettersOver (work : UnitOfWork) (table : OrderedMap DeadLetterKey DeadLetter) :
    OrderedMap DeadLetterKey DeadLetter :=
  work.deadLetters.foldl (fun letters letter => letters.insert letter.place letter)
    (work.removedDeadLetters.foldl OrderedMap.erase table)

/-- Every fiber that waits for a job of its instance, or for one that is set aside, has stayed at
a dispatch. -/
structure Anchored (work : UnitOfWork) (store : MemoryStore) : Prop where
  recalls : work.Recalls store.incidents
  recalled : Recalled store.incidents (work.incidentsOver store.incidents)
  parked : ∀ {id fiber key}, work.fiber? id = some fiber -> fiber.wait = .job key ->
    work.record.program.DispatchesAt fiber.pc
  drawn : ∀ {place letter}, (work.lettersOver store.deadLetters).get? place = some letter ->
    letter.job.fiber.number < work.supply.next
  held : ∀ {place letter}, (work.lettersOver store.deadLetters).get? place = some letter ->
    letter.job.owner = work.record.id ->
      letter.Holds work.fiber? (work.incidentsOver store.incidents) work.record.program
  others : ∀ {place letter}, (work.lettersOver store.deadLetters).get? place = some letter ->
    letter.job.owner ≠ work.record.id -> store.deadLetters.get? place = some letter

variable {work next : UnitOfWork} {store : MemoryStore} {fiber : Fiber} {own : FiberId}
  {program : Program}

/-- No dead letter is held at the fiber. -/
def Anchored.Free (work : UnitOfWork) (store : MemoryStore) (own : FiberId) : Prop :=
  ∀ {place letter}, (work.lettersOver store.deadLetters).get? place = some letter ->
    letter.job.owner = work.record.id -> letter.job.fiber ≠ own

/-- A fiber that waits for no incident holds no dead letter. -/
theorem Anchored.free (anchored : work.Anchored store) (found : work.fiber? own = some fiber)
    (waits : ∀ id, fiber.wait ≠ .incident id) : Anchored.Free work store own := by
  rintro place letter stored owned rfl
  obtain ⟨⟨id, halted, -⟩, -⟩ := anchored.held stored owned found
  exact waits id halted

/-- A fiber that has not been made yet holds no dead letter. -/
theorem Anchored.free_fresh (anchored : work.Anchored store) :
    Anchored.Free work store ⟨work.supply.next⟩ := by
  rintro place letter stored - same
  have drawn := anchored.drawn stored
  rw [same] at drawn
  exact Nat.lt_irrefl _ drawn

/-- Work that touches one fiber and new ones keeps all fibers anchored, if no dead letter is held
at the fiber and it waits for a job afterwards only at a dispatch. -/
theorem Anchored.spared (anchored : work.Anchored store) (shapely : work.Shapely)
    (continues : work.Continues next) (spares : work.Spares own next)
    (letters : ∀ {place letter}, (next.lettersOver store.deadLetters).get? place = some letter ->
      (work.lettersOver store.deadLetters).get? place = some letter ∧
        (letter.job.owner = work.record.id -> letter.job.fiber ≠ own))
    (waits : ∀ {id key fiber}, next.fiber? id = some fiber -> fiber.wait = .job key ->
      work.WaitsFor id key ∧ id ≠ own ∨ work.record.program.DispatchesAt fiber.pc) :
    next.Anchored store := by
  obtain ⟨recalls, recalled⟩ := spares.recalls anchored.recalls
  refine ⟨recalls, anchored.recalled.trans recalled, ?_, ?_, ?_, ?_⟩
  · intro id later key found is
    rw [continues.program]
    rcases waits found is with ⟨⟨former, before, was⟩, other⟩ | reached
    · have old : id.number < work.supply.next := WellFormed.drawn shapely before
      obtain ⟨fiber, there, -, place⟩ := spares.waits other old found
      cases before.symm.trans there
      rw [place]
      exact anchored.parked before was
    · exact reached
  · intro place letter stored
    exact Nat.lt_of_lt_of_le (anchored.drawn (letters stored).1) spares.supply
  · intro place letter stored owned later found
    obtain ⟨stored, free⟩ := letters stored
    rw [continues.id] at owned
    obtain ⟨fiber, before, same, there⟩ :=
      spares.waits (free owned) (anchored.drawn stored) found
    obtain ⟨⟨id, halted, about⟩, reached⟩ := anchored.held stored owned before
    rw [continues.program, same, there]
    exact ⟨⟨id, halted, about.recalled recalled⟩, reached⟩
  · intro place letter stored foreign
    rw [continues.id] at foreign
    exact anchored.others (letters stored).1 foreign

/-- A fiber at which no dead letter is held stays so if dead letters stay. -/
theorem Anchored.Free.kept (free : Anchored.Free work store own)
    (letters : next.lettersOver store.deadLetters = work.lettersOver store.deadLetters)
    {place : DeadLetterKey} {letter : DeadLetter}
    (stored : (next.lettersOver store.deadLetters).get? place = some letter) :
    (work.lettersOver store.deadLetters).get? place = some letter ∧
      (letter.job.owner = work.record.id -> letter.job.fiber ≠ own) := by
  rw [letters] at stored
  exact ⟨stored, free stored⟩

theorem Confined.lettersOver (confined : work.Confined next)
    (table : OrderedMap DeadLetterKey DeadLetter) :
    next.lettersOver table = work.lettersOver table := by
  rw [UnitOfWork.lettersOver, confined.deadLetters, confined.removedDeadLetters]
  rfl

/-- It is enough that no fiber begins to wait for a job. -/
theorem Anchored.calm (anchored : work.Anchored store) (shapely : work.Shapely)
    (confined : work.Confined next) (spares : work.Spares own next)
    (free : Anchored.Free work store own) (frees : work.Frees next)
    (idle : ∀ key, ¬ work.WaitsFor own key) : next.Anchored store := by
  refine anchored.spared shapely confined.toContinues spares
    (free.kept (confined.lettersOver _)) (fun {id key fiber} found is => ?_)
  have waits := frees id key ⟨fiber, found, is⟩
  refine .inl ⟨waits, ?_⟩
  rintro rfl
  exact idle key waits

theorem Shapely.idle_fresh (shapely : work.Shapely) (key : JobKey) :
    ¬ work.WaitsFor ⟨work.supply.next⟩ key := by
  rintro ⟨fiber, found, -⟩
  rw [shapely.unused] at found
  cases found

/-- Work on no fiber in particular keeps all fibers anchored. -/
theorem Anchored.still (anchored : work.Anchored store) (shapely : work.Shapely)
    (confined : work.Confined next) (spares : work.Spares ⟨work.supply.next⟩ next)
    (frees : work.Frees next) : next.Anchored store :=
  anchored.calm shapely confined spares anchored.free_fresh frees shapely.idle_fresh

/-- A turn keeps all fibers anchored. -/
theorem Turned.anchored (turned : Turned program fiber work next) (shapely : work.Shapely)
    (named : program.Named work.record.program) (found : work.fiber? fiber.id = some fiber)
    (ready : fiber.wait = .ready) (anchored : work.Anchored store) : next.Anchored store := by
  have spares := turned.spares shapely
  have confined := turned.confined
  have free : Anchored.Free work store fiber.id := anchored.free found (by simp [ready])
  have idle : ∀ key, ¬ work.WaitsFor fiber.id key := by
    intro key waits
    rw [waitsFor_of_found found, ready] at waits
    cases waits
  rcases turned.idles shapely found ready with
    ⟨-, idles⟩ | ⟨key, name, node, retries, rfl, taskType, routes, reached⟩ | ⟨node, closes⟩
  · exact anchored.calm shapely confined spares free idles.frees idle
  · refine anchored.spared shapely confined.toContinues spares
      (free.kept (confined.lettersOver _)) (fun {id key' later} present waits => ?_)
    rw [UnitOfWork.handOut, suspend, fiber?_park, fiber?_dispatch] at present
    split at present
    · obtain ⟨former, before, rfl⟩ := Option.map_eq_some_iff.1 present
      exact .inr ⟨program, taskType, node, retries, routes, named, reached⟩
    · rename_i other
      exact .inl ⟨⟨later, present, waits⟩, other⟩
  · refine anchored.spared shapely confined.toContinues spares
      (free.kept (confined.lettersOver _)) (fun {id key' later} present waits => ?_)
    rw [vacant_close shapely closes id] at present
    cases present

theorem Ran.anchored (ran : Ran program work next) (shapely : work.Shapely)
    (named : program.Named work.record.program) (anchored : work.Anchored store) :
    next.Anchored store := by
  induction ran with
  | refl => exact anchored
  | step prior running found ready turned ih =>
    exact turned.anchored (prior.shapely shapely) (prior.confined.program ▸ named) found ready ih

/-! ## Changes -/

theorem Anchored.begin {state : InstanceState} {now : Instant} {supply : IdSupply}
    (recalls : ∀ id incident, store.incidents.get? id = some incident ->
      incident.id = id ∧ id.number < supply.next)
    (parked : ∀ {id fiber key}, state.fiber? id = some fiber -> fiber.wait = .job key ->
      state.record.program.DispatchesAt fiber.pc)
    (drawn : ∀ {place letter}, store.deadLetters.get? place = some letter ->
      letter.job.fiber.number < supply.next)
    (held : ∀ {place letter}, store.deadLetters.get? place = some letter ->
      letter.job.owner = state.record.id ->
        letter.Holds state.fiber? store.incidents state.record.program) :
    (UnitOfWork.begin state now supply).Anchored store :=
  ⟨recalls, .refl _, parked, drawn, held, fun stored _ => stored⟩

/-- An incident that is settled is still about the same job. -/
theorem Anchored.putIncident (anchored : work.Anchored store) {incident resolved : Incident}
    {key : IncidentId} (found : (work.incidentsOver store.incidents).get? key = some incident)
    (settles : incident.Settles resolved) : (work.putIncident resolved).Anchored store := by
  obtain ⟨recalls, recalled⟩ := anchored.recalls.putIncident found settles
  refine ⟨recalls, anchored.recalled.trans recalled, anchored.parked, anchored.drawn,
    fun {place letter} stored owned {fiber} present => ?_, anchored.others⟩
  obtain ⟨⟨id, halted, about⟩, reached⟩ := anchored.held stored owned present
  exact ⟨⟨id, halted, about.recalled recalled⟩, reached⟩

theorem Anchored.emit (anchored : work.Anchored store) (event : RuntimeEvent) :
    (work.emit event).Anchored store :=
  ⟨anchored.recalls, anchored.recalled, anchored.parked, anchored.drawn, anchored.held,
    anchored.others⟩

/-- Notes about jobs and completions keep all fibers anchored. -/
theorem Anchored.of_same (anchored : work.Anchored store) (continues : work.Continues next)
    (same : ∀ id, next.fiber? id = work.fiber? id) (incidents : next.incidents = work.incidents)
    (letters : ∀ {place letter}, (next.lettersOver store.deadLetters).get? place = some letter ->
      (work.lettersOver store.deadLetters).get? place = some letter) : next.Anchored store := by
  have table := @incidentsOver_of_same work next store.incidents incidents
  refine ⟨anchored.recalls.of_same incidents continues.supply, table ▸ anchored.recalled,
    fun found is => ?_, fun stored => ?_, fun {place letter} stored owned {fiber} found => ?_,
    fun stored foreign => ?_⟩
  · rw [same] at found
    exact continues.program ▸ anchored.parked found is
  · exact Nat.lt_of_lt_of_le (anchored.drawn (letters stored)) continues.supply
  · rw [same] at found
    rw [continues.id] at owned
    rw [table, continues.program]
    exact anchored.held (letters stored) owned found
  · rw [continues.id] at foreign
    exact anchored.others (letters stored) foreign

/-- A fiber that goes on holds no dead letter any more. -/
theorem Anchored.release (anchored : work.Anchored store) (shapely : work.Shapely)
    (continues : work.Continues next) (spares : work.Spares own next)
    (free : Anchored.Free work store own)
    (letters : next.lettersOver store.deadLetters = work.lettersOver store.deadLetters)
    (releases : work.Releases own next) : next.Anchored store := by
  refine anchored.spared shapely continues spares (free.kept letters)
    (fun {id key fiber} found is => ?_)
  obtain ⟨other, waits⟩ := (releases id key).1 ⟨fiber, found, is⟩
  exact .inl ⟨waits, other⟩

/-- A signal is answered only by fibers that wait for neither a job nor an incident. -/
theorem Anchored.deliver (anchored : work.Anchored store) (shapely : work.Shapely)
    (signal : WakeSignal) : (work.deliver signal).2.Anchored store := by
  have spares := spares_deliver work signal
  have confined := confined_deliver work signal
  cases answered : work.resumption signal with
  | error reason =>
    rw [UnitOfWork.deliver, answered]
    exact anchored.emit _
  | ok how =>
    obtain ⟨-, fiber, found, -, answers⟩ := resumption_ok answered
    have other : (∀ id, fiber.wait ≠ .incident id) ∧ ∀ key, fiber.wait ≠ .job key := by
      cases answers with
      | fire waits watches => simp [waits]
      | timer waits unwatched => simp [waits]
      | message waits => simp [waits]
      | human waits => simp [waits]
      | race waits leads => simp [waits]
    have accepted : work.Idles (work.updateRecord (fun record =>
        record.accept signal.flags signal.payload)) := idles_of_same (fun _ => rfl)
    refine anchored.calm shapely confined spares (anchored.free found other.1) ?_
      (fun key waits => other.2 key ((waitsFor_of_found found).1 waits))
    rw [UnitOfWork.deliver, answered]
    exact accepted.frees.trans (frees_resume _ _ how)

/-- An operator cannot let a fiber begin again that holds a dead letter. -/
theorem Anchored.restart (anchored : work.Anchored store) (shapely : work.Shapely)
    {incident : Incident} {former : Incident} (program : Program)
    (found : (work.incidentsOver store.incidents).get? incident.id = some former)
    (alone : former.jobKey = none) : (work.restart program incident).2.Anchored store := by
  rw [UnitOfWork.restart]
  split
  · exact anchored
  · rename_i fiber present
    split
    · rename_i waits
      have free : Anchored.Free work store incident.fiber := by
        rintro place letter stored owned same
        rw [← same] at present
        obtain ⟨⟨id, halted, other, found', about⟩, -⟩ := anchored.held stored owned present
        cases waits.symm.trans halted
        cases found.symm.trans found'
        rw [alone] at about
        cases about
      refine anchored.calm shapely (steady_wake _ _ _).toConfined (spares_wake _ _) free
        (releases_wake _ _ _).frees (fun key still => ?_)
      rw [waitsFor_of_found present, waits] at still
      cases still
    · exact anchored

/-- A job is set aside whose fiber is halted at its dispatch. -/
theorem Anchored.shelved (anchored : work.Anchored store) {letter : DeadLetter}
    (owned : letter.job.owner = work.record.id)
    (drawn : letter.job.fiber.number < work.supply.next)
    (holds : letter.Holds work.fiber? (work.incidentsOver store.incidents) work.record.program) :
    (Job.shelved letter work).Anchored store := by
  have table : ∀ asked, ((Job.shelved letter work).lettersOver store.deadLetters).get? asked =
      if asked = letter.place then some letter
      else (work.lettersOver store.deadLetters).get? asked := by
    intro asked
    rw [lettersOver, show (Job.shelved letter work).deadLetters = work.deadLetters ++ [letter]
      from rfl, List.foldl_append]
    exact OrderedMap.get?_insert _ _ _ _
  refine ⟨anchored.recalls, anchored.recalled, anchored.parked, fun {place other} stored => ?_,
    fun {place other} stored mine {fiber} found => ?_, fun {place other} stored foreign => ?_⟩
  all_goals
    rw [table] at stored
    split at stored
  · cases stored
    exact drawn
  · exact anchored.drawn stored
  · cases stored
    exact holds found
  · exact anchored.held stored mine found
  · cases stored
    exact absurd owned foreign
  · exact anchored.others stored foreign

end UnitOfWork

open UnitOfWork

section

variable {work changed : UnitOfWork} {store : MemoryStore} {job : Job} {fiber : Fiber}
  {program : Program}

theorem Job.spares_finished (job : Job) (event : RuntimeEvent) (own : FiberId) :
    work.Spares own (job.finished event work) :=
  (job.continues_finished event work).spares rfl (fun _ _ _ => rfl)

theorem Job.spares_applied (job : Job) (completion : JobCompletion) (pc : Address) :
    work.Spares job.fiber (job.applied completion pc work) := by
  have recorded := (continues_recordCompletion work
    ⟨job.key, completion, true, work.time⟩).trans (job.continues_finished (.jobCompleted job.key) _)
  have accepted := recorded.trans (steady_accept _ completion.flags completion.payload).toContinues
  refine (accepted.spares ?_ (fun _ _ _ => rfl)).trans (spares_wake _ _)
  cases completion.payload <;> rfl

theorem Job.spares_routed (job : Job) (problem code : String) (target : Address) (fiber : Fiber) :
    work.Spares job.fiber (job.routed problem code target fiber work) :=
  ((Job.spares_finished { job with lastError := some problem } (.jobErrorRouted job.key code)
    job.fiber).trans (spares_dropWatchdog _ _)).trans (spares_wake _ _)

theorem Job.spares_stopped (job : Job) (owned : job.owner = work.record.id) (kind : FaultClass)
    (problem : String) (pc : Address) : work.Spares job.fiber (job.stopped kind problem pc work) :=
  spares_halt work { Incident.raise ⟨work.supply.next⟩ job.owner job.fiber pc kind problem
    work.time with
      node := some job.node
      jobKey := some job.key
      attempts := job.attempt } owned rfl

theorem Job.raisedFor_stopped (job : Job) (kind : FaultClass) (problem : String) (pc : Address)
    (table : OrderedMap IncidentId Incident) :
    RaisedFor ((job.stopped kind problem pc work).incidentsOver table) ⟨work.supply.next⟩
      job.key := by
  let incident : Incident :=
    { Incident.raise ⟨work.supply.next⟩ job.owner job.fiber pc kind problem work.time with
      node := some job.node
      jobKey := some job.key
      attempts := job.attempt }
  exact ⟨incident, (get?_incidentsOver_halt _ incident _).trans (if_pos rfl), rfl⟩

theorem Job.incidentsOver_shelved (letter : DeadLetter) (work : UnitOfWork)
    (table : OrderedMap IncidentId Incident) :
    (Job.shelved letter work).incidentsOver table = work.incidentsOver table :=
  incidentsOver_of_same (incidents_shelved letter work)

/-- While a job is set aside its fiber is halted at the dispatch, on an incident of the job. -/
theorem Job.anchored_buried (anchored : work.Anchored store) (shapely : work.Shapely)
    (owned : job.owner = work.record.id) (wanted : work.Wanted job fiber) (kind : FaultClass)
    (problem : String) (expires : Instant) :
    (job.buried kind problem expires fiber.pc work).Anchored store := by
  have steady := job.steady_stopped kind problem fiber.pc work
  have stopped : (job.stopped kind problem fiber.pc work).Anchored store :=
    anchored.release shapely steady.toContinues (job.spares_stopped owned kind problem fiber.pc)
      (anchored.free wanted.found (by simp [wanted.waits])) (steady.toConfined.lettersOver _)
      (job.releases_stopped kind problem fiber.pc)
  rw [buried]
  refine stopped.shelved (owned.trans steady.id.symm) ?_ (fun {later} found => ?_)
  · exact Nat.lt_of_lt_of_le (WellFormed.drawn shapely wanted.found) steady.supply
  · have halted : (job.stopped kind problem fiber.pc work).fiber? job.fiber =
        (work.fiber? job.fiber).map (fun fiber' =>
          { fiber' with pc := fiber.pc, wait := .incident ⟨work.supply.next⟩ }) :=
      (fiber?_park ..).trans (if_pos rfl)
    have found := halted.symm.trans found
    rw [wanted.found] at found
    cases found
    refine ⟨⟨_, rfl, job.raisedFor_stopped kind problem fiber.pc store.incidents⟩, ?_⟩
    have reached := anchored.parked wanted.found wanted.waits
    rw [steady.program]
    exact reached

theorem Job.Failed.anchored {outcome : FailureOutcome}
    (failed : job.Failed program work fiber outcome changed) (shapely : work.Shapely)
    (owned : job.owner = work.record.id) (wanted : work.Wanted job fiber)
    (anchored : work.Anchored store) : changed.Anchored store := by
  have continues := failed.continues
  have free : Anchored.Free work store job.fiber :=
    anchored.free wanted.found (by simp [wanted.waits])
  cases failed with
  | retry notBefore problem =>
    exact anchored.of_same continues (fun _ => rfl) rfl (fun stored => stored)
  | bury kind problem expires => exact job.anchored_buried anchored shapely owned wanted _ _ _
  | route problem leads =>
    rename_i code target
    have steady := (steady_dropWatchdog (Job.finished { job with lastError := some problem }
      (.jobErrorRouted job.key code) work) fiber).trans (steady_wake _ job.fiber target)
    exact anchored.release shapely continues (job.spares_routed problem code target fiber) free
      (steady.toConfined.lettersOver _)
      (job.releases_routed problem code target shapely wanted.found)

/-- To put a job back raises and settles no incident. -/
theorem DeadLetter.incidents_requeued (letter : DeadLetter) (pc : Address) (event : RuntimeEvent) :
    ((letter.requeued pc work).emit event).incidents = work.incidents := by
  have parked : ((letter.requeued pc work).emit event).incidents =
      (work.park letter.job.fiber pc (.job letter.key)).incidents := rfl
  rw [parked, incidents_park]

/-- A job that is put back finds its fiber at the dispatch. -/
theorem DeadLetter.anchored_requeued {letter : DeadLetter} {place : DeadLetterKey}
    (anchored : work.Anchored store) (shapely : work.Shapely) (filed : store.Filed)
    (clean : work.deadLetters = []) (none : work.removedDeadLetters = [])
    (stored : store.deadLetters.get? place = some letter)
    (owned : letter.job.owner = work.record.id)
    (found : work.fiber? letter.job.fiber = some fiber) :
    (letter.requeued fiber.pc work).Anchored store := by
  have letters : work.lettersOver store.deadLetters = store.deadLetters := by
    rw [lettersOver, clean, none]
    rfl
  have parked := steady_park work letter.job.fiber fiber.pc (.job letter.key)
  have left : ∀ asked, ((letter.requeued fiber.pc work).lettersOver store.deadLetters).get? asked =
      if asked = letter.place then Option.none else store.deadLetters.get? asked := by
    intro asked
    rw [lettersOver, letter.deadLetters_requeued, letter.removedDeadLetters_requeued,
      parked.deadLetters, parked.removedDeadLetters, clean, none]
    exact OrderedMap.get?_erase _ _ _
  have held : ∀ {place letter}, store.deadLetters.get? place = some letter ->
      (work.lettersOver store.deadLetters).get? place = some letter :=
    fun {place letter} stored => (congrArg (OrderedMap.get? · place) letters).trans stored
  obtain ⟨⟨id, halted, incident, present, about⟩, reached⟩ :=
    anchored.held (held stored) owned found
  have put : (work.park letter.job.fiber fiber.pc (.job letter.key)).Continues
      (letter.requeued fiber.pc work) :=
    (continues_updateJob _ _).trans (continues_removeDeadLetter _ _)
  have spares : work.Spares letter.job.fiber (letter.requeued fiber.pc work) := by
    refine (spares_park work fiber.pc (.job letter.key)).trans (put.spares rfl (fun asked _ _ => ?_))
    rw [requeued, fiber?_removeDeadLetter, fiber?_updateJob]
  refine anchored.spared shapely (letter.continues_requeued _) spares
    (fun {place' other} stored' => ?_) (fun {id' key later} there waits => ?_)
  · rw [left] at stored'
    split at stored'
    · cases stored'
    · rename_i different
      refine ⟨held stored', fun mine same => different ?_⟩
      -- Two letters at one fiber would be about one job, which is set aside in one place only.
      obtain ⟨⟨id', halted', incident', present', about'⟩, -⟩ :=
        anchored.held (held stored') mine (same ▸ found)
      cases halted.symm.trans halted'
      cases present.symm.trans present'
      have kept := filed.letters stored
      rw [(filed.letters stored').unique kept (Option.some.inj (about'.symm.trans about)),
        kept.place]
  · rw [letter.fiber?_requeued] at there
    split at there
    · obtain ⟨former, before, rfl⟩ := Option.map_eq_some_iff.1 there
      exact .inr reached
    · rename_i other
      exact .inl ⟨⟨later, there, waits⟩, other⟩

/-- Every change keeps all fibers anchored. -/
theorem Intervened.anchored {id : InstanceId} {state : InstanceState} {now : Instant}
    {supply : IdSupply} {purpose : Purpose}
    (intervened : Intervened store id program (.begin state now supply) purpose changed)
    (filed : store.Filed) (shapely : (UnitOfWork.begin state now supply).Shapely)
    (same : state.record.id = id) (anchored : (UnitOfWork.begin state now supply).Anchored store) :
    changed.Anchored store := by
  have continues := intervened.continues
  cases intervened with
  | run => exact anchored
  | cancel running closes =>
    refine anchored.still shapely (confined_close closes) (spares_close shapely closes)
      (fun asked key waits => ?_)
    obtain ⟨fiber, found, -⟩ := waits
    rw [vacant_close shapely closes asked] at found
    cases found
  | complete stored owned first wanted completion =>
    rename_i key job fiber
    have steady := (steady_accept (job.finished (.jobCompleted job.key)
      ((UnitOfWork.begin state now supply).recordCompletion ⟨job.key, completion, true, now⟩))
        completion.flags completion.payload).trans (steady_wake _ job.fiber (fiber.pc + 1))
    exact anchored.release shapely continues (job.spares_applied completion fiber.pc)
      (anchored.free wanted.found (by simp [wanted.waits])) (steady.toConfined.lettersOver _)
      (job.releases_applied completion fiber.pc)
  | record stored owned first unwanted completion =>
    exact anchored.of_same continues (fun _ => rfl) rfl (fun stored => stored)
  | fail stored owned wanted failed =>
    exact failed.anchored shapely (owned.trans same.symm) wanted anchored
  | dismiss => exact anchored
  | deliver running signal => exact anchored.deliver shapely signal
  | discard => exact anchored
  | restart stored settles running alone owned closed =>
    rename_i key incident resolved
    have found : ((UnitOfWork.begin state now supply).incidentsOver store.incidents).get? key =
      some incident := stored
    obtain ⟨named, -⟩ := anchored.recalls _ _ found
    have restarted : (((UnitOfWork.begin state now supply).emit
        (.incidentResolved incident.id)).restart program resolved).2.incidentsOver store.incidents =
        (UnitOfWork.begin state now supply).incidentsOver store.incidents :=
      incidentsOver_of_same (incidents_restart _ _ _)
    refine Anchored.putIncident ?_ ((congrArg (OrderedMap.get? · key) restarted).trans found)
      settles
    · obtain ⟨status, rfl⟩ := settles
      have kept : (((UnitOfWork.begin state now supply).emit
          (.incidentResolved incident.id)).incidentsOver store.incidents).get?
            ({ incident with status := status } : Incident).id = some incident :=
        (congrArg _ named).trans found
      exact (anchored.emit _).restart shapely program kept alone
  | settle stored settles owned closed => exact (anchored.emit _).putIncident stored settles
  | requeue stored owned running found waits settles =>
    rename_i place letter fiber incident settled
    have requeued := letter.anchored_requeued anchored shapely filed rfl rfl stored
      (owned.trans same.symm) found
    cases settles with
    | nothing => exact requeued.emit _
    | incident linked settles closed =>
      rename_i former resolved
      obtain ⟨key, -, present⟩ := Option.bind_eq_some_iff.1 linked
      have kept : (((letter.requeued fiber.pc (.begin state now supply)).emit
          (.incidentResolved former.id)).incidentsOver store.incidents).get? key = some former := by
        rw [incidentsOver_of_same (letter.incidents_requeued fiber.pc _)]
        exact present
      exact ((requeued.emit _).putIncident kept settles).emit _
  | abandon stored owned =>
    refine anchored.of_same continues (fun _ => rfl) rfl (fun {place letter} kept => ?_)
    change (store.deadLetters.erase _).get? _ = _ at kept
    rw [OrderedMap.get?_erase] at kept
    split at kept
    · cases kept
    · exact kept

end

namespace Engine

/-- Every stored fiber that waits for a job, or for one that is set aside, has stayed at a
dispatch. -/
structure Anchored (engine : Engine MemoryStore) : Prop where
  keyed : ∀ id incident, engine.store.incidents.get? id = some incident ->
    incident.id = id ∧ id.number < engine.supply.next
  parked : ∀ {id state}, engine.store.states.get? id = some state -> ∀ {fiberId fiber key},
    state.fiber? fiberId = some fiber -> fiber.wait = .job key ->
      state.record.program.DispatchesAt fiber.pc
  held : ∀ {place letter}, engine.store.deadLetters.get? place = some letter ->
    letter.job.fiber.number < engine.supply.next ∧
      ∃ state, engine.store.states.get? letter.job.owner = some state ∧
        letter.Holds state.fiber? engine.store.incidents state.record.program

variable {engine next : Engine MemoryStore} {work : UnitOfWork}

/-- What is anchored when it is stored is anchored afterwards. -/
theorem Anchored.apply (anchored : engine.Anchored) (storable : engine.Storable work)
    (reached : work.Anchored engine.store) (supply : next.supply = work.supply)
    (store : next.store = engine.store.apply work.finish.1) : next.Anchored := by
  have states : ∀ asked, next.store.states.get? asked =
      if asked = work.record.id then some work.finish.2
      else engine.store.states.get? asked := by
    rw [store]
    exact storable.states_apply
  have incidents : next.store.incidents = work.incidentsOver engine.store.incidents := by
    rw [store]
    rfl
  have letters : next.store.deadLetters = work.lettersOver engine.store.deadLetters := by
    rw [store]
    rfl
  refine ⟨fun _ _ found => ?_, fun {id state} stored {fiberId fiber key} found waits => ?_,
    fun {place letter} stored => ?_⟩
  · rw [incidents] at found
    rw [supply]
    exact reached.recalls _ _ found
  · rw [states] at stored
    split at stored
    · cases stored
      exact reached.parked found waits
    · exact anchored.parked stored found waits
  · rw [letters] at stored
    rw [supply, incidents]
    refine ⟨reached.drawn stored, ?_⟩
    by_cases mine : letter.job.owner = work.record.id
    · refine ⟨work.finish.2, ?_, reached.held stored mine⟩
      rw [states, if_pos mine]
    · obtain ⟨-, state, present, holds⟩ := anchored.held (reached.others stored mine)
      refine ⟨state, ?_, fun found => ?_⟩
      · rw [states, if_neg mine]
        exact present
      · obtain ⟨⟨id, halted, about⟩, there⟩ := holds found
        exact ⟨⟨id, halted, about.recalled reached.recalled⟩, there⟩

/-- A new instance has only a fiber that can run. -/
theorem Anchored.start (anchored : engine.Anchored) {record : ProcessInstance} {now : Instant}
    {supply : IdSupply} (absent : engine.store.states.get? record.id = none)
    (later : engine.supply.next ≤ supply.next + 1) :
    (UnitOfWork.create record now supply).start.2.Anchored engine.store := by
  have drawn : ∀ {number}, number < engine.supply.next -> number < supply.next + 1 :=
    fun old => Nat.lt_of_lt_of_le old later
  refine ⟨fun _ _ found => ?_, .refl _, fun {id fiber key} found waits => ?_,
    fun stored => drawn (anchored.held stored).1, fun {place letter} stored owned => ?_,
    fun stored _ => stored⟩
  · obtain ⟨named, old⟩ := anchored.keyed _ _ found
    exact ⟨named, drawn old⟩
  · have found := (fiber?_spawn (UnitOfWork.create record now supply) id 0 none).symm.trans found
    split at found
    · cases found
      cases waits
    · cases found
  · obtain ⟨-, state, present, -⟩ := anchored.held stored
    rw [owned] at present
    cases absent.symm.trans present

/-- Work on a stored instance begins with all fibers anchored. -/
theorem Anchored.beginning (anchored : engine.Anchored) (sound : engine.Sound) {id : InstanceId}
    {state : InstanceState} (stored : engine.store.states.get? id = some state) :
    (UnitOfWork.begin state engine.now engine.supply).Anchored engine.store := by
  have begun := sound _ _ stored
  refine .begin anchored.keyed (anchored.parked stored) (fun found => (anchored.held found).1)
    (fun {place letter} found mine => ?_)
  obtain ⟨-, state, present, holds⟩ := anchored.held found
  rw [mine, begun.keyed, stored] at present
  cases present
  exact holds

/-- Work on a new instance keeps all fibers anchored. -/
theorem Anchored.created (anchored : engine.Anchored) (catalogues : engine.Catalogues)
    {program : Program} (known : engine.Knows program) {payload : Json} {correlation : String}
    (absent : engine.store.states.get? ⟨engine.supply.next⟩ = none)
    (ran : Ran program (UnitOfWork.create (.create ⟨engine.supply.next⟩ program.hash payload
      correlation engine.now) engine.now ⟨engine.supply.next + 1⟩).start.2 work) :
    work.Anchored engine.store :=
  ran.anchored (shapely_start _) (catalogues.known known)
    (anchored.start absent (Nat.le_add_right _ 2))

/-- Work on a stored instance keeps all fibers anchored. -/
theorem Anchored.sliced (anchored : engine.Anchored) (orderly : engine.Orderly)
    (catalogues : engine.Catalogues) {program : Program} (known : engine.Knows program)
    {id : InstanceId} {purpose : Purpose} {state : InstanceState} {changed : UnitOfWork}
    (stored : engine.store.states.get? id = some state) (own : state.record.program = program.hash)
    (intervened : Intervened engine.store id program
      (.begin state engine.now engine.supply) purpose changed)
    (ran : Ran program changed work) : work.Anchored engine.store := by
  have begun := orderly.sound _ _ stored
  have shapely := @shapely_begin _ _ engine.now _ begun
  refine ran.anchored (intervened.shapely shapely) ?_ (intervened.anchored orderly.filed shapely
    begun.keyed (anchored.beginning orderly.sound stored))
  rw [intervened.continues.program]
  exact own.symm ▸ catalogues.known known

/-- Every atomic step keeps stored fibers anchored. -/
theorem Advance.anchored {scope : Scope} (advance : Advance scope engine next)
    (orderly : engine.Orderly) (catalogues : engine.Catalogues) (anchored : engine.Anchored) :
    next.Anchored := by
  cases advance.effect orderly.sound with
  | same programs store supply =>
    refine ⟨fun _ _ found => ?_, fun {id state} stored {fiberId fiber key} found waits => ?_,
      fun stored => ?_⟩
    all_goals rw [store] at *
    · obtain ⟨named, drawn⟩ := anchored.keyed _ _ found
      exact ⟨named, Nat.lt_of_lt_of_le drawn supply⟩
    · exact anchored.parked stored found waits
    · obtain ⟨drawn, holds⟩ := anchored.held stored
      exact ⟨Nat.lt_of_lt_of_le drawn supply, holds⟩
  | claim request store supply =>
    refine ⟨?_, ?_, ?_⟩
    all_goals rw [store]
    · exact supply ▸ anchored.keyed
    · exact anchored.parked
    · exact supply ▸ anchored.held
  | purge now store supply =>
    refine ⟨?_, ?_, fun {place letter} found => ?_⟩
    all_goals rw [store] at *
    · exact supply ▸ anchored.keyed
    · exact anchored.parked
    · change (engine.store.deadLetters.filter _).get? _ = _ at found
      rw [OrderedMap.get?_filter, Option.filter_eq_some_iff] at found
      exact supply ▸ anchored.held found.1
  | create known absent ran store supply =>
    exact anchored.apply (storable_create absent ran) (anchored.created catalogues known absent ran)
      supply store
  | slice known stored own admitted intervened ran store supply =>
    exact anchored.apply (storable_slice orderly.sound stored intervened ran).1
      (anchored.sliced orderly catalogues known stored own intervened ran) supply store

theorem Fresh.anchored (fresh : engine.Fresh) : engine.Anchored := by
  refine ⟨fun id incident found => ?_, fun {id state} found => ?_,
    fun {place letter} found => ?_⟩
  all_goals
    rw [fresh.store] at found
    cases found

/-- In an engine that began without anything stored, fibers that wait for jobs have stayed at
dispatches. -/
theorem History.anchored {first last : Engine MemoryStore} {entries : List HistoryEntry}
    (history : History first entries last) (fresh : first.Fresh) : last.Anchored := by
  have step : ∀ scope engine next, Advance scope engine next ->
      (engine.Orderly ∧ engine.Catalogues) ∧ engine.Anchored ->
        (next.Orderly ∧ next.Catalogues) ∧ next.Anchored := by
    rintro scope engine next advance ⟨⟨orderly, catalogues⟩, anchored⟩
    exact ⟨⟨advance.orderly orderly, advance.catalogues catalogues⟩,
      advance.anchored orderly catalogues anchored⟩
  exact (history.preserves step
    ⟨⟨fresh.orderly, fresh.supplied.toCatalogues⟩, fresh.anchored⟩).2

end Engine

end ProcessEngine
