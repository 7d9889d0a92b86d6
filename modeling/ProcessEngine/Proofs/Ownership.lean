import ProcessEngine.Proofs.Footprints

/-!
# What belongs to an instance

The key of a job is made from the identifier of the instance that hands the job out. Work on an
instance names only keys that were made for it (`UnitOfWork.Names`), and writes only incidents that
are new or were its own, so work on one instance spares what belongs to the others
(`UnitOfWork.Owns`).
-/

namespace ProcessEngine

/-- The key was made for a job of the instance. -/
def JobKey.MadeFor (key : JobKey) (owner : InstanceId) : Prop :=
  ∃ node number epoch input, key = .generate owner node number epoch input

/-- A key was made for one instance only. -/
theorem JobKey.MadeFor.sole {key : JobKey} {owner other : InstanceId} (made : key.MadeFor owner)
    (made' : key.MadeFor other) (fits : owner.Fits) (fits' : other.Fits) : owner = other := by
  obtain ⟨_, _, _, _, rfl⟩ := made
  obtain ⟨_, _, _, _, same⟩ := made'
  exact (JobKey.generate_inj fits fits' same).1

namespace UnitOfWork

/-- The keys of jobs that are named in addition were made for the instance. -/
structure Names (work next : UnitOfWork) : Prop where
  id : next.record.id = work.record.id
  keys : ∀ key ∈ next.jobKeys, key ∈ work.jobKeys ∨ key.MadeFor work.record.id

variable {first middle last work next : UnitOfWork} {table : OrderedMap JobKey Job}
  {fiber : Fiber} {key : JobKey} {program : Program}

theorem Names.refl (work : UnitOfWork) : work.Names work := ⟨rfl, fun _ => .inl⟩

theorem Names.trans (earlier : first.Names middle) (later : middle.Names last) :
    first.Names last where
  id := later.id.trans earlier.id
  keys key listed := by
    rcases later.keys key listed with before | made
    · exact earlier.keys key before
    · exact .inr (earlier.id ▸ made)

/-- Work that names one more key. -/
theorem names_of_cons (id : next.record.id = work.record.id) (made : key.MadeFor work.record.id)
    (keys : ∀ asked ∈ next.jobKeys, asked = key ∨ asked ∈ work.jobKeys) : work.Names next := by
  refine ⟨id, fun asked listed => ?_⟩
  rcases keys asked listed with rfl | before
  · exact .inr made
  · exact .inl before

theorem Steady.names (steady : work.Steady next) : work.Names next := by
  refine ⟨steady.id, fun key listed => .inl ?_⟩
  rw [jobKeys, steady.jobs, steady.cancelledJobs, steady.completions, steady.deadLetters,
    steady.removedDeadLetters] at listed
  exact listed

/-- An event names no key. -/
theorem Names.emit (names : first.Names middle) (event : RuntimeEvent) :
    first.Names (middle.emit event) := names.trans (steady_emit middle event).names

theorem names_dispatch (work : UnitOfWork) {job : Job} (made : job.key.MadeFor work.record.id) :
    work.Names (work.dispatch job) := by
  refine names_of_cons rfl made (fun asked listed => ?_)
  simp only [jobKeys, dispatch, emit, List.map_append, List.mem_append, List.map_cons, List.map_nil,
    List.mem_singleton, JobWrite.job] at listed ⊢
  tauto

theorem names_updateJob (work : UnitOfWork) {job : Job} (made : job.key.MadeFor work.record.id) :
    work.Names (work.updateJob job) := by
  refine names_of_cons rfl made (fun asked listed => ?_)
  simp only [jobKeys, updateJob, List.map_append, List.mem_append, List.map_cons, List.map_nil,
    List.mem_singleton, JobWrite.job] at listed ⊢
  tauto

theorem names_cancelJob (work : UnitOfWork) (made : key.MadeFor work.record.id) :
    work.Names (work.cancelJob key) := by
  refine names_of_cons rfl made (fun asked listed => ?_)
  simp only [jobKeys, cancelJob, emit, List.mem_append, List.mem_singleton] at listed ⊢
  tauto

theorem names_recordCompletion (work : UnitOfWork) {record : CompletionRecord}
    (made : record.key.MadeFor work.record.id) : work.Names (work.recordCompletion record) := by
  refine names_of_cons rfl made (fun asked listed => ?_)
  simp only [jobKeys, recordCompletion, List.map_append, List.mem_append, List.map_cons,
    List.map_nil, List.mem_singleton] at listed ⊢
  tauto

theorem names_putDeadLetter (work : UnitOfWork) {letter : DeadLetter}
    (made : letter.key.MadeFor work.record.id) : work.Names (work.putDeadLetter letter) := by
  refine names_of_cons rfl made (fun asked listed => ?_)
  simp only [jobKeys, putDeadLetter, List.map_append, List.mem_append, List.map_cons,
    List.map_nil, List.mem_singleton] at listed ⊢
  tauto

theorem names_removeDeadLetter (work : UnitOfWork) {place : DeadLetterKey}
    (made : place.job.MadeFor work.record.id) : work.Names (work.removeDeadLetter place) := by
  refine names_of_cons rfl made (fun asked listed => ?_)
  simp only [jobKeys, removeDeadLetter, List.map_append, List.mem_append, List.map_cons,
    List.map_nil, List.mem_singleton] at listed ⊢
  tauto

/-! ## Turns -/

/-- The key of a job that a fiber waits for was made for the instance. -/
theorem Agrees.made (agrees : work.Agrees table) {id : FiberId} (waits : work.WaitsFor id key) :
    key.MadeFor work.record.id := by
  obtain ⟨job, found, owned, -⟩ := agrees.awaited waits
  exact owned ▸ agrees.named found

theorem Agrees.names_endFiber (agrees : work.Agrees table) {id : FiberId}
    (found : work.fiber? id = some fiber) :
    work.Names ((work.cancelAwaitedJob fiber).endFiber id) := by
  refine .trans ?_ (steady_endFiber _ id).names
  rcases cancelAwaitedJob_cases work fiber with ⟨key, waits, same⟩ | ⟨-, same⟩
  · rw [same]
    exact names_cancelJob work (agrees.made ((waitsFor_of_found found).2 waits))
  · rw [same]
    exact .refl work

theorem Agrees.names_close (agrees : work.Agrees table) (shapely : work.Shapely)
    {status : InstanceStatus} {event : RuntimeEvent} (closes : work.close status event = .ok next) :
    work.Names next := by
  obtain ⟨-, rfl⟩ := close_cases closes
  obtain ⟨-, names⟩ := agrees.endFibers shapely Names.refl .trans
    (fun agrees found => agrees.names_endFiber found)
  exact names.trans (steady_conclude _ status event).names

/-- A turn names keys of the instance only. -/
theorem Turned.names (turned : Turned program fiber work next) (shapely : work.Shapely)
    (agrees : work.Agrees table) : work.Names next := by
  rcases turned.reaches with steady | ⟨key, name, node, retries, rfl, -⟩ | ⟨node, closes⟩
  · exact steady.names
  · have handed : work.Names (work.dispatch (.first work.record fiber key name retries work.time)) :=
      names_dispatch work ⟨_, _, _, _, rfl⟩
    exact handed.trans (steady_park _ _ _ _).names
  · exact agrees.names_close shapely closes

/-- A sequence of turns names keys of the instance only. -/
theorem Ran.names (ran : Ran program work next) (shapely : work.Shapely)
    (fits : work.record.id.Fits) (agrees : work.Agrees table) : work.Names next := by
  induction ran with
  | refl => exact .refl work
  | step prior running found ready turned ih =>
    exact ih.trans (turned.names (prior.shapely shapely) (prior.agrees shapely fits agrees))

/-! ## Changes -/

theorem Agrees.names_interrupt (agrees : work.Agrees table) (host : FiberId) :
    work.Names (work.interrupt host).2 := by
  rw [UnitOfWork.interrupt]
  split
  · exact .refl work
  · exact agrees.names_endFiber ‹_›

theorem Agrees.names_fire (agrees : work.Agrees table) (watchdog : FiberId) (watch : Watch) :
    work.Names (work.fire watchdog watch) := by
  have agrees' := agrees.emit (.boundaryFired watch.boundary watch.interrupting)
  rw [UnitOfWork.fire]
  dsimp only
  refine .trans ?_ ((steady_updateFiber _ _ _).trans (steady_wake _ _ _)).names
  split
  · exact (steady_emit work _).names.trans (agrees'.names_interrupt _)
  · exact ((steady_emit work _).trans (steady_updateFiber _ _ _)).names

theorem Agrees.names_deliver (agrees : work.Agrees table) (signal : WakeSignal) :
    work.Names (work.deliver signal).2 := by
  rcases deliver_narrated work signal with calm | ⟨watch, accepted, -, rfl, same⟩
  · exact calm.toSteady.names
  · rw [same]
    have accepts := steady_accept work signal.flags signal.payload
    have accepted := agrees.calm accepts (idles_of_same (fun _ => rfl))
      (accepts.toContinues.ages (fun _ => rfl))
    exact accepts.names.trans (accepted.names_fire _ _)

end UnitOfWork

open UnitOfWork

section

variable {store : MemoryStore} {work changed : UnitOfWork} {job : Job} {fiber : Fiber}
  {program : Program}

theorem Job.names_finished (job : Job) (event : RuntimeEvent) (work : UnitOfWork)
    (made : job.key.MadeFor work.record.id) : work.Names (job.finished event work) := by
  refine Names.emit ?_ event
  exact @names_updateJob work { job with status := .completed } made

theorem Job.names_applied (job : Job) (completion : JobCompletion) (pc : Address)
    (made : job.key.MadeFor work.record.id) : work.Names (job.applied completion pc work) := by
  have recorded : work.Names (work.recordCompletion ⟨job.key, completion, true, work.time⟩) :=
    names_recordCompletion work made
  have finished := job.names_finished (.jobCompleted job.key)
    (work.recordCompletion ⟨job.key, completion, true, work.time⟩) made
  exact (recorded.trans finished).trans ((steady_accept _ _ _).trans (steady_wake _ _ _)).names

theorem Job.names_shelved (letter : DeadLetter) (work : UnitOfWork)
    (made : letter.key.MadeFor work.record.id) (same : letter.job.key = letter.key) :
    work.Names (Job.shelved letter work) := by
  refine Names.emit (.trans (names_putDeadLetter work made) ?_) _
  exact names_updateJob _ (same ▸ made)

/-- To take a letter from its place names its job. -/
theorem DeadLetter.names_taken (letter : DeadLetter) (work : UnitOfWork) (job : Job)
    (made : letter.key.MadeFor work.record.id) (same : job.key = letter.key) :
    work.Names ((work.updateJob job).removeDeadLetter letter.place) := by
  have updated : work.Names (work.updateJob job) := names_updateJob work (same ▸ made)
  exact updated.trans (names_removeDeadLetter _ made)

/-- A failure names the key of its job. -/
theorem Job.Failed.names {outcome : FailureOutcome}
    (failed : job.Failed program work fiber outcome changed)
    (made : job.key.MadeFor work.record.id) : work.Names changed := by
  cases failed with
  | retry notBefore problem =>
    refine Names.emit ?_ _
    exact @names_updateJob work (job.scheduleRetry notBefore problem) made
  | bury kind problem expires =>
    have stopped := job.steady_stopped kind problem fiber.pc work
    refine stopped.names.trans (Job.names_shelved _ _ ?_ rfl)
    exact stopped.id ▸ made
  | route problem leads =>
    rename_i code target
    have finished := Job.names_finished { job with lastError := some problem }
      (.jobErrorRouted job.key code) work made
    exact finished.trans ((steady_dropWatchdog _ fiber).trans (steady_wake _ job.fiber target)).names

/-- Every change names keys of the instance only. -/
theorem Intervened.names {id : InstanceId} {purpose : Purpose}
    (intervened : Intervened store id program work purpose changed) (filed : store.Filed)
    (made : ∀ {key job}, store.jobs.get? key = some job -> key.MadeFor job.owner)
    (same : work.record.id = id) (shapely : work.Shapely) (agrees : work.Agrees store.jobs) :
    work.Names changed := by
  have named : ∀ {key job}, store.jobs.get? key = some job -> job.owner = id ->
      key.MadeFor work.record.id := by
    intro key job stored owned
    rw [same, ← owned]
    exact made stored
  cases intervened with
  | run => exact .refl work
  | cancel running closes => exact agrees.names_close shapely closes
  | complete stored owned first wanted completion =>
    rename_i key job fiber
    obtain rfl := filed.keyed stored
    exact job.names_applied completion fiber.pc (named stored owned)
  | record stored owned first unwanted completion =>
    rename_i key job
    obtain rfl := filed.keyed stored
    refine Names.emit ?_ _
    exact names_recordCompletion work (named stored owned)
  | fail stored owned wanted failed =>
    obtain rfl := filed.keyed stored
    exact failed.names (named stored owned)
  | dismiss => exact .refl work
  | deliver running signal => exact agrees.names_deliver signal
  | discard => exact .refl work
  | restart stored settles running alone owned closed =>
    exact (((steady_emit work _).trans (steady_restart _ _ _)).trans
      (steady_putIncident _ _)).names
  | settle stored settles owned closed =>
    exact ((steady_emit work _).trans (steady_putIncident _ _)).names
  | requeue stored owned running found waits settles =>
    rename_i place letter fiber incident settled
    have held := filed.letters stored
    have same : letter.job.key = letter.key := filed.keyed held.stored
    have parked := steady_park work letter.job.fiber fiber.pc (.job letter.key)
    have taken := letter.names_taken (work.park letter.job.fiber fiber.pc (.job letter.key))
      (letter.renewed work.time) (parked.id ▸ named held.stored owned) same
    exact (parked.names.trans taken).trans (settles.steady (.jobRequeued letter.key)).names
  | abandon stored owned =>
    rename_i place letter
    have held := filed.letters stored
    have same : letter.job.key = letter.key := filed.keyed held.stored
    exact (letter.names_taken work { letter.job with status := .cancelled }
      (named held.stored owned) same).emit _

end

/-! ## What work owns -/

/-- Work that a change and turns make of a sound state goes on with this state. -/
theorem Intervention.continues {store : MemoryStore} {config : EngineConfig} {id : InstanceId}
    {purpose : Purpose} {Result : Type} {change : Change Result}
    (intended : Intervention store config id purpose change) {state : InstanceState}
    {now : Instant} {supply : IdSupply} (sound : state.Sound id supply.next) {program : Program}
    {steps : Nat} {result : Result} {report : RunReport} {work : UnitOfWork}
    (done : change.slice program steps (.begin state now supply) = .ok (result, report, work)) :
    (UnitOfWork.begin state now supply).Continues work := by
  obtain ⟨changed, parts⟩ := slice_parts done
  have intervened := intended.intervened parts.made
  have ran := parts.ran (intervened.shapely (shapely_begin sound))
  exact intervened.continues.trans ran.confined.toContinues

namespace UnitOfWork

/-- Only rows of the instance are written: jobs whose keys were made for it, and incidents that are
new or that it had. -/
structure Owns (work : UnitOfWork) (incidents : OrderedMap IncidentId Incident) (first : Nat) :
    Prop where
  fits : work.record.id.Fits
  keys : ∀ key ∈ work.jobKeys, key.MadeFor work.record.id
  incidents : ∀ incident ∈ work.incidents,
    first ≤ incident.id.number ∧ incident.id.number < work.supply.next ∨
      ∃ former, incidents.get? incident.id = some former ∧ former.owner = work.record.id

/-- Work on two instances touches no row in common if it draws different identifiers. -/
theorem Owns.apart {work other : UnitOfWork} {incidents : OrderedMap IncidentId Incident}
    {first first' : Nat} (owns : work.Owns incidents first) (owns' : other.Owns incidents first')
    (drawn : ∀ {key incident}, incidents.get? key = some incident ->
      key.number < first ∧ key.number < first')
    (different : work.record.id ≠ other.record.id)
    (disjoint : ∀ number, first ≤ number -> number < work.supply.next -> first' ≤ number ->
      ¬ number < other.supply.next) : work.Apart other := by
  constructor
  · exact different
  · intro key listed listed'
    exact different ((owns.keys key listed).sole (owns'.keys key listed') owns.fits owns'.fits)
  · intro incident listed incident' listed' same
    rcases owns.incidents incident listed with ⟨late, early⟩ | ⟨former, found, owned⟩
    · rcases owns'.incidents incident' listed' with ⟨late', early'⟩ | ⟨former', found', -⟩
      · rw [← same] at late' early'
        exact disjoint _ late early late' early'
      · rw [← same] at found'
        exact absurd (drawn found').1 (Nat.not_lt.2 late)
    · rcases owns'.incidents incident' listed' with ⟨late', -⟩ | ⟨former', found', owned'⟩
      · rw [← same] at late'
        exact absurd (drawn found).2 (Nat.not_lt.2 late')
      · rw [← same, found] at found'
        cases found'
        exact different (owned.symm.trans owned')

end UnitOfWork

/-- A later store holds what belonged to an instance as it was. -/
structure MemoryStore.Spares (store later : MemoryStore) (owner : InstanceId) : Prop where
  state : later.states.get? owner = store.states.get? owner
  jobs : ∀ {key job}, store.jobs.get? key = some job -> job.owner = owner ->
    later.jobs.get? key = some job
  completions : ∀ {key job}, store.jobs.get? key = some job -> job.owner = owner ->
    later.completions.get? key = store.completions.get? key
  incidents : ∀ {key incident}, store.incidents.get? key = some incident ->
    incident.owner = owner -> later.incidents.get? key = some incident
  letters : ∀ {place letter}, store.deadLetters.get? place = some letter ->
    letter.job.owner = owner -> later.deadLetters.get? place = some letter

theorem MemoryStore.Spares.refl (store : MemoryStore) (owner : InstanceId) :
    store.Spares store owner :=
  ⟨rfl, fun found _ => found, fun _ _ => rfl, fun found _ => found, fun found _ => found⟩

namespace Engine

/-- What holds in every engine that began without anything stored, as long as identifiers fit. -/
structure Grounded (engine : Engine MemoryStore) : Prop where
  orderly : engine.Orderly
  bounded : engine.Bounded
  agrees : engine.Agrees
  linked : engine.Linked
  catalogues : engine.Catalogues

variable {engine : Engine MemoryStore}

/-- A slice of a stored instance writes rows of this instance only. -/
theorem Grounded.owns (grounded : engine.Grounded) {supply : IdSupply}
    (later : engine.supply.next ≤ supply.next) {config : EngineConfig} {id : InstanceId}
    {purpose : Purpose} {Result : Type} {change : Change Result}
    (intended : Intervention engine.store config id purpose change) {state : InstanceState}
    (stored : engine.store.states.get? id = some state) {program : Program} {steps : Nat}
    {now : Instant} {result : Result} {report : RunReport} {work : UnitOfWork}
    (done : change.slice program steps (.begin state now supply) = .ok (result, report, work)) :
    work.Owns engine.store.incidents supply.next := by
  obtain ⟨orderly, bounded, agrees, linked, -⟩ := grounded
  obtain ⟨changed, parts⟩ := slice_parts done
  have sound := orderly.sound id state stored
  have intervened := intended.intervened parts.made
  have begun := @shapely_begin _ _ now _ (sound.mono later)
  have shapely := intervened.shapely begun
  have ran := parts.ran shapely
  have fits : state.record.id.Fits := sound.keyed ▸ Nat.lt_of_lt_of_le sound.drawn bounded
  have agree := agrees.begin orderly.sound bounded now supply stored
  have changes := intervened.names orderly.filed agrees.named sound.keyed begun agree
  have changed := intervened.agrees orderly.filed begun sound.keyed rfl rfl agree
  have names := changes.trans (ran.names shapely (changes.id ▸ fits) changed)
  have notices := (intervened.notices linked.toLinked sound.keyed).trans ran.notices
  refine ⟨names.id ▸ fits, fun key listed => ?_, fun incident listed => ?_⟩
  · rw [names.id]
    exact (names.keys key listed).resolve_left List.not_mem_nil
  · obtain ⟨noticed, appended, -, known⟩ := notices.noticed
    rw [appended] at listed
    rw [notices.id]
    exact (known incident listed).2

/-- What belongs to one instance is spared when work on another one is stored. -/
theorem Grounded.spares (grounded : engine.Grounded) {later : MemoryStore} {owner : InstanceId}
    (spares : engine.store.Spares later owner) {work : UnitOfWork} {first : Nat}
    (owns : work.Owns engine.store.incidents first) (drawn : engine.supply.next ≤ first)
    (other : work.record.id ≠ owner) : engine.store.Spares (later.apply work.finish.1) owner := by
  obtain ⟨orderly, bounded, agrees, linked, -⟩ := grounded
  have unnamed : ∀ {key job}, engine.store.jobs.get? key = some job -> job.owner = owner ->
      key ∉ work.jobKeys := by
    rintro key job found rfl listed
    exact other ((owns.keys key listed).sole (agrees.named found) owns.fits
      (agrees.fits orderly.sound bounded found))
  constructor
  case state =>
    exact (work.touches_states.elsewhere (Ne.symm other) _).trans spares.state
  case jobs =>
    intro key job found owned
    exact (work.touches_jobs.elsewhere (unnamed found owned) _).trans (spares.jobs found owned)
  case completions =>
    intro key job found owned
    exact (work.touches_completions.elsewhere (unnamed found owned) _).trans
      (spares.completions found owned)
  case incidents =>
    intro key incident found owned
    refine (work.touches_incidents.elsewhere ?_ _).trans (spares.incidents found owned)
    rintro ⟨written, listed, rfl⟩
    rcases owns.incidents written listed with ⟨late, -⟩ | ⟨former, found', mine⟩
    · exact absurd (linked.drawn found) (Nat.not_lt.2 (Nat.le_trans drawn late))
    · cases found.symm.trans found'
      exact other (mine.symm.trans owned)
  case letters =>
    intro place letter found owned
    have held := orderly.filed.letters found
    refine (work.touches_letters.elsewhere ?_ _).trans (spares.letters found owned)
    rw [← held.place]
    exact unnamed held.stored owned

end Engine

end ProcessEngine
