import ProcessEngine.Proofs.Awaiting
import ProcessEngine.Proofs.Endings
import ProcessEngine.Proofs.Filing
import ProcessEngine.Proofs.JobKeys

/-!
# Jobs and the fibers that wait for them

A fiber waits for a job exactly if the job is open, belongs to the fiber's instance and names
the fiber (`UnitOfWork.Agrees`). The invariant also says which fiber and epoch every job key
was made from, so a dispatch never meets the key of another job.
-/

namespace ProcessEngine

/-- A job of an instance is open and names a fiber. -/
def OpenFor (jobs : OrderedMap JobKey Job) (owner : InstanceId) (id : FiberId) (key : JobKey) :
    Prop :=
  ∃ job, jobs.get? key = some job ∧ job.owner = owner ∧ job.fiber = id ∧
    job.status.isOpen = true

/-- The key was made for a fiber that has left the epoch of the dispatch, or waits in it. -/
def JobKey.IssuedFor (key : JobKey) (owner : InstanceId) (fibers : FiberId -> Option Fiber)
    (sequence : Nat) : Prop :=
  ∃ node number epoch input, key = .generate owner node number epoch input ∧
    number < sequence ∧ ∀ {id fiber}, fibers id = some fiber -> fiber.sequence = number ->
      epoch ≤ fiber.epoch ∧ (fiber.wait = .ready -> epoch < fiber.epoch)

/-- The identifier fits into 128 bits. -/
def Identifier.Fits {kind : IdentifierKind} (id : Identifier kind) : Prop := id.number < 2 ^ 128

/-- What a key says about its fiber stays true as fibers age. -/
theorem JobKey.IssuedFor.ages {key : JobKey} {owner : InstanceId} {work next : UnitOfWork}
    (issued : key.IssuedFor owner work.fiber? work.record.nextSequence)
    (ages : work.Ages next) : key.IssuedFor owner next.fiber? next.record.nextSequence := by
  obtain ⟨node, number, epoch, input, made, taken, left⟩ := issued
  refine ⟨node, number, epoch, input, made, Nat.lt_of_lt_of_le taken ages.sequence, ?_⟩
  intro id later found same
  rcases ages.origin found with ⟨fiber, before, aged⟩ | ⟨new, -⟩
  · obtain ⟨reached, passed⟩ := left before (aged.sequence.symm.trans same)
    refine ⟨Nat.le_trans reached aged.epoch, fun ready => ?_⟩
    rcases aged.ready ready with ready | risen
    · exact Nat.lt_of_lt_of_le (passed ready) aged.epoch
    · exact Nat.lt_of_le_of_lt reached risen
  · omega

namespace UnitOfWork

/-- Fibers and jobs agree: the fibers that wait for a job are those of the open jobs. Moreover the
keys of all jobs are known, cancelled jobs exist, and no job of another instance is touched. -/
structure Agrees (work : UnitOfWork) (table : OrderedMap JobKey Job) : Prop where
  waits : ∀ id key, work.WaitsFor id key ↔
    OpenFor (work.jobsOver table) work.record.id id key
  fits : ∀ {key job}, (work.jobsOver table).get? key = some job -> job.owner.Fits
  named : ∀ {key job}, (work.jobsOver table).get? key = some job ->
    ∃ node number epoch input, key = .generate job.owner node number epoch input
  issued : ∀ {key job}, (work.jobsOver table).get? key = some job -> job.owner = work.record.id ->
    key.IssuedFor work.record.id work.fiber? work.record.nextSequence
  noted : ∀ key ∈ work.cancelledJobs, ∃ job, (work.jobsOver table).get? key = some job
  others : ∀ key job, job.owner ≠ work.record.id ->
    ((work.jobsOver table).get? key = some job ↔ table.get? key = some job)

variable {work next : UnitOfWork} {table : OrderedMap JobKey Job} {fiber : Fiber}
  {key : JobKey} {job former : Job}

/-- A fiber waits for one job at most, and a job is waited for by one fiber at most. -/
theorem Agrees.unique (agrees : work.Agrees table) {id id' : FiberId} {key key' : JobKey}
    (waits : work.WaitsFor id key) (waits' : work.WaitsFor id' key') : id = id' ↔ key = key' := by
  constructor
  · rintro rfl
    obtain ⟨fiber, found, is⟩ := waits
    rw [waitsFor_of_found found, is] at waits'
    exact Wait.job.inj waits'
  · rintro rfl
    obtain ⟨job, stored, -, names, -⟩ := (agrees.waits id key).1 waits
    obtain ⟨job', stored', -, names', -⟩ := (agrees.waits id' key).1 waits'
    cases stored.symm.trans stored'
    exact names.symm.trans names'

/-- Work that changes no jobs and begins or ends no wait for one keeps the agreement. -/
theorem Agrees.of_same (agrees : work.Agrees table) (continues : work.Continues next)
    (jobs : next.jobs = work.jobs) (cancelled : next.cancelledJobs = work.cancelledJobs)
    (idles : work.Idles next) (ages : work.Ages next) : next.Agrees table := by
  have same := jobsOver_eq table jobs cancelled
  refine ⟨?_, ?_, ?_, ?_, ?_, ?_⟩
  · intro id key
    rw [idles, same, continues.id]
    exact agrees.waits id key
  · rw [same]
    exact agrees.fits
  · rw [same]
    exact agrees.named
  · rw [same, continues.id]
    exact fun found owned => (agrees.issued found owned).ages ages
  · rw [same, cancelled]
    exact agrees.noted
  · rw [same, continues.id]
    exact agrees.others

theorem Agrees.calm (agrees : work.Agrees table) (steady : work.Steady next)
    (idles : work.Idles next) (ages : work.Ages next) : next.Agrees table :=
  agrees.of_same steady.toContinues steady.jobs steady.cancelledJobs idles ages

theorem Agrees.emit (agrees : work.Agrees table) (event : RuntimeEvent) :
    (work.emit event).Agrees table :=
  agrees.calm (steady_emit work event) (idles_emit work event)
    ((steady_emit work event).toContinues.ages (fun _ => rfl))

/-- A fiber that waits for no job may be woken. -/
theorem Agrees.wake (agrees : work.Agrees table) {id : FiberId}
    (free : ∀ key, ¬ work.WaitsFor id key) (pc : Address) : (work.wake id pc).Agrees table :=
  agrees.calm (steady_wake work id pc) (idles_wake free pc) (ages_wake work id pc)

theorem Agrees.putIncident (agrees : work.Agrees table) (incident : Incident) :
    (work.putIncident incident).Agrees table :=
  agrees.calm (steady_putIncident work incident) (idles_of_same (fun _ => rfl))
    ((steady_putIncident work incident).toContinues.ages (fun _ => rfl))

/-- A fiber that waits for the resolution of an incident may begin again. -/
theorem Agrees.restart (agrees : work.Agrees table) (program : Program) (incident : Incident) :
    (work.restart program incident).2.Agrees table := by
  rw [UnitOfWork.restart]
  split
  · exact agrees
  · rename_i fiber found
    split
    · rename_i waits
      refine agrees.wake (fun key still => ?_) _
      rw [waitsFor_of_found found, waits] at still
      cases still
    · exact agrees

/-- Work that writes one job of its instance keeps the agreement if exactly the right fiber waits
for that job afterwards. -/
theorem Agrees.write (agrees : work.Agrees table) (key : JobKey) (job : Job)
    (continues : work.Continues next) (ages : work.Ages next)
    (jobs : ∀ asked, (next.jobsOver table).get? asked =
      if asked = key then some job else (work.jobsOver table).get? asked)
    (owned : job.owner = work.record.id) (fits : job.owner.Fits)
    (former : ∀ {former}, (work.jobsOver table).get? key = some former ->
      former.owner = work.record.id)
    (issued : key.IssuedFor work.record.id next.fiber? next.record.nextSequence)
    (noted : ∀ cancelled ∈ next.cancelledJobs, cancelled ∈ work.cancelledJobs ∨ cancelled = key)
    (waits : ∀ id asked, next.WaitsFor id asked ↔
      if asked = key then job.status.isOpen = true ∧ id = job.fiber
      else work.WaitsFor id asked) : next.Agrees table := by
  have ids := continues.id
  refine ⟨?_, ?_, ?_, ?_, ?_, ?_⟩
  · intro id asked
    rw [waits, OpenFor, jobs, ids]
    split
    · constructor
      · rintro ⟨pending, rfl⟩
        exact ⟨job, rfl, owned, rfl, pending⟩
      · rintro ⟨found, ⟨⟩, -, rfl, pending⟩
        exact ⟨pending, rfl⟩
    · exact agrees.waits id asked
  · intro asked found present
    rw [jobs] at present
    split at present
    · cases present
      exact fits
    · exact agrees.fits present
  · intro asked found present
    rw [jobs] at present
    split at present
    · rename_i same
      cases present
      obtain ⟨node, number, epoch, input, made, -⟩ := issued
      exact ⟨node, number, epoch, input, by rw [same, made, owned]⟩
    · exact agrees.named present
  · intro asked found present mine
    rw [ids]
    rw [ids] at mine
    rw [jobs] at present
    split at present
    · rename_i same
      exact same ▸ issued
    · exact (agrees.issued present mine).ages ages
  · intro cancelled listed
    rw [jobs]
    split
    · exact ⟨job, rfl⟩
    · rename_i different
      exact agrees.noted cancelled ((noted cancelled listed).resolve_right different)
  · intro asked found foreign
    rw [ids] at foreign
    rw [jobs]
    split
    · rename_i same
      subst same
      refine ⟨?_, fun present => ?_⟩
      · rintro ⟨⟩
        exact absurd owned foreign
      · have present := (agrees.others _ _ foreign).2 present
        exact absurd (former present) foreign
    · exact agrees.others asked found foreign

/-- Work that writes a job that was there keeps the agreement if the right fibers wait for it. -/
theorem Agrees.rewrite (agrees : work.Agrees table) (key : JobKey) (job : Job)
    (continues : work.Continues next) (ages : work.Ages next)
    (found : (work.jobsOver table).get? key = some former)
    (mine : former.owner = work.record.id) (owned : job.owner = former.owner)
    (jobs : ∀ asked, (next.jobsOver table).get? asked =
      if asked = key then some job else (work.jobsOver table).get? asked)
    (noted : ∀ cancelled ∈ next.cancelledJobs, cancelled ∈ work.cancelledJobs ∨ cancelled = key)
    (waits : ∀ id asked, next.WaitsFor id asked ↔
      if asked = key then job.status.isOpen = true ∧ id = job.fiber
      else work.WaitsFor id asked) : next.Agrees table := by
  refine agrees.write key job continues ages jobs (owned.trans mine) ?_ ?_ ?_ noted waits
  · rw [owned]
    exact agrees.fits found
  · intro other found'
    cases found.symm.trans found'
    exact mine
  · exact (agrees.issued found mine).ages ages

/-- A job that a fiber waits for belongs to the instance and names the fiber. -/
theorem Agrees.awaited (agrees : work.Agrees table) {id : FiberId} (waits : work.WaitsFor id key) :
    ∃ job, (work.jobsOver table).get? key = some job ∧ job.owner = work.record.id ∧
      job.fiber = id ∧ job.status.isOpen = true := (agrees.waits id key).1 waits

/-- No fiber waits for a job that is closed. -/
theorem Agrees.unawaited (agrees : work.Agrees table)
    (found : (work.jobsOver table).get? key = some former) (closed : former.status.isOpen = false)
    (id : FiberId) : ¬ work.WaitsFor id key := by
  intro waits
  obtain ⟨job, found', -, -, pending⟩ := agrees.awaited waits
  cases found.symm.trans found'
  rw [closed] at pending
  cases pending

/-- The job of a fiber may be closed when the fiber waits for it no longer. -/
theorem Agrees.release (agrees : work.Agrees table) (job : Job)
    (continues : work.Continues next) (ages : work.Ages next) {id : FiberId}
    (waits : work.WaitsFor id key) (found : (work.jobsOver table).get? key = some former)
    (owned : job.owner = former.owner) (closed : job.status.isOpen = false)
    (jobs : ∀ asked, (next.jobsOver table).get? asked =
      if asked = key then some job else (work.jobsOver table).get? asked)
    (noted : ∀ cancelled ∈ next.cancelledJobs, cancelled ∈ work.cancelledJobs ∨ cancelled = key)
    (releases : work.Releases id next) : next.Agrees table := by
  have mine : former.owner = work.record.id := by
    obtain ⟨job', found', mine, -⟩ := agrees.awaited waits
    cases found.symm.trans found'
    exact mine
  refine agrees.rewrite key job continues ages found mine owned jobs noted (fun asked wanted => ?_)
  rw [releases]
  split
  · rename_i same
    subst same
    refine iff_of_false (fun released => released.1 ?_) (fun still => ?_)
    · exact (agrees.unique released.2 waits).2 rfl
    · rw [closed] at still
      cases still.1
  · rename_i different
    refine ⟨And.right, fun still => ⟨?_, still⟩⟩
    rintro rfl
    exact different ((agrees.unique still waits).1 rfl)

/-- A fiber may begin to wait for a job that becomes open for it. -/
theorem Agrees.adopt (agrees : work.Agrees table) (key : JobKey) (job : Job) (id : FiberId)
    (continues : work.Continues next) (ages : work.Ages next)
    (free : ∀ asked, ¬ work.WaitsFor id asked)
    (unwaited : ∀ asked, ¬ work.WaitsFor asked key)
    (jobs : ∀ asked, (next.jobsOver table).get? asked =
      if asked = key then some job else (work.jobsOver table).get? asked)
    (owned : job.owner = work.record.id) (fits : job.owner.Fits) (named : job.fiber = id)
    (pending : job.status.isOpen = true)
    (former : ∀ {former}, (work.jobsOver table).get? key = some former ->
      former.owner = work.record.id)
    (issued : key.IssuedFor work.record.id next.fiber? next.record.nextSequence)
    (noted : ∀ cancelled ∈ next.cancelledJobs, cancelled ∈ work.cancelledJobs ∨ cancelled = key)
    (waits : next.WaitsFor id key)
    (elsewhere : ∀ asked, asked ≠ id -> next.fiber? asked = work.fiber? asked) :
    next.Agrees table := by
  refine agrees.write key job continues ages jobs owned fits former issued noted
    (fun asked wanted => ?_)
  by_cases same : asked = id
  · subst same
    obtain ⟨fiber, found, is⟩ := waits
    rw [waitsFor_of_found found, is]
    split
    · rename_i same
      exact iff_of_true (congrArg Wait.job same.symm) ⟨pending, named.symm⟩
    · rename_i different
      exact iff_of_false (fun equal => different (Wait.job.inj equal).symm) (free wanted)
  · have others : next.WaitsFor asked wanted ↔ work.WaitsFor asked wanted := by
      rw [WaitsFor, WaitsFor, elsewhere asked same]
    rw [others]
    split
    · rename_i equal
      subst equal
      exact iff_of_false (unwaited asked) (fun named' => same (named'.2.trans named))
    · rfl

/-! ## Fibers that end with their jobs -/

theorem cancelAwaitedJob_cases (work : UnitOfWork) (fiber : Fiber) :
    (∃ key, fiber.wait = .job key ∧ work.cancelAwaitedJob fiber = work.cancelJob key) ∨
      (∀ key, fiber.wait ≠ .job key) ∧ work.cancelAwaitedJob fiber = work := by
  rw [cancelAwaitedJob]
  cases fiber.wait with
  | job key => exact .inl ⟨key, rfl, rfl⟩
  | _ => exact .inr ⟨fun _ other => Wait.noConfusion other, rfl⟩

/-- A fiber that ends does not leave behind a job that it waits for. -/
theorem Agrees.endFiber (agrees : work.Agrees table) {id : FiberId}
    (found : work.fiber? id = some fiber) :
    ((work.cancelAwaitedJob fiber).endFiber id).Agrees table := by
  have ended := ages_endFiber (work.cancelAwaitedJob fiber) id
  have ages := (ages_cancelAwaitedJob work fiber).trans ended
  rcases cancelAwaitedJob_cases work fiber with ⟨key, waits, same⟩ | ⟨free, same⟩
  · rw [same] at ages ⊢
    have steady := steady_endFiber (work.cancelJob key) id
    obtain ⟨former, stored, mine, -⟩ := agrees.awaited ((waitsFor_of_found found).2 waits)
    refine agrees.release former.withdrawn
      ((confined_cancelJob work key).trans steady.toConfined).toContinues ages
      ((waitsFor_of_found found).2 waits) stored former.develops_withdrawn.owner
      former.withdrawn_closed (fun asked => ?_) (fun cancelled listed => ?_) ?_
    · rw [steady.jobsOver, get?_jobsOver_cancelJob]
      split
      · rename_i same
        rw [same, stored]
        rfl
      · rfl
    · rw [steady.cancelledJobs] at listed
      exact (List.mem_append.1 listed).imp_right List.mem_singleton.1
    · exact releases_endFiber (work.cancelJob key) id
  · rw [same] at ages ⊢
    refine agrees.calm (steady_endFiber work id) (idles_endFiber (fun key waits => ?_)) ages
    exact free key ((waitsFor_of_found found).1 waits)

theorem Agrees.interrupt (agrees : work.Agrees table) (host : FiberId) :
    (work.interrupt host).2.Agrees table := by
  rw [UnitOfWork.interrupt]
  split
  · exact agrees
  · exact agrees.endFiber ‹_›

/-- When a watchdog fires, the job of an interrupted host is cancelled. -/
theorem Agrees.fire (agrees : work.Agrees table) {watchdog : FiberId} (watch : Watch)
    (free : ∀ key, ¬ work.WaitsFor watchdog key) : (work.fire watchdog watch).Agrees table := by
  have logged := agrees.emit (.boundaryFired watch.boundary watch.interrupting)
  have wakes : ∀ {freed : UnitOfWork} (tickets : List JoinTicket), freed.Agrees table ->
      (∀ key, ¬ freed.WaitsFor watchdog key) ->
      ((freed.updateFiber watchdog (fun fiber =>
        { fiber with watch := none, tickets := tickets })).wake watchdog
          watch.target).Agrees table := by
    intro freed tickets agrees free
    have turned : freed.Idles (freed.updateFiber watchdog (fun fiber =>
      { fiber with watch := none, tickets := tickets })) := idles_updateFiber (fun _ _ _ => .rfl)
    have aged := ages_updateFiber freed watchdog (fun fiber =>
      show fiber.Ages { fiber with watch := none, tickets := tickets } from
        ⟨rfl, Nat.le_refl _, .inl⟩)
    refine (agrees.calm (steady_updateFiber _ _ _) turned aged).wake (fun key waits => ?_) _
    exact free key ((turned _ key).1 waits)
  rw [UnitOfWork.fire]
  dsimp only
  split
  · exact wakes _ (logged.interrupt watch.host) ((releases_interrupt _ watch.host).free free)
  · have forgot : (work.emit (.boundaryFired watch.boundary watch.interrupting)).Idles
        ((work.emit (.boundaryFired watch.boundary watch.interrupting)).updateFiber watch.host
          (fun host => { host with watchdog := none })) := idles_updateFiber (fun _ _ _ => .rfl)
    refine wakes _ (logged.calm (steady_updateFiber _ _ _) forgot
      (ages_updateFiber _ _ (fun _ => ⟨rfl, Nat.le_refl _, .inl⟩))) (fun key waits => ?_)
    exact free key ((forgot _ key).1 waits)

/-- A signal ends no wait for a job unless it interrupts the fiber, which then ends. -/
theorem Agrees.deliver (agrees : work.Agrees table) (signal : WakeSignal) :
    (work.deliver signal).2.Agrees table := by
  rw [UnitOfWork.deliver]
  split
  · exact agrees.emit _
  · rename_i how answered
    obtain ⟨-, fiber, found, -, answers⟩ := resumption_ok answered
    have accepts := steady_accept work signal.flags signal.payload
    have accepted := agrees.calm accepts (idles_of_same (fun _ => rfl))
      (accepts.toContinues.ages (fun _ => rfl))
    have free : (∀ key, fiber.wait ≠ .job key) -> ∀ key, ¬ (work.updateRecord (fun record =>
        record.accept signal.flags signal.payload)).WaitsFor signal.fiber key := by
      intro other key waits
      exact other key ((waitsFor_of_found found).1 waits)
    cases answers with
    | fire waits watches => exact accepted.fire _ (free (by simp [waits]))
    | timer waits unwatched => exact accepted.wake (free (by simp [waits])) _
    | message waits => exact accepted.wake (free (by simp [waits])) _
    | human waits => exact accepted.wake (free (by simp [waits])) _
    | race waits leads =>
      rename_i node arms winner losers
      have other : ∀ key, fiber.wait ≠ .job key := by simp [waits]
      rw [resume]
      have logged : ∀ (targets : List Address) (start : UnitOfWork), start.Agrees table ->
          (∀ key, ¬ start.WaitsFor signal.fiber key) ->
          ((targets.foldl (fun (work : UnitOfWork) target =>
            work.emit (.raceArmCancelled node target)) start).wake signal.fiber
              winner).Agrees table := by
        intro targets
        induction targets with
        | nil => exact fun start agrees free => agrees.wake free _
        | cons target rest ih => exact fun start agrees free => ih _ (agrees.emit _) free
      exact logged losers _ (accepted.emit _) (free other)

/-- When the fibers of an instance end one after another with their jobs, every one of them is met
in agreement. -/
theorem Agrees.endFibers (agrees : work.Agrees table) (shapely : work.Shapely)
    {Related : UnitOfWork -> UnitOfWork -> Prop} (refl : ∀ work, Related work work)
    (trans : ∀ {first middle last}, Related first middle -> Related middle last ->
      Related first last)
    (each : ∀ {work : UnitOfWork} {fiber}, work.Agrees table ->
      work.fiber? fiber.id = some fiber ->
        Related work ((work.cancelAwaitedJob fiber).endFiber fiber.id)) :
    (work.state.fibersInOrder.foldl (fun (work : UnitOfWork) fiber =>
        (work.cancelAwaitedJob fiber).endFiber fiber.id) work).Agrees table ∧
      Related work (work.state.fibersInOrder.foldl (fun (work : UnitOfWork) fiber =>
        (work.cancelAwaitedJob fiber).endFiber fiber.id) work) := by
  have ends : ∀ (fibers : List Fiber) (start : UnitOfWork), start.Agrees table ->
      fibers.Pairwise (fun left right => left.id ≠ right.id) ->
      (∀ fiber ∈ fibers, start.fiber? fiber.id = some fiber) ->
      (fibers.foldl (fun (work : UnitOfWork) fiber =>
        (work.cancelAwaitedJob fiber).endFiber fiber.id) start).Agrees table ∧
        Related start (fibers.foldl (fun (work : UnitOfWork) fiber =>
          (work.cancelAwaitedJob fiber).endFiber fiber.id) start) := by
    intro fibers
    induction fibers with
    | nil => exact fun start agrees _ _ => ⟨agrees, refl start⟩
    | cons fiber rest ih =>
      intro start agrees distinct present
      rw [List.pairwise_cons] at distinct
      have found := present fiber List.mem_cons_self
      have later : ∀ other ∈ rest, ((start.cancelAwaitedJob fiber).endFiber fiber.id).fiber?
          other.id = some other := by
        intro other listed
        rw [fiber?_endFiber, fiber?_cancelAwaitedJob, if_neg (Ne.symm (distinct.1 other listed))]
        exact present other (List.mem_cons_of_mem _ listed)
      obtain ⟨agrees', related⟩ := ih _ (agrees.endFiber found) distinct.2 later
      exact ⟨agrees', trans (each agrees found) related⟩
  refine ends _ work agrees (pairwise_fibersInOrder (WellFormed.keyed shapely)) ?_
  intro fiber listed
  obtain ⟨id, found⟩ := (OrderedMap.mem_values_iff _ _).1 (mem_sortOn.1 listed)
  have same : fiber.id = id := WellFormed.keyed shapely found
  exact same ▸ found

/-- Closing an instance cancels the jobs that its fibers wait for. -/
theorem Agrees.close (agrees : work.Agrees table) (shapely : work.Shapely)
    {status : InstanceStatus} {event : RuntimeEvent} (closes : work.close status event = .ok next) :
    next.Agrees table := by
  obtain ⟨-, rfl⟩ := close_cases closes
  obtain ⟨ended, -⟩ := agrees.endFibers shapely (fun _ => trivial) (fun _ _ => trivial)
    (fun _ _ => trivial)
  exact ended.calm (steady_conclude _ _ _) (idles_of_same (fun _ => rfl))
    ((steady_conclude _ _ _).toContinues.ages (fun _ => rfl))

/-! ## Turns -/

/-- A fiber that can run has not handed out a job in its epoch. -/
theorem Agrees.unissued (agrees : work.Agrees table) (fits : work.record.id.Fits)
    (found : work.fiber? fiber.id = some fiber) (ready : fiber.wait = .ready) (node : NodeKey)
    (input : Json) : (work.jobsOver table).get?
      (.generate work.record.id node fiber.sequence fiber.epoch input) = none := by
  cases stored : (work.jobsOver table).get?
      (.generate work.record.id node fiber.sequence fiber.epoch input) with
  | none => rfl
  | some job =>
    obtain ⟨node', number, epoch, input', made⟩ := agrees.named stored
    obtain ⟨owned, -⟩ := JobKey.generate_inj fits (agrees.fits stored) made
    obtain ⟨_, number, epoch, _, made, -, left⟩ := agrees.issued stored owned.symm
    obtain ⟨-, -, sequence, same⟩ := JobKey.generate_inj fits fits made
    have passed := (left found sequence).2 ready
    omega

/-- A job of a new key is there when it is handed out. -/
theorem Agrees.get?_jobsOver_handOut (agrees : work.Agrees table)
    (absent : (work.jobsOver table).get? job.key = none) (asked : JobKey) :
    ((work.handOut fiber job).jobsOver table).get? asked =
      if asked = job.key then some job else (work.jobsOver table).get? asked := by
  have parked := steady_park (work.dispatch job) fiber.id fiber.pc (.job job.key)
  have unnoted : job.key ∉ work.cancelledJobs := by
    intro listed
    obtain ⟨former, stored⟩ := agrees.noted _ listed
    cases absent.symm.trans stored
  refine (congrArg (OrderedMap.get? · asked) (parked.jobsOver table)).trans ?_
  rw [get?_jobsOver_dispatch]
  by_cases same : asked = job.key
  · rw [if_pos same, if_pos same, same, if_neg unnoted, absent]
    rfl
  · rw [if_neg same, if_neg same, Option.or_none]

/-- A job that is handed out is new, and its fiber waits for it. -/
theorem Agrees.handOut (agrees : work.Agrees table) (shapely : work.Shapely)
    (fits : work.record.id.Fits) (found : work.fiber? fiber.id = some fiber)
    (ready : fiber.wait = .ready) (node : NodeKey) (taskType : String) (retries : Nat)
    (now : Instant) :
    (work.handOut fiber (.first work.record fiber node taskType retries now)).Agrees table := by
  have absent := agrees.unissued fits found ready node work.record.jobInput
  let job := Job.first work.record fiber node taskType retries now
  have parked := steady_park (work.dispatch job) fiber.id fiber.pc (.job job.key)
  have continues := ((confined_dispatch work job).trans parked.toConfined).toContinues
  have ages : work.Ages (work.handOut fiber job) :=
    ((confined_dispatch work job).toContinues.ages (fun _ => rfl)).trans (ages_park _ _ _ nofun)
  have there : (work.handOut fiber job).fiber? fiber.id =
      some { fiber with wait := .job job.key } := by
    refine (fiber?_park (work.dispatch job) fiber.id fiber.id fiber.pc _).trans ?_
    rw [if_pos rfl, fiber?_dispatch, found]
    rfl
  have elsewhere : ∀ asked, asked ≠ fiber.id ->
      (work.handOut fiber job).fiber? asked = work.fiber? asked := by
    intro asked different
    exact (fiber?_park (work.dispatch job) fiber.id asked fiber.pc _).trans (if_neg different)
  refine agrees.adopt job.key job fiber.id continues ages ?_ ?_
    (agrees.get?_jobsOver_handOut absent) rfl fits rfl rfl ?_ ?_ ?_ ?_ elsewhere
  · intro asked waits
    rw [waitsFor_of_found found, ready] at waits
    cases waits
  · intro asked waits
    obtain ⟨former, stored, -⟩ := agrees.awaited waits
    cases absent.symm.trans stored
  · intro former stored
    cases absent.symm.trans stored
  · refine ⟨node, fiber.sequence, fiber.epoch, _, rfl,
      Nat.lt_of_lt_of_le (WellFormed.numbered shapely found) ages.sequence, ?_⟩
    intro id other present same
    by_cases itself : id = fiber.id
    · subst itself
      cases there.symm.trans present
      exact ⟨Nat.le_refl _, nofun⟩
    · rw [elsewhere id itself] at present
      exact absurd (WellFormed.distinct shapely present found same) itself
  · intro cancelled listed
    exact .inl (parked.cancelledJobs ▸ listed)
  · exact ⟨_, there, rfl⟩

/-- A turn keeps the agreement. -/
theorem Turned.agrees {program : Program} (turned : Turned program fiber work next)
    (shapely : work.Shapely) (fits : work.record.id.Fits)
    (found : work.fiber? fiber.id = some fiber) (ready : fiber.wait = .ready)
    (agrees : work.Agrees table) : next.Agrees table := by
  have ages := turned.ages found
  rcases turned.idles shapely found ready with
    ⟨steady, idles⟩ | ⟨key, name, node, retries, rfl, -⟩ | ⟨node, closes⟩
  · exact agrees.calm steady idles ages
  · exact agrees.handOut shapely fits found ready _ _ _ _
  · exact agrees.close shapely closes

theorem Ran.agrees {program : Program} (ran : Ran program work next) (shapely : work.Shapely)
    (fits : work.record.id.Fits) (agrees : work.Agrees table) : next.Agrees table := by
  induction ran with
  | refl => exact agrees
  | step prior running found ready turned ih =>
    exact turned.agrees (prior.shapely shapely) (prior.confined.id ▸ fits) found ready ih

end UnitOfWork

/-! ## Changes -/

open UnitOfWork

section

variable {work : UnitOfWork} {fiber : Fiber}

theorem Job.ages_applied (job : Job) (completion : JobCompletion) (pc : Address) :
    work.Ages (job.applied completion pc work) := by
  have finished := (continues_recordCompletion work
    ⟨job.key, completion, true, work.time⟩).trans (job.continues_finished (.jobCompleted job.key) _)
  have accepted := finished.trans (steady_accept _ completion.flags completion.payload).toContinues
  exact (accepted.ages (fun _ => rfl)).trans (ages_wake _ _ _)

theorem Job.releases_applied (job : Job) (completion : JobCompletion) (pc : Address) :
    work.Releases job.fiber (job.applied completion pc work) :=
  Idles.trans_releases (idles_of_same (fun _ => rfl)) (releases_wake _ _ _)

theorem Job.ages_stopped (job : Job) (kind : FaultClass) (problem : String) (pc : Address) :
    work.Ages (job.stopped kind problem pc work) := by
  have drawn : work.Ages { work with supply := ⟨work.supply.next + 1⟩ } :=
    (steady_draw work).toContinues.ages (fun _ => rfl)
  exact drawn.trans (ages_halt _ _)

theorem Job.releases_stopped (job : Job) (kind : FaultClass) (problem : String) (pc : Address) :
    work.Releases job.fiber (job.stopped kind problem pc work) := by
  have drawn : work.Idles { work with supply := ⟨work.supply.next + 1⟩ } :=
    idles_of_same (fun _ => rfl)
  exact drawn.trans_releases (releases_halt _ _)

theorem Job.ages_shelved (letter : DeadLetter) (work : UnitOfWork) :
    work.Ages (Job.shelved letter work) := (Job.continues_shelved letter work).ages (fun _ => rfl)

theorem Job.idles_shelved (letter : DeadLetter) (work : UnitOfWork) :
    work.Idles (Job.shelved letter work) := idles_of_same (fun _ => rfl)

theorem Job.ages_buried (job : Job) (kind : FaultClass) (problem : String) (expires : Instant)
    (pc : Address) : work.Ages (job.buried kind problem expires pc work) := by
  rw [buried]
  exact (job.ages_stopped kind problem pc).trans (Job.ages_shelved _ _)

theorem Job.releases_buried (job : Job) (kind : FaultClass) (problem : String)
    (expires : Instant) (pc : Address) :
    work.Releases job.fiber (job.buried kind problem expires pc work) := by
  rw [buried]
  exact (job.releases_stopped kind problem pc).trans_idles (Job.idles_shelved _ _)

theorem Job.ages_routed (job : Job) (problem code : String) (target : Address) (fiber : Fiber) :
    work.Ages (job.routed problem code target fiber work) :=
  (((Job.continues_finished _ _ work).ages (fun _ => rfl)).trans
    (ages_dropWatchdog _ _)).trans (ages_wake _ _ _)

theorem Job.releases_routed (job : Job) (problem code : String) (target : Address)
    (shapely : work.Shapely) (found : work.fiber? job.fiber = some fiber) :
    work.Releases job.fiber (job.routed problem code target fiber work) := by
  have finished : work.Idles (Job.finished { job with lastError := some problem }
    (.jobErrorRouted job.key code) work) := idles_of_same (fun _ => rfl)
  have dropped : (Job.finished { job with lastError := some problem }
      (.jobErrorRouted job.key code) work).Idles ((Job.finished { job with
        lastError := some problem } (.jobErrorRouted job.key code) work).dropWatchdog fiber) :=
    idles_dropWatchdog rfl (fun watchdog knows key waits =>
      shapely.guarding found knows key waits)
  exact (finished.trans dropped).trans_releases (releases_wake _ _ _)

theorem DeadLetter.ages_requeued (letter : DeadLetter) (work : UnitOfWork) (pc : Address) :
    work.Ages (letter.requeued pc work) := by
  have parked : work.Ages (work.park letter.job.fiber pc (.job letter.key)) :=
    ages_park _ _ _ nofun
  refine parked.trans
    (((continues_updateJob _ _).trans (continues_removeDeadLetter _ _)).ages (fun asked => ?_))
  rw [fiber?_removeDeadLetter, fiber?_updateJob]

/-- Fibers age when a job has failed. -/
theorem Job.Failed.ages {program : Program} {job : Job} {outcome : FailureOutcome}
    {changed : UnitOfWork} (failed : job.Failed program work fiber outcome changed) :
    work.Ages changed := by
  have continues := failed.continues
  cases failed with
  | retry notBefore problem => exact continues.ages (fun _ => rfl)
  | bury kind problem expires => exact job.ages_buried kind problem _ _
  | route problem leads => exact job.ages_routed problem _ _ _

theorem Job.cancelledJobs_applied (job : Job) (completion : JobCompletion) (pc : Address) :
    (job.applied completion pc work).cancelledJobs = work.cancelledJobs :=
  ((steady_accept (job.finished (.jobCompleted job.key) (work.recordCompletion
    ⟨job.key, completion, true, work.time⟩)) completion.flags completion.payload).trans
      (steady_wake _ job.fiber (pc + 1))).cancelledJobs

theorem Job.cancelledJobs_buried (job : Job) (kind : FaultClass) (problem : String)
    (expires : Instant) (pc : Address) :
    (job.buried kind problem expires pc work).cancelledJobs = work.cancelledJobs := by
  rw [buried, cancelledJobs_shelved]
  exact (job.steady_stopped kind problem pc work).cancelledJobs

theorem Job.cancelledJobs_routed (job : Job) (problem code : String) (target : Address)
    (fiber : Fiber) :
    (job.routed problem code target fiber work).cancelledJobs = work.cancelledJobs :=
  ((steady_dropWatchdog (Job.finished { job with lastError := some problem }
    (.jobErrorRouted job.key code) work) fiber).trans
      (steady_wake _ job.fiber target)).cancelledJobs

end

section

variable {store : MemoryStore} {work changed : UnitOfWork} {job : Job} {fiber : Fiber}

/-- A result that is wanted closes the job, and its fiber waits for it no longer. -/
theorem UnitOfWork.Agrees.result (agrees : work.Agrees store.jobs) (clean : work.jobs = [])
    (none : work.cancelledJobs = []) (stored : store.jobs.get? job.key = some job)
    (wanted : work.Wanted job fiber) (continues : work.Continues changed)
    (ages : work.Ages changed) (releases : work.Releases job.fiber changed) (result : Job)
    (owned : result.owner = job.owner) (closed : result.status.isOpen = false)
    (jobs : ∀ asked, (changed.jobsOver store.jobs).get? asked =
      if asked = job.key then some result else (work.jobsOver store.jobs).get? asked)
    (noted : changed.cancelledJobs = work.cancelledJobs) : changed.Agrees store.jobs := by
  have waits : work.WaitsFor job.fiber job.key := ⟨fiber, wanted.found, wanted.waits⟩
  have found : (work.jobsOver store.jobs).get? job.key = some job := by
    rw [jobsOver_of_none store.jobs clean none]
    exact stored
  refine agrees.release result continues ages waits found owned closed jobs ?_ releases
  rw [noted]
  exact fun cancelled listed => .inl listed

theorem Job.Failed.agrees {program : Program} {outcome : FailureOutcome}
    (failed : job.Failed program work fiber outcome changed) (shapely : work.Shapely)
    (agrees : work.Agrees store.jobs) (clean : work.jobs = []) (none : work.cancelledJobs = [])
    (stored : store.jobs.get? job.key = some job) (wanted : work.Wanted job fiber) :
    changed.Agrees store.jobs := by
  have continues := failed.continues
  cases failed with
  | retry notBefore problem =>
    have found : (work.jobsOver store.jobs).get? job.key = some job := by
      rw [jobsOver_of_none store.jobs clean none]
      exact stored
    have waits : work.WaitsFor job.fiber job.key := ⟨fiber, wanted.found, wanted.waits⟩
    obtain ⟨job', found', mine, -⟩ := agrees.awaited waits
    cases found.symm.trans found'
    refine agrees.rewrite job.key (job.scheduleRetry notBefore problem) continues
      (continues.ages (fun _ => rfl)) found mine rfl
      (get?_jobsOver_emit_updateJob work none store.jobs _ _)
      (fun cancelled listed => .inl listed) (fun id asked => ?_)
    split
    · rename_i same
      subst same
      constructor
      · exact fun still => ⟨rfl, (agrees.unique still waits).2 rfl⟩
      · rintro ⟨-, rfl⟩
        exact waits
    · rfl
  | bury kind problem expires =>
    exact agrees.result clean none stored wanted continues (job.ages_buried kind problem _ _)
      (job.releases_buried kind problem _ _) (job.setAside problem) rfl rfl
      (job.get?_jobsOver_buried none store.jobs kind problem expires fiber.pc)
      (job.cancelledJobs_buried kind problem _ _)
  | route problem leads =>
    exact agrees.result clean none stored wanted continues (job.ages_routed problem _ _ _)
      (job.releases_routed problem _ _ shapely wanted.found)
      { job with
        lastError := some problem
        status := .completed } rfl rfl
      (job.get?_jobsOver_routed none store.jobs problem _ _ fiber)
      (job.cancelledJobs_routed problem _ _ _)

/-- The fiber that a job was set aside for takes it up again. -/
theorem DeadLetter.agrees_requeued {letter : DeadLetter} {place : DeadLetterKey}
    {incident : IncidentId} (agrees : work.Agrees store.jobs)
    (clean : work.jobs = []) (none : work.cancelledJobs = []) (filed : store.Filed)
    (held : letter.Filed place store.jobs) (owned : letter.job.owner = work.record.id)
    (found : work.fiber? letter.job.fiber = some fiber) (waits : fiber.wait = .incident incident) :
    (letter.requeued fiber.pc work).Agrees store.jobs := by
  have same : letter.job.key = letter.key := filed.keyed held.stored
  have stored : (work.jobsOver store.jobs).get? letter.job.key = some letter.job := by
    rw [jobsOver_of_none store.jobs clean none, same]
    exact held.stored
  have fits : letter.job.owner.Fits := agrees.fits stored
  have ages := letter.ages_requeued work fiber.pc
  have effect := letter.fiber?_requeued fiber.pc work
  refine agrees.adopt letter.job.key (letter.renewed work.time) letter.job.fiber
    (letter.continues_requeued _) ages ?_
    (agrees.unawaited stored held.closed)
    (letter.get?_jobsOver_requeued none store.jobs fiber.pc) owned fits rfl rfl ?_
    ((agrees.issued stored owned).ages ages) ?_ ?_ ?_
  · intro asked still
    rw [waitsFor_of_found found, waits] at still
    cases still
  · intro former stored'
    cases stored.symm.trans stored'
    exact owned
  · have still := steady_park work letter.job.fiber fiber.pc (.job letter.key)
    exact fun cancelled listed => .inl (still.cancelledJobs ▸ listed)
  · refine ⟨_, (effect _).trans (if_pos rfl |>.trans (congrArg _ found)), ?_⟩
    rw [same]
  · exact fun asked different => (effect asked).trans (if_neg different)

/-- Every change keeps the agreement. -/
theorem Intervened.agrees {id : InstanceId} {program : Program} {purpose : Purpose}
    (intervened : Intervened store id program work purpose changed) (filed : store.Filed)
    (shapely : work.Shapely) (same : work.record.id = id) (clean : work.jobs = [])
    (none : work.cancelledJobs = []) (agrees : work.Agrees store.jobs) :
    changed.Agrees store.jobs := by
  have continues := intervened.continues
  cases intervened with
  | run => exact agrees
  | cancel running closes => exact agrees.close shapely closes
  | complete stored owned first wanted completion =>
    rename_i key job fiber
    obtain rfl := filed.keyed stored
    exact agrees.result clean none stored wanted continues (job.ages_applied completion _)
      (job.releases_applied completion _) { job with status := .completed } rfl rfl
      (job.get?_jobsOver_applied none store.jobs completion fiber.pc)
      (job.cancelledJobs_applied completion _)
  | record stored owned first unwanted completion =>
    exact agrees.of_same continues rfl rfl (idles_of_same (fun _ => rfl))
      (continues.ages (fun _ => rfl))
  | fail stored owned wanted failed =>
    obtain rfl := filed.keyed stored
    exact failed.agrees shapely agrees clean none stored wanted
  | dismiss => exact agrees
  | deliver running signal => exact agrees.deliver signal
  | discard => exact agrees
  | restart stored settles running alone owned closed =>
    exact ((agrees.emit _).restart program _).putIncident _
  | settle stored settles owned closed =>
    exact agrees.of_same continues rfl rfl (idles_of_same (fun _ => rfl))
      (continues.ages (fun _ => rfl))
  | requeue stored owned running found waits settles =>
    rename_i place letter fiber incident settled
    have requeued := letter.agrees_requeued agrees clean none filed (filed.letters stored)
      (owned.trans same.symm) found waits
    cases settles with
    | nothing => exact requeued.emit _
    | incident found settles closed => exact ((requeued.emit _).putIncident _).emit _
  | abandon stored owned =>
    rename_i place letter
    have held := filed.letters stored
    have named : letter.job.key = letter.key := filed.keyed held.stored
    have stored : (work.jobsOver store.jobs).get? letter.job.key = some letter.job := by
      rw [jobsOver_of_none store.jobs clean none, named]
      exact held.stored
    refine agrees.rewrite letter.job.key { letter.job with status := .cancelled } continues
      (continues.ages (fun _ => rfl)) stored (owned.trans same.symm) rfl
      (letter.get?_jobsOver_abandoned none store.jobs)
      (fun cancelled listed => .inl listed) (fun id asked => ?_)
    split
    · rename_i equal
      subst equal
      exact iff_of_false (agrees.unawaited stored held.closed id) (fun still => nomatch still.1)
    · rfl

end

end ProcessEngine
