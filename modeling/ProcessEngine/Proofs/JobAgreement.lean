import ProcessEngine.Proofs.Agreement

/-!
# Stored jobs and stored fibers

In every store that an engine leads to, the open jobs are exactly those that fibers of running
instances wait for (`Engine.History.jobs_agree`). Identifiers are numbers of 128 bits, and as
long as no more of them are drawn no two instances share a text, which job keys are made from.
-/

namespace ProcessEngine

namespace Engine

open UnitOfWork

/-- Stored fibers wait for exactly the open jobs that name them, and every job was handed out by
a fiber of a stored instance. -/
structure Agrees (engine : Engine MemoryStore) : Prop where
  waits : ∀ {id state}, engine.store.states.get? id = some state -> ∀ fiber key,
    (∃ found, state.fiber? fiber = some found ∧ found.wait = .job key) ↔
      OpenFor engine.store.jobs id fiber key
  issued : ∀ {key job}, engine.store.jobs.get? key = some job ->
    ∃ state, engine.store.states.get? job.owner = some state ∧
      key.IssuedFor job.owner state.fiber? state.record.nextSequence

section

variable {engine next : Engine MemoryStore} {program : Program} {work : UnitOfWork}

/-- No more identifiers were drawn than fit. -/
def Bounded (engine : Engine MemoryStore) : Prop := engine.supply.next ≤ 2 ^ 128

theorem Agrees.fits (agrees : engine.Agrees) (sound : engine.Sound) (bounded : engine.Bounded)
    {key : JobKey} {job : Job} (found : engine.store.jobs.get? key = some job) :
    job.owner.Fits := by
  obtain ⟨state, stored, -⟩ := agrees.issued found
  exact Nat.lt_of_lt_of_le (sound _ _ stored).drawn bounded

theorem Agrees.named (agrees : engine.Agrees) {key : JobKey} {job : Job}
    (found : engine.store.jobs.get? key = some job) :
    ∃ node number epoch input, key = .generate job.owner node number epoch input := by
  obtain ⟨state, -, node, number, epoch, input, made, -⟩ := agrees.issued found
  exact ⟨node, number, epoch, input, made⟩

/-- Work on a stored instance begins in agreement with the stored jobs. -/
theorem Agrees.begin (agrees : engine.Agrees) (sound : engine.Sound) (bounded : engine.Bounded)
    {id : InstanceId} {state : InstanceState} (now : Instant) (supply : IdSupply)
    (stored : engine.store.states.get? id = some state) :
    (UnitOfWork.begin state now supply).Agrees engine.store.jobs := by
  have keyed : state.record.id = id := (sound id state stored).keyed
  refine ⟨?_, agrees.fits sound bounded, agrees.named, ?_, nofun, fun _ _ _ => .rfl⟩
  · change ∀ asked key, _ ↔ OpenFor engine.store.jobs state.record.id asked key
    rw [keyed]
    exact agrees.waits stored
  · intro key job found owned
    change job.owner = state.record.id at owned
    obtain ⟨state', stored', issued⟩ := agrees.issued found
    rw [owned, keyed, stored] at stored'
    cases stored'
    exact owned ▸ issued

/-- Work on a new instance begins in agreement with the stored jobs, none of which is its own. -/
theorem Agrees.start (agrees : engine.Agrees) (sound : engine.Sound) (bounded : engine.Bounded)
    {record : ProcessInstance} (now : Instant) (supply : IdSupply)
    (absent : engine.store.states.get? record.id = none) :
    (UnitOfWork.create record now supply).start.2.Agrees engine.store.jobs := by
  have foreign : ∀ {key job}, engine.store.jobs.get? key = some job -> job.owner ≠ record.id := by
    intro key job found same
    obtain ⟨state, stored, -⟩ := agrees.issued found
    rw [same, absent] at stored
    cases stored
  have effect := fun asked =>
    fiber?_spawn (UnitOfWork.create record now supply) asked 0 Option.none
  refine ⟨?_, agrees.fits sound bounded, agrees.named, ?_, nofun, fun _ _ _ => .rfl⟩
  · intro id key
    refine iff_of_false ?_ ?_
    · rintro ⟨fiber, found, waits⟩
      have found := (effect id).symm.trans found
      split at found
      · cases found
        cases waits
      · cases found
    · rintro ⟨job, found, owned, -⟩
      exact foreign found owned
  · intro key job found owned
    exact absurd owned (foreign found)

/-- What was in agreement when it was stored is in agreement afterwards. -/
theorem Agrees.apply (agrees : engine.Agrees) (storable : engine.Storable work)
    (reached : work.Agrees engine.store.jobs)
    (store : next.store = engine.store.apply work.finish.1) : next.Agrees := by
  have jobs : next.store.jobs = work.jobsOver engine.store.jobs := by
    rw [store, jobs_apply]
  have states : ∀ asked, next.store.states.get? asked =
      if asked = work.record.id then some work.finish.2
      else engine.store.states.get? asked := by
    rw [store]
    exact storable.states_apply
  refine ⟨fun {id state} stored => ?_, fun {key job} found => ?_⟩
  · rw [jobs]
    rw [states] at stored
    split at stored
    · rename_i same
      cases stored
      rw [same]
      exact reached.waits
    · rename_i different
      intro fiber key
      rw [agrees.waits stored]
      constructor
      · rintro ⟨job, found, owned, rest⟩
        exact ⟨job, (reached.others key job (owned ▸ different)).2 found, owned, rest⟩
      · rintro ⟨job, found, owned, rest⟩
        exact ⟨job, (reached.others key job (owned ▸ different)).1 found, owned, rest⟩
  · rw [jobs] at found
    rw [states]
    split
    · rename_i same
      rw [same]
      exact ⟨work.finish.2, rfl, reached.issued found same⟩
    · rename_i different
      exact agrees.issued ((reached.others key job different).1 found)

/-- To claim jobs neither opens nor closes any. -/
theorem openFor_claim {store : MemoryStore} (filed : store.Filed) (request : ClaimRequest)
    (owner : InstanceId) (fiber : FiberId) (key : JobKey) :
    OpenFor (store.claim request).2.jobs owner fiber key ↔ OpenFor store.jobs owner fiber key := by
  rw [OpenFor, OpenFor]
  rcases get?_claim filed request key with ⟨former, stored, pending, later⟩ | same
  · rw [later, stored]
    constructor
    · rintro ⟨job, ⟨⟩, owned, named, -⟩
      exact ⟨former, rfl, owned, named, pending⟩
    · rintro ⟨job, ⟨⟩, owned, named, -⟩
      exact ⟨_, rfl, owned, named, rfl⟩
  · rw [same]

/-- No identifier is given back. -/
theorem Advance.supply {scope : Scope} (sound : engine.Sound)
    (advance : Advance scope engine next) : engine.supply.next ≤ next.supply.next := by
  cases advance.act sound with
  | nothing untouched => exact untouched.supply
  | create known absent ran store supply =>
    rw [supply]
    exact (storable_create absent ran).supply
  | slice known stored own admitted intervened ran store supply =>
    rw [supply]
    exact (storable_slice sound stored intervened ran).1.supply

/-- Every atomic step keeps the agreement. -/
theorem Advance.agrees {scope : Scope} (advance : Advance scope engine next)
    (orderly : engine.Orderly) (later : next.Bounded) (agrees : engine.Agrees) :
    next.Agrees := by
  have bounded : engine.Bounded := Nat.le_trans (advance.supply orderly.sound) later
  cases advance.effect orderly.sound with
  | same programs store supply =>
    have states : next.store.states = engine.store.states := by rw [store]
    have jobs : next.store.jobs = engine.store.jobs := by rw [store]
    refine ⟨?_, ?_⟩
    · rw [states, jobs]
      exact agrees.waits
    · rw [states, jobs]
      exact agrees.issued
  | claim request store supply =>
    refine ⟨fun {id state} stored fiber key => ?_, fun {key job} found => ?_⟩
    · rw [store] at stored ⊢
      rw [openFor_claim orderly.filed]
      exact agrees.waits stored fiber key
    · rw [store] at found ⊢
      rcases get?_claim orderly.filed request key with ⟨former, stored, pending, later⟩ | same
      · cases found.symm.trans later
        obtain ⟨state, present, issued⟩ := agrees.issued stored
        exact ⟨state, present, issued⟩
      · exact agrees.issued (same.symm.trans found)
  | purge now store supply =>
    have states : next.store.states = engine.store.states := by rw [store]; rfl
    have jobs : next.store.jobs = engine.store.jobs := by rw [store]; rfl
    refine ⟨?_, ?_⟩
    · rw [states, jobs]
      exact agrees.waits
    · rw [states, jobs]
      exact agrees.issued
  | create known absent ran store supply =>
    have storable := storable_create absent ran
    refine agrees.apply storable (ran.agrees (shapely_start _) ?_
      (agrees.start orderly.sound bounded _ _ absent)) store
    have drawn := storable.drawn
    rw [ran.confined.id, ← supply] at drawn
    exact Nat.lt_of_lt_of_le drawn later
  | slice known stored own admitted intervened ran store supply =>
    have sound := orderly.sound _ _ stored
    have begun := @shapely_begin _ _ engine.now _ sound
    have continues := intervened.continues
    have changed := intervened.agrees orderly.filed begun sound.keyed rfl rfl
      (agrees.begin orderly.sound bounded engine.now engine.supply stored)
    refine agrees.apply (storable_slice orderly.sound stored intervened ran).1
      (ran.agrees (intervened.shapely begun) ?_ changed) store
    rw [continues.id]
    exact Nat.lt_of_lt_of_le (sound.keyed ▸ sound.drawn) bounded

end

theorem Fresh.agrees {engine : Engine MemoryStore} (fresh : engine.Fresh) : engine.Agrees := by
  refine ⟨fun {id state} stored => ?_, fun {key job} found => ?_⟩
  · rw [fresh.store] at stored
    cases stored
  · rw [fresh.store] at found
    cases found

/-- Jobs and fibers agree as long as identifiers fit, and what has ended has no fibers. -/
structure Consistent (engine : Engine MemoryStore) : Prop where
  orderly : engine.Orderly
  ended : engine.Ended
  agrees : engine.Bounded -> engine.Agrees

theorem Fresh.consistent {engine : Engine MemoryStore} (fresh : engine.Fresh) :
    engine.Consistent := ⟨fresh.orderly, fresh.ended, fun _ => fresh.agrees⟩

theorem Advance.consistent {scope : Scope} {engine next : Engine MemoryStore}
    (advance : Advance scope engine next) (consistent : engine.Consistent) : next.Consistent where
  orderly := advance.orderly consistent.orderly
  ended := advance.ended consistent.orderly.sound consistent.ended
  agrees bounded := advance.agrees consistent.orderly bounded
    (consistent.agrees (Nat.le_trans (advance.supply consistent.orderly.sound) bounded))

/-- Every engine that began without anything stored is consistent. -/
theorem History.consistent {first last : Engine MemoryStore} {entries : List HistoryEntry}
    (history : History first entries last) (fresh : first.Fresh) : last.Consistent :=
  history.preserves (fun _ _ _ advance => advance.consistent) fresh.consistent

/-- An open job belongs to a running instance with a fiber that waits for it. -/
theorem Consistent.awaited {engine : Engine MemoryStore} (consistent : engine.Consistent)
    (bounded : engine.Bounded) {key : JobKey} {job : Job}
    (stored : engine.store.jobs.get? key = some job) (pending : job.status.isOpen = true) :
    ∃ state fiber, engine.store.states.get? job.owner = some state ∧
      state.record.status = .running ∧ state.fiber? job.fiber = some fiber ∧
      fiber.wait = .job key := by
  have agrees := consistent.agrees bounded
  obtain ⟨state, present, -⟩ := agrees.issued stored
  obtain ⟨fiber, found, waits⟩ :=
    (agrees.waits present job.fiber key).2 ⟨job, stored, rfl, rfl, pending⟩
  refine ⟨state, fiber, present, ?_, found, waits⟩
  have running : state.record.isRunning = true := by
    cases running : state.record.isRunning with
    | true => rfl
    | false =>
      rw [consistent.ended _ _ present running] at found
      cases found
  exact eq_of_beq running

/-- A fiber that waits for a job has an open job of its own, and an open job belongs to a running
instance with a fiber that waits for just this job. -/
theorem History.jobs_agree {first last : Engine MemoryStore} {entries : List HistoryEntry}
    (history : History first entries last) (fresh : first.Fresh)
    (bounded : last.supply.next ≤ 2 ^ 128) :
    (∀ id state fiberId fiber key, last.store.states.get? id = some state ->
      state.fiber? fiberId = some fiber -> fiber.wait = .job key ->
      ∃ job, last.store.jobs.get? key = some job ∧ job.status.isOpen = true ∧
        job.owner = id ∧ job.fiber = fiberId) ∧
    (∀ key job, last.store.jobs.get? key = some job -> job.status.isOpen = true ->
      ∃ state fiber, last.store.states.get? job.owner = some state ∧
        state.record.status = .running ∧ state.fiber? job.fiber = some fiber ∧
        fiber.wait = .job key) := by
  have consistent := history.consistent fresh
  have agrees := consistent.agrees bounded
  constructor
  · intro id state fiberId fiber key stored found waits
    obtain ⟨job, present, owned, named, pending⟩ :=
      (agrees.waits stored fiberId key).1 ⟨fiber, found, waits⟩
    exact ⟨job, present, pending, owned, named⟩
  · exact fun key job stored pending => consistent.awaited bounded stored pending

/-- The fiber of the task that was taken up again waits for its job. -/
theorem jobs_agree_of_task : ∃ job state fiber,
    (TaskRun.engine.performAll TaskRun.operations).store.jobs.get? TaskRun.key = some job ∧
      (TaskRun.engine.performAll TaskRun.operations).store.states.get? job.owner = some state ∧
      state.record.status = .running ∧ state.fiber? job.fiber = some fiber ∧
      fiber.wait = .job TaskRun.key := by
  obtain ⟨bounded, reopened, -⟩ := TaskRun.reopened
  obtain ⟨job, stored, pending⟩ := (Option.any_eq_true _ _).1 reopened
  obtain ⟨-, open'⟩ := History.jobs_agree
    (.of_operations TaskRun.engine TaskRun.operations) ⟨rfl, rfl⟩ bounded
  obtain ⟨state, fiber, rest⟩ := open' TaskRun.key job stored pending
  exact ⟨job, state, fiber, stored, rest⟩

end Engine

end ProcessEngine
