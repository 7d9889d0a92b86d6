import ProcessEngine.Proofs.Agreement

/-!
# Epochs

The epoch of a fiber never falls. Every change of an instance and every turn of it lets its fibers
age (`Intervened.ages`, `UnitOfWork.Ran.ages`), so over any sequence of atomic steps a fiber that
is stored has aged since it was stored before, or its identifier is new (`Engine.Advances.aged`).
-/

namespace ProcessEngine

namespace UnitOfWork

variable {work next : UnitOfWork} {program : Program}

/-! ## Signals -/

theorem ages_interrupt (work : UnitOfWork) (host : FiberId) :
    work.Ages (work.interrupt host).2 := by
  rw [interrupt]
  split
  · exact .refl work
  · exact (ages_cancelAwaitedJob work _).trans (ages_endFiber _ host)

/-- A watchdog that fires is woken in the end. -/
theorem fire_eq_wake (work : UnitOfWork) (watchdog : FiberId) (watch : Watch) :
    ∃ before, work.Ages before ∧ work.fire watchdog watch = before.wake watchdog watch.target := by
  have logged : work.Ages (work.emit (.boundaryFired watch.boundary watch.interrupting)) :=
    (steady_emit work _).toContinues.ages (fun _ => rfl)
  rw [fire]
  dsimp only
  refine ⟨_, ?_, rfl⟩
  refine Ages.trans ?_ (ages_updateFiber _ _ (fun _ => ⟨rfl, Nat.le_refl _, .inl⟩))
  split
  · exact logged.trans (ages_interrupt _ _)
  · exact logged.trans (ages_updateFiber _ _ (fun _ => ⟨rfl, Nat.le_refl _, .inl⟩))

/-- However a fiber goes on, it is woken in the end. -/
theorem resume_eq_wake (work : UnitOfWork) (id : FiberId) (how : Resumption) :
    ∃ before pc, work.Ages before ∧ work.resume id how = before.wake id pc := by
  cases how with
  | goOn pc => exact ⟨work, pc, .refl work, rfl⟩
  | win race winner losers =>
    have emits : ∀ (work : UnitOfWork) (event : RuntimeEvent), work.Ages (work.emit event) :=
      fun work event => (steady_emit work event).toContinues.ages (fun _ => rfl)
    have logged : (work.emit (.raceWon race winner)).Ages
        (losers.foldl (fun (work : UnitOfWork) target => work.emit (.raceArmCancelled race target))
          (work.emit (.raceWon race winner))) :=
      related_foldl Ages.refl Ages.trans (fun _ _ => emits _ _) losers _
    exact ⟨_, winner, (emits work _).trans logged, rfl⟩
  | fire watch =>
    obtain ⟨before, ages, same⟩ := work.fire_eq_wake id watch
    exact ⟨before, watch.target, ages, same⟩

/-- A signal is discarded, or it names the present epoch of its fiber and wakes it. -/
theorem deliver_cases (work : UnitOfWork) (signal : WakeSignal) :
    (∃ reason, work.deliver signal =
        (.discarded reason, work.emit (.signalDiscarded signal.fiber reason.text))) ∨
      ∃ fiber before pc, work.fiber? signal.fiber = some fiber ∧ fiber.epoch = signal.epoch ∧
        work.Ages before ∧ work.deliver signal = (.woken, before.wake signal.fiber pc) := by
  rw [deliver]
  cases answered : work.resumption signal with
  | error reason => exact .inl ⟨reason, rfl⟩
  | ok how =>
    obtain ⟨-, fiber, found, current, -⟩ := resumption_ok answered
    have accepted := (steady_accept work signal.flags signal.payload).toContinues.ages
      (fun _ => rfl)
    obtain ⟨before, pc, ages, same⟩ := (work.updateRecord (fun record =>
      record.accept signal.flags signal.payload)).resume_eq_wake signal.fiber how
    exact .inr ⟨fiber, before, pc, found, current, accepted.trans ages,
      congrArg (Prod.mk Delivery.woken) same⟩

theorem ages_deliver (work : UnitOfWork) (signal : WakeSignal) :
    work.Ages (work.deliver signal).2 := by
  rcases work.deliver_cases signal with ⟨reason, same⟩ | ⟨fiber, before, pc, -, -, ages, same⟩
  · rw [same]
    exact (steady_emit work _).toContinues.ages (fun _ => rfl)
  · rw [same]
    exact ages.trans (ages_wake _ _ _)

/-- A fiber that was there has a new epoch after it was woken. -/
theorem Ages.rises {before after : UnitOfWork} {id : FiberId} {pc : Address} {fiber later : Fiber}
    (ages : work.Ages before) (rest : (before.wake id pc).Ages after)
    (drawn : id.number < work.supply.next) (found : work.fiber? id = some fiber)
    (present : after.fiber? id = some later) : fiber.epoch < later.epoch := by
  have old : id.number < (before.wake id pc).supply.next :=
    Nat.lt_of_lt_of_le drawn (ages.trans (ages_wake before id pc)).supply
  rcases rest.origin present with ⟨woken, there, aged⟩ | ⟨-, fresh⟩
  · rw [fiber?_wake, if_pos rfl] at there
    obtain ⟨former, between, rfl⟩ := Option.map_eq_some_iff.1 there
    rcases ages.origin between with ⟨first, known, aged'⟩ | ⟨-, fresh⟩
    · cases found.symm.trans known
      exact Nat.lt_of_le_of_lt aged'.epoch aged.epoch
    · omega
  · omega

/-! ## Changes and turns -/

theorem ages_restart (work : UnitOfWork) (program : Program) (incident : Incident) :
    work.Ages (work.restart program incident).2 := by
  rw [restart]
  split
  · exact .refl work
  · split
    · exact ages_wake work _ _
    · exact .refl work

/-- Fibers age over any number of turns. -/
theorem Ran.ages (ran : Ran program work next) : work.Ages next := by
  induction ran with
  | refl => exact .refl work
  | step prior running found ready turned ih => exact ih.trans (turned.ages found)

end UnitOfWork

open UnitOfWork

/-- Fibers age over every change of an instance. -/
theorem Intervened.ages {store : MemoryStore} {id : InstanceId} {program : Program}
    {work next : UnitOfWork} {purpose : Purpose}
    (intervened : Intervened store id program work purpose next) : work.Ages next := by
  have emits : ∀ (work : UnitOfWork) (event : RuntimeEvent), work.Ages (work.emit event) :=
    fun work event => (steady_emit work event).toContinues.ages (fun _ => rfl)
  have puts : ∀ (work : UnitOfWork) (incident : Incident), work.Ages (work.putIncident incident) :=
    fun work incident => (steady_putIncident work incident).toContinues.ages (fun _ => rfl)
  have continues := intervened.continues
  cases intervened with
  | run => exact .refl work
  | cancel running closes => exact ages_close closes
  | complete stored owned first wanted completion => exact Job.ages_applied _ completion _
  | record stored owned first unwanted completion => exact continues.ages (fun _ => rfl)
  | fail stored owned wanted failed => exact failed.ages
  | dismiss => exact .refl work
  | deliver running signal => exact ages_deliver work signal
  | discard => exact .refl work
  | restart stored settles running alone owned closed =>
    exact ((emits work _).trans (ages_restart _ program _)).trans (puts _ _)
  | settle stored settles owned closed => exact (emits work _).trans (puts _ _)
  | requeue stored owned running found waits settles =>
    rename_i place letter fiber incident settled
    have requeued := letter.ages_requeued work fiber.pc
    cases settles with
    | nothing => exact requeued.trans (emits _ _)
    | incident found settles closed =>
      exact ((requeued.trans (emits _ _)).trans (puts _ _)).trans (emits _ _)
  | abandon stored owned => exact continues.ages (fun _ => rfl)

/-! ## Stored fibers -/

namespace Engine

/-- The fiber of a stored instance. -/
def fiber? (engine : Engine MemoryStore) (owner : InstanceId) (id : FiberId) : Option Fiber :=
  (engine.store.states.get? owner).bind (fun state => state.fiber? id)

/-- Instances stay stored, and every stored fiber has aged, or its identifier is new and no other
instance has it. -/
structure Aged (engine next : Engine MemoryStore) : Prop where
  supply : engine.supply.next ≤ next.supply.next
  stays : ∀ {owner state}, engine.store.states.get? owner = some state ->
    ∃ later, next.store.states.get? owner = some later
  origin : ∀ {owner id later}, next.fiber? owner id = some later ->
    (∃ fiber, engine.fiber? owner id = some fiber ∧ fiber.Ages later) ∨
      engine.supply.next ≤ id.number
  single : ∀ {owner owner' id fiber fiber'}, engine.supply.next ≤ id.number ->
    next.fiber? owner id = some fiber -> next.fiber? owner' id = some fiber' -> owner = owner'

/-- No two instances have a fiber of the same identifier. -/
def Exclusive (engine : Engine MemoryStore) : Prop :=
  ∀ {owner owner' id fiber fiber'}, engine.fiber? owner id = some fiber ->
    engine.fiber? owner' id = some fiber' -> owner = owner'

variable {scope : Scope} {engine next first middle last : Engine MemoryStore}

theorem fiber?_eq_some_iff {owner : InstanceId} {id : FiberId} {fiber : Fiber} :
    engine.fiber? owner id = some fiber ↔
      ∃ state, engine.store.states.get? owner = some state ∧ state.fiber? id = some fiber :=
  Option.bind_eq_some_iff

/-- The identifiers of stored fibers were drawn. -/
theorem Sound.drawn (sound : engine.Sound) {owner : InstanceId} {id : FiberId} {fiber : Fiber}
    (found : engine.fiber? owner id = some fiber) : id.number < engine.supply.next := by
  obtain ⟨state, stored, present⟩ := fiber?_eq_some_iff.1 found
  exact (sound owner state stored).shaped.drawn present

namespace Aged

/-- Fibers stay as they are while no state is stored. -/
theorem of_states (sound : engine.Sound) (states : next.store.states = engine.store.states)
    (supply : engine.supply.next ≤ next.supply.next) : engine.Aged next := by
  have same : ∀ owner id, next.fiber? owner id = engine.fiber? owner id := by
    intro owner id
    rw [fiber?, states]
    rfl
  refine ⟨supply, fun stored => ⟨_, states ▸ stored⟩,
    fun found => .inl ⟨_, (same _ _).symm.trans found, .refl _⟩, ?_⟩
  intro owner owner' id fiber fiber' fresh found
  have := sound.drawn ((same _ _).symm.trans found)
  omega

theorem refl (sound : engine.Sound) : engine.Aged engine := of_states sound rfl (Nat.le_refl _)

theorem trans (earlier : first.Aged middle) (later : middle.Aged last) : first.Aged last where
  supply := Nat.le_trans earlier.supply later.supply
  stays stored := by
    obtain ⟨state, between⟩ := earlier.stays stored
    exact later.stays between
  origin found := by
    rcases later.origin found with ⟨fiber, between, ages⟩ | fresh
    · rcases earlier.origin between with ⟨former, before, ages'⟩ | fresh
      · exact .inl ⟨former, before, ages'.trans ages⟩
      · exact .inr fresh
    · exact .inr (Nat.le_trans earlier.supply fresh)
  single fresh found found' := by
    rcases later.origin found with ⟨fiber, between, -⟩ | newer
    · rcases later.origin found' with ⟨fiber', between', -⟩ | newer
      · exact earlier.single fresh between between'
      · exact later.single newer found found'
    · exact later.single newer found found'

/-- A fiber is not shared later if it was not shared before. -/
theorem exclusive (aged : engine.Aged next) (exclusive : engine.Exclusive) : next.Exclusive := by
  intro owner owner' id fiber fiber' found found'
  rcases aged.origin found with ⟨former, before, -⟩ | fresh
  · rcases aged.origin found' with ⟨former', before', -⟩ | fresh
    · exact exclusive before before'
    · exact aged.single fresh found found'
  · exact aged.single fresh found found'

/-- Storing a unit of work changes the fibers of one instance. -/
theorem of_storable (sound : engine.Sound) {work : UnitOfWork} (storable : engine.Storable work)
    (store : next.store = engine.store.apply work.finish.1) (supply : next.supply = work.supply)
    (origin : ∀ {id later}, work.fiber? id = some later ->
      (∃ fiber, engine.fiber? work.record.id id = some fiber ∧ fiber.Ages later) ∨
        engine.supply.next ≤ id.number) : engine.Aged next := by
  have effect : ∀ owner id, next.fiber? owner id =
      if owner = work.record.id then work.fiber? id else engine.fiber? owner id := by
    intro owner id
    rw [fiber?, store, storable.states_apply]
    split
    · rfl
    · rfl
  have changed : ∀ {owner id fiber}, engine.supply.next ≤ id.number ->
      next.fiber? owner id = some fiber -> owner = work.record.id := by
    intro owner id fiber fresh found
    rw [effect] at found
    split at found
    · assumption
    · have := sound.drawn found
      omega
  refine ⟨supply ▸ storable.supply, fun {owner state} stored => ?_,
    fun {owner id later} found => ?_, ?_⟩
  · rw [store, storable.states_apply]
    split
    · exact ⟨_, rfl⟩
    · exact ⟨state, stored⟩
  · rw [effect] at found
    split at found
    · rename_i same
      exact same ▸ origin found
    · exact .inl ⟨later, found, .refl later⟩
  · intro owner owner' id fiber fiber' fresh found found'
    rw [changed fresh found, changed fresh found']

end Aged

/-- Stored fibers age over every atomic step. -/
theorem Advance.aged (advance : Advance scope engine next) (sound : engine.Sound) :
    engine.Aged next := by
  cases advance.act sound with
  | nothing untouched => exact .of_states sound untouched.states untouched.supply
  | create known absent ran store supply =>
    refine .of_storable sound (storable_create absent ran) store supply (fun found => .inr ?_)
    -- Nothing was there before the first fiber, so every fiber is new.
    have begun : (UnitOfWork.create _ engine.now ⟨engine.supply.next + 1⟩).Ages _ :=
      (ages_spawn _ 0 none).trans ran.ages
    rcases begun.origin found with ⟨fiber, before, -⟩ | ⟨-, fresh⟩
    · cases before
    · exact Nat.le_of_succ_le fresh
  | slice known stored own admitted intervened ran store supply =>
    obtain ⟨storable, same⟩ := storable_slice sound stored intervened ran
    refine .of_storable sound storable store supply (fun {id later} found => ?_)
    rcases (intervened.ages.trans ran.ages).origin found with ⟨fiber, before, ages⟩ | ⟨-, fresh⟩
    · exact .inl ⟨fiber, fiber?_eq_some_iff.2 ⟨_, same.symm ▸ stored, before⟩, ages⟩
    · exact .inr fresh

/-- Stored fibers age over any number of atomic steps. -/
theorem Advances.aged (advances : Advances scope first last) (sound : first.Sound) :
    last.Sound ∧ first.Aged last := by
  induction advances with
  | refl => exact ⟨sound, .refl sound⟩
  | step prior advance ih =>
    obtain ⟨reached, aged⟩ := ih
    exact ⟨advance.sound reached, aged.trans (advance.aged reached)⟩

theorem Fresh.exclusive (fresh : engine.Fresh) : engine.Exclusive := by
  intro owner owner' id fiber fiber' found
  rw [fiber?, fresh.store] at found
  cases found

end Engine

end ProcessEngine
