import ProcessEngine.Proofs.Completions
import ProcessEngine.Proofs.Sendings

/-!
# One wake for each epoch

A signal wakes a fiber only in the epoch that it names, and the fiber is in a later epoch from then
on (`Sending.rises`). So two signals that wake the same fiber name different epochs, and whoever has
seen the fiber before it was woken comes too late for good (`Engine.Fresh.woken_once`).
-/

namespace ProcessEngine

open UnitOfWork Engine

/-- A unit of work that has noted nothing has changed no fiber. -/
theorem UnitOfWork.Notes.fiber?_of_isEmpty {work : UnitOfWork} {base : InstanceState}
    (notes : work.Notes base) (empty : work.isEmpty = true) (id : FiberId) :
    work.fiber? id = base.fiber? id := by
  simp only [isEmpty, Bool.and_eq_true, List.isEmpty_iff] at empty
  obtain ⟨⟨⟨⟨⟨⟨⟨⟨⟨⟨-, touched⟩, ended⟩, -⟩, -⟩, -⟩, -⟩, -⟩, -⟩, -⟩, -⟩ := empty
  have same := notes.others id (by simp [touched])
  rw [ended] at same
  exact same

namespace Engine

variable {engine first middle last : Engine MemoryStore}

/-- A slice that delivers a signal which wakes its fiber: the fiber is stored in the epoch that the
signal names, and in a later one afterwards. -/
theorem rises_of_sliced (sound : engine.Sound) {signal : WakeSignal} {report : RunReport}
    {work : UnitOfWork} {programs : ProgramCache} {state : InstanceState} {program : Program}
    (sliced : Sliced engine signal.owner signal.change .woken report work programs state program) :
    (engine.Storable work ∧ work.record.id = signal.owner) ∧
      ∃ fiber, state.fiber? signal.fiber = some fiber ∧ fiber.epoch = signal.epoch ∧
        ∀ later, work.fiber? signal.fiber = some later -> fiber.epoch < later.epoch := by
  obtain ⟨changed, parts⟩ := slice_parts sliced.done
  have begun := sound _ _ sliced.stored
  have intended : Intervention engine.store engine.config signal.owner .signal signal.change :=
    .signal rfl
  have intervened := intended.intervened parts.made
  have ran := parts.ran (intervened.shapely (shapely_begin begun))
  refine ⟨storable_slice sound sliced.stored intervened ran, ?_⟩
  have made := parts.made
  rw [WakeSignal.change] at made
  split at made
  · rcases (UnitOfWork.begin state engine.now engine.supply).deliver_cases signal with
      ⟨reason, same⟩ | ⟨fiber, before, pc, found, current, ages, same⟩
    · rw [same] at made
      cases made
    · rw [same] at made
      cases made
      exact ⟨fiber, found, current,
        fun later => ages.rises ran.ages (begun.shaped.drawn found) found⟩
  · cases made

/-- A signal for a stored instance can be delivered. -/
theorem sliced_of_stored (supplied : engine.Supplied) {signal : WakeSignal} {state : InstanceState}
    (stored : engine.store.states.get? signal.owner = some state) :
    ∃ delivery report work programs program,
      Sliced engine signal.owner signal.change delivery report work programs state program := by
  obtain ⟨program, programs, loaded, known⟩ := supplied.loads stored
  obtain ⟨delivery, changed, made⟩ : ∃ delivery changed,
      signal.change program (.begin state engine.now engine.supply) = .ok (delivery, changed) := by
    rw [WakeSignal.change]
    split
    · exact ⟨_, _, rfl⟩
    · exact ⟨_, _, rfl⟩
  have intended : Intervention engine.store engine.config signal.owner .signal signal.change :=
    .signal rfl
  have intervened := intended.intervened made
  have own := intervened.continues.program.trans known.same.symm
  obtain ⟨report, work, done⟩ := Change.slice_of_made made own engine.config.maximumSteps
  exact ⟨delivery, report, work, programs, program, stored, loaded, done⟩

end Engine

namespace Sending

variable {sending : Sending}

/-- The engine with a lock on the instance of the signal. -/
def locked (sending : Sending) : Engine MemoryStore :=
  { sending.engine with locks := sending.engine.locks.insert sending.signal.owner }

/-- A signal is delivered in one transaction. -/
theorem transacted (sound : sending.engine.Sound) :
    Transacted sending.locked sending.signal.owner sending.signal.change
      (sending.answer, sending.after) := by
  have locked : sending.locked.Sound := sound
  exact transacted_transact locked (.signal rfl)

/-- A signal that wakes a fiber names its epoch, and the fiber is in a later one afterwards. -/
theorem rises (sound : sending.engine.Sound) (woken : sending.answer = .ok .woken) :
    ∃ fiber, sending.engine.fiber? sending.signal.owner sending.signal.fiber = some fiber ∧
      fiber.epoch = sending.signal.epoch ∧
      ∀ later, sending.after.fiber? sending.signal.owner sending.signal.fiber = some later ->
        fiber.epoch < later.epoch := by
  have locked : sending.locked.Sound := sound
  have transacted := transacted sound
  generalize sending.answer = answer at transacted woken
  generalize sending.after = after at transacted ⊢
  cases transacted with
  | refused => cases woken
  | idle sliced empty store =>
    cases woken
    obtain ⟨⟨storable, owner⟩, fiber, found, current, rises⟩ := rises_of_sliced locked sliced
    -- Nothing was noted, so the fiber would be what it was.
    have notes := storable.notes
    rw [owner, sliced.stored] at notes
    have same := UnitOfWork.Notes.fiber?_of_isEmpty notes empty sending.signal.fiber
    have := rises fiber (same.trans found)
    omega
  | committed sliced store =>
    cases woken
    obtain ⟨⟨storable, owner⟩, fiber, found, current, rises⟩ := rises_of_sliced locked sliced
    refine ⟨fiber, fiber?_eq_some_iff.2 ⟨_, sliced.stored, found⟩, current, fun later present => ?_⟩
    rw [Engine.fiber?, store, storable.states_apply, if_pos owner.symm] at present
    exact rises later present

/-- A signal for a stored instance is answered. -/
theorem answered (sound : sending.engine.Sound) (supplied : sending.engine.Supplied)
    {state : InstanceState}
    (stored : sending.engine.store.states.get? sending.signal.owner = some state) :
    ∃ delivery, sending.answer = .ok delivery := by
  have transacted := transacted sound
  generalize sending.answer = answer at transacted ⊢
  generalize sending.after = after at transacted
  cases transacted with
  | refused store unsliced =>
    have locked : sending.locked.Supplied :=
      ⟨⟨supplied.stored, supplied.cached⟩, supplied.kept, supplied.provided⟩
    obtain ⟨delivery, report, work, programs, program, sliced⟩ := sliced_of_stored locked stored
    exact absurd sliced unsliced
  | idle sliced empty store => exact ⟨_, rfl⟩
  | committed sliced store => exact ⟨_, rfl⟩

end Sending

/-! ## Fibers over a whole run -/

namespace Engine

variable {engine first middle last : Engine MemoryStore}

/-- A fiber that is stored is stored in the same instance for good, in no earlier epoch. -/
theorem Aged.epoch (aged : middle.Aged last) (sound : middle.Sound) (exclusive : middle.Exclusive)
    {owner owner' : InstanceId} {id : FiberId} {fiber later : Fiber}
    (found : middle.fiber? owner id = some fiber) (present : last.fiber? owner' id = some later) :
    owner = owner' ∧ fiber.epoch ≤ later.epoch := by
  rcases aged.origin present with ⟨former, before, ages⟩ | fresh
  · obtain rfl := exclusive found before
    cases found.symm.trans before
    exact ⟨rfl, ages.epoch⟩
  · have := sound.drawn found
    omega

/-- An engine at some point of a run of operations, and one at a later point. -/
structure Passes (engine : Engine MemoryStore) (operations : List EngineOperation)
    (middle last : Engine MemoryStore) : Prop where
  before : Advances .any engine middle
  between : Advances .any middle last
  after : Advances .any last (engine.performAll operations)

/-- The engines between the operations are such points. -/
theorem passes_performAll (engine : Engine MemoryStore)
    (earlier later rest : List EngineOperation) :
    engine.Passes (earlier ++ (later ++ rest)) (engine.performAll earlier)
      (engine.performAll (earlier ++ later)) := by
  refine ⟨advances_performAll _ _, ?_, ?_⟩
  · rw [performAll_append]
    exact advances_performAll _ _
  · rw [← List.append_assoc, performAll_append _ (earlier ++ later)]
    exact advances_performAll _ _

/-- Whoever sends the signal has seen its fiber in an engine, in the epoch that it names. -/
def Witnesses (engine : Engine MemoryStore) (signal : WakeSignal) : Prop :=
  ∃ fiber, engine.fiber? signal.owner signal.fiber = some fiber ∧ fiber.epoch = signal.epoch

end Engine

/-- After a signal has woken a fiber, the fiber is in a later epoch for good. -/
theorem Sending.surpassed {earlier : Sending} {last : Engine MemoryStore}
    (sound : earlier.engine.Sound) (exclusive : earlier.engine.Exclusive)
    (woken : earlier.answer = .ok .woken) (rest : Advances .any earlier.after last)
    {owner : InstanceId} {fiber : Fiber}
    (present : last.fiber? owner earlier.signal.fiber = some fiber) :
    earlier.signal.owner = owner ∧ earlier.signal.epoch < fiber.epoch := by
  obtain ⟨former, found, current, rises⟩ := rises sound woken
  have delivered : Advances .any earlier.engine earlier.after :=
    follows_signal trivial earlier.signal earlier.engine
  obtain ⟨reached, aged⟩ := delivered.aged sound
  rcases (rest.aged reached).2.origin present with ⟨between, there, ages⟩ | fresh
  · obtain ⟨rfl, -⟩ := aged.epoch sound exclusive found there
    have := rises between there
    have := ages.epoch
    exact ⟨rfl, by omega⟩
  · have := sound.drawn found
    have := aged.supply
    omega

/-- The epoch of a fiber never falls. A signal that has woken a fiber names an earlier epoch than
every later one that wakes it, and a signal of someone who saw the fiber before it was woken is
discarded. -/
theorem Engine.Fresh.woken_once {engine : Engine MemoryStore} (fresh : engine.Fresh)
    (operations : List EngineOperation) :
    (∀ {middle last}, engine.Passes operations middle last ->
      ∀ {owner owner' id fiber later}, middle.fiber? owner id = some fiber ->
        last.fiber? owner' id = some later -> owner = owner' ∧ fiber.epoch ≤ later.epoch) ∧
    (engine.sendingsOf operations).Pairwise (fun earlier later =>
      earlier.answer = .ok .woken -> earlier.signal.fiber = later.signal.fiber ->
        (later.answer = .ok .woken -> earlier.signal.epoch < later.signal.epoch) ∧
        ∀ seen, engine.Passes operations seen earlier.engine -> seen.Witnesses later.signal ->
          ∃ reason, later.answer = .ok (.discarded reason)) := by
  have reached : ∀ {middle}, Advances .any engine middle ->
      middle.Sound ∧ middle.Exclusive := by
    intro middle advances
    obtain ⟨sound, aged⟩ := advances.aged fresh.sound
    exact ⟨sound, aged.exclusive fresh.exclusive⟩
  have ages : ∀ {middle last}, engine.Passes operations middle last ->
      ∀ {owner owner' id fiber later}, middle.fiber? owner id = some fiber ->
        last.fiber? owner' id = some later -> owner = owner' ∧ fiber.epoch ≤ later.epoch := by
    intro middle last passes owner owner' id fiber later found present
    obtain ⟨sound, exclusive⟩ := reached passes.before
    exact (passes.between.aged sound).2.epoch sound exclusive found present
  refine ⟨ages, ?_⟩
  have sends := engine.sends_performAll operations
  have supplied := (sends.supplied fresh.sound fresh.supplied).2
  refine sends.pairwise.imp_of_mem (fun {earlier later} listed listed' rest woken same => ?_)
  have before := (sends.passes listed).1
  obtain ⟨sound, exclusive⟩ := reached before
  have later_epoch : later.answer = .ok .woken -> earlier.signal.epoch < later.signal.epoch := by
    intro woken'
    obtain ⟨fiber, found, current, -⟩ := later.rises (supplied later listed').1 woken'
    rw [← same] at found
    exact current ▸ (Sending.surpassed sound exclusive woken rest found).2
  refine ⟨later_epoch, fun seen passes witnesses => ?_⟩
  obtain ⟨fiber, found, current⟩ := witnesses
  obtain ⟨state, stored, -⟩ := fiber?_eq_some_iff.1 found
  have way : Advances .any seen later.engine :=
    (passes.between.trans (follows_signal trivial earlier.signal earlier.engine)).trans rest
  obtain ⟨state', stored'⟩ := (way.aged (reached passes.before).1).2.stays stored
  obtain ⟨sound', supplied'⟩ := supplied later listed'
  obtain ⟨delivery, answered⟩ := later.answered sound' supplied' stored'
  cases delivery with
  | discarded reason => exact ⟨reason, answered⟩
  | woken =>
    obtain ⟨former, found', current', -⟩ := earlier.rises sound woken
    rw [same] at found'
    have := (ages passes found found').2
    have := later_epoch answered
    omega

/-! ## A race -/

namespace RaceRun

/-- A message or a timer wins a race; after the message the fiber waits once more. -/
def program : Program where
  instructions := [.race 0 [⟨.message 0 .processInstance, 1⟩, ⟨.timer 1000, 2⟩], .waitTimer 1000,
    .finish]
  symbols := { nodes := [⟨"r", Eq.refl true⟩], messages := ["m"] }
  hash := ⟨"342e36477fca221d76df080507b730766a48a0450bb87b52ec79caa81ad4a833", by decide +kernel⟩

def engine : Engine MemoryStore where
  store := {}
  now := default
  supply := ⟨0⟩

/-- The message wins the race, the timer of the race comes late, and the timer after the race
fires. -/
def operations : List EngineOperation :=
  [.install program, .start program.hash .null "c", .correlate "m" "c" none,
    .signal ⟨0⟩ ⟨1⟩ (some 0) .timer {}, .advance 1000, .fireTimers]

end RaceRun

/-- The fiber of the race is woken in two epochs, once in each. -/
theorem Engine.woken_once_of_race :
    RaceRun.engine.Fresh ∧
    (RaceRun.engine.sendingsOf RaceRun.operations).map Sending.answer =
      [.ok .woken, .ok (.discarded (.superseded 0 1)), .ok .woken] ∧
    (RaceRun.engine.sendingsOf RaceRun.operations).Pairwise (fun earlier later =>
      earlier.answer = .ok .woken -> earlier.signal.fiber = later.signal.fiber ->
        later.answer = .ok .woken -> earlier.signal.epoch < later.signal.epoch) := by
  have fresh : RaceRun.engine.Fresh := ⟨rfl, rfl⟩
  refine ⟨fresh, by decide +kernel, ?_⟩
  exact (fresh.woken_once RaceRun.operations).2.imp
    (fun rises woken same => (rises woken same).1)

end ProcessEngine
