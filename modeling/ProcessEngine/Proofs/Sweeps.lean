import ProcessEngine.Proofs.Listeners
import ProcessEngine.Proofs.Plans
import ProcessEngine.Proofs.Wakes

/-!
# Sweeps

One call signals all fibers whose timers are due, or all that wait for a message. The fibers that
are listed for it are those that a signal would wake (`Engine.ListsWoken`). A signal for one of them
may end others, but those that are left still wait as they did, so each of them is woken by its own
signal (`Engine.Sweeps`).
-/

namespace ProcessEngine

open UnitOfWork

/-! ## Signals that are heard -/

/-- A signal takes effect if its fiber, in the epoch that it names, hears it. -/
theorem UnitOfWork.resumes_iff {work : UnitOfWork} {signal : WakeSignal} :
    (∃ how, work.resumption signal = .ok how) ↔ work.record.isRunning = true ∧
      ∃ fiber, work.fiber? signal.fiber = some fiber ∧ fiber.epoch = signal.epoch ∧
        fiber.Hears work.time signal.kind := by
  rw [resumption]
  cases work.record.isRunning with
  | false => simp
  | true =>
    cases work.fiber? signal.fiber with
    | none => simp
    | some fiber =>
      dsimp only
      by_cases current : fiber.epoch = signal.epoch
      · simp [current, Fiber.Hears]
      · simp [current]

theorem UnitOfWork.deliver_woken_iff {work : UnitOfWork} {signal : WakeSignal} :
    (work.deliver signal).1 = .woken ↔ ∃ how, work.resumption signal = .ok how := by
  rw [deliver]
  cases work.resumption signal with
  | error reason => simp
  | ok how => simp

/-- The change that a signal makes wakes a fiber if there is one that hears it. -/
theorem WakeSignal.woken_iff {signal : WakeSignal} {program : Program} {state : InstanceState}
    {now : Instant} {supply : IdSupply} {delivery : Delivery} {changed : UnitOfWork}
    (made : signal.change program (.begin state now supply) = .ok (delivery, changed)) :
    delivery = .woken ↔ state.record.isRunning = true ∧
      ∃ fiber, state.fiber? signal.fiber = some fiber ∧ fiber.epoch = signal.epoch ∧
        fiber.Hears now signal.kind := by
  rw [WakeSignal.change] at made
  split at made
  · obtain rfl : ((UnitOfWork.begin state now supply).deliver signal).1 = delivery :=
      congrArg Prod.fst (Except.ok.inj made)
    exact deliver_woken_iff.trans resumes_iff
  · rename_i stopped
    cases made
    exact iff_of_false (by simp) (fun hears => stopped hears.1)

theorem WakeSignal.unmoved_change {signal : WakeSignal} {program : Program}
    {work changed : UnitOfWork} {delivery : Delivery}
    (made : signal.change program work = .ok (delivery, changed)) :
    work.Unmoved signal.fiber changed := by
  rw [WakeSignal.change] at made
  split at made
  · obtain rfl : (work.deliver signal).2 = changed := congrArg Prod.snd (Except.ok.inj made)
    exact unmoved_deliver work signal
  · cases made
    exact .refl work signal.fiber

/-- A slice that delivers a signal leaves the waiting fibers that the signal is not for as they
are, unless they end. -/
theorem Engine.stays_of_sliced {engine : Engine MemoryStore} (sound : engine.Sound)
    {signal : WakeSignal} {delivery : Delivery} {report : RunReport} {work : UnitOfWork}
    {programs : ProgramCache} {state : InstanceState} {program : Program}
    (sliced : Sliced engine signal.owner signal.change delivery report work programs state
      program) : (engine.Storable work ∧ work.record.id = signal.owner) ∧
      ∀ {id fiber later}, id ≠ signal.fiber -> state.fiber? id = some fiber ->
        fiber.wait ≠ .ready -> work.fiber? id = some later -> fiber.Stays later := by
  obtain ⟨changed, parts⟩ := slice_parts sliced.done
  have begun := sound _ _ sliced.stored
  have intended : Intervention engine.store engine.config signal.owner .signal signal.change :=
    .signal rfl
  have intervened := intended.intervened parts.made
  have shapely := intervened.shapely (shapely_begin begun)
  have ran := parts.ran shapely
  refine ⟨storable_slice sound sliced.stored intervened ran, ?_⟩
  intro id fiber later other found waits present
  have unmoved := WakeSignal.unmoved_change parts.made
  have drawn := begun.shaped.drawn found
  cases between : changed.fiber? id with
  | none =>
    -- What has ended is not there again: its identifier is not new.
    rcases ran.ages.origin present with ⟨former, there, -⟩ | ⟨-, fresh⟩
    · cases between.symm.trans there
    · exact absurd (Nat.lt_of_lt_of_le drawn unmoved.supply) (Nat.not_lt.2 fresh)
  | some middle =>
    obtain ⟨former, there, stays⟩ := unmoved.others other drawn between
    cases found.symm.trans there
    have waits' : middle.wait ≠ .ready := stays.wait ▸ waits
    exact stays.trans (ran.stays shapely between waits' present)

namespace Sending

variable {sending : Sending}

/-- The reference to the fiber of the signal, in the epoch that the signal names. -/
def reference (sending : Sending) : FiberReference :=
  ⟨sending.signal.owner, sending.signal.fiber, sending.signal.epoch⟩

/-- What a signal is answered was found out on the stored state of its instance. -/
theorem made (sound : sending.engine.Sound) {delivery : Delivery}
    (answered : sending.answer = .ok delivery) : ∃ state program changed,
      sending.engine.store.states.get? sending.signal.owner = some state ∧
        sending.signal.change program
          (.begin state sending.engine.now sending.engine.supply) = .ok (delivery, changed) := by
  have parts : ∀ {report work programs state program},
      Engine.Sliced sending.locked sending.signal.owner sending.signal.change delivery report work
        programs state program -> ∃ state program changed,
      sending.engine.store.states.get? sending.signal.owner = some state ∧
        sending.signal.change program
          (.begin state sending.engine.now sending.engine.supply) = .ok (delivery, changed) := by
    intro report work programs state program sliced
    obtain ⟨changed, parts⟩ := slice_parts sliced.done
    exact ⟨state, program, changed, sliced.stored, parts.made⟩
  have transacted := transacted sound
  generalize sending.answer = answer at transacted answered
  generalize sending.after = after at transacted
  cases transacted with
  | refused => cases answered
  | idle sliced empty store =>
    cases answered
    exact parts sliced
  | committed sliced store =>
    cases answered
    exact parts sliced

/-- A signal wakes a fiber if there is one that hears it. -/
theorem woken_iff (sound : sending.engine.Sound) (supplied : sending.engine.Supplied) :
    sending.answer = .ok .woken ↔
      sending.engine.Hears sending.signal.kind sending.reference := by
  constructor
  · intro woken
    obtain ⟨state, program, changed, stored, made⟩ := made sound woken
    obtain ⟨running, fiber, found, current, hears⟩ := (WakeSignal.woken_iff made).1 rfl
    exact ⟨state, fiber, stored, running, found, current, hears⟩
  · rintro ⟨state, fiber, stored, running, found, current, hears⟩
    obtain ⟨delivery, answered⟩ := answered sound supplied stored
    obtain ⟨state', program, changed, stored', made⟩ := made sound answered
    cases stored.symm.trans stored'
    rw [answered, (WakeSignal.woken_iff made).2 ⟨running, fiber, found, current, hears⟩]

/-- No time passes while a signal is delivered. -/
theorem now (sound : sending.engine.Sound) : sending.after.now = sending.engine.now := by
  have locked : sending.locked.Sound := sound
  obtain ⟨after, same, leaves⟩ :=
    Engine.does_transact (@Intervention.signal sending.locked.store sending.locked.config
      sending.signal.owner sending.signal rfl) (locked sending.signal.owner)
  have reached : sending.after = after := congrArg Prod.snd same
  rw [reached]
  exact leaves.now

/-- A waiting fiber that the signal is not for stays as it is or ends. -/
theorem stays (sound : sending.engine.Sound) {owner : InstanceId} {id : FiberId}
    {fiber later : Fiber} (found : sending.engine.fiber? owner id = some fiber)
    (waits : fiber.wait ≠ .ready)
    (other : (owner, id) ≠ (sending.signal.owner, sending.signal.fiber))
    (present : sending.after.fiber? owner id = some later) : fiber.Stays later := by
  have locked : sending.locked.Sound := sound
  have transacted := transacted sound
  generalize sending.answer = answer at transacted
  generalize sending.after = after at transacted present
  have untouched : after.store = sending.engine.store -> fiber.Stays later := by
    intro store
    rw [Engine.fiber?, store] at present
    cases found.symm.trans present
    exact .refl fiber
  cases transacted with
  | refused store => exact untouched store
  | idle sliced empty store => exact untouched store
  | committed sliced store =>
    obtain ⟨⟨storable, same⟩, stays⟩ := Engine.stays_of_sliced locked sliced
    rw [Engine.fiber?, store, storable.states_apply, same] at present
    split at present
    · rename_i owned
      subst owned
      obtain ⟨state, stored, there⟩ := Engine.fiber?_eq_some_iff.1 found
      cases stored.symm.trans sliced.stored
      exact stays (fun equal => other (congrArg _ equal)) there waits present
    · cases found.symm.trans present
      exact .refl fiber

/-- The delivery of a signal ends a fiber. -/
def Ends (sending : Sending) (owner : InstanceId) (id : FiberId) : Prop :=
  (∃ fiber, sending.engine.fiber? owner id = some fiber) ∧ sending.after.fiber? owner id = none

end Sending

namespace Engine

/-- Signals for stored instances can be delivered: stored states are sound, what has ended has no
fibers, and programs are at hand. -/
structure Responsive (engine : Engine MemoryStore) : Prop where
  sound : engine.Sound
  ended : engine.Ended
  supplied : engine.Supplied

/-- An engine is led to another one by signals that are delivered one right after the other. -/
inductive Delivers : Engine MemoryStore -> List Sending -> Engine MemoryStore -> Prop where
  | done {engine} : Delivers engine [] engine
  | next {engine signal sendings last}
      (rest : Delivers (Sending.after ⟨engine, signal⟩) sendings last) :
    Delivers engine (⟨engine, signal⟩ :: sendings) last

end Engine

namespace Sending

variable {sending : Sending}

theorem advances (sending : Sending) : Engine.Advances .any sending.engine sending.after :=
  Engine.follows_signal trivial sending.signal sending.engine

/-- Signals can be delivered after a signal was delivered. -/
theorem responsive (responsive : sending.engine.Responsive) : sending.after.Responsive := by
  have delivered : Engine.Follows ⟨fun _ => True, fun _ => False⟩ (Engine.signal sending.signal) :=
    Engine.follows_signal trivial sending.signal
  refine (delivered sending.engine).preserves (fun engine next advance responsive => ?_) responsive
  obtain ⟨sound, ended, supplied⟩ := responsive
  exact ⟨advance.sound sound, advance.ended sound ended,
    advance.supplied sound supplied (fun _ => id)⟩

/-- Whoever would hear a signal still would after another fiber got one, or was ended by it. -/
theorem hears (responsive : sending.engine.Responsive) {kind : WakeKind}
    {reference : FiberReference} (hears : sending.engine.Hears kind reference)
    (other : (reference.owner, reference.fiber) ≠ (sending.signal.owner, sending.signal.fiber)) :
    sending.after.Hears kind reference ∨ sending.Ends reference.owner reference.fiber := by
  obtain ⟨state, fiber, stored, running, found, current, hears⟩ := hears
  have there := Engine.fiber?_eq_some_iff.2 ⟨state, stored, found⟩
  cases present : sending.after.fiber? reference.owner reference.fiber with
  | none => exact .inr ⟨⟨fiber, there⟩, present⟩
  | some later =>
    have stays := stays responsive.sound there hears.waits other present
    obtain ⟨state', stored', found'⟩ := Engine.fiber?_eq_some_iff.1 present
    refine .inl ⟨state', later, stored', ?_, found', stays.epoch.trans current, ?_⟩
    · -- An instance that has fibers runs.
      by_contra stopped
      have gone := (Sending.responsive responsive).ended _ _ stored' (Bool.eq_false_iff.2 stopped)
      cases (gone _).symm.trans found'
    · rw [now responsive.sound]
      exact stays.hears hears

end Sending

namespace Engine

variable {engine first last : Engine MemoryStore} {sending : Sending}
  {earlier later sendings : List Sending} {kind : WakeKind} {reference : FiberReference}

/-- A fiber that is not there, but was before, does not come back. -/
theorem Aged.gone (aged : first.Aged last) {owner : InstanceId} {id : FiberId}
    (drawn : id.number < first.supply.next) (gone : first.fiber? owner id = none) :
    last.fiber? owner id = none := by
  cases found : last.fiber? owner id with
  | none => rfl
  | some later =>
    rcases aged.origin found with ⟨fiber, before, -⟩ | fresh
    · cases gone.symm.trans before
    · omega

namespace Delivers

/-- What comes before and after one of the signals. -/
theorem split (delivers : Delivers first (earlier ++ sending :: later) last) :
    Delivers first earlier sending.engine ∧ Delivers sending.after later last := by
  induction earlier generalizing first with
  | nil =>
    cases delivers with
    | next rest => exact ⟨.done, rest⟩
  | cons former earlier ih =>
    cases delivers with
    | next rest =>
      obtain ⟨before, after⟩ := ih rest
      exact ⟨.next before, after⟩

theorem advances (delivers : Delivers first sendings last) : Advances .any first last := by
  induction delivers with
  | done => exact .refl
  | next rest ih => exact (Sending.advances _).trans ih

theorem responsive (delivers : Delivers first sendings last) (responsive : first.Responsive) :
    last.Responsive := by
  induction delivers with
  | done => exact responsive
  | next rest ih => exact ih (Sending.responsive responsive)

/-- Whoever would hear a signal still would after others got one, or was ended by one of them. -/
theorem hears (delivers : Delivers first sendings last) (responsive : first.Responsive)
    (hears : first.Hears kind reference)
    (others : ∀ sending ∈ sendings,
      (reference.owner, reference.fiber) ≠ (sending.signal.owner, sending.signal.fiber)) :
    last.Hears kind reference ∨
      ∃ sending ∈ sendings, sending.Ends reference.owner reference.fiber := by
  induction delivers with
  | done => exact .inl hears
  | next rest ih =>
    rcases Sending.hears responsive hears (others _ List.mem_cons_self) with hears | ends
    · refine (ih (Sending.responsive responsive) hears
        (fun sending listed => others sending (List.mem_cons_of_mem _ listed))).imp_right ?_
      rintro ⟨sending, listed, ends⟩
      exact ⟨sending, List.mem_cons_of_mem _ listed, ends⟩
    · exact .inr ⟨_, List.mem_cons_self, ends⟩

/-- A fiber that was ended by one of the signals is not there after all of them. -/
theorem gone (delivers : Delivers first sendings last) (sound : first.Sound)
    {owner : InstanceId} {id : FiberId} (listed : sending ∈ sendings)
    (ends : sending.Ends owner id) : last.fiber? owner id = none := by
  induction delivers with
  | done => cases listed
  | next rest ih =>
    rename_i engine signal sendings last
    obtain ⟨reached, aged⟩ := (Sending.advances ⟨engine, signal⟩).aged sound
    rcases List.mem_cons.1 listed with rfl | later
    · obtain ⟨⟨fiber, found⟩, missing⟩ := ends
      have drawn := Nat.lt_of_lt_of_le (sound.drawn found) aged.supply
      exact (rest.advances.aged reached).2.gone drawn missing
    · exact ih reached later

end Delivers

/-! ## Calls that signal many fibers -/

/-- If every request to wake a fiber comes to its signal, all of them come to signals that are
delivered one after the other. -/
theorem Responsive.outcome_mapM {wake : FiberReference -> EngineAction MemoryStore Bool}
    {signal : FiberReference -> WakeSignal}
    (does : ∀ reference engine delivery,
      Sending.answer ⟨engine, signal reference⟩ = .ok delivery ->
        outcome (wake reference) engine =
          (.ok (delivery == .woken), Sending.after ⟨engine, signal reference⟩))
    (responsive : engine.Responsive) (references : List FiberReference)
    (stored : ∀ reference ∈ references,
      ∃ state, engine.store.states.get? (signal reference).owner = some state) :
    ∃ sendings last, engine.Delivers sendings last ∧
      sendings.map Sending.signal = references.map signal ∧
      outcome (references.mapM wake) engine =
        (.ok (sendings.map (fun sending => decide (sending.answer = .ok .woken))), last) := by
  induction references generalizing engine with
  | nil => exact ⟨[], engine, .done, rfl, rfl⟩
  | cons reference rest ih =>
    obtain ⟨state, present⟩ := stored reference List.mem_cons_self
    obtain ⟨delivery, answered⟩ :=
      @Sending.answered ⟨engine, signal reference⟩ responsive.sound responsive.supplied _ present
    have reached := @Sending.responsive ⟨engine, signal reference⟩ responsive
    obtain ⟨-, aged⟩ := (Sending.advances ⟨engine, signal reference⟩).aged responsive.sound
    obtain ⟨sendings, last, delivers, addressed, rests⟩ := ih reached (fun other listed => by
      obtain ⟨state, present⟩ := stored other (List.mem_cons_of_mem _ listed)
      exact aged.stays present)
    refine ⟨⟨engine, signal reference⟩ :: sendings, last, .next delivers,
      congrArg (signal reference :: ·) addressed, ?_⟩
    rw [List.mapM_cons, outcome_bind_ok (does _ _ _ answered), outcome_bind_ok rests, outcome_pure,
      List.map_cons, answered]
    cases delivery with
    | woken => rfl
    | discarded reason => simp

/-- What a call comes to that sends a signal to every fiber of a list: one after the other is
woken, unless it was ended by a signal that was delivered earlier in the call, and the number of
fibers woken is returned. -/
structure Sweeps (engine : Engine MemoryStore) (signals : List WakeSignal)
    (swept : Except EngineError Nat × Engine MemoryStore) (sendings : List Sending) : Prop where
  addressed : sendings.map Sending.signal = signals
  delivers : engine.Delivers sendings swept.2
  wakes : ∀ {earlier sending later}, sendings = earlier ++ sending :: later ->
    (sending.answer = .ok .woken ↔
      ∀ former ∈ earlier, ¬ former.Ends sending.signal.owner sending.signal.fiber)
  counts : swept.1 = .ok (sendings.countP (fun sending => sending.answer = .ok .woken))

/-- Signals for fibers that hear them sweep those fibers. -/
theorem Responsive.sweeps {wake : FiberReference -> EngineAction MemoryStore Bool}
    {payload : Option Json} {listed : List FiberReference}
    (does : ∀ (reference : FiberReference) (engine : Engine MemoryStore) (delivery : Delivery),
      Sending.answer ⟨engine, reference.signal kind payload⟩ = .ok delivery ->
        outcome (wake reference) engine =
          (.ok (delivery == .woken), Sending.after ⟨engine, reference.signal kind payload⟩))
    (responsive : engine.Responsive) (hears : ∀ reference ∈ listed, engine.Hears kind reference)
    (once : (listed.map (fun reference => (reference.owner, reference.fiber))).Nodup) :
    ∃ sendings, engine.Sweeps (listed.map (fun reference => reference.signal kind payload))
      (outcome (do
        let woken <- listed.mapM wake
        return woken.count true) engine) sendings := by
  obtain ⟨sendings, last, delivers, addressed, done⟩ :=
    responsive.outcome_mapM does listed (fun reference among => by
      obtain ⟨state, fiber, stored, -⟩ := hears reference among
      exact ⟨state, stored⟩)
  rw [outcome_bind_ok done, outcome_pure]
  refine ⟨sendings, addressed, delivers, fun {earlier sending later} parts => ?_, ?_⟩
  · subst parts
    obtain ⟨before, -⟩ := delivers.split
    have reached := before.responsive responsive
    -- The fiber of the signal is listed, and no signal before is for the same fiber.
    have sent : sending.signal ∈ listed.map (fun reference => reference.signal kind payload) := by
      rw [← addressed]
      exact List.mem_map_of_mem (List.mem_append_right _ List.mem_cons_self)
    obtain ⟨reference, among, same⟩ := List.mem_map.1 sent
    have named : sending.reference = reference := by
      rw [Sending.reference, ← same]
      rfl
    have asked : sending.signal.kind = kind := by
      rw [← same]
      rfl
    have alone : ((earlier ++ sending :: later).map (fun sending =>
        (sending.signal.owner, sending.signal.fiber))).Nodup := by
      have pairs := congrArg (List.map (fun signal : WakeSignal => (signal.owner, signal.fiber)))
        addressed
      rw [List.map_map, List.map_map] at pairs
      exact pairs ▸ once
    have others : ∀ former ∈ earlier, (sending.reference.owner, sending.reference.fiber) ≠
        (former.signal.owner, former.signal.fiber) := by
      intro former listed
      rw [List.Nodup, List.pairwise_map, List.pairwise_append] at alone
      exact (alone.2.2 former listed sending List.mem_cons_self).symm
    rw [sending.woken_iff reached.sound reached.supplied, asked]
    constructor
    · rintro ⟨state, fiber, stored, -, found, -⟩ former listed ends
      have gone := before.gone responsive.sound listed ends
      cases gone.symm.trans (fiber?_eq_some_iff.2 ⟨state, stored, found⟩)
    · intro spared
      refine (before.hears responsive (named ▸ hears reference among) others).resolve_right ?_
      rintro ⟨former, listed, ends⟩
      exact spared former listed ends
  · rw [List.count, List.countP_map]
    exact congrArg Except.ok (List.countP_congr (by simp))

/-! ## What is listed and what is woken -/

/-- The list holds the fibers of running instances that a signal of this kind to their present
epoch would wake, each of them once. -/
structure ListsWoken (engine : Engine MemoryStore) (kind : WakeKind)
    (listed : List FiberReference) : Prop where
  woken : ∀ reference flags payload, reference ∈ listed ↔ ∃ state fiber,
    engine.store.states.get? reference.owner = some state ∧ state.record.isRunning = true ∧
      state.fiber? reference.fiber = some fiber ∧ fiber.epoch = reference.epoch ∧
      Sending.answer ⟨engine,
        ⟨reference.owner, reference.fiber, reference.epoch, kind, flags, payload⟩⟩ = .ok .woken
  once : (listed.map (fun reference => (reference.owner, reference.fiber))).Nodup

/-- The fibers that are listed for a sweep are those that signals wake, and the sweep wakes them. -/
structure SweepsAgree (engine : Engine MemoryStore) : Prop where
  timers : engine.ListsWoken .timer (engine.store.dueTimers engine.now)
  messages : ∀ name correlation,
    engine.ListsWoken (.message name correlation) (engine.store.waiters name correlation)
  fires : ∃ sendings, engine.Sweeps
    ((engine.store.dueTimers engine.now).map (fun reference => reference.signal .timer none))
    (outcome fireTimers engine) sendings
  correlates : ∀ name correlation payload, ∃ sendings, engine.Sweeps
    ((engine.store.waiters name correlation).map (fun reference =>
      reference.signal (.message name correlation) payload))
    (outcome (correlate name correlation payload) engine) sendings

theorem Responsive.lists (responsive : engine.Responsive) {listed : List FiberReference}
    (hears : ∀ reference, reference ∈ listed ↔ engine.Hears kind reference)
    (once : (listed.map (fun reference => (reference.owner, reference.fiber))).Nodup) :
    engine.ListsWoken kind listed := by
  refine ⟨fun reference flags payload => ?_, once⟩
  have woken := @Sending.woken_iff ⟨engine,
    ⟨reference.owner, reference.fiber, reference.epoch, kind, flags, payload⟩⟩
    responsive.sound responsive.supplied
  rw [hears reference, woken]
  constructor
  · rintro ⟨state, fiber, stored, running, found, current, heard⟩
    exact ⟨state, fiber, stored, running, found, current, state, fiber, stored, running, found,
      current, heard⟩
  · rintro ⟨state, fiber, -, -, -, -, heard⟩
    exact heard

theorem Responsive.agrees (responsive : engine.Responsive) : engine.SweepsAgree := by
  have sound := responsive.sound
  have due : ((engine.store.dueTimers engine.now).map (fun reference =>
      (reference.owner, reference.fiber))).Nodup :=
    ((engine.store.dueTimers_perm engine.now).map _).nodup_iff.2 sound.nodup_references
  have waiting : ∀ name correlation, ((engine.store.waiters name correlation).map (fun reference =>
      (reference.owner, reference.fiber))).Nodup := by
    intro name correlation
    rw [MemoryStore.waiters_eq]
    exact sound.nodup_references
  refine ⟨responsive.lists (fun _ => sound.mem_dueTimers_iff) due,
    fun name correlation => responsive.lists (fun _ => sound.mem_waiters_iff) (waiting _ _),
    ?_, fun name correlation payload => ?_⟩
  · have asked := outcome_ask_read (fun store => store.dueTimers engine.now) engine
    rw [fireTimers, outcome_bind_ok (outcome_getThe engine),
      show ProcessStore.dueTimers engine.now = StoreAction.read
        (fun store : MemoryStore => .ok (store.dueTimers engine.now)) from rfl,
      outcome_bind_ok asked]
    refine responsive.sweeps (fun reference engine delivery answered => ?_)
      (fun reference => sound.mem_dueTimers_iff.1) due
    rw [outcome_attempted, outcome_wakes, answered]
    rfl
  · have asked := outcome_ask_read (fun store => store.waiters name correlation) engine
    rw [correlate, show ProcessStore.waiters name correlation = StoreAction.read
      (fun store : MemoryStore => .ok (store.waiters name correlation)) from rfl,
      outcome_bind_ok asked]
    refine responsive.sweeps (fun reference engine delivery answered => ?_)
      (fun reference => sound.mem_waiters_iff.1) (waiting _ _)
    rw [outcome_wakes, answered]
    rfl

theorem History.responsive {entries : List HistoryEntry} (history : History first entries last)
    (fresh : first.Fresh) : last.Responsive :=
  ⟨(history.orderly fresh).sound, (history.consistent fresh).ended, history.supplied fresh⟩

/-- At any time, the fibers that a store lists as due, or as waiting for a message, are those that
a signal would wake. To signal all of them wakes each one once, except for those that an earlier
signal has ended, and counts the ones it wakes. -/
theorem History.sweeps_agree {entries : List HistoryEntry} (history : History first entries last)
    (fresh : first.Fresh) (now : Instant) :
    SweepsAgree { last with now := now } := by
  have reached := history.step (.setClock now)
  exact (reached.responsive fresh).agrees

end Engine

/-! ## A host that is overdue -/

namespace OverdueRun

/-- A timer that is watched over by an earlier one, which ends it. -/
def program : Program where
  instructions := [.watch 0 500 true 3, .waitTimer 1000, .unwatch 0, .finish]
  symbols := { nodes := [⟨"late", Eq.refl true⟩] }
  hash := ⟨"f7a22dba95aec6833d053b11406b377d39ad095e4cab9e35e3772a3624f8c381", by decide +kernel⟩

def engine : Engine MemoryStore where
  store := {}
  now := default
  supply := ⟨0⟩

/-- Both timers are due in the end. -/
def operations : List EngineOperation :=
  [.install program, .start program.hash .null "c", .advance 1000]

end OverdueRun

/-- Two fibers are listed as due, and the first one that is woken ends the other one. -/
theorem Engine.sweeps_agree_of_overdue :
    let last := OverdueRun.engine.performAll OverdueRun.operations
    OverdueRun.engine.Fresh ∧
      ((last.store.dueTimers last.now).length, (outcome fireTimers last).1) = (2, .ok 1) ∧
      ∀ now, SweepsAgree { last with now := now } := by
  refine ⟨⟨rfl, rfl⟩, by decide +kernel, fun now => ?_⟩
  exact (History.of_operations OverdueRun.engine OverdueRun.operations).sweeps_agree ⟨rfl, rfl⟩ now

end ProcessEngine
