import ProcessEngine.Proofs.Bystanders

/-!
# Fibers that hear a signal

What a fiber waits for is looked at in two places: where a store lists the fibers whose timers are
due or that wait for a message (`MemoryStore.dueTimers`, `MemoryStore.waiters`), and where a signal
reaches its fiber (`Fiber.answer`). Both find the same fibers (`Engine.Sound.mem_dueTimers_iff`,
`Engine.Sound.mem_waiters_iff`), and no fiber is listed twice.
-/

namespace ProcessEngine

/-! ## Waits that have come to an end -/

section

variable {now first second : Instant} {instants : List Instant} {arms : List ArmWait}

theorem Instant.not_lt_iff : ¬ first < second ↔ second ≤ first := by
  change ¬ (first.second < second.second ∨ (first.second = second.second ∧
    first.nanosecond < second.nanosecond)) ↔ second.second < first.second ∨
      (second.second = first.second ∧ second.nanosecond ≤ first.nanosecond)
  omega

theorem Instant.le_of_lt (before : first < second) : first ≤ second := by
  change first.second < second.second ∨ (first.second = second.second ∧
    first.nanosecond < second.nanosecond) at before
  change first.second < second.second ∨ (first.second = second.second ∧
    first.nanosecond ≤ second.nanosecond)
  omega

theorem Instant.le_trans {third : Instant} (earlier : first ≤ second) (later : second ≤ third) :
    first ≤ third := by
  change first.second < second.second ∨ (first.second = second.second ∧
    first.nanosecond ≤ second.nanosecond) at earlier
  change second.second < third.second ∨ (second.second = third.second ∧
    second.nanosecond ≤ third.nanosecond) at later
  change first.second < third.second ∨ (first.second = third.second ∧
    first.nanosecond ≤ third.nanosecond)
  omega

/-- The earlier one of two instants has come if one of them has. -/
theorem Wait.earlier_le_iff : Wait.earlier first second ≤ now ↔ first ≤ now ∨ second ≤ now := by
  rw [Wait.earlier]
  split
  · rename_i before
    exact ⟨.inr, fun either => either.elim (Instant.le_trans (Instant.le_of_lt before)) id⟩
  · rename_i after
    exact ⟨.inl, fun either => either.elim id (Instant.le_trans (Instant.not_lt_iff.1 after))⟩

/-- The earliest of several instants has come if one of them has. -/
theorem Wait.earliest?_le_iff :
    (∃ due, Wait.earliest? instants = some due ∧ due ≤ now) ↔
      ∃ instant ∈ instants, instant ≤ now := by
  have folded : ∀ (rest : List Instant) (first : Instant),
      rest.foldl Wait.earlier first ≤ now ↔ ∃ instant ∈ first :: rest, instant ≤ now := by
    intro rest
    induction rest with
    | nil => simp
    | cons second rest ih =>
      intro first
      rw [List.foldl_cons, ih]
      simp only [List.exists_mem_cons_iff, Wait.earlier_le_iff, or_assoc]
  cases instants with
  | nil => simp [Wait.earliest?]
  | cons first rest => simpa [Wait.earliest?] using folded rest first

/-- Some arm of a race comes first if the timer of one is due. -/
theorem ArmWait.isSome_firstDue?_iff : (ArmWait.firstDue? now arms).isSome = true ↔
    ∃ arm ∈ arms, ∃ due, arm.due? = some due ∧ due ≤ now := by
  induction arms with
  | nil => simp [ArmWait.firstDue?]
  | cons arm rest ih =>
    rw [List.exists_mem_cons_iff, ← ih, ArmWait.firstDue?]
    cases arm.due? with
    | none => simp
    | some due =>
      dsimp only
      split
      · rename_i after
        have late : ¬ due ≤ now := fun come => Instant.not_lt_iff.2 come after
        simp [late]
      · rename_i come
        have come := Instant.not_lt_iff.1 come
        refine iff_of_true ?_ (.inl ⟨due, rfl, come⟩)
        split
        · rfl
        · split <;> rfl

end

namespace Fiber

variable {fiber later : Fiber} {now : Instant} {kind : WakeKind}

/-- A signal of this kind ends the wait of the fiber. -/
def Hears (fiber : Fiber) (now : Instant) (kind : WakeKind) : Prop :=
  ∃ how, fiber.answer now kind = .ok how

/-- A race hears what decides it. -/
theorem hears_race_iff {node : NodeKey} {arms : List ArmWait}
    (waits : fiber.wait = .race node arms) :
    fiber.Hears now kind ↔ (ArmWait.winner? arms now kind).isSome = true := by
  unfold Hears Fiber.answer
  rw [waits]
  dsimp only
  cases ArmWait.winner? arms now kind with
  | none => simp
  | some winner => simp

/-- A fiber hears the clock if its wait is over. -/
theorem hears_timer_iff : fiber.Hears now .timer ↔
    ∃ due, fiber.wait.due? = some due ∧ due ≤ now := by
  cases waits : fiber.wait with
  | timer due =>
    unfold Hears Fiber.answer
    rw [waits]
    dsimp only
    split
    · rename_i come
      exact iff_of_true ⟨_, rfl⟩ ⟨due, rfl, come⟩
    · rename_i late
      refine iff_of_false nofun ?_
      rintro ⟨_, ⟨⟩, come⟩
      exact late come
  | race node arms =>
    rw [hears_race_iff waits, ArmWait.winner?, Option.isSome_map, ArmWait.isSome_firstDue?_iff,
      Wait.due?, Wait.earliest?_le_iff]
    simp only [List.mem_filterMap]
    constructor
    · rintro ⟨arm, listed, due, times, come⟩
      exact ⟨due, ⟨arm, listed, times⟩, come⟩
    · rintro ⟨due, ⟨arm, listed, times⟩, come⟩
      exact ⟨arm, listed, due, times, come⟩
  | _ =>
    unfold Hears Fiber.answer
    rw [waits]
    exact iff_of_false nofun nofun

/-- A fiber hears a message if it waits for it. -/
theorem hears_message_iff {name correlation : String} :
    fiber.Hears now (.message name correlation) ↔ fiber.wait.awaits name correlation = true := by
  cases waits : fiber.wait with
  | message name' correlation' =>
    unfold Hears Fiber.answer
    rw [waits]
    simp only [Wait.awaits, Bool.and_eq_true, beq_iff_eq]
    split
    · rename_i same
      exact iff_of_true ⟨_, rfl⟩ same
    · rename_i different
      exact iff_of_false nofun different
  | race node arms =>
    rw [hears_race_iff waits, ArmWait.winner?, Option.isSome_map, List.find?_isSome, Wait.awaits,
      List.any_eq_true]
  | _ =>
    unfold Hears Fiber.answer
    rw [waits]
    exact iff_of_false nofun nofun

/-- Only a fiber that waits hears anything. -/
theorem Hears.waits (hears : fiber.Hears now kind) : fiber.wait ≠ .ready := by
  obtain ⟨how, answers⟩ := hears
  intro ready
  cases Fiber.answered answers with
  | fire waits watches => cases waits.symm.trans ready
  | timer waits free => cases waits.symm.trans ready
  | message waits => cases waits.symm.trans ready
  | human waits => cases waits.symm.trans ready
  | race waits leads => cases waits.symm.trans ready

/-- A fiber that stays as it is goes on hearing. -/
theorem Stays.hears (stays : fiber.Stays later) (hears : fiber.Hears now kind) :
    later.Hears now kind := by
  obtain ⟨watchdog, rfl⟩ := stays
  exact hears

end Fiber

/-! ## Lists of a store -/

/-- The references to the fibers of running instances that pass a test. -/
def MemoryStore.references (store : MemoryStore) (test : Fiber -> Bool) : List FiberReference :=
  store.runningStates.flatMap (fun state => (state.fibersInOrder.filter test).map Fiber.reference)

theorem MemoryStore.waiters_eq (store : MemoryStore) (name correlation : String) :
    store.waiters name correlation =
      store.references (fun fiber => fiber.wait.awaits name correlation) :=
  List.map_flatMap

/-- The references of the fibers whose waits are over, without the times. -/
theorem MemoryStore.map_dueFibers (now : Instant) (state : InstanceState) :
    (dueFibers now state).map (fun entry => entry.2.reference) =
      (state.fibersInOrder.filter (fun fiber => fiber.wait.due?.any (fun due => due ≤ now))).map
        Fiber.reference := by
  rw [dueFibers]
  induction state.fibersInOrder with
  | nil => rfl
  | cons fiber rest ih =>
    rw [List.filterMap_cons, List.filter_cons]
    cases fiber.wait.due? with
    | none => exact ih
    | some due =>
      by_cases come : due ≤ now
      · simpa [come] using ih
      · simpa [come] using ih

/-- But for their order, the fibers whose waits are over are listed. -/
theorem MemoryStore.dueTimers_perm (store : MemoryStore) (now : Instant) :
    (store.dueTimers now).Perm
      (store.references (fun fiber => fiber.wait.due?.any (fun due => due ≤ now))) := by
  have sorted : ∀ (due : List (Instant × Instant × Fiber)),
      (sortOn Prod.fst (sortOn (fun entry => entry.2.1)
        (sortOn (fun entry => entry.2.2.sequence) due))).Perm due :=
    fun due => (sortBy_perm _ _).trans ((sortBy_perm _ _).trans (sortBy_perm _ _))
  refine ((sorted _).map (fun entry => entry.2.2.reference)).trans (.of_eq ?_)
  simp only [List.map_flatMap, List.map_map, Function.comp_def, references, map_dueFibers]

namespace Engine

variable {engine : Engine MemoryStore} {test : Fiber -> Bool} {reference : FiberReference}

theorem mem_runningStates_iff (sound : engine.Sound) {state : InstanceState} :
    state ∈ engine.store.runningStates ↔
      engine.store.states.get? state.record.id = some state ∧ state.record.isRunning = true := by
  rw [MemoryStore.runningStates, mem_sortOn, List.mem_filter, OrderedMap.mem_values_iff]
  refine and_congr_left (fun _ => ⟨?_, fun stored => ⟨_, stored⟩⟩)
  rintro ⟨id, stored⟩
  rw [(sound id state stored).keyed]
  exact stored

theorem mem_fibersInOrder_iff {state : InstanceState} {id : InstanceId} {supply : Nat}
    (sound : state.Sound id supply) {fiber : Fiber} :
    fiber ∈ state.fibersInOrder ↔ state.fiber? fiber.id = some fiber := by
  rw [InstanceState.fibersInOrder, mem_sortOn, OrderedMap.mem_values_iff]
  refine ⟨?_, fun found => ⟨_, found⟩⟩
  rintro ⟨key, found⟩
  rw [sound.shaped.keyed found]
  exact found

/-- What is listed refers to the present epochs of fibers of running instances. -/
theorem Sound.mem_references_iff (sound : engine.Sound) :
    reference ∈ engine.store.references test ↔ ∃ state fiber,
      engine.store.states.get? reference.owner = some state ∧ state.record.isRunning = true ∧
        state.fiber? reference.fiber = some fiber ∧ fiber.epoch = reference.epoch ∧
        test fiber = true := by
  simp only [MemoryStore.references, List.mem_flatMap, List.mem_map, List.mem_filter]
  constructor
  · rintro ⟨state, listed, fiber, ⟨present, passes⟩, rfl⟩
    obtain ⟨stored, running⟩ := (mem_runningStates_iff sound).1 listed
    have begun := sound _ _ stored
    have found := (mem_fibersInOrder_iff begun).1 present
    refine ⟨state, fiber, ?_, running, found, rfl, passes⟩
    rw [Fiber.reference, begun.shaped.owned found]
    exact stored
  · rintro ⟨state, fiber, stored, running, found, current, passes⟩
    have begun := sound _ _ stored
    have keyed := begun.shaped.keyed found
    refine ⟨state, (mem_runningStates_iff sound).2 ⟨begun.keyed.symm ▸ stored, running⟩, fiber,
      ⟨(mem_fibersInOrder_iff begun).2 (keyed.symm ▸ found), passes⟩, ?_⟩
    rw [Fiber.reference, begun.shaped.owned found, keyed, current]

/-- No two running states are of the same instance. -/
theorem Sound.pairwise_runningStates (sound : engine.Sound) :
    engine.store.runningStates.Pairwise (fun left right => left.record.id ≠ right.record.id) := by
  have distinct := OrderedMap.pairwise_values engine.store.states
    (fun state => state.record.id) (fun id state stored => (sound id state stored).keyed)
  exact ((sortBy_perm _ _).pairwise_iff Ne.symm).2 (distinct.filter _)

/-- No fiber is listed twice. -/
theorem Sound.nodup_references (sound : engine.Sound) :
    ((engine.store.references test).map (fun reference =>
      (reference.owner, reference.fiber))).Nodup := by
  have begun : ∀ {state}, state ∈ engine.store.runningStates ->
      state.Sound state.record.id engine.supply.next :=
    fun listed => sound _ _ ((mem_runningStates_iff sound).1 listed).1
  rw [MemoryStore.references, List.map_flatMap, List.nodup_flatMap]
  constructor
  · intro state listed
    rw [List.map_map, List.Nodup, List.pairwise_map]
    have distinct := @UnitOfWork.pairwise_fibersInOrder (.begin state engine.now engine.supply)
      (begun listed).shaped.keyed
    refine (distinct.filter test).imp (fun other same => ?_)
    exact other (congrArg Prod.snd same)
  · refine sound.pairwise_runningStates.imp_of_mem (fun {left right} listed listed' other => ?_)
    have owners : ∀ {state pair}, state ∈ engine.store.runningStates ->
        pair ∈ ((state.fibersInOrder.filter test).map Fiber.reference).map
          (fun reference => (reference.owner, reference.fiber)) ->
        pair.1 = state.record.id := by
      intro state pair listed named
      obtain ⟨_, among, rfl⟩ := List.mem_map.1 named
      obtain ⟨fiber, passes, rfl⟩ := List.mem_map.1 among
      have found := (mem_fibersInOrder_iff (begun listed)).1 (List.mem_filter.1 passes).1
      exact (begun listed).shaped.owned found
    intro pair named named'
    exact other ((owners listed named).symm.trans (owners listed' named'))

/-- A fiber of a running instance, in its present epoch, hears a signal of this kind. -/
def Hears (engine : Engine MemoryStore) (kind : WakeKind) (reference : FiberReference) : Prop :=
  ∃ state fiber, engine.store.states.get? reference.owner = some state ∧
    state.record.isRunning = true ∧ state.fiber? reference.fiber = some fiber ∧
    fiber.epoch = reference.epoch ∧ fiber.Hears engine.now kind

/-- The fibers that are listed as due are those that hear the clock. -/
theorem Sound.mem_dueTimers_iff (sound : engine.Sound) :
    reference ∈ engine.store.dueTimers engine.now ↔ engine.Hears .timer reference := by
  rw [(engine.store.dueTimers_perm engine.now).mem_iff, sound.mem_references_iff]
  simp only [Hears, Fiber.hears_timer_iff, Option.any_eq_true, decide_eq_true_eq]

/-- The fibers that are listed as waiting for a message are those that hear it. -/
theorem Sound.mem_waiters_iff (sound : engine.Sound) {name correlation : String} :
    reference ∈ engine.store.waiters name correlation ↔
      engine.Hears (.message name correlation) reference := by
  rw [MemoryStore.waiters_eq, sound.mem_references_iff]
  simp only [Hears, Fiber.hears_message_iff]

end Engine

end ProcessEngine
