import ProcessEngine.Proofs.Companions

/-!
# Boundary timers after an answer

When a host is answered it goes on at the instruction that takes its watchdog away, but that
instruction is executed only when it is the host's turn, which may be in a later slice. Until then
the watchdog still watches, and its timer may remove a host whose result was applied. It can do so
just as long as the host has not gone on (`Engine.Fresh.pending_of_armed`). An error route, in
contrast, parts the two at once.
-/

namespace ProcessEngine

open UnitOfWork

namespace Engine

variable {engine first last after : Engine MemoryStore} {program : Program} {owner : InstanceId}
  {host : Fiber} {watchdog : FiberId} {state : InstanceState} {key : JobKey} {job : Job}

/-- The watchdog is stored and watches over its host, so it fires when its timer is due. -/
def Armed (engine : Engine MemoryStore) (owner : InstanceId) (watchdog : FiberId) : Prop :=
  ArmedAt (engine.fiber? owner) watchdog

/-- Only a watchdog that is armed fires. -/
theorem armed_of_fires (stored : engine.store.states.get? owner = some state) {signal : WakeSignal}
    {watch : Watch} (fires : (UnitOfWork.begin state engine.now engine.supply).resumption signal =
      .ok (.fire watch)) : engine.Armed owner signal.fiber := by
  obtain ⟨-, guard, found, -, answered⟩ := resumption_ok fires
  cases answered with
  | fire waits watches => exact ⟨guard, watch, (fiber?_of_stored stored ▸ found), watches⟩

/-- The wait of a host is answered: a result of its job is applied, or a signal wakes it. -/
inductive Answered (engine : Engine MemoryStore) (owner : InstanceId) (host : Fiber) :
    Engine MemoryStore -> Prop where
  | applied {key job completion after} (stored : engine.store.jobs.get? key = some job)
    (owned : job.owner = owner) (addressed : job.fiber = host.id)
    (performed : outcome (EngineOperation.complete key completion).perform engine =
      (.ok (.completion .applied), after)) : Answered engine owner host after
  | woken {signal} (owned : signal.owner = owner) (addressed : signal.fiber = host.id)
    (woken : Sending.answer ⟨engine, signal⟩ = .ok .woken) :
    Answered engine owner host (Sending.after ⟨engine, signal⟩)

/-- A failure of the job of a host takes an error route. -/
structure Rerouted (engine : Engine MemoryStore) (owner : InstanceId) (host : Fiber)
    (job : Job) (problem : JobFailure) (after : Engine MemoryStore) : Prop where
  stored : engine.store.jobs.get? job.key = some job
  owned : job.owner = owner
  addressed : job.fiber = host.id
  performed : ∃ code, outcome (EngineOperation.fail job.key problem).perform engine =
    (.ok (.failure (.routed code)), after)

/-! ## From an answer to the stored fibers -/

/-- What holds after a change, and what every step keeps, holds of the stored instance after the
transaction. -/
theorem Sheltered.transacted (sheltered : engine.Sheltered program) (checked : program.Checked)
    (shielded : program.Shielded) (stored : engine.store.states.get? owner = some state)
    (own : state.record.program = program.hash) {purpose : Purpose} {Result : Type}
    {change : Change Result} {result : Result}
    (intended : Intervention engine.store engine.config owner purpose change)
    (transacted : Transacted engine owner change (.ok result, after))
    {Holds : (FiberId -> Option Fiber) -> Prop} (endures : Endures program watchdog Holds)
    (drawn : watchdog.number < engine.supply.next)
    (holds : ∀ changed, change program (.begin state engine.now engine.supply) =
      .ok (result, changed) -> Holds changed.fiber?) : Holds (after.fiber? owner) := by
  have sound := sheltered.orderly.sound
  have reached : ∀ {report work programs state' program'},
      Sliced engine owner change result report work programs state' program' ->
        (engine.Storable work ∧ work.record.id = owner) ∧ Holds work.fiber? := by
    intro report work programs state' program' sliced
    cases stored.symm.trans sliced.stored
    obtain ⟨changed, parts⟩ := slice_parts sliced.done
    have intervened := intended.intervened parts.made
    obtain rfl := sheltered.sole _ (offers_of_load sliced.loaded).1
      ((intervened.continues.program.symm.trans parts.own).symm.trans own)
    have ran := parts.ran (intervened.shapely (shapely_begin (sound _ _ stored)))
    refine ⟨storable_slice sound stored intervened ran, ?_⟩
    obtain ⟨steps, rfl⟩ := parts.took
    exact ((sheltered.slice checked shielded stored own intervened steps).2 endures drawn).2
      (holds changed parts.made)
  cases transacted with
  | idle sliced empty store =>
    obtain ⟨⟨storable, named⟩, holds⟩ := reached sliced
    have notes := storable.notes
    rw [named, stored] at notes
    rw [fiber?_of_stored (store ▸ stored)]
    rw [show state.fiber? = UnitOfWork.fiber? _ from
      funext (fun asked => (Notes.fiber?_of_isEmpty notes empty asked).symm)]
    exact holds
  | committed sliced store =>
    obtain ⟨⟨storable, named⟩, holds⟩ := reached sliced
    rename_i work _ _ _
    have still : after.store.states.get? owner = some work.finish.2 := by
      rw [store, storable.states_apply, if_pos named.symm]
    rw [fiber?_of_stored still]
    exact holds

/-- To lock an instance changes nothing that is stored. -/
theorem Sheltered.locked (sheltered : engine.Sheltered program) (checked : program.Checked)
    (shielded : program.Shielded) (id : InstanceId) :
    Sheltered { engine with locks := engine.locks.insert id } program := by
  have rests : Advance (.identifying program) engine
      { engine with locks := engine.locks.insert id } :=
    .rest rfl (Nat.le_refl _) (fun _ _ found => .inl found)
  exact rests.sheltered checked shielded (fun _ unique => unique) sheltered

end Engine

namespace UnitOfWork

variable {work changed : UnitOfWork} {program : Program} {host : Fiber} {watchdog : FiberId}
  {incidents : OrderedMap IncidentId Incident} {job : Job}

/-- A host whose job is done goes on at the next instruction. -/
theorem wakes_of_complete (found : work.fiber? host.id = some host) (addressed : job.fiber = host.id)
    {completion : JobCompletion}
    (made : job.complete completion program work = .ok (.applied, changed)) :
    host.wait.Asks ∧ changed.fiber? host.id = some (host.wake (host.pc + 1)) := by
  rcases Job.complete_cases made with ⟨fiber, wanted, -, rfl⟩ | ⟨-, answer, -⟩
  · have found' := wanted.found
    rw [addressed] at found'
    cases found.symm.trans found'
    refine ⟨wanted.waits ▸ .job, ?_⟩
    rw [Job.applied, fiber?_wake, if_pos addressed.symm, fiber?_updateRecord]
    exact congrArg (Option.map _) found
  · cases answer

/-- So does a host that is woken by a signal. -/
theorem wakes_of_signal (guarded : WellGuarded program incidents work.fiber?)
    (found : work.fiber? host.id = some host) (knows : host.watchdog ≠ none) {signal : WakeSignal}
    (addressed : signal.fiber = host.id)
    (made : signal.change program work = .ok (.woken, changed)) :
    host.wait.Asks ∧ changed.fiber? host.id = some (host.wake (host.pc + 1)) := by
  have protects := guarded.protects found knows
  rw [WakeSignal.change] at made
  split at made
  · cases answered : work.resumption signal with
    | error reason =>
      rw [deliver, answered] at made
      cases made
    | ok how =>
      obtain ⟨-, fiber, found', -, answers⟩ := resumption_ok answered
      rw [addressed] at found'
      cases found.symm.trans found'
      have goesOn : host.wait.Asks ∧ how = .goOn (host.pc + 1) := by
        cases answers with
        | fire waits _ => exact absurd waits (protects.ne_timer _)
        | timer waits _ => exact absurd waits (protects.ne_timer _)
        | message waits => exact ⟨waits ▸ .message, rfl⟩
        | human waits => exact ⟨waits ▸ .human, rfl⟩
        | race waits _ =>
          rw [waits] at protects
          cases protects with
          | asking asks => cases asks
      obtain ⟨asks, rfl⟩ := goesOn
      refine ⟨asks, ?_⟩
      rw [deliver, answered] at made
      cases made
      rw [resume, fiber?_wake, if_pos addressed.symm, fiber?_updateRecord, found]
      rfl
  · cases made

/-- A host that takes an error route has no watchdog any more. -/
theorem gone_of_fail (shapely : work.Shapely) (found : work.fiber? host.id = some host)
    (knows : host.watchdog = some watchdog) (addressed : job.fiber = host.id)
    {problem : JobFailure} {config : EngineConfig} {code : String}
    (made : job.fail problem config program work = .ok (.routed code, changed)) :
    changed.fiber? watchdog = none := by
  rcases Job.fail_cases made with ⟨fiber, wanted, failed⟩ | ⟨-, answer, -⟩
  · have found' := wanted.found
    rw [addressed] at found'
    cases found.symm.trans found'
    cases failed with
    | route message leads =>
      have other : watchdog ≠ job.fiber := by
        rintro rfl
        exact WellFormed.unguarded shapely found (addressed ▸ knows)
      rw [Job.routed, fiber?_wake, if_neg other, fiber?_dropWatchdog, if_pos knows]
  · cases answer

end UnitOfWork

namespace Engine

variable {engine first last after : Engine MemoryStore} {program : Program} {owner : InstanceId}
  {host : Fiber} {watchdog : FiberId} {state : InstanceState} {job : Job}

theorem Answered.advances (answered : engine.Answered owner host after) :
    Advances (.identifying program) engine after := by
  cases answered with
  | @applied key job completion after stored owned addressed performed =>
    have reached := (EngineOperation.complete key completion).advances engine
    rw [performed] at reached
    exact reached.widen (fun _ _ => trivial) (fun _ => False.elim)
  | @woken signal owned addressed woken => exact follows_signal trivial signal engine

/-- After an answer the host stands where it takes its watchdog away, as long as the watchdog is
armed. -/
theorem Answered.lingers (answered : engine.Answered owner host after)
    (sheltered : engine.Sheltered program) (checked : program.Checked)
    (shielded : program.Shielded) (stored : engine.store.states.get? owner = some state)
    (own : state.record.program = program.hash) (found : state.fiber? host.id = some host)
    (knows : host.watchdog = some watchdog) :
    program.Unwatches (host.pc + 1) ∧
      Lingers (after.fiber? owner) (host.wake (host.pc + 1)) watchdog := by
  have orderly := sheltered.orderly
  have guarded := sheltered.guarded _ _ stored own
  have drawn : watchdog.number < engine.supply.next :=
    (orderly.sound _ _ stored).shaped.taken found knows
  have knows' : host.watchdog ≠ none := by simp [knows]
  have begun : (UnitOfWork.begin state engine.now engine.supply).fiber? host.id = some host := found
  have endures : Endures program watchdog (fun fibers => program.Unwatches (host.pc + 1) ∧
      Lingers fibers (host.wake (host.pc + 1)) watchdog) :=
    @endures_lingers program _ (host.wake (host.pc + 1)) knows rfl
  have pends {changed : UnitOfWork}
      (goesOn : host.wait.Asks ∧ changed.fiber? host.id = some (host.wake (host.pc + 1))) :
      program.Unwatches (host.pc + 1) ∧
        Lingers changed.fiber? (host.wake (host.pc + 1)) watchdog :=
    ⟨((guarded.protects found knows').next goesOn.1).1, fun _ => goesOn.2⟩
  have locked := sheltered.locked checked shielded owner
  cases answered with
  | @applied key job completion after present owned addressed performed =>
    subst owned
    obtain rfl := orderly.filed.keyed present
    rw [show (EngineOperation.complete job.key completion).perform =
      EngineReply.completion <$> Engine.complete job.key completion from rfl, outcome_map]
      at performed
    cases recorded : engine.store.completions.get? job.key with
    | some record =>
      rw [outcome_complete_of_recorded present recorded completion] at performed
      cases performed
    | none =>
      have intended : Intervention engine.store engine.config job.owner (.complete job.key)
          (job.complete completion) := .complete present rfl recorded completion
      have transacted := transacted_withJob locked.orderly.sound
        (fun job => job.complete completion) present intended
      rw [outcome_complete_of_first present recorded completion] at performed
      generalize outcome _ _ = reached at transacted performed
      obtain ⟨answer, last⟩ := reached
      cases answer with
      | error error => cases performed
      | ok outcome =>
        cases performed
        exact locked.transacted checked shielded stored own intended transacted endures drawn
          (fun changed made => pends (wakes_of_complete begun addressed made))
  | @woken signal owned addressed woken =>
    subst owned
    have transacted := @Sending.transacted ⟨engine, signal⟩ orderly.sound
    rw [woken] at transacted
    exact locked.transacted checked shielded stored own (.signal rfl) transacted endures drawn
      (fun changed made => pends (wakes_of_signal guarded begun knows' addressed made))

theorem Rerouted.advances {problem : JobFailure}
    (rerouted : engine.Rerouted owner host job problem after) :
    Advances (.identifying program) engine after := by
  obtain ⟨code, performed⟩ := rerouted.performed
  have reached := (EngineOperation.fail job.key problem).advances engine
  rw [performed] at reached
  exact reached.widen (fun _ _ => trivial) (fun _ => False.elim)

/-- An error route parts a host and its watchdog at once. -/
theorem Rerouted.disarmed {problem : JobFailure}
    (rerouted : engine.Rerouted owner host job problem after)
    (sheltered : engine.Sheltered program) (checked : program.Checked)
    (shielded : program.Shielded) (stored : engine.store.states.get? owner = some state)
    (own : state.record.program = program.hash) (found : state.fiber? host.id = some host)
    (knows : host.watchdog = some watchdog) : ¬ after.Armed owner watchdog := by
  have orderly := sheltered.orderly
  have drawn : watchdog.number < engine.supply.next :=
    (orderly.sound _ _ stored).shaped.taken found knows
  have begun : (UnitOfWork.begin state engine.now engine.supply).fiber? host.id = some host := found
  have shapely := @shapely_begin _ _ engine.now _ (orderly.sound _ _ stored)
  have locked := sheltered.locked checked shielded owner
  obtain ⟨present, rfl, addressed, code, performed⟩ := rerouted
  rw [show (EngineOperation.fail job.key problem).perform =
    EngineReply.failure <$> Engine.fail job.key problem from rfl, outcome_map] at performed
  cases recorded : engine.store.completions.get? job.key with
  | some record =>
    rw [fail, outcome_bind, outcome_jobOf, present] at performed
    simp only [Option.elim] at performed
    rw [outcome_bind, outcome_isCompleted, recorded] at performed
    cases performed
  | none =>
    have intended : Intervention engine.store engine.config job.owner (.fail job.key)
        (job.fail problem engine.config) := .fail present rfl recorded problem
    have transacted := transacted_withJob locked.orderly.sound
      (fun job => job.fail problem engine.config) present intended
    rw [outcome_fail_of_first present recorded problem] at performed
    generalize outcome _ _ = reached at transacted performed
    obtain ⟨answer, last⟩ := reached
    cases answer with
    | error error => cases performed
    | ok outcome =>
      cases performed
      refine locked.transacted checked shielded stored own intended transacted
        (endures_disarmed program watchdog) drawn (fun changed made => ?_)
      rintro ⟨guard, watch, still, -⟩
      cases (gone_of_fail shapely begun knows addressed made).symm.trans still

/-- After the answer to a host of a compiled process, its watchdog is armed at most as long as the
host stands where the answer left it, at the instruction that takes the watchdog away. After an
error route the watchdog is never armed, and one that is not armed any more never is again. -/
theorem Fresh.pending_of_armed (fresh : first.Fresh) {graph : ProcessGraph}
    (compiled : graph.compile = .ok program)
    (advances : Advances (.identifying program) first engine)
    (stored : engine.store.states.get? owner = some state)
    (own : state.record.program = program.hash) (found : state.fiber? host.id = some host)
    (knows : host.watchdog = some watchdog) :
    (∀ after, engine.Answered owner host after ->
      ∀ last, Advances (.identifying program) after last -> last.Armed owner watchdog ->
        last.fiber? owner host.id = some (host.wake (host.pc + 1)) ∧
          program.Unwatches (host.pc + 1)) ∧
    (∀ job problem after, engine.Rerouted owner host job problem after ->
      ∀ last, Advances (.identifying program) after last -> ¬ last.Armed owner watchdog) ∧
    ∀ last, Advances (.identifying program) engine last -> ¬ last.Armed owner watchdog ->
      ∀ later, Advances (.identifying program) last later -> ¬ later.Armed owner watchdog := by
  have checked := ProcessGraph.checked_of_compile compiled
  have shielded := ProcessGraph.shielded_of_compile compiled
  have sheltered := advances.sheltered checked shielded (fresh.sheltered program)
  have drawn := (sheltered.orderly.sound _ _ stored).shaped.taken found knows
  have tracked : ∀ {last}, Advances (.identifying program) engine last ->
      last.Sheltered program ∧ ∀ {Holds}, Holds (last.fiber? owner) ->
        last.Tracks program owner watchdog Holds := by
    intro last reaches
    have begun : engine.Tracks program owner watchdog (fun _ => True) :=
      ⟨⟨state, stored, own⟩, drawn, trivial⟩
    obtain ⟨still, drawn, -⟩ :=
      reaches.tracks checked shielded sheltered (fun _ _ holds => holds) begun
    exact ⟨reaches.sheltered checked shielded sheltered, fun holds => ⟨still, drawn, holds⟩⟩
  have never : ∀ last, Advances (.identifying program) engine last -> ¬ last.Armed owner watchdog ->
      ∀ later, Advances (.identifying program) last later -> ¬ later.Armed owner watchdog := by
    intro last reaches disarmed later rest
    obtain ⟨sheltered, tracks⟩ := tracked reaches
    exact (rest.tracks checked shielded sheltered (endures_disarmed program watchdog)
      (tracks disarmed)).holds
  refine ⟨fun after answered last rest armed => ?_, fun job problem after rerouted last rest => ?_,
    never⟩
  · obtain ⟨sheltered', tracks⟩ := tracked answered.advances
    obtain ⟨unwatches, lingers⟩ := (rest.tracks checked shielded sheltered'
      (@endures_lingers program _ (host.wake (host.pc + 1)) knows rfl)
      (tracks (answered.lingers sheltered checked shielded stored own found knows))).holds
    exact ⟨lingers armed, unwatches⟩
  · exact never after rerouted.advances
      (rerouted.disarmed sheltered checked shielded stored own found knows) last rest

end Engine

open Engine in
/-- Once the approval is given, its timer fires at most until the watchdog is taken away. -/
theorem pending_of_lateApproval : ∃ program state host,
    LateApproval.graph.compile = .ok program ∧
    (LateApproval.engine.performAll
      [.deploy LateApproval.graph, .start program.hash .null ""]).store.states.get? ⟨0⟩ =
        some state ∧
    state.fiber? host.id = some host ∧ host.watchdog = some ⟨2⟩ ∧
    ∀ after, (LateApproval.engine.performAll
        [.deploy LateApproval.graph, .start program.hash .null ""]).Answered ⟨0⟩ host after ->
      ∀ last, Advances (.identifying program) after last -> last.Armed ⟨0⟩ ⟨2⟩ ->
        last.fiber? ⟨0⟩ host.id = some (host.wake (host.pc + 1)) ∧
          program.Unwatches (host.pc + 1) := by
  obtain ⟨program, state, host, compiled, advances, stored, own, found, knows⟩ :=
    LateApproval.watched
  have checked := ProcessGraph.checked_of_compile compiled
  have shielded := ProcessGraph.shielded_of_compile compiled
  have sheltered := advances.sheltered checked shielded (Fresh.sheltered ⟨rfl, rfl⟩ program)
  have named : host.id = ⟨1⟩ := (sheltered.orderly.sound _ _ stored).shaped.keyed found
  rw [← named] at found
  exact ⟨program, state, host, compiled, stored, found, knows,
    (Fresh.pending_of_armed ⟨rfl, rfl⟩ compiled advances stored own found knows).1⟩

end ProcessEngine
