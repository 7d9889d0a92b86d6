import ProcessEngine.Proofs.JobAgreement
import ProcessEngine.Proofs.Logs
import ProcessEngine.Proofs.Narration
import ProcessEngine.Proofs.Stranding

/-!
# Instances that have ended stay ended

The log of an instance says that it has ended exactly if it has, and how (`Concludes`). Signals,
results, resolutions and dead letters may still arrive, and some of them are stored, but nothing
becomes of the instance any more (`Engine.History.finality`).
-/

namespace ProcessEngine

/-- Whether only an instance that runs has the event. -/
def RuntimeEvent.isVital : RuntimeEvent -> Bool
  | .fiberSpawned _ _ _ => true
  | .fiberResumed _ _ => true
  | .jobDispatched _ _ => true
  | event => event.ending?.isSome

/-- What a log says about the status of its instance: it goes on, or there is one event that has
ended it, with nothing vital after it. -/
inductive TellsStatus (events : List RuntimeEvent) : InstanceStatus -> Prop where
  | running (lasting : ∀ event ∈ events, event.ending? = none) : TellsStatus events .running
  | ended {before final after status} (same : events = before ++ final :: after)
      (lasting : ∀ event ∈ before, event.ending? = none) (ends : final.ending? = some status)
      (idle : ∀ event ∈ after, event.isVital = false) : TellsStatus events status

/-- The state is the same as before, apart from its version and when it was last changed. -/
def InstanceState.Keeps (state later : InstanceState) : Prop :=
  ∃ version time, later = { state with record :=
    { state.record with version := version, updatedAt := time } }

namespace RuntimeEvent

/-- An event that is not vital does not end its instance. -/
theorem lasting_of_idle {event : RuntimeEvent} (idle : event.isVital = false) :
    event.ending? = none := by
  cases event with
  | instanceCompleted | instanceTerminated _ | instanceCancelled _ => cases idle
  | _ => rfl

end RuntimeEvent

namespace TellsStatus

variable {events added : List RuntimeEvent} {status : InstanceStatus}

/-- A log tells of one end at most, and of one exactly if the instance has ended so. -/
theorem endings (tells : TellsStatus events status) :
    events.filterMap RuntimeEvent.ending? = if status = .running then [] else [status] := by
  have none : ∀ {events : List RuntimeEvent}, (∀ event ∈ events, event.ending? = none) ->
      events.filterMap RuntimeEvent.ending? = [] := List.filterMap_eq_nil_iff.2
  cases tells with
  | running lasting => exact none lasting
  | ended same lasting ends idle =>
    rw [same, List.filterMap_append, none lasting, List.filterMap_cons_some ends,
      none (fun event listed => RuntimeEvent.lasting_of_idle (idle event listed)),
      if_neg (RuntimeEvent.ending_ne_running ends)]
    rfl

/-- After an event that ends an instance comes nothing vital. -/
theorem idle_after (tells : TellsStatus events status) {before after : List RuntimeEvent}
    {final : RuntimeEvent} (same : events = before ++ final :: after)
    (ends : final.ending?.isSome) : ∀ event ∈ after, event.isVital = false := by
  have unlisted : ∀ {others : List RuntimeEvent}, (∀ event ∈ others, event.ending? = none) ->
      final ∉ others := by
    intro others lasting listed
    rw [lasting final listed] at ends
    cases ends
  cases tells with
  | running lasting =>
    subst same
    exact absurd List.mem_append_cons_self (unlisted lasting)
  | @ended earlier last rest _ same' lasting ends' idle =>
    rw [same'] at same
    rcases List.append_eq_append_iff.1 same with ⟨between, rfl, parts⟩ | ⟨between, rfl, parts⟩
    · cases between with
      | nil =>
        cases parts
        exact idle
      | cons event between =>
        cases parts
        refine absurd ?_ (unlisted (fun event listed => RuntimeEvent.lasting_of_idle
          (idle event listed)))
        simp
    · cases between with
      | nil =>
        cases parts
        exact idle
      | cons event between =>
        cases parts
        exact absurd (by simp) (unlisted lasting)

/-- An instance that goes on adds events that do not end it. -/
theorem lasts (tells : TellsStatus events .running)
    (lasting : ∀ event ∈ added, event.ending? = none) :
    TellsStatus (events ++ added) .running := by
  cases tells with
  | running before =>
    exact .running (fun event listed => (List.mem_append.1 listed).elim (before event)
      (lasting event))
  | ended same before ends idle => exact absurd rfl (RuntimeEvent.ending_ne_running ends)

/-- The last event of an instance that runs may end it. -/
theorem ends (tells : TellsStatus events .running) {final : RuntimeEvent}
    (ends : final.ending? = some status) : TellsStatus (events ++ [final]) status := by
  cases tells with
  | running before => exact .ended rfl before ends nofun
  | ended same before ends idle => exact absurd rfl (RuntimeEvent.ending_ne_running ends)

/-- After its end an instance may have events that are not vital. -/
theorem lingers (tells : TellsStatus events status) (stopped : status ≠ .running)
    (idle : ∀ event ∈ added, event.isVital = false) : TellsStatus (events ++ added) status := by
  cases tells with
  | running before => exact absurd rfl stopped
  | ended same before ends idle' =>
    refine .ended ?_ before ends (fun event listed => (List.mem_append.1 listed).elim (idle' event)
      (idle event))
    rw [same, List.append_assoc, List.cons_append]

end TellsStatus

namespace UnitOfWork

variable {work changed next : UnitOfWork} {program : Program} {log : List RuntimeEvent}

/-- Nothing has become of the instance, and no vital event was added. -/
def Lingers (work next : UnitOfWork) : Prop :=
  next.state = work.state ∧
    ∃ events, next.events = work.events ++ events ∧ ∀ event ∈ events, event.isVital = false

/-- The status that a log tells follows the work on an instance that runs. -/
theorem Concludes.tellsStatus (concludes : work.Concludes next)
    (running : work.record.isRunning = true)
    (tells : TellsStatus (log ++ work.events) work.record.status) :
    TellsStatus (log ++ next.events) next.record.status := by
  have runs : work.record.status = .running := eq_of_beq running
  rw [runs] at tells
  have goesOn : ∀ {reached : UnitOfWork}, work.Lasts reached ->
      TellsStatus (log ++ reached.events) .running := by
    intro reached lasts
    obtain ⟨events, added, -, lasting⟩ := lasts
    rw [added, ← List.append_assoc]
    exact tells.lasts lasting
  rcases concludes with lasts | ⟨middle, status, event, lasts, -, ends, rfl⟩
  · rw [lasts.status, runs]
    exact goesOn lasts
  · have ended := (goesOn lasts).ends ends
    rw [List.append_assoc] at ended
    exact ended

end UnitOfWork

open UnitOfWork

variable {work changed : UnitOfWork} {program : Program}

/-- Whatever is done about an instance that has ended, nothing becomes of it. -/
theorem Intervened.lingers {store : MemoryStore} {id : InstanceId} {purpose : Purpose}
    (intervened : Intervened store id program work purpose changed)
    (stopped : work.record.isRunning = false) (ended : work.Ended) : work.Lingers changed := by
  have runs : work.record.isRunning ≠ true := by simp [stopped]
  have vacant : ∀ {id fiber}, work.fiber? id ≠ some fiber := by simp [ended stopped _]
  cases intervened with
  | run | dismiss | discard => exact ⟨rfl, [], (List.append_nil _).symm, nofun⟩
  | cancel running closes => exact absurd running runs
  | complete stored owned first wanted completion => exact absurd wanted.found vacant
  | record stored owned first unwanted completion => exact ⟨rfl, [_], rfl, by simp; rfl⟩
  | fail stored owned wanted failed => exact absurd wanted.found vacant
  | deliver running signal => exact absurd running runs
  | restart stored settles running alone owned closed => exact absurd running runs
  | settle stored settles owned closed => exact ⟨rfl, [_], rfl, by simp; rfl⟩
  | requeue stored owned running found waits settles => exact absurd running runs
  | abandon stored owned => exact ⟨rfl, [_], rfl, by simp; rfl⟩

/-- The log of a slice goes on telling the status. -/
theorem Intervened.tellsStatus {store : MemoryStore} {id : InstanceId} {purpose : Purpose}
    {state : InstanceState} {now : Instant} {supply : IdSupply} {log : List RuntimeEvent}
    (intervened : Intervened store id program (.begin state now supply) purpose changed)
    (ran : Ran program changed work) (ended : (UnitOfWork.begin state now supply).Ended)
    (tells : TellsStatus log state.record.status) :
    TellsStatus (log ++ work.events) work.record.status := by
  cases running : state.record.isRunning with
  | true =>
    refine (intervened.concludes.trans_ran ran).tellsStatus running ?_
    exact (List.append_nil log).symm ▸ tells
  | false =>
    obtain ⟨kept, events, added, idle⟩ := intervened.lingers running ended
    have same : changed.record = state.record := congrArg InstanceState.record kept
    obtain rfl := ran.of_stopped (same ▸ running)
    rw [same, added]
    exact tells.lingers (beq_eq_false_iff_ne.1 running) idle

namespace Engine

variable {engine next first middle last : Engine MemoryStore} {scope : Scope}
  {entries later : List HistoryEntry} {id : InstanceId} {state : InstanceState}

/-- The log of every stored instance tells the status of the instance. -/
def TellsStatuses (engine : Engine MemoryStore) : Prop :=
  ∀ id state, engine.store.states.get? id = some state ->
    TellsStatus (engine.store.eventsOf id) state.record.status

theorem Fresh.tellsStatuses (fresh : engine.Fresh) : engine.TellsStatuses := by
  intro id state stored
  rw [fresh.store] at stored
  cases stored

/-- Nothing becomes of an instance that has ended, and no vital event is added to its log. -/
theorem Advance.lingers (advance : Advance scope engine next) (sound : engine.Sound)
    (ended : engine.Ended) (stored : engine.store.states.get? id = some state)
    (stopped : state.record.isRunning = false) :
    ∃ state' events, next.store.states.get? id = some state' ∧ state.Keeps state' ∧
      next.store.eventsOf id = engine.store.eventsOf id ++ events ∧
      ∀ event ∈ events, event.isVital = false := by
  have same : state.Keeps state := ⟨state.record.version, state.record.updatedAt, rfl⟩
  cases advance.act sound with
  | nothing untouched =>
    refine ⟨state, [], untouched.states ▸ stored, same, ?_, nofun⟩
    rw [untouched.eventsOf, List.append_nil]
  | create known absent ran store supply took =>
    rename_i work
    have other : id ≠ work.record.id := by
      rintro rfl
      rw [show work.record.id = ⟨engine.supply.next⟩ from ran.confined.id] at stored
      cases absent.symm.trans stored
    refine ⟨state, [], ?_, same, ?_, nofun⟩
    · rw [store, (storable_create absent ran).states_apply, if_neg other]
      exact stored
    · rw [store, eventsOf_apply_finish, if_neg other]
  | slice known present own admitted intervened ran store supply took =>
    rename_i changedId purpose former program changed work
    obtain ⟨storable, keyed⟩ := storable_slice sound present intervened ran
    rw [store, storable.states_apply, eventsOf_apply_finish, keyed]
    by_cases equal : id = changedId
    · subst equal
      cases stored.symm.trans present
      rw [if_pos rfl, if_pos rfl]
      obtain ⟨kept, events, added, idle⟩ := intervened.lingers stopped (ended _ _ stored)
      have stopped' : changed.record.isRunning = false := by
        rw [UnitOfWork.record, kept]
        exact stopped
      obtain rfl := ran.of_stopped stopped'
      refine ⟨_, events, rfl, ⟨work.nextVersion, work.time, ?_⟩, ?_, idle⟩
      · change InstanceState.mk _ work.state.fibers work.state.barriers = _
        rw [UnitOfWork.finalRecord, UnitOfWork.record, kept]
        rfl
      · exact congrArg _ added
    · rw [if_neg equal, if_neg equal]
      exact ⟨state, [], stored, same, rfl, nofun⟩

/-- Logs go on telling the status. -/
theorem Advance.tellsStatuses (advance : Advance scope engine next) (sound : engine.Sound)
    (ended : engine.Ended) (logged : engine.Logged) (tells : engine.TellsStatuses) :
    next.TellsStatuses := by
  intro id state stored
  cases advance.act sound with
  | nothing untouched =>
    rw [untouched.eventsOf]
    exact tells id state (untouched.states ▸ stored)
  | create known absent ran store supply took =>
    rename_i payload correlation program work
    rw [store, (storable_create absent ran).states_apply] at stored
    rw [store, eventsOf_apply_finish]
    split at stored
    · rename_i equal
      cases stored
      have empty : engine.store.eventsOf id = [] := by
        rw [equal, show work.record.id = ⟨engine.supply.next⟩ from ran.confined.id,
          MemoryStore.eventsOf, logged.absent _ absent]
        rfl
      rw [if_pos equal, empty]
      refine ran.concludes.tellsStatus rfl (.running ?_)
      intro event listed
      have listed : event ∈ [RuntimeEvent.instanceStarted program.hash correlation,
        RuntimeEvent.fiberSpawned ⟨engine.supply.next + 1⟩ none 0] := listed
      rcases List.mem_pair.1 listed with rfl | rfl <;> rfl
    · rename_i different
      rw [if_neg different, List.append_nil]
      exact tells id state stored
  | slice known present own admitted intervened ran store supply took =>
    rename_i changedId purpose former program changed work
    obtain ⟨storable, keyed⟩ := storable_slice sound present intervened ran
    rw [store, storable.states_apply] at stored
    rw [store, eventsOf_apply_finish]
    split at stored
    · rename_i equal
      cases stored
      rw [if_pos equal, equal, keyed]
      exact intervened.tellsStatus ran (ended _ _ present) (tells _ _ present)
    · rename_i different
      rw [if_neg different, List.append_nil]
      exact tells id state stored

/-- Everything that the engine keeps about instances that have ended. -/
structure Final (engine : Engine MemoryStore) : Prop where
  consistent : engine.Consistent
  logged : engine.Logged
  tells : engine.TellsStatuses

theorem Advance.finals (advance : Advance scope engine next) (final : engine.Final) :
    next.Final :=
  have sound := final.consistent.orderly.sound
  ⟨advance.consistent final.consistent, advance.logged sound final.logged,
    advance.tellsStatuses sound final.consistent.ended final.logged final.tells⟩

/-- An instance that has ended stays as it is, whatever else the engine is asked. -/
theorem History.lingers (history : History first entries last) (final : first.Final)
    (stored : first.store.states.get? id = some state) (stopped : state.record.isRunning = false) :
    last.Final ∧ ∃ state' events, last.store.states.get? id = some state' ∧ state.Keeps state' ∧
      last.store.eventsOf id = first.store.eventsOf id ++ events ∧
      ∀ event ∈ events, event.isVital = false := by
  have step : ∀ scope engine next, Advance scope engine next ->
      (engine.Final ∧ ∃ state' events, engine.store.states.get? id = some state' ∧
        state.Keeps state' ∧ engine.store.eventsOf id = first.store.eventsOf id ++ events ∧
        ∀ event ∈ events, event.isVital = false) ->
      next.Final ∧ ∃ state' events, next.store.states.get? id = some state' ∧
        state.Keeps state' ∧ next.store.eventsOf id = first.store.eventsOf id ++ events ∧
        ∀ event ∈ events, event.isVital = false := by
    rintro scope engine next advance
      ⟨final, _, events, stored, ⟨version, time, rfl⟩, added, idle⟩
    obtain ⟨_, events', stored', ⟨version', time', rfl⟩, added', idle'⟩ :=
      advance.lingers final.consistent.orderly.sound final.consistent.ended stored stopped
    refine ⟨advance.finals final, _, events ++ events', stored', ⟨version', time', rfl⟩, ?_, ?_⟩
    · rw [added', added, List.append_assoc]
    · exact fun event listed => (List.mem_append.1 listed).elim (idle event) (idle' event)
  exact history.preserves step
    ⟨final, state, [], stored, ⟨state.record.version, state.record.updatedAt, rfl⟩,
      (List.append_nil _).symm, nofun⟩

/-- An instance has ended exactly if its log tells of one end, which is how it has ended. From then
on neither the instance nor its fibers change, none of its jobs is open, and its log tells of no
fiber that is made or goes on, of no job that is handed out and of no other end. -/
theorem History.finality (history : History first entries middle) (fresh : first.Fresh)
    (stored : middle.store.states.get? id = some state) :
    (middle.store.eventsOf id).filterMap RuntimeEvent.ending? =
        (if state.record.status = .running then [] else [state.record.status]) ∧
      (∀ before final after, middle.store.eventsOf id = before ++ final :: after ->
        final.ending?.isSome -> ∀ event ∈ after, event.isVital = false) ∧
      (state.record.status ≠ .running -> ∀ later last, History middle later last ->
        ∃ state' events, last.store.states.get? id = some state' ∧ state.Keeps state' ∧
          (∀ fiber, state'.fiber? fiber = none) ∧
          (last.supply.next ≤ 2 ^ 128 -> ∀ key job, last.store.jobs.get? key = some job ->
            job.owner = id -> job.status.isOpen = false) ∧
          last.store.eventsOf id = middle.store.eventsOf id ++ events ∧
          ∀ event ∈ events, event.isVital = false) := by
  have final : middle.Final :=
    history.preserves (fun _ _ _ advance => advance.finals)
      ⟨fresh.consistent, fresh.logged, fresh.tellsStatuses⟩
  have tells := final.tells id state stored
  refine ⟨tells.endings, fun before last after same ends => tells.idle_after same ends, ?_⟩
  intro ended later last continued
  obtain ⟨final', state', events, stored', keeps, added, idle⟩ :=
    continued.lingers final stored (beq_eq_false_iff_ne.2 ended)
  obtain ⟨version, time, rfl⟩ := keeps
  have vacant := final.consistent.ended id state stored (beq_eq_false_iff_ne.2 ended)
  refine ⟨_, events, stored', ⟨version, time, rfl⟩, vacant, ?_, added, idle⟩
  intro bounded key job present owned
  cases pending : job.status.isOpen with
  | false => rfl
  | true =>
    obtain ⟨other, fiber, stored'', running, -⟩ :=
      final'.consistent.awaited bounded present pending
    rw [owned, stored'] at stored''
    cases stored''
    exact absurd running ended

end Engine

namespace TaskRun

open Engine

/-- The process of the task is cancelled. -/
def cancellation : List EngineOperation :=
  [.install TaskRun.program, .start TaskRun.program.hash .null "", .cancel ⟨0⟩ "obsolete"]

def cancelled : Engine MemoryStore := engine.performAll cancellation

/-- After that a result of the task arrives, and the process is cancelled once more. -/
def late : List EngineOperation := [.complete key {}, .cancel ⟨0⟩ "again"]

/-- Nothing becomes of the process any more. -/
theorem stays_cancelled : ∃ state, cancelled.store.states.get? ⟨0⟩ = some state ∧
    (cancelled.store.eventsOf ⟨0⟩).filterMap RuntimeEvent.ending? = [.cancelled] ∧
    ∃ later, (cancelled.performAll late).store.states.get? ⟨0⟩ = some later ∧
      state.Keeps later := by
  have facts : (cancelled.store.states.get? ⟨0⟩).any
      (fun state => state.record.status = .cancelled) := by
    decide +kernel
  obtain ⟨state, stored, ended⟩ := (Option.any_eq_true _ _).1 facts
  have ended : state.record.status = .cancelled := of_decide_eq_true ended
  have history : History engine (engine.entriesOf cancellation) cancelled :=
    .of_operations engine cancellation
  obtain ⟨endings, -, stays⟩ := History.finality history ⟨rfl, rfl⟩ stored
  have continued : History cancelled (cancelled.entriesOf late) (cancelled.performAll late) :=
    .of_operations cancelled late
  obtain ⟨later, -, stored', keeps, -⟩ := stays (by rw [ended]; nofun) _ _ continued
  rw [ended] at endings
  exact ⟨state, stored, endings, later, stored', keeps⟩

end TaskRun

end ProcessEngine
