import ProcessEngine.Proofs.Filing

/-!
# Logs

The log of an instance is numbered from one without gaps, and an engine only adds to it
(`Engine.Advance.extends`): records that were there stay where they are. Only instances that
are stored have a log.
-/

namespace ProcessEngine

namespace MemoryStore

/-- The log of an instance. -/
def log (store : MemoryStore) (id : InstanceId) : List EventRecord := store.logs.getD id []

/-- The events of an instance, in order. -/
def eventsOf (store : MemoryStore) (id : InstanceId) : List RuntimeEvent :=
  (store.log id).map EventRecord.event

theorem log_apply (store : MemoryStore) (transition : Transition) (asked : InstanceId) :
    (store.apply transition).log asked =
      if asked = transition.record.id then
        appendEvents asked transition.time (store.log asked) transition.events
      else store.log asked := by
  rw [log, log, apply, OrderedMap.getD, OrderedMap.get?_insert]
  split
  · rename_i same
    rw [same]
    rfl
  · rfl

end MemoryStore

/-! ## Numbered logs -/

/-- The records of a log are those of the instance and are numbered from one. -/
def NumberedFor (id : InstanceId) (log : List EventRecord) : Prop :=
  ∀ place record, log[place]? = some record -> record.owner = id ∧ record.sequence = place + 1

namespace NumberedFor

variable {id : InstanceId} {log : List EventRecord}

theorem nil : NumberedFor id [] := nofun

/-- The last record has the number of all records. -/
theorem last (numbered : NumberedFor id log) :
    log.getLast?.elim 0 EventRecord.sequence = log.length := by
  cases final : log.getLast? with
  | none =>
    rw [List.getLast?_eq_none_iff.1 final]
    rfl
  | some record =>
    have filled : log ≠ [] := by
      rintro rfl
      cases final
    have positive := List.length_pos_iff.2 filled
    rw [List.getLast?_eq_getElem?] at final
    refine (numbered _ record final).2.trans ?_
    omega

/-- Events that are added are numbered on. -/
theorem append (numbered : NumberedFor id log) (time : Instant) (events : List RuntimeEvent) :
    NumberedFor id (appendEvents id time log events) := by
  intro place record found
  rw [appendEvents, numbered.last] at found
  by_cases inside : place < log.length
  · rw [List.getElem?_append_left inside] at found
    exact numbered place record found
  · rw [List.getElem?_append_right (Nat.le_of_not_lt inside), List.getElem?_map,
      List.getElem?_zipIdx] at found
    obtain ⟨⟨event, index⟩, listed, rfl⟩ := Option.map_eq_some_iff.1 found
    obtain ⟨_, -, same⟩ := Option.map_eq_some_iff.1 listed
    cases same
    refine ⟨rfl, ?_⟩
    change log.length + (0 + (place - log.length)) + 1 = place + 1
    omega

end NumberedFor

/-- The events of a log that was added to. -/
theorem map_event_appendEvents (id : InstanceId) (time : Instant) (log : List EventRecord)
    (events : List RuntimeEvent) :
    (appendEvents id time log events).map EventRecord.event =
      log.map EventRecord.event ++ events := by
  rw [appendEvents, List.map_append, List.map_map]
  exact congrArg _ (List.zipIdx_map_fst 0 events)

theorem prefix_appendEvents (id : InstanceId) (time : Instant) (log : List EventRecord)
    (events : List RuntimeEvent) : log <+: appendEvents id time log events :=
  List.prefix_append _ _

namespace Engine

variable {engine next first last : Engine MemoryStore} {entries : List HistoryEntry}

open UnitOfWork

/-- What an atomic step does to the logs: at most the events of one unit of work are added to the
log of its instance, which is stored afterwards. -/
theorem Advance.log_cases {scope : Scope} (sound : engine.Sound)
    (advance : Advance scope engine next) :
    (next.store.states = engine.store.states ∧ next.store.logs = engine.store.logs) ∨
      ∃ work : UnitOfWork, engine.Storable work ∧
        next.store = engine.store.apply work.finish.1 := by
  cases advance.act sound with
  | nothing untouched => exact .inl ⟨untouched.states, untouched.logs⟩
  | create known absent ran store supply =>
    exact .inr ⟨_, storable_create absent ran, store⟩
  | slice known stored own admitted intervened ran store supply =>
    exact .inr ⟨_, (storable_slice sound stored intervened ran).1, store⟩

theorem Untouched.eventsOf (untouched : engine.Untouched next) (id : InstanceId) :
    next.store.eventsOf id = engine.store.eventsOf id := by
  rw [MemoryStore.eventsOf, MemoryStore.log, untouched.logs]
  rfl

/-- The log of a unit of work that was stored. -/
theorem log_apply_finish (store : MemoryStore) (work : UnitOfWork) (asked : InstanceId) :
    (store.apply work.finish.1).log asked =
      if asked = work.record.id then appendEvents asked work.time (store.log asked) work.events
      else store.log asked := store.log_apply work.finish.1 asked

theorem eventsOf_apply_finish (store : MemoryStore) (work : UnitOfWork) (asked : InstanceId) :
    (store.apply work.finish.1).eventsOf asked =
      store.eventsOf asked ++ if asked = work.record.id then work.events else [] := by
  rw [MemoryStore.eventsOf, log_apply_finish]
  split
  · exact map_event_appendEvents _ _ _ _
  · rw [List.append_nil]
    rfl

/-- Logs are numbered, and only stored instances have one. -/
structure Logged (engine : Engine MemoryStore) : Prop where
  numbered : ∀ id, NumberedFor id (engine.store.log id)
  absent : ∀ id, engine.store.states.get? id = none -> engine.store.log id = []

theorem Fresh.logged (fresh : engine.Fresh) : engine.Logged := by
  have empty : ∀ id, engine.store.log id = [] := by
    intro id
    rw [fresh.store]
    rfl
  refine ⟨fun id => ?_, fun id _ => empty id⟩
  rw [empty]
  exact .nil

theorem Advance.logged {scope : Scope} (sound : engine.Sound)
    (advance : Advance scope engine next) (logged : engine.Logged) : next.Logged := by
  rcases advance.log_cases sound with ⟨states, logs⟩ | ⟨work, storable, store⟩
  · have log : ∀ id, next.store.log id = engine.store.log id := by
      intro id
      rw [MemoryStore.log, logs]
      rfl
    refine ⟨fun id => ?_, fun id absent => ?_⟩
    · rw [log]
      exact logged.numbered id
    · rw [log]
      exact logged.absent id (states ▸ absent)
  · refine ⟨fun id => ?_, fun id absent => ?_⟩
    · rw [store, log_apply_finish]
      split
      · exact (logged.numbered id).append _ _
      · exact logged.numbered id
    · rw [store, storable.states_apply] at absent
      rw [store, log_apply_finish]
      split
      · rename_i same
        rw [if_pos same] at absent
        cases absent
      · rename_i different
        rw [if_neg different] at absent
        exact logged.absent id absent

/-- Records that were there stay. -/
theorem Advance.extends {scope : Scope} (sound : engine.Sound)
    (advance : Advance scope engine next) (id : InstanceId) :
    engine.store.log id <+: next.store.log id := by
  rcases advance.log_cases sound with ⟨-, logs⟩ | ⟨work, -, store⟩
  · have same : next.store.log id = engine.store.log id := by
      rw [MemoryStore.log, MemoryStore.log, logs]
    exact same ▸ List.prefix_rfl
  · rw [store, log_apply_finish]
    split
    · exact prefix_appendEvents _ _ _ _
    · exact List.prefix_rfl

end Engine

end ProcessEngine
