import ProcessEngine.Proofs.Transitions

/-!
# Stores that clients share

Any number of clients load instances from one store and store what they have made of them, in any
order. A version is stored once, so whoever finds the version that it began with finds the state
that it began with (`Interleaving.coherent`): what is accepted was made of what is stored, and what
is refused changes nothing (`Interleaving.commits_lose_nothing`).
-/

namespace ProcessEngine

namespace UnitOfWork

/-- How a unit of work comes about: it begins on a state or for a new instance, and performs
operations. -/
inductive Undertaken : Option InstanceState -> UnitOfWork -> Prop where
  | begun (state : InstanceState) (time : Instant) (supply : IdSupply)
      (operations : List WorkOperation) :
    Undertaken (some state) ((begin state time supply).performAll operations)
  | created (record : ProcessInstance) (time : Instant) (supply : IdSupply)
      (operations : List WorkOperation) :
    Undertaken none ((create record time supply).performAll operations)

/-- The work has recorded how it differs from the state that it began with. -/
theorem Undertaken.recorded {base : Option InstanceState} {work : UnitOfWork}
    (undertaken : Undertaken base work) (keyed : ∀ state ∈ base, state.Keyed) :
    Recorded (base.getD (.ofRecord work.finalRecord))
      (base.map (fun state => state.record.version)) work := by
  cases undertaken with
  | begun state time supply operations =>
    exact (recorded_begin (keyed state rfl) time supply).performAll operations
  | created record time supply operations =>
    exact (recorded_create record _ time supply).performAll operations

end UnitOfWork

/-- A call of a client to a store. -/
inductive StoreCall (Client : Type) where
  /-- An instance was loaded. -/
  | load (client : Client) (id : InstanceId) (found : Except StoreError (Option InstanceState))
  /-- What a unit of work has made of a state, or for a new instance, was to be stored. -/
  | commit (client : Client) (base : Option InstanceState) (work : UnitOfWork)
      (before : MemoryStore) (answer : Except StoreError Unit) (after : MemoryStore)

variable {Client : Type}

/-- A client has loaded a state. -/
def Loaded (calls : List (StoreCall Client)) (client : Client) (state : InstanceState) : Prop :=
  ∃ id, StoreCall.load client id (.ok (some state)) ∈ calls

/-- The calls of any number of clients to one store, in any order. What a client stores was made of
a state that it has loaded before, of the same instance, or for a new instance. -/
inductive Interleaving (first : MemoryStore) : List (StoreCall Client) -> MemoryStore -> Prop where
  | refl : Interleaving first [] first
  | load {calls store after found} (prior : Interleaving first calls store) (client : Client)
      (id : InstanceId) (answers : outcome (ProcessStore.state? id) store = (found, after)) :
    Interleaving first (calls ++ [.load client id found]) after
  | commit {calls store base work answer after} (prior : Interleaving first calls store)
      (client : Client) (undertaken : UnitOfWork.Undertaken base work)
      (loaded : ∀ state ∈ base, Loaded calls client state ∧ work.record.id = state.record.id)
      (answers : outcome (ProcessStore.commit work.finish.1) store = (answer, after)) :
    Interleaving first (calls ++ [.commit client base work store answer after]) after

namespace StoreCall

/-- The state that a call has stored for an instance. -/
def stores? (id : InstanceId) : StoreCall Client -> Option InstanceState
  | .commit _ _ work _ (.ok _) after =>
    if work.record.id = id then after.states.get? id else none
  | _ => none

/-- The states that calls have stored for an instance, one after the other. -/
def statesOf (calls : List (StoreCall Client)) (id : InstanceId) : List InstanceState :=
  calls.filterMap (stores? id)

/-- The versions that calls have stored of an instance, one after the other. -/
def versionsOf (calls : List (StoreCall Client)) (id : InstanceId) : List Nat :=
  (statesOf calls id).map (fun state => state.record.version)

theorem statesOf_append (calls later : List (StoreCall Client)) (id : InstanceId) :
    statesOf (calls ++ later) id = statesOf calls id ++ statesOf later id :=
  List.filterMap_append

end StoreCall

open StoreCall

/-! ## A version is stored once -/

/-- The states that were stored of an instance are numbered by their versions, the last one is the
one that is stored, and clients have loaded no others. -/
structure Coherent (calls : List (StoreCall Client)) (store : MemoryStore) : Prop where
  numbered : ∀ id, versionsOf calls id = List.range (statesOf calls id).length
  current : ∀ id, store.states.get? id = (statesOf calls id).getLast?
  owned : ∀ id, ∀ state ∈ statesOf calls id, state.record.id = id ∧ state.Keyed
  loaded : ∀ client state, Loaded calls client state -> state ∈ statesOf calls state.record.id

namespace Coherent

variable {calls : List (StoreCall Client)} {store : MemoryStore} {id : InstanceId}
  {state other : InstanceState}

/-- A version of an instance is one state. -/
theorem unique (coherent : Coherent calls store) (stored : state ∈ statesOf calls id)
    (stored' : other ∈ statesOf calls id)
    (same : state.record.version = other.record.version) : state = other := by
  have distinct : (versionsOf calls id).Nodup := by
    rw [coherent.numbered]
    exact List.nodup_range
  exact List.inj_on_of_nodup_map distinct stored stored' same

/-- Whoever finds the version of a state that was loaded finds that state. -/
theorem current_of_version (coherent : Coherent calls store)
    (known : state ∈ statesOf calls id)
    (version : store.version? id = some state.record.version) :
    store.states.get? id = some state := by
  obtain ⟨found, stored, same⟩ := Option.map_eq_some_iff.1 version
  have listed : found ∈ statesOf calls id :=
    List.mem_of_getLast? ((coherent.current id).symm.trans stored)
  rw [stored, coherent.unique listed known same]

/-- The version that comes after the stored one is as high as there were versions before. -/
theorem length_eq (coherent : Coherent calls store) {base : Option InstanceState}
    (stored : store.states.get? id = base) :
    (statesOf calls id).length =
      (base.map (fun state => state.record.version + 1)).getD 0 := by
  have last : (statesOf calls id).getLast? = base := (coherent.current id).symm.trans stored
  cases base with
  | none => simpa using last
  | some state =>
    have versions : (versionsOf calls id).getLast? = some state.record.version := by
      rw [versionsOf, List.getLast?_map, last]
      rfl
    rw [coherent.numbered, List.getLast?_range] at versions
    split at versions
    · cases versions
    · rename_i nonempty
      have highest := Option.some.inj versions
      simp only [Option.map_some, Option.getD_some]
      omega

theorem refl {first : MemoryStore} (empty : first.states = .empty) :
    Coherent ([] : List (StoreCall Client)) first where
  numbered id := rfl
  current id := by rw [empty]; rfl
  owned id state stored := by cases stored
  loaded client state known := by
    obtain ⟨id, listed⟩ := known
    cases listed

/-- A call that stores nothing leaves the order, if the state that it may have loaded is stored. -/
theorem keep (coherent : Coherent calls store) {call : StoreCall Client}
    (nothing : ∀ id, call.stores? id = none)
    (known : ∀ client id state, call = .load client id (.ok (some state)) ->
      store.states.get? id = some state) : Coherent (calls ++ [call]) store := by
  have same : ∀ id, statesOf (calls ++ [call]) id = statesOf calls id := by
    intro id
    rw [statesOf_append, statesOf, statesOf, List.filterMap_cons_none (nothing id),
      List.filterMap_nil, List.append_nil]
  refine ⟨fun id => ?_, fun id => ?_, fun id => ?_, fun client state loaded => ?_⟩
  · rw [versionsOf, same]
    exact coherent.numbered id
  · rw [same]
    exact coherent.current id
  · rw [same]
    exact coherent.owned id
  · rw [same]
    obtain ⟨id, listed⟩ := loaded
    rcases List.mem_append.1 listed with before | last
    · exact coherent.loaded client state ⟨id, before⟩
    · have found := known client id state (List.mem_singleton.1 last).symm
      have stored : state ∈ statesOf calls id :=
        List.mem_of_getLast? ((coherent.current id).symm.trans found)
      rw [(coherent.owned id state stored).1]
      exact stored

/-- A state that was made of the stored one is stored as the next one. -/
theorem extend (coherent : Coherent calls store) {client : Client} {base : Option InstanceState}
    {work : UnitOfWork} (undertaken : UnitOfWork.Undertaken base work)
    (stored : store.states.get? work.record.id = base) :
    Coherent (calls ++ [.commit client base work store (.ok ()) (store.apply work.finish.1)])
        (store.apply work.finish.1) ∧
      (store.apply work.finish.1).states =
        store.states.insert work.record.id work.finish.2 := by
  have keyed : ∀ state ∈ base, state.Keyed := by
    rintro state rfl
    exact (coherent.owned _ state
      (List.mem_of_getLast? ((coherent.current _).symm.trans stored))).2
  have recorded := undertaken.recorded keyed
  have states : (store.apply work.finish.1).states =
      store.states.insert work.record.id work.finish.2 := by
    rw [← recorded.applyTo, ← stored]
    rfl
  refine ⟨?_, states⟩
  have grown : ∀ id, statesOf (calls ++ [.commit client base work store (.ok ())
      (store.apply work.finish.1)]) id =
        statesOf calls id ++ if work.record.id = id then [work.finish.2] else [] := by
    intro id
    rw [statesOf_append]
    congr 1
    simp only [statesOf, List.filterMap_cons, List.filterMap_nil, stores?]
    by_cases same : work.record.id = id
    · simp [same, states]
    · simp [same]
  have version : work.finish.2.record.version = (statesOf calls work.record.id).length := by
    rw [coherent.length_eq stored]
    change work.nextVersion = _
    rw [UnitOfWork.nextVersion, recorded.version]
    cases base with
    | none => rfl
    | some state => rfl
  refine ⟨fun id => ?_, fun id => ?_, fun id state listed => ?_, fun client state loaded => ?_⟩
  · rw [versionsOf, grown]
    by_cases same : work.record.id = id
    · subst same
      rw [if_pos rfl, List.map_append, List.length_append, List.length_singleton,
        List.range_succ, ← coherent.numbered]
      simp [versionsOf, version]
    · rw [if_neg same, List.append_nil]
      exact coherent.numbered id
  · rw [grown, states, OrderedMap.get?_insert]
    by_cases same : work.record.id = id
    · simp [same]
    · rw [if_neg same, if_neg (Ne.symm same), List.append_nil]
      exact coherent.current id
  · rw [grown] at listed
    rcases List.mem_append.1 listed with before | last
    · exact coherent.owned id state before
    · split at last
      · rename_i same
        rw [List.mem_singleton.1 last]
        exact ⟨same, recorded.reached⟩
      · cases last
  · rw [grown]
    obtain ⟨id, listed⟩ := loaded
    rcases List.mem_append.1 listed with before | last
    · exact List.mem_append_left _ (coherent.loaded client state ⟨id, before⟩)
    · cases List.mem_singleton.1 last

/-- A commit is accepted if what it was made of is stored, and otherwise it is refused. -/
theorem outcome_commit (coherent : Coherent calls store) {client : Client}
    {base : Option InstanceState} {work : UnitOfWork}
    (undertaken : UnitOfWork.Undertaken base work)
    (loaded : ∀ state ∈ base, Loaded calls client state ∧ work.record.id = state.record.id) :
    store.states.get? work.record.id = base ∧
        outcome (ProcessStore.commit work.finish.1) store =
          (.ok (), store.apply work.finish.1) ∨
      store.states.get? work.record.id ≠ base ∧
        outcome (ProcessStore.commit work.finish.1) store =
          (.error (.conflict work.record.id (base.map (fun state => state.record.version))
            (store.version? work.record.id)), store) := by
  have known : ∀ state ∈ base, state ∈ statesOf calls work.record.id := by
    intro state begun
    obtain ⟨taken, same⟩ := loaded state begun
    rw [same]
    exact coherent.loaded client state taken
  have recorded := undertaken.recorded (fun state begun => (coherent.owned _ state
    (known state begun)).2)
  by_cases current : store.version? work.record.id = work.base
  · refine .inl ⟨?_, MemoryStore.outcome_commit_of_current _ _ current⟩
    rw [recorded.version] at current
    cases base with
    | none => exact Option.map_eq_none_iff.1 current
    | some state => exact coherent.current_of_version (known state rfl) current
  · refine .inr ⟨?_, recorded.version ▸ MemoryStore.outcome_commit_of_stale _ _ current⟩
    rintro rfl
    exact current recorded.version.symm

end Coherent

namespace Interleaving

variable {first last : MemoryStore} {calls : List (StoreCall Client)}

/-- Whatever clients do, stored states stay in the order of their versions. -/
theorem coherent (run : Interleaving first calls last) (empty : first.states = .empty) :
    Coherent calls last := by
  induction run with
  | refl => exact .refl empty
  | load prior client id answers ih =>
    cases answers
    refine ih.keep (fun _ => rfl) ?_
    intro asker asked state loads
    obtain ⟨-, rfl, found⟩ := StoreCall.load.inj loads
    exact Except.ok.inj found
  | commit prior client undertaken loaded answers ih =>
    rcases ih.outcome_commit undertaken loaded with ⟨stored, accepted⟩ | ⟨-, refused⟩
    · cases answers.symm.trans accepted
      exact (ih.extend undertaken stored).1
    · cases answers.symm.trans refused
      refine ih.keep (fun _ => rfl) ?_
      intro asker asked state loads
      cases loads

/-- Optimistic commits lose nothing. Whatever clients of one store load and commit, in any order,
the versions that are stored of an instance are 0, 1, 2 and so on, up to the present one; a commit
is accepted exactly if it was made of the very state that is stored at that moment, and stores the
state that it has reached; and one that is refused for a conflict leaves the store as it is. -/
theorem commits_lose_nothing (run : Interleaving first calls last)
    (empty : first.states = .empty) :
    (∀ id, versionsOf calls id = List.range (versionsOf calls id).length ∧
      (versionsOf calls id).getLast? = last.version? id) ∧
    ∀ {client base work before answer after},
      StoreCall.commit client base work before answer after ∈ calls ->
        (answer = .ok () ∧ before.states.get? work.record.id = base ∧
          after.states = before.states.insert work.record.id work.finish.2) ∨
        (answer = .error (.conflict work.record.id
            (base.map (fun state => state.record.version)) (before.version? work.record.id)) ∧
          before.states.get? work.record.id ≠ base ∧ after = before) := by
  constructor
  · intro id
    have coherent := run.coherent empty
    constructor
    · rw [coherent.numbered, List.length_range]
    · rw [MemoryStore.version?, coherent.current, versionsOf, List.getLast?_map]
  · induction run with
    | refl =>
      intro client base work before answer after listed
      cases listed
    | load prior asker id answers ih =>
      intro client base work before answer after listed
      rcases List.mem_append.1 listed with earlier | latest
      · exact ih earlier
      · cases List.mem_singleton.1 latest
    | commit prior asker undertaken loaded answers ih =>
      intro client base work before answer after listed
      rcases List.mem_append.1 listed with earlier | latest
      · exact ih earlier
      · obtain ⟨⟩ := List.mem_singleton.1 latest
        rcases (prior.coherent empty).outcome_commit undertaken loaded with
          ⟨stored, accepted⟩ | ⟨stale, refused⟩
        · cases answers.symm.trans accepted
          exact .inl ⟨rfl, stored,
            (@Coherent.extend _ _ _ (prior.coherent empty) asker _ _ undertaken stored).2⟩
        · cases answers.symm.trans refused
          exact .inr ⟨rfl, stale, rfl⟩

end Interleaving

/-! ## Two clients that have loaded the same version -/

namespace Rivals

open UnitOfWork

/-- A new instance with one fiber. -/
def created : UnitOfWork :=
  (create (.create ⟨0⟩ TaskRun.program.hash .null "" default) default ⟨1⟩).performAll
    [.spawn 0 none]

/-- The fiber goes on. -/
def woken : UnitOfWork := (begin created.finish.2 default ⟨2⟩).performAll [.wake ⟨1⟩ 1]

def stored : MemoryStore := ({} : MemoryStore).apply created.finish.1

def changed : MemoryStore := stored.apply woken.finish.1

/-- Both clients load the instance that one of them has made, and both store what they have made
of it. -/
def calls : List (StoreCall Bool) :=
  [.commit true none created {} (.ok ()) stored,
    .load true ⟨0⟩ (.ok (some created.finish.2)), .load false ⟨0⟩ (.ok (some created.finish.2)),
    .commit false (some created.finish.2) woken stored (.ok ()) changed,
    .commit true (some created.finish.2) woken changed (.error (.conflict ⟨0⟩ (some 0) (some 1)))
      changed]

theorem run : Interleaving {} calls changed := by
  have fresh : Undertaken none created := .created _ _ _ _
  have begun : Undertaken (some created.finish.2) woken := .begun _ _ _ _
  have found : stored.states.get? ⟨0⟩ = some created.finish.2 := by
    have nothing : ({} : MemoryStore).states.get? created.record.id = none := rfl
    have empty : Coherent ([] : List (StoreCall Bool)) {} := .refl rfl
    have states := (@Coherent.extend _ _ _ empty true _ _ fresh nothing).2
    rw [stored, states]
    exact OrderedMap.get?_insert_self _ _ _
  have answers : outcome (ProcessStore.state? ⟨0⟩) stored =
      (.ok (some created.finish.2), stored) := by
    rw [← found]
    rfl
  have accepted : outcome (ProcessStore.commit woken.finish.1) stored = (.ok (), changed) :=
    MemoryStore.outcome_commit_of_current _ _ (by decide +kernel)
  have refused : outcome (ProcessStore.commit woken.finish.1) changed =
      (.error (.conflict ⟨0⟩ (some 0) (some 1)), changed) := by
    have version : changed.version? woken.finish.1.record.id = some 1 := by decide +kernel
    rw [← version]
    exact MemoryStore.outcome_commit_of_stale _ _ (by decide +kernel)
  have known : ∀ client, ∀ state ∈ some created.finish.2, Loaded (calls.take 3) client state ∧
      woken.record.id = state.record.id := by
    rintro client state ⟨⟩
    cases client <;> exact ⟨⟨⟨0⟩, by simp [calls]⟩, rfl⟩
  have first : Interleaving {} (calls.take 1) stored :=
    .commit .refl true fresh (fun state absent => by cases absent) rfl
  have loaded : Interleaving {} (calls.take 3) stored :=
    (first.load true ⟨0⟩ answers).load false ⟨0⟩ answers
  have raced : Interleaving {} (calls.take 4) changed :=
    loaded.commit false begun (known false) accepted
  refine raced.commit true begun (fun state base => ?_) refused
  obtain ⟨⟨id, listed⟩, same⟩ := known true state base
  exact ⟨⟨id, List.take_subset_take_left _ (by decide) listed⟩, same⟩

end Rivals

/-- The second of them is refused, and two versions are stored. -/
theorem commits_lose_nothing_of_rivals :
    versionsOf Rivals.calls ⟨0⟩ = [0, 1] ∧
      Rivals.stored.states.get? ⟨0⟩ = some Rivals.created.finish.2 ∧
      Rivals.changed.states.get? ⟨0⟩ ≠ some Rivals.created.finish.2 := by
  obtain ⟨versions, commits⟩ := Rivals.run.commits_lose_nothing rfl
  refine ⟨?_, ?_, ?_⟩
  · have two : (versionsOf Rivals.calls ⟨0⟩).length = 2 := by decide +kernel
    rw [(versions ⟨0⟩).1, two]
    rfl
  · rcases commits (List.mem_cons_self ..) with ⟨-, -, states⟩ | ⟨refused, -⟩
    · rw [states]
      exact OrderedMap.get?_insert_self _ _ _
    · cases refused
  · have last : StoreCall.commit true (some Rivals.created.finish.2) Rivals.woken Rivals.changed
        (.error (.conflict ⟨0⟩ (some 0) (some 1))) Rivals.changed ∈ Rivals.calls := by
      simp [Rivals.calls]
    rcases commits last with ⟨accepted, -⟩ | ⟨-, stale, -⟩
    · cases accepted
    · exact stale

end ProcessEngine
