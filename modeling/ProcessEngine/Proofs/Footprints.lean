import ProcessEngine.Proofs.Anchors
import ProcessEngine.Proofs.Notices

/-!
# Footprints

An update of a table touches some keys, and what becomes of a key depends on what the table holds
under this key alone (`OrderedMap.Touches`). Updates that touch different keys therefore commute, and
so do transitions that touch different rows (`MemoryStore.apply_comm`).
-/

namespace ProcessEngine

universe u v w

namespace OrderedMap

variable {Key : Type u} {Value : Type v} [Ord Key]

/-- An update leaves all keys but some as they are, and treats every key by itself. -/
structure Touches (keys : Key -> Prop)
    (update : OrderedMap Key Value -> OrderedMap Key Value) : Prop where
  elsewhere : ∀ {asked}, ¬ keys asked -> ∀ map, (update map).get? asked = map.get? asked
  pointwise : ∀ {map other : OrderedMap Key Value} {asked}, map.get? asked = other.get? asked ->
    (update map).get? asked = (update other).get? asked

namespace Touches

variable {keys more : Key -> Prop} {first second : OrderedMap Key Value -> OrderedMap Key Value}

theorem id (keys : Key -> Prop) : Touches keys (fun map : OrderedMap Key Value => map) :=
  ⟨fun _ _ => rfl, fun same => same⟩

/-- One update after the other. -/
theorem comp (touches : Touches keys first) (touches' : Touches keys second) :
    Touches keys (fun map => second (first map)) where
  elsewhere absent map := (touches'.elsewhere absent _).trans (touches.elsewhere absent map)
  pointwise same := touches'.pointwise (touches.pointwise same)

/-- A list of updates. -/
theorem foldl {Item : Type w} {step : OrderedMap Key Value -> Item -> OrderedMap Key Value}
    {items : List Item} (each : ∀ item ∈ items, Touches keys (fun map => step map item)) :
    Touches keys (fun map => items.foldl step map) := by
  induction items with
  | nil => exact .id keys
  | cons head rest ih =>
    exact (each head List.mem_cons_self).comp
      (ih (fun item listed => each item (List.mem_cons_of_mem _ listed)))

/-- Updates that touch different keys may change places. -/
theorem comm [Std.TransOrd Key] [Std.LawfulEqOrd Key] (touches : Touches keys first)
    (touches' : Touches more second) (apart : ∀ key, keys key -> ¬ more key)
    (map : OrderedMap Key Value) : first (second map) = second (first map) := by
  apply ext_get?
  intro key
  by_cases touched : keys key
  · have absent := apart key touched
    rw [touches'.elsewhere absent]
    exact touches.pointwise (touches'.elsewhere absent map)
  · rw [touches.elsewhere touched]
    exact (touches'.pointwise (touches.elsewhere touched map)).symm

section Single

variable [Std.TransOrd Key] [Std.LawfulEqOrd Key] [DecidableEq Key] {key : Key}

theorem insert (touched : keys key) (value : Value) :
    Touches keys (fun map => map.insert key value) := by
  constructor
  · intro asked absent map
    rw [get?_insert, if_neg]
    rintro rfl
    exact absent touched
  · intro map other asked same
    rw [get?_insert, get?_insert, same]

theorem insertNew (touched : keys key) (value : Value) :
    Touches keys (fun map => map.insertNew key value) := by
  constructor
  · intro asked absent map
    rw [get?_insertNew, if_neg, Option.or_none]
    rintro rfl
    exact absent touched
  · intro map other asked same
    rw [get?_insertNew, get?_insertNew, same]

omit [Std.TransOrd Key] in
theorem erase (touched : keys key) :
    Touches keys (fun map : OrderedMap Key Value => map.erase key) := by
  constructor
  · intro asked absent map
    rw [get?_erase, if_neg]
    rintro rfl
    exact absent touched
  · intro map other asked same
    rw [get?_erase, get?_erase, same]

omit [Std.TransOrd Key] in
theorem modify (touched : keys key) (change : Value -> Value) :
    Touches keys (fun map => map.modify key change) := by
  constructor
  · intro asked absent map
    rw [get?_modify, if_neg]
    rintro rfl
    exact absent touched
  · intro map other asked same
    rw [get?_modify, get?_modify, same]

/-- A key may be given a value that depends on its former one. -/
theorem alter (key : Key) (change : Option Value -> Value) :
    Touches (· = key) (fun map => map.insert key (change (map.get? key))) := by
  constructor
  · intro asked absent map
    rw [get?_insert, if_neg absent]
  · intro map other asked same
    rw [get?_insert, get?_insert]
    by_cases there : asked = key
    · subst there
      rw [if_pos rfl, if_pos rfl, same]
    · rw [if_neg there, if_neg there, same]

end Single

end Touches

end OrderedMap

open OrderedMap

/-! ## The rows that a unit of work touches -/

/-- Writing and cancelling jobs touches the keys that are named. -/
theorem MemoryStore.touches_writes {named : JobKey -> Prop} {writes : List JobWrite}
    {cancelled : List JobKey} (written : ∀ write ∈ writes, named write.job.key)
    (withdrawn : ∀ key ∈ cancelled, named key) :
    Touches named (fun table => cancelled.foldl cancelJob (writes.foldl writeJob table)) := by
  have writing : Touches named (fun table => writes.foldl writeJob table) := by
    refine .foldl (fun write listed => ?_)
    cases write with
    | dispatch job => exact .insertNew (written _ listed) job
    | update job => exact .insert (written _ listed) job
  exact writing.comp (.foldl (fun key listed => .modify (withdrawn key listed) _))

namespace UnitOfWork

/-- The keys of jobs that are named in what the work writes. -/
def jobKeys (work : UnitOfWork) : List JobKey :=
  work.jobs.map (fun write => write.job.key) ++ work.cancelledJobs ++
    work.completions.map CompletionRecord.key ++ work.deadLetters.map DeadLetter.key ++
    work.removedDeadLetters.map DeadLetterKey.job

variable {work other : UnitOfWork} {key : JobKey}

theorem mem_jobKeys_iff : key ∈ work.jobKeys ↔
    (∃ write ∈ work.jobs, write.job.key = key) ∨ key ∈ work.cancelledJobs ∨
      (∃ record ∈ work.completions, record.key = key) ∨
      (∃ letter ∈ work.deadLetters, letter.key = key) ∨
      ∃ place ∈ work.removedDeadLetters, place.job = key := by
  simp only [jobKeys, List.mem_append, List.mem_map, or_assoc]

/-- What becomes of a table of completions when the work is stored. -/
def completionsOver (work : UnitOfWork) (table : OrderedMap JobKey CompletionRecord) :
    OrderedMap JobKey CompletionRecord :=
  work.completions.foldl (fun completions record => completions.insertNew record.key record) table

/-- What becomes of a table of states when the work is stored. -/
def statesOver (work : UnitOfWork) (table : OrderedMap InstanceId InstanceState) :
    OrderedMap InstanceId InstanceState :=
  table.insert work.record.id
    (work.finish.1.applyTo ((table.get? work.record.id).getD (.ofRecord work.finalRecord)))

/-- What becomes of the logs when the work is stored. -/
def logsOver (work : UnitOfWork) (table : OrderedMap InstanceId (List EventRecord)) :
    OrderedMap InstanceId (List EventRecord) :=
  table.insert work.record.id
    (appendEvents work.record.id work.time (table.getD work.record.id []) work.events)

/-- To store a unit of work is to update one table after the other. -/
theorem apply_eq (work : UnitOfWork) (store : MemoryStore) :
    store.apply work.finish.1 =
      { store with
        states := work.statesOver store.states
        jobs := work.jobsOver store.jobs
        completions := work.completionsOver store.completions
        incidents := work.incidentsOver store.incidents
        deadLetters := work.lettersOver store.deadLetters
        logs := work.logsOver store.logs } := rfl

theorem touches_jobs (work : UnitOfWork) : Touches (· ∈ work.jobKeys) work.jobsOver :=
  MemoryStore.touches_writes (fun write listed => mem_jobKeys_iff.2 (.inl ⟨write, listed, rfl⟩))
    (fun _ listed => mem_jobKeys_iff.2 (.inr (.inl listed)))

theorem touches_completions (work : UnitOfWork) :
    Touches (· ∈ work.jobKeys) work.completionsOver :=
  .foldl fun record listed =>
    .insertNew (mem_jobKeys_iff.2 (.inr (.inr (.inl ⟨record, listed, rfl⟩)))) record

theorem touches_letters (work : UnitOfWork) :
    Touches (fun place => place.job ∈ work.jobKeys) work.lettersOver := by
  have removed : Touches (fun place => place.job ∈ work.jobKeys)
      (fun table : OrderedMap DeadLetterKey DeadLetter =>
        work.removedDeadLetters.foldl OrderedMap.erase table) :=
    .foldl (fun place listed =>
      .erase (mem_jobKeys_iff.2 (.inr (.inr (.inr (.inr ⟨place, listed, rfl⟩))))))
  have added : Touches (fun place => place.job ∈ work.jobKeys)
      (fun table : OrderedMap DeadLetterKey DeadLetter =>
        work.deadLetters.foldl (fun letters letter => letters.insert letter.place letter) table) := by
    refine .foldl (fun letter listed => .insert ?_ letter)
    exact mem_jobKeys_iff.2 (.inr (.inr (.inr (.inl ⟨letter, listed, rfl⟩))))
  exact removed.comp added

theorem touches_incidents (work : UnitOfWork) :
    Touches (fun id => ∃ incident ∈ work.incidents, incident.id = id) work.incidentsOver :=
  .foldl fun incident listed => .insert ⟨incident, listed, rfl⟩ incident

theorem touches_states (work : UnitOfWork) : Touches (· = work.record.id) work.statesOver :=
  .alter work.record.id fun former => work.finish.1.applyTo (former.getD (.ofRecord work.finalRecord))

theorem touches_logs (work : UnitOfWork) : Touches (· = work.record.id) work.logsOver :=
  .alter work.record.id fun former =>
    appendEvents work.record.id work.time (former.getD []) work.events

/-- Two units of work touch no row in common. -/
structure Apart (work other : UnitOfWork) : Prop where
  id : work.record.id ≠ other.record.id
  keys : ∀ key ∈ work.jobKeys, key ∉ other.jobKeys
  incidents : ∀ incident ∈ work.incidents, ∀ incident' ∈ other.incidents,
    incident.id ≠ incident'.id

end UnitOfWork

/-- Units of work that touch no row in common may be stored in either order. -/
theorem MemoryStore.apply_comm {work other : UnitOfWork} (apart : work.Apart other)
    (store : MemoryStore) :
    (store.apply other.finish.1).apply work.finish.1 =
      (store.apply work.finish.1).apply other.finish.1 := by
  have ids : ∀ id, id = work.record.id -> ¬ id = other.record.id := by
    rintro id rfl
    exact apart.id
  rw [work.apply_eq, other.apply_eq, other.apply_eq, work.apply_eq]
  congr 1
  · exact work.touches_states.comm other.touches_states ids _
  · exact work.touches_jobs.comm other.touches_jobs apart.keys _
  · exact work.touches_completions.comm other.touches_completions apart.keys _
  · refine work.touches_incidents.comm other.touches_incidents ?_ _
    rintro id ⟨incident, listed, rfl⟩ ⟨incident', listed', same⟩
    exact apart.incidents incident listed incident' listed' same.symm
  · exact work.touches_letters.comm other.touches_letters (fun place => apart.keys place.job) _
  · exact work.touches_logs.comm other.touches_logs ids _

end ProcessEngine
