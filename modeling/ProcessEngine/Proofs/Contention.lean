import Mathlib.Algebra.BigOperators.Group.List.Basic
import Mathlib.Algebra.Ring.Int.Defs
import ProcessEngine.Proofs.FailureReports

/-!
# Engines that report failures of one job at once

Engines that share one store report failures of the same job, and their calls of the store come in
any order. The version check lets changes be stored only if nothing else was stored since the state
of the instance was loaded, but the job was read before that. A report that has read an older job
than the one that was stored by then writes it back with its own retry counted, so the retries in
between are lost, one for each (`Contest.retries_accounted`).
-/

namespace ProcessEngine

open UnitOfWork

/-- Engines that share a store. What an engine has of its own is kept for each client; store and
identifiers are common. -/
structure Contest (Client : Type) where
  store : MemoryStore
  supply : IdSupply
  engines : Client -> Engine MemoryStore
  calls : Client -> FailCall

/-- A report that has ended, with the job that its last attempt has read and the job that was stored
when that attempt loaded the state of the instance. -/
structure FailReturn (Client : Type) where
  client : Client
  answer : Except EngineError FailureOutcome
  rows : Option (Job × Option Job)

namespace FailReturn

variable {Client : Type}

/-- Whether the report has scheduled a retry. -/
def isRetry (done : FailReturn Client) : Bool :=
  match done.answer with
  | .ok result => result.isRetry
  | .error _ => false

/-- How many attempts the job was ahead of the one that the report has read and written back. -/
def gap (done : FailReturn Client) : Int :=
  match done.answer, done.rows with
  | .ok result, some (read, some present) =>
    if result.isWritten then (present.attempt : Int) - read.attempt else 0
  | _, _ => 0

/-- If the report has changed the job, the one that it has read was still stored when it loaded the
state. -/
def Punctual (done : FailReturn Client) : Prop :=
  ∀ result read present, done.answer = .ok result -> result.isWritten = true ->
    done.rows = some (read, present) -> present = some read

theorem Punctual.gap {done : FailReturn Client} (punctual : done.Punctual) : done.gap = 0 := by
  rw [FailReturn.gap]
  split
  · rename_i result read present answer rows
    split
    · rename_i written
      cases punctual _ _ _ answer written rows
      omega
    · rfl
  · rfl

/-- A report that has not changed the job leaves no gap. -/
theorem gap_of_kept {client : Client} {result : FailureOutcome} (kept : result.isWritten = false)
    (rows : Option (Job × Option Job)) : gap ⟨client, .ok result, rows⟩ = 0 := by
  rcases rows with - | ⟨read, - | present⟩
  · rfl
  · rfl
  · exact if_neg (by simp [kept])

end FailReturn

/-- The job that an attempt has read, and the one that was stored when it loaded the state. -/
def FailCall.rows? : FailCall -> Option (Job × Option Job)
  | .storing _ job present _ _ _ => some (job, present)
  | _ => none

/-- The report that ends when a call is followed by another one. -/
def FailCall.return? {Client : Type} (client : Client) (call next : FailCall) :
    Option (FailReturn Client) :=
  match call, next with
  | .returned _, _ => none
  | call, .returned answer => some ⟨client, answer, call.rows?⟩
  | _, _ => none

theorem FailCall.mem_return?_iff {Client : Type} {client : Client} {call next : FailCall}
    {done : FailReturn Client} : done ∈ call.return? client next ↔
      (∀ answer, call ≠ .returned answer) ∧ next = .returned done.answer ∧
        done.client = client ∧ done.rows = call.rows? := by
  obtain ⟨owner, answer, rows⟩ := done
  cases call with
  | returned former => simp [FailCall.return?]
  | _ =>
    cases next with
    | returned last =>
      simp only [FailCall.return?, Option.mem_def, Option.some.injEq, FailReturn.mk.injEq]
      constructor
      · rintro ⟨rfl, rfl, rfl⟩
        exact ⟨nofun, rfl, rfl, rfl⟩
      · rintro ⟨-, same, rfl, rfl⟩
        cases same
        exact ⟨rfl, rfl, rfl⟩
    | _ => simp [FailCall.return?]

namespace Contest

variable {Client : Type} [DecidableEq Client]

/-- The engine of a client at a time. -/
def engine (contest : Contest Client) (client : Client) (now : Instant) : Engine MemoryStore :=
  { contest.engines client with store := contest.store, supply := contest.supply, now := now }

section

variable (key : JobKey) (problems : Client -> JobFailure)

/-- A client makes its next call. -/
def move (contest : Contest Client) (client : Client) (now : Instant) : Contest Client :=
  let (call, after) := (contest.calls client).next key (problems client) (contest.engine client now)
  { store := after.store
    supply := after.supply
    engines := Function.update contest.engines client after
    calls := Function.update contest.calls client call }

/-- The report that ends with the next call of a client. -/
def return? (contest : Contest Client) (client : Client) (now : Instant) :
    Option (FailReturn Client) :=
  FailCall.return? client (contest.calls client)
    ((contest.move key problems client now).calls client)

/-- Clients make calls in some order. -/
def moveAll (contest : Contest Client) : List (Client × Instant) -> Contest Client
  | [] => contest
  | (client, now) :: rest => moveAll (contest.move key problems client now) rest

/-- The reports that end meanwhile. -/
def returnsOf (contest : Contest Client) : List (Client × Instant) -> List (FailReturn Client)
  | [] => []
  | (client, now) :: rest => (contest.return? key problems client now).toList ++
    returnsOf (contest.move key problems client now) rest

end

end Contest

/-! ## What holds between calls -/

/-- The job of a key, with a total of attempts made and retries that remain. -/
structure Job.Counts (job : Job) (key : JobKey) (owner : InstanceId) (total : Nat) : Prop where
  key : job.key = key
  owner : job.owner = owner
  total : job.attempt + job.retriesRemaining = total

theorem Job.Retried.counts {job later : Job} {times : Nat} {key : JobKey} {owner : InstanceId}
    {total : Nat} (retried : job.Retried later times) (counts : job.Counts key owner total) :
    later.Counts key owner total := by
  refine ⟨retried.key.trans counts.key, retried.owner.trans counts.owner, ?_⟩
  have := retried.attempt
  have := retried.remaining
  have := counts.total
  omega

/-- Every stored state is sound. -/
def MemoryStore.Sound (store : MemoryStore) (supply : IdSupply) : Prop :=
  ∀ id state, store.states.get? id = some state -> state.Sound id supply.next

/-- A unit of work of a state that was stored together with a job. As long as its version is
stored, so are that very state and that very job. -/
structure UnitOfWork.Drafted (work : UnitOfWork) (store : MemoryStore) (supply : IdSupply)
    (key : JobKey) (owner : InstanceId) (present : Option Job) : Prop where
  shapely : work.Shapely
  named : work.record.id = owner
  drawn : owner.number < work.supply.next
  supply : work.supply.next ≤ supply.next
  since : ∃ state current, work.Notes state ∧ work.base = some state.record.version ∧
    store.states.get? owner = some current ∧ state.record.version ≤ current.record.version ∧
    (state.record.version = current.record.version ->
      state = current ∧ store.jobs.get? key = present)

section

variable {store : MemoryStore} {supply later : IdSupply} {key : JobKey} {owner : InstanceId}
  {total : Nat} {present : Option Job} {work other : UnitOfWork}

namespace UnitOfWork.Drafted

/-- It is stored if the state that it was made of is stored. -/
theorem stored (drafted : work.Drafted store supply key owner present)
    (current : store.version? owner = work.base) :
    (∃ state, store.states.get? owner = some state ∧ work.Notes state ∧
      work.base = some state.record.version) ∧ store.jobs.get? key = present := by
  obtain ⟨state, found, notes, base, stored, -, same⟩ := drafted.since
  rw [MemoryStore.version?, stored, base] at current
  obtain ⟨rfl, row⟩ := same (Option.some.inj current).symm
  exact ⟨⟨state, stored, notes, base⟩, row⟩

/-- Storing it stores the state that it has reached. -/
theorem states_apply (drafted : work.Drafted store supply key owner present)
    (current : store.version? owner = work.base) (asked : InstanceId) :
    (store.apply work.finish.1).states.get? asked =
      if asked = owner then some work.finish.2 else store.states.get? asked := by
  obtain ⟨⟨state, stored, notes, -⟩, -⟩ := drafted.stored current
  have base :
      work.Notes ((store.states.get? work.record.id).getD (.ofRecord work.finalRecord)) := by
    rw [drafted.named, stored]
    exact notes
  rw [← applyTo_finish (WellFormed.keyed drafted.shapely) base, ← drafted.named]
  exact OrderedMap.get?_insert _ _ _ _

/-- Stored states stay sound. -/
theorem sound (drafted : work.Drafted store supply key owner present)
    (current : store.version? owner = work.base) (sound : store.Sound supply) :
    (store.apply work.finish.1).Sound supply := by
  intro id state found
  rw [drafted.states_apply current] at found
  split at found
  · rename_i same
    cases found
    obtain ⟨⟨state, -, notes, -⟩, -⟩ := drafted.stored current
    exact (sound_finish drafted.shapely notes (drafted.named.trans same.symm)
      (same ▸ drafted.drawn)).mono drafted.supply
  · exact sound id state found

/-- It stays as it is while nothing is stored. -/
theorem keep (drafted : work.Drafted store supply key owner present)
    (grows : supply.next ≤ later.next) : work.Drafted store later key owner present :=
  { drafted with supply := Nat.le_trans drafted.supply grows }

/-- When another one was stored, the version that it was made of is stored no more. -/
theorem overtaken (drafted : work.Drafted store supply key owner present) {present' : Option Job}
    (drafted' : other.Drafted store supply key owner present')
    (current : store.version? owner = other.base) :
    work.Drafted (store.apply other.finish.1) supply key owner present := by
  obtain ⟨⟨former, stored', -, base⟩, -⟩ := drafted'.stored current
  obtain ⟨state, found, notes, base', stored, older, -⟩ := drafted.since
  cases stored'.symm.trans stored
  have version : other.finish.2.record.version = former.record.version + 1 := by
    change other.nextVersion = _
    rw [nextVersion, base]
  refine { drafted with since := ⟨state, other.finish.2, notes, base', ?_, by omega, ?_⟩ }
  · rw [drafted'.states_apply current, if_pos rfl]
  · intro same
    omega

end UnitOfWork.Drafted

/-- What a call knows is right. -/
def FailCall.Consistent (store : MemoryStore) (supply : IdSupply) (key : JobKey)
    (owner : InstanceId) (total : Nat) : FailCall -> Prop
  | .begin => True
  | .asking asked => asked = owner
  | .looking tries => tries.owner = owner
  | .loading tries job => tries.owner = owner ∧ job.Counts key owner total
  | .storing tries job present result _ work => tries.owner = owner ∧ job.Counts key owner total ∧
    job.Amends work result ∧ work.Drafted store supply key owner present
  | .returned _ => True

namespace FailCall

/-- What a call knows stays right while nothing is stored. -/
theorem Consistent.keep {call : FailCall}
    (consistent : call.Consistent store supply key owner total)
    (grows : supply.next ≤ later.next) : call.Consistent store later key owner total := by
  cases call with
  | storing tries job present result report work =>
    obtain ⟨named, counts, amends, drafted⟩ := consistent
    exact ⟨named, counts, amends, drafted.keep grows⟩
  | _ => exact consistent

/-- And when the changes of another report are stored. -/
theorem Consistent.overtaken {call : FailCall}
    (consistent : call.Consistent store supply key owner total) {present' : Option Job}
    (drafted' : other.Drafted store supply key owner present')
    (current : store.version? owner = other.base) :
    call.Consistent (store.apply other.finish.1) supply key owner total := by
  cases call with
  | storing tries job present result report work =>
    obtain ⟨named, counts, amends, drafted⟩ := consistent
    exact ⟨named, counts, amends, drafted.overtaken drafted' current⟩
  | _ => exact consistent

end FailCall

end

/-! ## One call -/

namespace FailCall

open Engine

/-- What a call does: it stores nothing, or it stores the changes of its report and ends it. -/
inductive Moved (key : JobKey) (owner : InstanceId) (total : Nat) (call : FailCall)
    (engine : Engine MemoryStore) : FailCall × Engine MemoryStore -> Prop where
  | rested {next after} (store : after.store = engine.store)
      (supply : engine.supply.next ≤ after.supply.next)
      (consistent : next.Consistent engine.store after.supply key owner total)
      (unwritten : ∀ result, next = .returned (.ok result) ->
        result.isWritten = false ∨ call = .returned (.ok result)) :
    Moved key owner total call engine (next, after)
  | stored {tries job present result report work queue}
      (phase : call = .storing tries job present result report work)
      (current : engine.store.version? owner = work.base) :
    Moved key owner total call engine (.returned (.ok result), { engine with
      store := engine.store.apply work.finish.1
      queue := queue })

variable {key : JobKey} {owner : InstanceId} {total : Nat} {problem : JobFailure}
  {engine : Engine MemoryStore}

/-- A unit of work that was prepared amends the job and was made of the state that is stored. -/
theorem drafted_of_sliced (key : JobKey) (sound : engine.store.Sound engine.supply)
    (transient : problem.kind = .transient) {job : Job} {config : EngineConfig}
    {result : FailureOutcome} {report : RunReport} {work : UnitOfWork} {programs : ProgramCache}
    {state : InstanceState} {program : Program}
    (sliced : Sliced engine owner (job.fail problem config) result report work programs state
      program) :
    job.Amends work result ∧
      work.Drafted engine.store work.supply key owner (engine.store.jobs.get? key) ∧
      engine.supply.next ≤ work.supply.next := by
  obtain ⟨changed, parts⟩ := slice_parts sliced.done
  have begun := sound _ _ sliced.stored
  have shapely : (UnitOfWork.begin state engine.now engine.supply).Shapely := shapely_begin begun
  have notes : (UnitOfWork.begin state engine.now engine.supply).Notes state := notes_begin begun
  obtain ⟨continues, changed_shapely⟩ :
      (UnitOfWork.begin state engine.now engine.supply).Continues changed ∧
        changed.Shapely := by
    rcases Job.fail_cases parts.made with ⟨fiber, wanted, failed⟩ | ⟨-, -, rfl⟩
    · exact ⟨failed.continues, failed.shapely wanted shapely⟩
    · exact ⟨.refl _, shapely⟩
  have ran := parts.ran changed_shapely
  have whole := continues.trans ran.confined.toContinues
  refine ⟨Job.amends_of_made transient ⟨rfl, rfl⟩ parts.made ran, ⟨ran.shapely changed_shapely,
    whole.id.trans begun.keyed, Nat.lt_of_lt_of_le begun.drawn whole.supply, Nat.le_refl _, ?_⟩,
    whole.supply⟩
  exact ⟨state, state, whole.notes _ notes, whole.base, sliced.stored, Nat.le_refl _,
    fun _ => ⟨rfl, rfl⟩⟩

/-- Every call rests or stores. -/
theorem moved {call : FailCall} {row : Job}
    (consistent : call.Consistent engine.store engine.supply key owner total)
    (sound : engine.store.Sound engine.supply) (stored : engine.store.jobs.get? key = some row)
    (counts : row.Counts key owner total) (transient : problem.kind = .transient) :
    Moved key owner total call engine (call.next key problem engine) := by
  have looked := outcome_jobOf key engine
  rw [stored] at looked
  cases call with
  | begin =>
    rw [next_of_ok (outcome_bind_ok looked)]
    exact .rested rfl (Nat.le_refl _) counts.owner nofun
  | asking asked =>
    have steps : outcome (step key problem (.asking asked)) engine = _ :=
      outcome_bind_ok (outcome_isCompleted key asked engine)
    cases first : (engine.store.completions.get? key).isSome with
    | true =>
      rw [first] at steps
      rw [next_of_ok steps]
      refine .rested rfl (Nat.le_refl _) trivial (fun result same => .inl ?_)
      cases same
      rfl
    | false =>
      rw [first] at steps
      rw [next_of_ok steps]
      exact .rested rfl (Nat.le_refl _) consistent nofun
  | looking tries =>
    obtain ⟨asked, config, remaining, made⟩ := tries
    cases remaining with
    | zero =>
      have steps : outcome (step key problem (.looking ⟨asked, config, 0, made⟩)) engine =
        (.error (.contention asked made), engine) := rfl
      rw [next_of_error steps]
      exact .rested rfl (Nat.le_refl _) trivial nofun
    | succ remaining =>
      rw [next_of_ok (outcome_bind_ok looked)]
      exact .rested rfl (Nat.le_refl _) ⟨consistent, counts⟩ nofun
  | loading tries job =>
    obtain ⟨rfl, counts⟩ := consistent
    have prepared := prepared_prepare tries.owner (job.fail problem tries.config) engine
    rcases reached : outcome (prepare tries.owner (job.fail problem tries.config)) engine with
      ⟨answer, after⟩
    have steps : outcome (step key problem (.loading tries job)) engine = _ :=
      outcome_bind_ok (outcome_getThe engine)
    rw [outcome_bind, reached] at steps
    rw [reached] at prepared
    cases prepared with
    | missing absent =>
      rw [next_of_error steps]
      exact .rested rfl (Nat.le_refl _) trivial nofun
    | unloaded found failed =>
      rw [next_of_error steps]
      exact .rested rfl (Nat.le_refl _) trivial nofun
    | refused found loaded failed =>
      rw [next_of_error steps]
      exact .rested rfl (Nat.le_refl _) trivial nofun
    | sliced sliced =>
      rw [next_of_ok steps]
      obtain ⟨amends, drafted, grows⟩ := drafted_of_sliced key sound transient sliced
      exact .rested rfl grows ⟨rfl, counts, amends, drafted⟩ nofun
  | storing tries job present result report work =>
    obtain ⟨named, counts, amends, drafted⟩ := consistent
    have deposited := deposited_deposit result report work engine
    rcases reached : outcome (deposit result report work) engine with ⟨answer, after⟩
    have steps : outcome (step key problem (.storing tries job present result report work)) engine =
        _ := outcome_bind (deposit result report work) _ engine
    rw [reached] at steps deposited
    cases deposited with
    | idle empty =>
      rw [next_of_ok steps]
      refine .rested rfl (Nat.le_refl _) trivial (fun other same => .inl ?_)
      cases same
      cases written : result.isWritten with
      | false => rfl
      | true =>
        rw [amends.nonempty written] at empty
        cases empty
    | contended nonempty stale =>
      rw [next_of_ok steps]
      exact .rested rfl (Nat.le_refl _) named nofun
    | committed nonempty current =>
      rw [next_of_ok steps]
      rw [drafted.named] at current
      exact .stored rfl current
  | returned answer =>
    rw [show next key problem (.returned answer) engine = (.returned answer, engine) from rfl]
    refine .rested rfl (Nat.le_refl _) trivial (fun result same => .inr same)

end FailCall

/-! ## Any number of calls -/

namespace Contest

variable {Client : Type} {key : JobKey} {problems : Client -> JobFailure} {owner : InstanceId}
  {total : Nat} {contest : Contest Client}

/-- Stored states are sound and what calls know is right. -/
structure Consistent (contest : Contest Client) (key : JobKey) (owner : InstanceId) (total : Nat) :
    Prop where
  sound : contest.store.Sound contest.supply
  calls : ∀ client,
    (contest.calls client).Consistent contest.store contest.supply key owner total

/-- How far the attempts of a job get ahead while some reports end. -/
structure Accounts (row later : Job) (returns : List (FailReturn Client)) : Prop where
  total : later.attempt + later.retriesRemaining = row.attempt + row.retriesRemaining
  attempt : (later.attempt : Int) + (returns.map FailReturn.gap).sum =
    row.attempt + returns.countP FailReturn.isRetry

theorem Accounts.refl (row : Job) : Accounts row row ([] : List (FailReturn Client)) :=
  ⟨rfl, rfl⟩

theorem Accounts.trans {row middle last : Job} {returns later : List (FailReturn Client)}
    (earlier : Accounts row middle returns) (rest : Accounts middle last later) :
    Accounts row last (returns ++ later) := by
  refine ⟨rest.total.trans earlier.total, ?_⟩
  have := earlier.attempt
  have := rest.attempt
  rw [List.map_append, List.sum_append, List.countP_append]
  omega

/-- A report that has counted its own retry, if any, from some row. -/
theorem accounts_of_retried {row former later : Job} {times : Nat} {done : FailReturn Client}
    (retried : former.Retried later times) (counts : former.Counts key owner total)
    (counts' : row.Counts key owner total) (gap : done.gap = row.attempt - former.attempt)
    (retries : (if done.isRetry then 1 else 0) = times) :
    later.Counts key owner total ∧ Accounts row later [done] := by
  have counted := retried.counts counts
  refine ⟨counted, counted.total.trans counts'.total.symm, ?_⟩
  have attempt := retried.attempt
  rw [List.map_singleton, List.sum_singleton, gap, List.countP_singleton, retries]
  omega

/-- What the changes of a report make of the job: a retry is counted from the job that was read. -/
theorem accounts_of_amends {store : MemoryStore} {row job : Job} {client : Client}
    {result : FailureOutcome} {work : UnitOfWork} (amends : job.Amends work result)
    (counts : job.Counts key owner total) (stored : store.jobs.get? key = some row)
    (counts' : row.Counts key owner total) :
    ∃ later, (store.apply work.finish.1).jobs.get? key = some later ∧
      later.Counts key owner total ∧
      Accounts row later [⟨client, .ok result, some (job, some row)⟩] := by
  have named := counts.key
  subst named
  rw [jobs_apply]
  cases amends with
  | retry amended =>
    obtain ⟨later, found, retried⟩ := amended store.jobs
    exact ⟨later, found, accounts_of_retried retried counts counts' rfl rfl⟩
  | bury pending amended =>
    obtain ⟨later, found, retried, -⟩ := amended store.jobs
    exact ⟨later, found, accounts_of_retried retried counts counts' rfl rfl⟩
  | ignore kept =>
    obtain ⟨later, found, retried⟩ := kept stored
    exact ⟨later, found, accounts_of_retried retried counts' counts' (Int.sub_self _).symm rfl⟩

/-- A report that ends without a change of the job leaves everything accounted for. -/
theorem accounts_of_unwritten {call next : FailCall} (unwritten : ∀ result,
    next = .returned (.ok result) -> result.isWritten = false ∨ call = .returned (.ok result))
    (row : Job) (client : Client) : Accounts row row (call.return? client next).toList := by
  unfold FailCall.return?
  split
  · exact .refl row
  · rename_i answer running
    refine ⟨rfl, ?_⟩
    cases answer with
    | error error => simp [FailReturn.gap, FailReturn.isRetry]
    | ok result =>
      have kept := (unwritten result rfl).resolve_right (running _)
      have still : result.isRetry = false := by
        cases result with
        | ignored => rfl
        | _ => cases kept
      simp [FailReturn.gap_of_kept kept, FailReturn.isRetry, still]
  · exact .refl row

variable [DecidableEq Client]

/-- One call keeps everything consistent and accounts for what it makes of the job. -/
theorem Consistent.move (consistent : contest.Consistent key owner total)
    (transient : ∀ client, (problems client).kind = .transient) {row : Job}
    (stored : contest.store.jobs.get? key = some row) (counts : row.Counts key owner total)
    (client : Client) (now : Instant) :
    (contest.move key problems client now).Consistent key owner total ∧
      ∃ later, (contest.move key problems client now).store.jobs.get? key = some later ∧
        later.Counts key owner total ∧
        Accounts row later (contest.return? key problems client now).toList := by
  have moved : FailCall.Moved key owner total (contest.calls client)
      (contest.engine client now) _ :=
    FailCall.moved (consistent.calls client) consistent.sound stored counts (transient client)
  rcases reached : (contest.calls client).next key (problems client) (contest.engine client now)
    with ⟨call, after⟩
  have moves : contest.move key problems client now =
      { store := after.store
        supply := after.supply
        engines := Function.update contest.engines client after
        calls := Function.update contest.calls client call } := by
    rw [Contest.move, reached]
  rw [return?, moves]
  dsimp only
  rw [Function.update_self]
  have others : ∀ {store supply},
      (∀ other, (contest.calls other).Consistent store supply key owner total) ->
      call.Consistent store supply key owner total ->
      ∀ other, (Function.update contest.calls client call other).Consistent store supply key owner
        total := by
    intro store supply rest present other
    by_cases same : other = client
    · subst same
      rw [Function.update_self]
      exact present
    · rw [Function.update_of_ne same]
      exact rest other
  rw [reached] at moved
  cases moved with
  | rested store supply present unwritten =>
    refine ⟨⟨?_, others (fun other => ?_) ?_⟩, row, ?_, counts,
      accounts_of_unwritten unwritten row client⟩
    · rw [store]
      exact fun id state found => (consistent.sound id state found).mono supply
    · rw [store]
      exact (consistent.calls other).keep supply
    · rw [store]
      exact present
    · rw [store]
      exact stored
  | stored phase current =>
    rename_i tries job present result report work queue
    have known := consistent.calls client
    rw [phase] at known
    obtain ⟨-, counts', amends, drafted⟩ := known
    have read := (drafted.stored current).2
    rw [stored] at read
    subst read
    refine ⟨⟨drafted.sound current consistent.sound, others (fun other => ?_) trivial⟩, ?_⟩
    · exact (consistent.calls other).overtaken drafted current
    · rw [phase]
      exact accounts_of_amends amends counts' stored counts

/-- So does any number of calls. -/
theorem Consistent.moveAll (consistent : contest.Consistent key owner total)
    (transient : ∀ client, (problems client).kind = .transient) {row : Job}
    (stored : contest.store.jobs.get? key = some row) (counts : row.Counts key owner total)
    (schedule : List (Client × Instant)) :
    ∃ later, (contest.moveAll key problems schedule).store.jobs.get? key = some later ∧
      Accounts row later (contest.returnsOf key problems schedule) := by
  induction schedule generalizing contest row with
  | nil => exact ⟨row, stored, .refl row⟩
  | cons next rest ih =>
    obtain ⟨client, now⟩ := next
    obtain ⟨consistent, between, stored, counts, accounts⟩ :=
      consistent.move transient stored counts client now
    obtain ⟨later, found, rest⟩ := ih consistent stored counts
    exact ⟨later, found, accounts.trans rest⟩

/-- Retries are accounted for, up to the gaps. -/
theorem retries_accounted (sound : contest.store.Sound contest.supply) {job : Job}
    (stored : contest.store.jobs.get? key = some job) (named : job.key = key)
    (begun : ∀ client, contest.calls client = .begin)
    (transient : ∀ client, (problems client).kind = .transient)
    (schedule : List (Client × Instant)) :
    ∃ later, (contest.moveAll key problems schedule).store.jobs.get? key = some later ∧
      later.attempt + later.retriesRemaining = job.attempt + job.retriesRemaining ∧
      (later.attempt : Int) +
          ((contest.returnsOf key problems schedule).map FailReturn.gap).sum =
        job.attempt + (contest.returnsOf key problems schedule).countP FailReturn.isRetry ∧
      ((∀ done ∈ contest.returnsOf key problems schedule, done.Punctual) ->
        later.attempt =
            job.attempt + (contest.returnsOf key problems schedule).countP FailReturn.isRetry ∧
          later.retriesRemaining +
              (contest.returnsOf key problems schedule).countP FailReturn.isRetry =
            job.retriesRemaining) := by
  have consistent : contest.Consistent key job.owner (job.attempt + job.retriesRemaining) := by
    refine ⟨sound, fun client => ?_⟩
    rw [begun]
    trivial
  obtain ⟨later, found, accounts⟩ :=
    consistent.moveAll transient stored ⟨named, rfl, rfl⟩ schedule
  refine ⟨later, found, accounts.total, accounts.attempt, fun punctual => ?_⟩
  have none : ((contest.returnsOf key problems schedule).map FailReturn.gap).sum = 0 :=
    List.sum_eq_zero (fun gap listed => by
      obtain ⟨done, ended, rfl⟩ := List.mem_map.1 listed
      exact (punctual done ended).gap)
  have attempt := accounts.attempt
  have total := accounts.total
  omega

/-! ## Reports that have ended -/

/-- A report has ended if it had before, or if it ends now. -/
theorem returned_move (contest : Contest Client) (client other : Client) (now : Instant)
    (answer : Except EngineError FailureOutcome) :
    (contest.move key problems client now).calls other = .returned answer ↔
      contest.calls other = .returned answer ∨
        ∃ done ∈ contest.return? key problems client now,
          done.client = other ∧ done.answer = answer := by
  have calls : (contest.move key problems client now).calls = Function.update contest.calls client
      ((contest.calls client).next key (problems client) (contest.engine client now)).1 := rfl
  simp only [return?, FailCall.mem_return?_iff, calls, Function.update_self]
  by_cases same : other = client
  · subst same
    rw [Function.update_self]
    constructor
    · intro ended
      by_cases former : ∃ answer, contest.calls other = .returned answer
      · obtain ⟨before, former⟩ := former
        rw [former] at ended
        cases ended
        exact .inl former
      · exact .inr ⟨⟨other, answer, (contest.calls other).rows?⟩,
          ⟨fun answer ended => former ⟨answer, ended⟩, ended, rfl, rfl⟩, rfl, rfl⟩
    · rintro (former | ⟨done, ⟨-, ended, -, -⟩, -, rfl⟩)
      · rw [former]
        rfl
      · exact ended
  · rw [Function.update_of_ne same]
    constructor
    · exact .inl
    · rintro (former | ⟨done, ⟨-, -, asked, -⟩, rfl, -⟩)
      · exact former
      · exact absurd asked same

/-- Every report that ends is listed once, with its answer. -/
theorem returned_moveAll (contest : Contest Client) (schedule : List (Client × Instant)) :
    ((contest.returnsOf key problems schedule).map FailReturn.client).Nodup ∧
    (∀ done ∈ contest.returnsOf key problems schedule, ∀ answer,
      contest.calls done.client ≠ .returned answer) ∧
    ∀ client answer, (contest.moveAll key problems schedule).calls client = .returned answer ↔
      contest.calls client = .returned answer ∨
        ∃ done ∈ contest.returnsOf key problems schedule,
          done.client = client ∧ done.answer = answer := by
  induction schedule generalizing contest with
  | nil => simp [returnsOf, moveAll]
  | cons call rest ih =>
    obtain ⟨client, now⟩ := call
    obtain ⟨once, running, ended⟩ := ih (contest.move key problems client now)
    have moved := fun other answer =>
      @returned_move Client key problems _ contest client other now answer
    rw [returnsOf, moveAll]
    refine ⟨?_, fun done listed answer former => ?_, fun other answer => ?_⟩
    · rw [List.map_append, List.nodup_append]
      refine ⟨?_, once, ?_⟩
      · cases contest.return? key problems client now with
        | none => exact .nil
        | some done => exact List.nodup_singleton _
      · rintro _ listed _ listed' rfl
        obtain ⟨done, present, same⟩ := List.mem_map.1 listed
        obtain ⟨done', present', same'⟩ := List.mem_map.1 listed'
        refine running done' present' done.answer ((moved _ _).2 (.inr ⟨done, ?_, ?_, rfl⟩))
        · exact Option.mem_toList.1 present
        · exact same.trans same'.symm
    · rcases List.mem_append.1 listed with present | later
      · obtain ⟨asked, -, named, -⟩ := FailCall.mem_return?_iff.1 (Option.mem_toList.1 present)
        exact asked answer (named ▸ former)
      · exact running done later answer ((moved _ _).2 (.inl former))
    · rw [ended, moved, or_assoc]
      refine or_congr_right ?_
      simp only [List.mem_append, Option.mem_toList, Option.mem_def, or_and_right, exists_or]

end Contest

/-! ## A report that is overtaken -/

namespace Overtaken

/-- A process of one task, whose job is tried three times. -/
def program : Program where
  instructions := [.dispatch 0 0 2 [], .finish]
  symbols := { nodes := [⟨"t", Eq.refl true⟩], taskTypes := ["work"] }
  hash := ⟨"cf03b8390ad79a9e852a3fff37508fdb9547c240d06e49dcbcea5f38e768f433", by decide +kernel⟩

/-- An engine that has the program at hand, but no instance. -/
def idle : Engine MemoryStore where
  store := { programs := OrderedMap.empty.insert program.hash program }
  programs := OrderedMap.empty.insert program.hash program
  now := default
  supply := ⟨0⟩

/-- An instance of the process waits for its job. -/
def engine : Engine MemoryStore := idle.performAll [.start program.hash .null ""]

theorem sound : engine.Sound := by
  have nothing : idle.Sound := fun id state absent => by cases absent
  exact (Engine.History.of_operations idle _).preserves
    (fun _ _ _ advance sound => advance.sound sound) nothing

/-- Two engines report that the job has failed. -/
def contest : Contest Bool where
  store := engine.store
  supply := engine.supply
  engines _ := engine
  calls _ := .begin

/-- The key of the job. -/
def key : JobKey := ⟨"00000000-0000-0000-0000-000000000000:t:0:0:34e28a9413014927"⟩

def problems (_ : Bool) : JobFailure := ⟨.transient, "timeout"⟩

/-- One engine reads the job, the other one makes its whole report, and then the first one loads
the state and stores its changes. -/
def schedule : List (Bool × Instant) :=
  [false, false, false, true, true, true, true, true, false, false].map (fun client =>
    (client, default))

/-- Both engines schedule a retry, the second one of a job that is behind. -/
theorem run : (contest.store.jobs.get? key).any (fun job =>
      decide (job.key = key ∧ job.attempt = 1 ∧ job.retriesRemaining = 2)) = true ∧
    (contest.returnsOf key problems schedule).countP FailReturn.isRetry = 2 ∧
    ((contest.returnsOf key problems schedule).map FailReturn.gap).sum = 1 := by
  decide +kernel

end Overtaken

/-- Two retries are scheduled, but only one of them is counted. -/
theorem Contest.retries_accounted_of_overtaken :
    ∃ later, (Overtaken.contest.moveAll Overtaken.key Overtaken.problems
        Overtaken.schedule).store.jobs.get? Overtaken.key = some later ∧
      (Overtaken.contest.returnsOf Overtaken.key Overtaken.problems Overtaken.schedule).countP
        FailReturn.isRetry = 2 ∧
      later.attempt = 2 ∧ later.retriesRemaining = 1 := by
  obtain ⟨waits, retries, gaps⟩ := Overtaken.run
  obtain ⟨job, stored, facts⟩ := (Option.any_eq_true _ _).1 waits
  obtain ⟨named, attempt, remaining⟩ := of_decide_eq_true facts
  obtain ⟨later, found, total, accounts, -⟩ :=
    @Contest.retries_accounted Bool Overtaken.key Overtaken.problems Overtaken.contest _
      Overtaken.sound job stored named (fun _ => rfl) (fun _ => rfl) Overtaken.schedule
  refine ⟨later, found, retries, ?_, ?_⟩
  · omega
  · omega

end ProcessEngine
