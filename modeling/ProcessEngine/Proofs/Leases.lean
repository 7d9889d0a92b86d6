import Mathlib.Algebra.Order.Ring.Int
import ProcessEngine.Proofs.Footprints
import ProcessEngine.Proofs.Listeners

/-!
# Leases of claims

A job that was handed out is not handed out again before its lease has ended, whoever asks for
whatever jobs at whatever time, unless a transition writes its row (`Engine.claims_exclude`). A lease
is configured as a number of 64 bits without a sign but counted with one, so a lease of 2^63
milliseconds or more has ended before it begins and excludes nobody.
-/

namespace ProcessEngine

open OrderedMap

/-- A transition writes the row of a job. -/
def Transition.Writes (transition : Transition) (key : JobKey) : Prop :=
  (∃ write ∈ transition.jobs, write.job.key = key) ∨ key ∈ transition.cancelledJobs

namespace MemoryStore

/-- What becomes of a store by the requests of anybody: transitions are stored, jobs are claimed,
dead letters are dropped and programs are kept. -/
inductive Becomes (stores : Transition -> Prop) (claims : ClaimRequest -> Prop)
    (first : MemoryStore) : MemoryStore -> Prop where
  | refl : Becomes stores claims first first
  | commit {store next transition} (prior : Becomes stores claims first store)
      (allowed : stores transition) (accepted : store.commit transition = .ok next) :
    Becomes stores claims first next
  | claim {store request} (prior : Becomes stores claims first store) (asked : claims request) :
    Becomes stores claims first (store.claim request).2
  | purge {store} (prior : Becomes stores claims first store) (now : Instant) :
    Becomes stores claims first (store.purge now).2
  | keep {store next program} (prior : Becomes stores claims first store)
      (accepted : store.putProgram program = .ok next) : Becomes stores claims first next

/-- Whatever anybody may ask for. -/
abbrev Reaches (first last : MemoryStore) : Prop :=
  Becomes (fun _ => True) (fun _ => True) first last

/-- Every job is found under its own key. -/
def Keyed (store : MemoryStore) : Prop :=
  ∀ key job, store.jobs.get? key = some job -> job.key = key

variable {store first next : MemoryStore} {transition : Transition} {request : ClaimRequest}
  {key : JobKey} {job : Job}

/-! ## Rows of jobs -/

/-- What a transition makes of a table of jobs. -/
theorem touches_jobs (transition : Transition) : Touches transition.Writes (fun table =>
    transition.cancelledJobs.foldl cancelJob (transition.jobs.foldl writeJob table)) :=
  touches_writes (fun write listed => .inl ⟨write, listed, rfl⟩) (fun _ listed => .inr listed)

theorem jobs_of_commit (accepted : store.commit transition = .ok next) :
    next.jobs = transition.cancelledJobs.foldl cancelJob
      (transition.jobs.foldl writeJob store.jobs) := by
  rw [MemoryStore.commit] at accepted
  split at accepted
  · cases accepted
    rfl
  · cases accepted

theorem jobs_of_putProgram {program : Program} (accepted : store.putProgram program = .ok next) :
    next.jobs = store.jobs := by
  obtain ⟨-, rfl⟩ := putProgram_eq_ok_iff.1 accepted
  rfl

/-- What is stored for a job is found under the key of the job. -/
theorem key_of_writes {writes : List JobWrite} {table : OrderedMap JobKey Job}
    (keyed : ∀ key job, table.get? key = some job -> job.key = key)
    (found : (writes.foldl writeJob table).get? key = some job) : job.key = key := by
  induction writes generalizing table with
  | nil => exact keyed _ _ found
  | cons write rest ih =>
    refine ih (fun asked present stored => ?_) found
    cases write with
    | dispatch job =>
      rcases Option.or_eq_some_iff.1 ((get?_insertNew ..).symm.trans stored) with old | ⟨-, new⟩
      · exact keyed _ _ old
      · split at new
        · rename_i same
          cases new
          exact same.symm
        · cases new
    | update job =>
      have stored := (get?_insert ..).symm.trans stored
      split at stored
      · rename_i same
        cases stored
        exact same.symm
      · exact keyed _ _ stored

theorem key_of_cancelled {keys : List JobKey} {table : OrderedMap JobKey Job}
    (keyed : ∀ key job, table.get? key = some job -> job.key = key)
    (found : (keys.foldl cancelJob table).get? key = some job) : job.key = key := by
  rw [get?_foldl_cancelJob] at found
  split at found
  · obtain ⟨former, before, rfl⟩ := Option.map_eq_some_iff.1 found
    exact former.develops_withdrawn.key.trans (keyed _ _ before)
  · exact keyed _ _ found

/-! ## Claims -/

/-- What is handed out are stored jobs that answer the request. -/
theorem Keyed.mem_claimable (keyed : store.Keyed) (listed : job ∈ store.claimable request) :
    store.jobs.get? job.key = some job ∧ answers request job = true := by
  have sorted := List.mem_of_mem_take listed
  rw [mem_sortOn, mem_sortOn, List.mem_filter, mem_values_iff] at sorted
  obtain ⟨⟨key, stored⟩, answers⟩ := sorted
  exact ⟨keyed _ _ stored ▸ stored, answers⟩

/-- No job is handed out twice at once. -/
theorem Keyed.pairwise_claimable (keyed : store.Keyed) (request : ClaimRequest) :
    (store.claimable request).Pairwise (fun left right => left.key ≠ right.key) := by
  have distinct := store.jobs.pairwise_values Job.key keyed
  refine List.Pairwise.sublist (List.take_sublist _ _) ?_
  exact (((sortBy_perm _ _).trans (sortBy_perm _ _)).pairwise_iff Ne.symm).2 (distinct.filter _)

/-- A job is claimed because it answers the request, or it stays as it is. -/
theorem claim_cases (store : MemoryStore) (request : ClaimRequest) (key : JobKey) :
    (∃ former ∈ store.claimable request, former.key = key ∧
      (store.claim request).2.jobs.get? key = some (former.claim request.worker request.now)) ∨
    ((∀ former ∈ store.claimable request, former.key ≠ key) ∧
      (store.claim request).2.jobs.get? key = store.jobs.get? key) := by
  rcases get?_foldl_insert_cases Job.key (fun job => job)
      ((store.claimable request).map (fun job => job.claim request.worker request.now))
      store.jobs key with ⟨item, listed, same, later⟩ | ⟨absent, later⟩
  · obtain ⟨former, among, rfl⟩ := List.mem_map.1 listed
    exact .inl ⟨former, among, same, later⟩
  · exact .inr ⟨fun former among => absent (former.claim _ _) (List.mem_map.2 ⟨former, among, rfl⟩),
      later⟩

/-- What is handed out is stored as it is handed out. -/
theorem Keyed.get?_claim (keyed : store.Keyed) (handedOut : job ∈ (store.claim request).1) :
    (store.claim request).2.jobs.get? job.key = some job := by
  refine get?_foldl_insert_of_mem Job.key (fun job => job) ?_ handedOut store.jobs
  exact List.pairwise_map.2 (keyed.pairwise_claimable request)

theorem Keyed.claim (keyed : store.Keyed) (request : ClaimRequest) :
    (store.claim request).2.Keyed := by
  intro key job found
  rcases claim_cases store request key with ⟨former, -, same, later⟩ | ⟨-, later⟩
  · cases later.symm.trans found
    exact same
  · exact keyed _ _ (later.symm.trans found)

/-- Jobs stay under their keys. -/
theorem Becomes.keyed {stores : Transition -> Prop} {claims : ClaimRequest -> Prop}
    (becomes : Becomes stores claims first store) (keyed : first.Keyed) : store.Keyed := by
  induction becomes with
  | refl => exact keyed
  | commit prior allowed accepted ih =>
    intro key job found
    rw [jobs_of_commit accepted] at found
    exact key_of_cancelled (fun _ _ written => key_of_writes ih written) found
  | claim prior asked ih => exact ih.claim _
  | purge prior now ih => exact ih
  | keep prior accepted ih =>
    intro key job found
    rw [jobs_of_putProgram accepted] at found
    exact ih _ _ found

end MemoryStore

/-! ## How long a claim lasts -/

namespace Instant

/-- An instant of a known position is at or before every one of its second that is not earlier. -/
theorem ofPosition_le {instant : Instant} {position : Int} (bound : position ≤ instant.position)
    (early : position < (instant.second + 1) * perSecond) : ofPosition position ≤ instant := by
  have split := Int.mul_fdiv_add_fmod position perSecond
  have small := Int.fmod_lt_of_pos position (show 0 < perSecond by decide)
  have positive := Int.fmod_nonneg_of_pos position (show 0 < perSecond by decide)
  simp only [Instant.position, perSecond] at *
  change _ < instant.second ∨ (_ = instant.second ∧ _ ≤ instant.nanosecond)
  simp only [ofPosition, perSecond]
  omega

/-- Moving an instant back does not bring it forward. -/
theorem shifted_le {instant : Instant} (valid : instant.nanosecond < 2 * perSecond)
    {nanoseconds : Int} (back : nanoseconds ≤ 0) : instant.shifted nanoseconds ≤ instant := by
  unfold shifted
  by_cases leap : perSecond ≤ (instant.nanosecond : Int)
  · simp only [isLeap, leap, decide_true, if_true]
    rw [if_neg (by omega)]
    split
    · apply ofPosition_le
      · omega
      · simp only [position, perSecond] at *
        omega
    · exact Or.inr ⟨rfl, show _ ≤ instant.nanosecond by dsimp only; omega⟩
  · simp only [isLeap, leap, decide_false, Bool.false_eq_true, if_false]
    apply ofPosition_le
    · omega
    · simp only [position, perSecond] at *
      omega

end Instant

namespace EngineConfig

variable {config : EngineConfig}

/-- A lease of less than 2^63 milliseconds is counted as it is configured. -/
theorem lease_of_lt (short : config.claimLease < 2 ^ 63) : config.lease = config.claimLease :=
  Int64.toInt_ofNat_of_lt short

/-- A longer one is counted as one that has ended before it begins. -/
theorem lease_of_le (long : 2 ^ 63 ≤ config.claimLease) (fits : config.claimLease < 2 ^ 64) :
    config.lease = config.claimLease - 2 ^ 64 := by
  rw [lease, Int64.toInt_ofNat', Int.bmod_def, Int64.size]
  omega

end EngineConfig

namespace Job

variable {job : Job} {lease : Int} {since now : Instant}

/-- The job was claimed at a time, or again after the lease of that claim had ended. -/
def ClaimedSince (job : Job) (since : Instant) (lease : Int) : Prop :=
  job.status = .claimed ∧ ∃ claimedAt, job.claimedAt = some claimedAt ∧
    (claimedAt = since ∨ since.shifted (lease * Instant.perMillisecond) ≤ claimedAt)

theorem claimedSince_claim (job : Job) (worker : String) (now : Instant) (lease : Int) :
    (job.claim worker now).ClaimedSince now lease :=
  ⟨rfl, now, rfl, .inl rfl⟩

/-- Nobody may claim the job again before the lease has ended. -/
theorem ClaimedSince.le_of_isClaimable (claimed : job.ClaimedSince since lease)
    (forward : 0 ≤ lease) (claimable : job.isClaimable now lease = true) :
    since.shifted (lease * Instant.perMillisecond) ≤ now := by
  obtain ⟨status, claimedAt, present, again⟩ := claimed
  simp only [isClaimable, status, present, decide_eq_true_eq] at claimable
  rcases again with rfl | later
  · exact claimable
  · have onward : claimedAt ≤ claimedAt.shifted (lease * Instant.perMillisecond) :=
      claimedAt.le_shifted _ (Int.mul_nonneg forward (by decide))
    exact Instant.le_trans later (Instant.le_trans onward claimable)

/-- And whoever claims it again claims it since then. -/
theorem ClaimedSince.claim (claimed : job.ClaimedSince since lease) (forward : 0 ≤ lease)
    (claimable : job.isClaimable now lease = true) (worker : String) :
    (job.claim worker now).ClaimedSince since lease :=
  ⟨rfl, now, rfl, .inr (claimed.le_of_isClaimable forward claimable)⟩

end Job

namespace MemoryStore

variable {store first last : MemoryStore} {request : ClaimRequest} {key : JobKey} {since : Instant}
  {lease : Int}

/-- The job of the key is stored as claimed since a time. -/
def HoldsClaim (store : MemoryStore) (key : JobKey) (since : Instant) (lease : Int) : Prop :=
  ∃ job, store.jobs.get? key = some job ∧ job.ClaimedSince since lease

/-- What is handed out is stored as claimed. -/
theorem Keyed.holdsClaim (keyed : store.Keyed) {job : Job}
    (handedOut : job ∈ (store.claim request).1) (lease : Int) :
    (store.claim request).2.HoldsClaim job.key request.now lease := by
  refine ⟨job, keyed.get?_claim handedOut, ?_⟩
  obtain ⟨former, -, rfl⟩ := List.mem_map.1 handedOut
  exact former.claimedSince_claim _ _ _

/-- It stays claimed as long as no transition writes its row. -/
theorem Becomes.holdsClaim
    (becomes : Becomes (fun transition => ¬ transition.Writes key)
      (fun request => request.lease = lease) first last)
    (keyed : first.Keyed) (forward : 0 ≤ lease) (holds : first.HoldsClaim key since lease) :
    last.HoldsClaim key since lease := by
  induction becomes with
  | refl => exact holds
  | commit prior unwritten accepted ih =>
    obtain ⟨job, stored, claimed⟩ := ih
    refine ⟨job, ?_, claimed⟩
    rw [jobs_of_commit accepted, (touches_jobs _).elsewhere unwritten]
    exact stored
  | claim prior same ih =>
    rename_i store request
    obtain ⟨job, stored, claimed⟩ := ih
    rcases claim_cases store request key with
      ⟨former, listed, rfl, later⟩ | ⟨-, later⟩
    · obtain ⟨stored', answers⟩ := (prior.keyed keyed).mem_claimable listed
      cases stored.symm.trans stored'
      rw [MemoryStore.answers, Bool.and_eq_true, same] at answers
      exact ⟨_, later, claimed.claim forward answers.2 _⟩
    · exact ⟨job, later.trans stored, claimed⟩
  | purge prior now ih => exact ih
  | keep prior accepted ih =>
    rw [HoldsClaim, jobs_of_putProgram accepted]
    exact ih

variable {again : ClaimRequest} {job : Job}

/-- A job that was handed out is not handed out again before its lease has ended. -/
theorem Keyed.excludes (keyed : store.Keyed) (handedOut : job ∈ (store.claim request).1)
    (becomes : Becomes (fun transition => ¬ transition.Writes job.key)
      (fun request => request.lease = lease) (store.claim request).2 last)
    (forward : 0 ≤ lease) (same : again.lease = lease)
    (later : ∃ job' ∈ (last.claim again).1, job'.key = job.key) :
    request.now.shifted (lease * Instant.perMillisecond) ≤ again.now := by
  obtain ⟨_, handedOut', about⟩ := later
  obtain ⟨former, listed, rfl⟩ := List.mem_map.1 handedOut'
  obtain ⟨stored, answers⟩ := (becomes.keyed (keyed.claim request)).mem_claimable listed
  obtain ⟨present, stored', claimed⟩ :=
    becomes.holdsClaim (keyed.claim request) forward (keyed.holdsClaim handedOut lease)
  rw [show former.key = job.key from about, stored'] at stored
  cases stored
  rw [MemoryStore.answers, Bool.and_eq_true, same] at answers
  exact claimed.le_of_isClaimable forward answers.2

/-- Every job that answers a request is handed out if there is room for all jobs. -/
theorem mem_claim_of_answers (stored : store.jobs.get? key = some job)
    (answers : MemoryStore.answers request job = true) (room : store.jobs.size ≤ request.limit) :
    job.claim request.worker request.now ∈ (store.claim request).1 := by
  refine List.mem_map.2 ⟨job, ?_, rfl⟩
  have sorted : ((sortOn Job.notBefore (sortOn Job.createdAt
      (store.jobs.values.filter (MemoryStore.answers request)))).length ≤ request.limit) := by
    rw [sortOn, (sortBy_perm _ _).length_eq, sortOn, (sortBy_perm _ _).length_eq]
    refine Nat.le_trans (List.length_filter_le _ _) (Nat.le_trans (Nat.le_of_eq ?_) room)
    exact List.length_map _
  rw [claimable, List.take_of_length_le sorted, mem_sortOn, mem_sortOn, List.mem_filter,
    mem_values_iff]
  exact ⟨⟨key, stored⟩, answers⟩

/-- A claimed job is handed out again when its lease has ended. -/
theorem hands_out_again {former : Job} {worker : String}
    (stored : store.jobs.get? key = some (former.claim worker since))
    (ended : since.shifted (request.lease * Instant.perMillisecond) ≤ request.now)
    (wanted : former.taskType ∈ request.taskTypes) (room : store.jobs.size ≤ request.limit) :
    ∃ again ∈ (store.claim request).1, again.key = former.key := by
  refine ⟨_, mem_claim_of_answers stored ?_ room, rfl⟩
  rw [answers, Bool.and_eq_true]
  exact ⟨List.contains_iff_mem.2 wanted, decide_eq_true ended⟩

end MemoryStore

namespace Engine

variable {engine next first last : Engine MemoryStore} {scope : Scope}
  {entries : List HistoryEntry} {taskTypes : List String} {worker : String} {limit : Nat}

/-! ## Calls of workers -/

/-- What an engine does to its store are requests. -/
theorem Advance.becomes (advance : Advance scope engine next) {start : MemoryStore}
    (reached : start.Reaches engine.store) : start.Reaches next.store := by
  have settles : ∀ {work : UnitOfWork} {store : MemoryStore},
      Settled engine.store work store -> start.Reaches store := by
    intro work store settled
    cases settled with
    | discarded => exact reached
    | stored current =>
      have accepted : engine.store.commit work.finish.1 =
          .ok (engine.store.apply work.finish.1) := if_pos current
      exact .commit reached trivial accepted
  cases advance with
  | rest store supply known =>
    rw [store]
    exact reached
  | learn brought added => exact reached
  | keep known put => exact .keep reached put
  | claim request => exact .claim reached trivial
  | purge now => exact .purge reached now
  | create loaded done settled => exact settles settled
  | slice intended admitted sliced settled => exact settles settled

/-- Every history of an engine makes requests of its store. -/
theorem History.reaches (history : History first entries last) :
    first.store.Reaches last.store := by
  have step : ∀ scope engine next, Advance scope engine next ->
      first.store.Reaches engine.store -> first.store.Reaches next.store :=
    fun _ _ _ advance => advance.becomes
  exact history.preserves step .refl

/-- What a worker asks the store for. -/
def claimRequest (engine : Engine MemoryStore) (taskTypes : List String) (worker : String)
    (limit : Nat) : ClaimRequest :=
  ⟨taskTypes, worker, limit, engine.now, engine.config.lease⟩

theorem outcome_activate (engine : Engine MemoryStore) (taskTypes : List String) (worker : String)
    (limit : Nat) : outcome (EngineOperation.activate taskTypes worker limit).perform engine =
      (.ok (.claimed (engine.store.claim (engine.claimRequest taskTypes worker limit)).1),
        { engine with
          store := (engine.store.claim (engine.claimRequest taskTypes worker limit)).2 }) :=
  rfl

/-- A call hands out no job twice and no more jobs than it is asked for. Whatever was asked of the
store since, unless a transition has written the row of a job that was handed out, a later call
hands the job out again only when the lease of the first claim has ended, provided the lease is less
than 2^63 milliseconds. A longer one, if it is counted at all, keeps nobody away: the job is handed
out again to everybody who asks for it at the same time or later. -/
theorem claims_exclude (reached : MemoryStore.Reaches {} engine.store) {jobs : List Job}
    {after : Engine MemoryStore}
    (handsOut : outcome (EngineOperation.activate taskTypes worker limit).perform engine =
      (.ok (.claimed jobs), after)) :
    jobs.length ≤ limit ∧ (jobs.map Job.key).Nodup ∧
    ∀ job ∈ jobs, ∀ {later after' : Engine MemoryStore} {taskTypes' worker' limit' jobs'},
      later.config = engine.config ->
      outcome (EngineOperation.activate taskTypes' worker' limit').perform later =
        (.ok (.claimed jobs'), after') ->
      (engine.config.claimLease < 2 ^ 63 ->
        MemoryStore.Becomes (fun transition => ¬ transition.Writes job.key)
          (fun request => request.lease = engine.config.lease) after.store later.store ->
        (∃ again ∈ jobs', again.key = job.key) ->
          engine.now.shifted (engine.config.claimLease * Instant.perMillisecond) ≤ later.now) ∧
      (2 ^ 63 ≤ engine.config.claimLease -> engine.config.claimLease < 2 ^ 64 ->
        engine.now.nanosecond < 2 * Instant.perSecond ->
        Instant.earliest ≤ engine.now.shifted (engine.config.lease * Instant.perMillisecond) ->
        later.store = after.store -> engine.now ≤ later.now -> job.taskType ∈ taskTypes' ->
        after.store.jobs.size ≤ limit' -> ∃ again ∈ jobs', again.key = job.key) := by
  have keyed : engine.store.Keyed := reached.keyed (fun key job found => by cases found)
  cases (outcome_activate engine taskTypes worker limit).symm.trans handsOut
  refine ⟨?_, ?_, fun job handedOut later after' taskTypes' worker' limit' jobs' same again =>
    ⟨fun short becomes => ?_, fun long fits valid _ still since wanted room => ?_⟩⟩
  · rw [MemoryStore.claim, List.length_map]
    exact List.length_take_le _ _
  · rw [MemoryStore.claim, List.map_map, List.Nodup, List.pairwise_map]
    exact keyed.pairwise_claimable _
  · cases (outcome_activate later taskTypes' worker' limit').symm.trans again
    intro twice
    have counted := EngineConfig.lease_of_lt short
    rw [← counted]
    refine keyed.excludes handedOut becomes (counted ▸ Int.natCast_nonneg _) ?_ twice
    exact congrArg EngineConfig.lease same
  · cases (outcome_activate later taskTypes' worker' limit').symm.trans again
    have stored := keyed.get?_claim handedOut
    obtain ⟨former, -, rfl⟩ := List.mem_map.1 handedOut
    dsimp only at still room
    rw [← still] at stored room
    have early := EngineConfig.lease_of_le long fits
    rw [← same] at early
    refine MemoryStore.hands_out_again stored ?_ wanted room
    refine Instant.le_trans (Instant.shifted_le valid ?_) since
    have negative : later.config.lease ≤ 0 := by
      rw [early, same]
      omega
    exact Int.mul_nonpos_of_nonpos_of_nonneg negative (by decide)

end Engine

/-! ## A lease that is too long -/

namespace OverlongLease

/-- Jobs are to be kept away from others as long as can be configured. -/
def engine : Engine MemoryStore := { TaskRun.engine with config := { claimLease := 2 ^ 64 - 1 } }

def operations : List EngineOperation :=
  [.install TaskRun.program, .start TaskRun.program.hash .null ""]

/-- The task is started. -/
def started : Engine MemoryStore := engine.performAll operations

/-- The job of the task can be claimed. -/
theorem claimed :
    (started.store.claim (started.claimRequest ["work"] "a" 1)).1.any
      (fun job => job.taskType == "work") ∧
    (started.store.claim (started.claimRequest ["work"] "a" 1)).2.jobs.size ≤ 1 ∧
    started.config.claimLease = 2 ^ 64 - 1 ∧ started.now = default ∧
    Instant.earliest ≤ started.now.shifted (started.config.lease * Instant.perMillisecond) := by
  rw [started, operations, Engine.performAll_install TaskRun.checkHash_program rfl]
  decide +kernel

open Engine in
/-- It is handed out to two workers at once. -/
theorem claims_exclude_of_overlongLease :
    ∃ jobs after, outcome (EngineOperation.activate ["work"] "a" 1).perform started =
        (.ok (.claimed jobs), after) ∧
      ∃ jobs' after', outcome (EngineOperation.activate ["work"] "b" 1).perform after =
          (.ok (.claimed jobs'), after') ∧
        ∃ job ∈ jobs, ∃ again ∈ jobs', again.key = job.key := by
  have reached : MemoryStore.Reaches {} started.store :=
    (History.of_operations engine operations).reaches
  have facts := claimed
  -- The engine is not to be run again.
  generalize started = engine at reached facts ⊢
  obtain ⟨claimed, room, lease, now, known⟩ := facts
  obtain ⟨job, handedOut, taskType⟩ := List.any_eq_true.1 claimed
  have first := outcome_activate engine ["work"] "a" 1
  let after : Engine MemoryStore :=
    { engine with store := (engine.store.claim (engine.claimRequest ["work"] "a" 1)).2 }
  have again := outcome_activate after ["work"] "b" 1
  have same : after.config = engine.config := rfl
  refine ⟨_, after, first, _, _, again, job, handedOut, ?_⟩
  refine ((claims_exclude reached first).2.2 job handedOut same again).2 ?_ ?_ ?_ known rfl
    (Or.inr ⟨rfl, Nat.le_refl _⟩) ?_ room
  · rw [lease]
    decide
  · rw [lease]
    decide
  · rw [now]
    decide
  · rw [eq_of_beq taskType]
    exact List.mem_cons_self

end OverlongLease

end ProcessEngine
