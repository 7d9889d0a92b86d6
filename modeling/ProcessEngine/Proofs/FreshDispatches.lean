import ProcessEngine.Proofs.Dispatches
import ProcessEngine.Proofs.JobAgreement
import ProcessEngine.Proofs.Logs

/-!
# Every dispatch is a new job

The logs tell of every stored job once, as its dispatch (`Engine.Dispatched`). Whenever a fiber
executes a dispatch, whatever work an engine is at, the key that the job gets is neither stored nor
written by the same work before, so the job is not dropped when the work is stored
(`Engine.Undertakes.hands_out`). No fiber dispatches twice in one epoch, and no two fibers share a
job (`Engine.Fresh.dispatches_fresh`). Identifiers are numbers of 128 bits, and this holds as long
as no more of them are drawn.
-/

namespace ProcessEngine

open UnitOfWork

theorem JobKey.Apart.symm {owner : InstanceId} {key other : JobKey} (apart : key.Apart owner other) :
    other.Apart owner key :=
  fun _ _ _ _ _ _ made made' => apart made' made

namespace MemoryStore

/-- The dispatches that the log of an instance tells of. -/
def dispatchesOf (store : MemoryStore) (id : InstanceId) : List (JobKey × String) :=
  (store.eventsOf id).filterMap RuntimeEvent.dispatch?

theorem mem_dispatchesOf {store : MemoryStore} {id : InstanceId} {key : JobKey}
    {taskType : String} : (key, taskType) ∈ store.dispatchesOf id ↔
      RuntimeEvent.jobDispatched key taskType ∈ store.eventsOf id := by
  rw [dispatchesOf, List.mem_filterMap]
  constructor
  · rintro ⟨event, listed, told⟩
    exact RuntimeEvent.dispatch?_eq_some_iff.1 told ▸ listed
  · intro listed
    exact ⟨_, listed, rfl⟩

end MemoryStore

/-! ## Executing a dispatch -/

/-- A dispatch that is executed hands out the first attempt of a job. -/
theorem Execution.handOut_of_dispatch {program : Program} {work after : UnitOfWork} {fiber : Fiber}
    {taskType place retries : Nat} {routes : List (ErrorRoute Address)}
    (found : work.fiber? fiber.id = some fiber)
    (reached : program.instruction? fiber.pc = some (.dispatch taskType place retries routes))
    (executed : outcome (Execution.step program fiber.id) work = (.ok (), after)) :
    ∃ key job, job.key = .generate work.record.id key fiber.sequence fiber.epoch
      work.record.jobInput ∧ after = work.handOut fiber job := by
  rw [step, outcome_bind_ok (outcome_getThe work), found] at executed
  dsimp only at executed
  rw [reached] at executed
  simp only [execute, outcome_bind, symbol, Execution.node] at executed
  cases named : program.symbols.name? ⟨.taskType, taskType⟩ with
  | none =>
    rw [named] at executed
    cases executed
  | some name =>
    rw [named] at executed
    cases known : program.symbols.node? place with
    | none =>
      rw [known] at executed
      cases executed
    | some key =>
      rw [known] at executed
      cases executed
      exact ⟨key, .first work.record fiber key name retries work.time, rfl, rfl⟩

namespace MemoryStore

/-- No job is ever dropped from a table. -/
theorem get?_of_writeJob {jobs : OrderedMap JobKey Job} {key : JobKey} {write : JobWrite}
    (absent : (writeJob jobs write).get? key = none) : jobs.get? key = none := by
  cases write with
  | dispatch job =>
    rw [writeJob, OrderedMap.get?_insertNew] at absent
    exact (Option.or_eq_none_iff.1 absent).1
  | update job =>
    rw [writeJob, OrderedMap.get?_insert] at absent
    split at absent
    · cases absent
    · exact absent

theorem get?_of_foldl_writeJob {writes : List JobWrite} {jobs : OrderedMap JobKey Job}
    {key : JobKey} (absent : (writes.foldl writeJob jobs).get? key = none) :
    jobs.get? key = none := by
  induction writes generalizing jobs with
  | nil => exact absent
  | cons write rest ih => exact get?_of_writeJob (ih absent)

end MemoryStore

/-- A job that would not be there when the work is stored is not there now. -/
theorem UnitOfWork.get?_of_jobsOver {work : UnitOfWork} {table : OrderedMap JobKey Job}
    {key : JobKey} (absent : (work.jobsOver table).get? key = none) : table.get? key = none := by
  rw [jobsOver, MemoryStore.get?_foldl_cancelJob] at absent
  split at absent
  · exact MemoryStore.get?_of_foldl_writeJob (Option.map_eq_none_iff.1 absent)
  · exact MemoryStore.get?_of_foldl_writeJob absent

theorem UnitOfWork.dispatches_start {table : OrderedMap JobKey Job} (work : UnitOfWork) :
    Dispatches table work work.start.2 [] := (calm_spawn work 0 none).dispatches

namespace Engine

variable {engine next first last : Engine MemoryStore} {scope : Scope} {program : Program}
  {start work : UnitOfWork} {told : List (JobKey × String)}

/-! ## The log tells of every job once -/

/-- To claim jobs changes the issue of none. -/
theorem issueIn_claim {store : MemoryStore} (filed : store.Filed) (request : ClaimRequest)
    (key : JobKey) : issueIn (store.claim request).2.jobs key = issueIn store.jobs key := by
  rw [issueIn, issueIn]
  rcases get?_claim filed request key with ⟨former, stored, -, later⟩ | same
  · rw [stored, later]
    rfl
  · rw [same]

/-- The log of an instance tells of just the jobs that it has handed out, and no two of them are for
one fiber in one epoch. -/
structure Dispatched (engine : Engine MemoryStore) : Prop where
  told : ∀ id key taskType, (key, taskType) ∈ engine.store.dispatchesOf id ↔
    issueIn engine.store.jobs key = some (id, taskType)
  apart : ∀ id, (engine.store.dispatchesOf id).Pairwise (fun one other => one.1.Apart id other.1)

theorem Fresh.dispatched (fresh : engine.Fresh) : engine.Dispatched := by
  have silent : ∀ id, engine.store.dispatchesOf id = [] := by
    intro id
    rw [fresh.store]
    rfl
  refine ⟨fun id key taskType => ?_, fun id => ?_⟩
  · rw [silent, fresh.store]
    simp [issueIn]
  · rw [silent]
    exact .nil

/-- Work that is stored tells of the jobs that it stores. -/
theorem Dispatched.apply (dispatched : engine.Dispatched)
    (begun : start.jobsOver engine.store.jobs = engine.store.jobs)
    (silent : start.events.filterMap RuntimeEvent.dispatch? = [])
    (dispatches : Dispatches engine.store.jobs start work told)
    (store : next.store = engine.store.apply work.finish.1) : next.Dispatched := by
  have added : ∀ id, next.store.dispatchesOf id =
      engine.store.dispatchesOf id ++ if id = start.record.id then told else [] := by
    intro id
    obtain ⟨events, same, said⟩ := dispatches.reports
    rw [MemoryStore.dispatchesOf, store, eventsOf_apply_finish, List.filterMap_append,
      dispatches.id, same]
    congr 1
    split
    · rw [List.filterMap_append, silent, List.nil_append, said]
    · rfl
  have before : ∀ key, start.issue engine.store.jobs key = issueIn engine.store.jobs key := by
    intro key
    rw [UnitOfWork.issue, begun]
  refine ⟨fun id key taskType => ?_, fun id => ?_⟩
  · have issued := dispatches.issued key id taskType
    rw [before, ← dispatched.told] at issued
    rw [added, List.mem_append, store, jobs_apply]
    refine Iff.trans (or_congr_right ?_) issued.symm
    split
    · rename_i mine
      simp [mine]
    · rename_i other
      simp [other]
  · rw [added]
    refine List.pairwise_append.2 ⟨dispatched.apart id, ?_, fun one former other listed => ?_⟩
    · split
      · rename_i mine
        exact mine ▸ dispatches.apart
      · exact .nil
    · split at listed
      · rename_i mine
        have had := (dispatched.told id one.1 one.2).1 former
        rw [← before, mine] at had
        exact mine ▸ dispatches.later other listed one.1 one.2 had
      · cases listed

theorem Advance.dispatched (advance : Advance scope engine next) (consistent : engine.Consistent)
    (later : next.Bounded) (dispatched : engine.Dispatched) : next.Dispatched := by
  have orderly := consistent.orderly
  have sound := orderly.sound
  have bounded : engine.Bounded := Nat.le_trans (advance.supply sound) later
  have agrees := consistent.agrees bounded
  have same (logs : next.store.logs = engine.store.logs)
      (issues : ∀ key, issueIn next.store.jobs key = issueIn engine.store.jobs key) :
      next.Dispatched := by
    have told : ∀ id, next.store.dispatchesOf id = engine.store.dispatchesOf id := by
      intro id
      rw [MemoryStore.dispatchesOf, MemoryStore.dispatchesOf, MemoryStore.eventsOf,
        MemoryStore.eventsOf, MemoryStore.log, MemoryStore.log, logs]
    refine ⟨fun id key taskType => ?_, fun id => ?_⟩
    · rw [told, issues]
      exact dispatched.told id key taskType
    · rw [told]
      exact dispatched.apart id
  cases advance.effect sound with
  | same programs store supply => exact same (by rw [store]) (fun _ => by rw [store])
  | claim request store supply =>
    refine same (by rw [store]; rfl) (fun key => ?_)
    rw [store]
    exact issueIn_claim orderly.filed request key
  | purge now store supply =>
    exact same (by rw [store]; rfl) (fun _ => by rw [store]; rfl)
  | create known absent ran store supply =>
    have storable := storable_create absent ran
    have drawn := storable.drawn
    rw [ran.confined.id, ← supply] at drawn
    have fits := Nat.lt_of_lt_of_le drawn later
    obtain ⟨told, dispatches⟩ := ran.dispatches (shapely_start _) fits
      (agrees.start sound bounded engine.now _ absent)
    exact dispatched.apply rfl rfl ((dispatches_start _).trans dispatches) store
  | slice known stored own admitted intervened ran store supply =>
    have keyed := (sound _ _ stored).keyed
    have shapely := @shapely_begin _ _ engine.now _ (sound _ _ stored)
    have began := agrees.begin sound bounded engine.now engine.supply stored
    have changed := intervened.agrees orderly.filed shapely keyed rfl rfl began
    have fits := Nat.lt_of_lt_of_le (sound _ _ stored).drawn bounded
    obtain ⟨told, dispatches⟩ := ran.dispatches (intervened.shapely shapely)
      ((intervened.continues.id.trans keyed).symm ▸ fits) changed
    have begun := intervened.dispatches orderly.filed rfl rfl
    exact dispatched.apply rfl rfl (begun.trans dispatches) store

/-- The logs tell of every job once as long as the engine's identifiers fit. -/
def Tidy (engine : Engine MemoryStore) : Prop :=
  engine.Consistent ∧ (engine.Bounded -> engine.Dispatched)

theorem Fresh.tidy (fresh : engine.Fresh) : engine.Tidy :=
  ⟨fresh.consistent, fun _ => fresh.dispatched⟩

theorem Advance.tidy (advance : Advance scope engine next) (tidy : engine.Tidy) : next.Tidy := by
  obtain ⟨consistent, dispatched⟩ := tidy
  refine ⟨advance.consistent consistent, fun later => ?_⟩
  have earlier : engine.Bounded := Nat.le_trans (advance.supply consistent.orderly.sound) later
  exact advance.dispatched consistent later (dispatched earlier)

/-! ## Work that an engine is at -/

/-- The work that an engine may be at: it has made an instance or a change of a stored one, and
fibers have taken some turns after that. -/
inductive Undertakes (engine : Engine MemoryStore) (program : Program) : UnitOfWork -> Prop where
  | create (hash : ProgramHash) (payload : Json) (correlation : String) (steps : Nat) :
    Undertakes engine program (takeTurns program steps 0 (UnitOfWork.create
      (.create ⟨engine.supply.next⟩ hash payload correlation engine.now) engine.now
      ⟨engine.supply.next + 1⟩).start.2).2
  | slice {id state purpose} {Result : Type} {change : Change Result} {result changed}
      (stored : engine.store.states.get? id = some state)
      (intended : Intervention engine.store engine.config id purpose change)
      (made : change program (.begin state engine.now engine.supply) = .ok (result, changed))
      (steps : Nat) : Undertakes engine program (takeTurns program steps 0 changed).2

/-- Whatever an engine adds to the logs comes from work that it was at. -/
theorem Advance.undertaken (advance : Advance scope engine next) :
    next.store.logs = engine.store.logs ∨ ∃ program work, engine.Undertakes program work ∧
      next.store = engine.store.apply work.finish.1 := by
  cases advance with
  | rest store supply known => exact .inl (congrArg MemoryStore.logs store)
  | learn brought added => exact .inl rfl
  | keep known put =>
    obtain ⟨-, rfl⟩ := putProgram_eq_ok_iff.1 put
    exact .inl rfl
  | claim request => exact .inl rfl
  | purge now => exact .inl rfl
  | create loaded done settled =>
    rename_i hash payload correlation program programs report work store queue locks
    obtain ⟨changed, parts⟩ := slice_parts done
    obtain rfl : _ = changed := congrArg Prod.snd (Except.ok.inj parts.made)
    obtain ⟨steps, took⟩ := parts.took
    cases settled with
    | discarded => exact .inl rfl
    | stored current =>
      exact .inr ⟨program, work, took ▸ .create hash payload correlation steps, rfl⟩
  | slice intended admitted sliced settled =>
    rename_i id purpose Result change result report work programs state program store queue
    obtain ⟨changed, parts⟩ := slice_parts sliced.done
    obtain ⟨steps, took⟩ := parts.took
    cases settled with
    | discarded => exact .inl rfl
    | stored current =>
      exact .inr ⟨program, work, took ▸ .slice sliced.stored intended parts.made steps, rfl⟩

/-- Jobs and fibers agree in all work that an engine may be at. -/
theorem Undertakes.agrees (undertakes : engine.Undertakes program work)
    (consistent : engine.Consistent) (bounded : work.supply.next ≤ 2 ^ 128) :
    work.Agrees engine.store.jobs ∧ work.record.id.Fits := by
  have sound := consistent.orderly.sound
  cases undertakes with
  | create hash payload correlation steps =>
    have shapely := @shapely_start engine.now ⟨engine.supply.next + 1⟩
      (.create ⟨engine.supply.next⟩ hash payload correlation engine.now)
    have ran : Ran program _ _ := ran_takeTurns shapely steps 0
    have absent : engine.store.states.get? ⟨engine.supply.next⟩ = none := by
      cases stored : engine.store.states.get? ⟨engine.supply.next⟩ with
      | none => rfl
      | some state => exact absurd (sound _ _ stored).drawn (Nat.lt_irrefl _)
    have drawn := (storable_create absent ran).drawn
    have fits : Identifier.Fits _ := Nat.lt_of_lt_of_le drawn bounded
    have earlier : engine.Bounded :=
      Nat.le_trans (storable_create absent ran).supply bounded
    refine ⟨ran.agrees shapely (ran.confined.id ▸ fits) ?_, fits⟩
    exact (consistent.agrees earlier).start sound earlier _ _ absent
  | slice stored intended made steps =>
    have shapely := @shapely_begin _ _ engine.now _ (sound _ _ stored)
    have intervened := intended.intervened made
    have ran : Ran program _ _ := ran_takeTurns (intervened.shapely shapely) steps 0
    obtain ⟨storable, named⟩ := storable_slice sound stored intervened ran
    have fits := Nat.lt_of_lt_of_le storable.drawn bounded
    have earlier : engine.Bounded := Nat.le_trans storable.supply bounded
    have began := (consistent.agrees earlier).begin sound earlier engine.now engine.supply stored
    have changed := intervened.agrees consistent.orderly.filed shapely (sound _ _ stored).keyed
      rfl rfl began
    exact ⟨ran.agrees (intervened.shapely shapely) (ran.confined.id ▸ fits) changed, fits⟩

/-- A fiber hands out a job of a key that is neither stored nor written by the work so far. So the
job is there when the work is stored, and none that the instance had before was for the fiber in
its epoch. -/
structure HandsOut (table : OrderedMap JobKey Job) (work : UnitOfWork) (fiber : Fiber) (job : Job)
    (after : UnitOfWork) : Prop where
  handed : after = work.handOut fiber job
  named : ∃ node, job.key =
    .generate work.record.id node fiber.sequence fiber.epoch work.record.jobInput
  unstored : table.get? job.key = none
  unwritten : (work.jobsOver table).get? job.key = none
  kept : (after.jobsOver table).get? job.key = some job
  apart : ∀ key former, (work.jobsOver table).get? key = some former ->
    former.owner = work.record.id -> key.Apart work.record.id job.key

/-- Every dispatch that is executed hands out a new job. -/
theorem Undertakes.hands_out (undertakes : engine.Undertakes program work)
    (consistent : engine.Consistent) (bounded : work.supply.next ≤ 2 ^ 128) {fiber : Fiber}
    {taskType place retries : Nat} {routes : List (ErrorRoute Address)} {after : UnitOfWork}
    (found : work.fiber? fiber.id = some fiber) (ready : fiber.wait = .ready)
    (reached : program.instruction? fiber.pc = some (.dispatch taskType place retries routes))
    (executed : outcome (Execution.step program fiber.id) work = (.ok (), after)) :
    ∃ job, HandsOut engine.store.jobs work fiber job after := by
  obtain ⟨agrees, fits⟩ := undertakes.agrees consistent bounded
  obtain ⟨node, job, named, handed⟩ := Execution.handOut_of_dispatch found reached executed
  have absent : (work.jobsOver engine.store.jobs).get? job.key = none :=
    named ▸ agrees.unissued fits found ready node work.record.jobInput
  refine ⟨job, ?_⟩
  constructor
  case handed => exact handed
  case named => exact ⟨node, named⟩
  case unstored => exact get?_of_jobsOver absent
  case unwritten => exact absent
  case kept =>
    rw [handed, agrees.get?_jobsOver_handOut absent]
    exact if_pos rfl
  case apart =>
    intro key former had owned
    have issued : work.issue engine.store.jobs key = some (work.record.id, former.taskType) :=
      issueIn_eq_some_iff.2 ⟨former, had, owned, rfl⟩
    exact named ▸ agrees.apart fits found ready issued node work.record.jobInput

/-! ## Every dispatch of a history -/

/-- The key of a logged dispatch was made for the instance whose log tells of it. -/
theorem Dispatched.named (dispatched : engine.Dispatched) (consistent : engine.Consistent)
    (bounded : engine.Bounded) {id : InstanceId} {key : JobKey} {taskType : String}
    (told : (key, taskType) ∈ engine.store.dispatchesOf id) :
    id.Fits ∧ ∃ node sequence epoch input, key = .generate id node sequence epoch input := by
  obtain ⟨job, stored, rfl, -⟩ := issueIn_eq_some_iff.1 ((dispatched.told id key taskType).1 told)
  have agrees := consistent.agrees bounded
  exact ⟨agrees.fits consistent.orderly.sound bounded stored, agrees.named stored⟩

/-- Two dispatches that a log tells of are not for one fiber in one epoch. -/
theorem Dispatched.apart_of_ne (dispatched : engine.Dispatched) {id : InstanceId}
    {place place' : Nat} {one other : JobKey × String}
    (told : (engine.store.dispatchesOf id)[place]? = some one)
    (told' : (engine.store.dispatchesOf id)[place']? = some other) (different : place ≠ place') :
    one.1.Apart id other.1 := by
  obtain ⟨reached, rfl⟩ := List.getElem?_eq_some_iff.1 told
  obtain ⟨reached', rfl⟩ := List.getElem?_eq_some_iff.1 told'
  have apart := List.pairwise_iff_getElem.1 (dispatched.apart id)
  rcases Nat.lt_or_gt_of_ne different with before | after
  · exact apart place place' reached reached' before
  · exact (apart place' place reached' reached after).symm

/-- A key is dispatched once, in the log of one instance. -/
theorem Dispatched.sole (dispatched : engine.Dispatched) (consistent : engine.Consistent)
    (bounded : engine.Bounded) {id id' : InstanceId} {place place' : Nat}
    {one other : JobKey × String} (told : (engine.store.dispatchesOf id)[place]? = some one)
    (told' : (engine.store.dispatchesOf id')[place']? = some other) (same : one.1 = other.1) :
    id = id' ∧ place = place' := by
  obtain ⟨fits, node, sequence, epoch, input, made⟩ :=
    dispatched.named consistent bounded (List.mem_of_getElem? told)
  obtain ⟨fits', node', sequence', epoch', input', made'⟩ :=
    dispatched.named consistent bounded (List.mem_of_getElem? told')
  obtain ⟨rfl, -⟩ := JobKey.generate_inj fits fits' (made.symm.trans (same.trans made'))
  refine ⟨rfl, Classical.byContradiction fun different => ?_⟩
  exact dispatched.apart_of_ne told told' different made (same.symm.trans made)

/-- Two fibers never wait for one job. -/
theorem Agrees.sole (agrees : engine.Agrees) {id id' : InstanceId} {state state' : InstanceState}
    {fiber fiber' : Fiber} {place place' : FiberId} {key : JobKey}
    (stored : engine.store.states.get? id = some state)
    (stored' : engine.store.states.get? id' = some state')
    (found : state.fiber? place = some fiber) (found' : state'.fiber? place' = some fiber')
    (waits : fiber.wait = .job key) (waits' : fiber'.wait = .job key) :
    id = id' ∧ place = place' := by
  obtain ⟨job, there, owned, named, -⟩ := (agrees.waits stored place key).1 ⟨fiber, found, waits⟩
  obtain ⟨job', there', owned', named', -⟩ :=
    (agrees.waits stored' place' key).1 ⟨fiber', found', waits'⟩
  cases there.symm.trans there'
  exact ⟨owned.symm.trans owned', named.symm.trans named'⟩

/-- The logs tell of every stored job just once, no two jobs of an instance were made for one fiber
in one epoch, and no two fibers wait for one job. -/
structure DispatchesOnce (engine : Engine MemoryStore) : Prop where
  told : ∀ id key taskType, RuntimeEvent.jobDispatched key taskType ∈ engine.store.eventsOf id ↔
    ∃ job, engine.store.jobs.get? key = some job ∧ job.owner = id ∧ job.taskType = taskType
  sole : ∀ {id id'} {place place' : Nat} {one other : JobKey × String},
    (engine.store.dispatchesOf id)[place]? = some one ->
    (engine.store.dispatchesOf id')[place']? = some other -> one.1 = other.1 ->
    id = id' ∧ place = place'
  apart : ∀ {id} {place place' : Nat} {one other : JobKey × String},
    (engine.store.dispatchesOf id)[place]? = some one ->
    (engine.store.dispatchesOf id)[place']? = some other -> place ≠ place' -> one.1.Apart id other.1
  unshared : ∀ {id id' state state' place place' fiber fiber' key},
    engine.store.states.get? id = some state -> engine.store.states.get? id' = some state' ->
    state.fiber? place = some fiber -> state'.fiber? place' = some fiber' ->
    fiber.wait = .job key -> fiber'.wait = .job key -> id = id' ∧ place = place'

theorem Dispatched.once (dispatched : engine.Dispatched) (consistent : engine.Consistent)
    (bounded : engine.Bounded) : engine.DispatchesOnce where
  told id key taskType := by
    rw [← MemoryStore.mem_dispatchesOf, dispatched.told, issueIn_eq_some_iff]
  sole told told' same := dispatched.sole consistent bounded told told' same
  apart told told' different := dispatched.apart_of_ne told told' different
  unshared stored stored' found found' waits waits' :=
    (consistent.agrees bounded).sole stored stored' found found' waits waits'

/-- Whatever an engine was asked, and wherever it is in what it is asked now, every dispatch that is
executed hands out a new job, and every job is dispatched once. The keys of two dispatches are
the same only if the instance, the node, the fiber and its epoch are. -/
theorem Fresh.dispatches_fresh {entries : List HistoryEntry} (fresh : first.Fresh)
    (history : History first entries engine) {operation : EngineOperation}
    (advances : Advances operation.scope engine last) :
    (∀ program work fiber taskType place retries routes after, last.Undertakes program work ->
      work.supply.next ≤ 2 ^ 128 -> work.fiber? fiber.id = some fiber -> fiber.wait = .ready ->
      program.instruction? fiber.pc = some (.dispatch taskType place retries routes) ->
      outcome (Execution.step program fiber.id) work = (.ok (), after) ->
      ∃ job, HandsOut last.store.jobs work fiber job after) ∧
    (last.supply.next ≤ 2 ^ 128 -> last.DispatchesOnce) ∧
    ∀ (id id' : InstanceId) node node' sequence sequence' epoch epoch' input input',
      id.number < 2 ^ 128 -> id'.number < 2 ^ 128 ->
      JobKey.generate id node sequence epoch input =
        .generate id' node' sequence' epoch' input' ->
      id = id' ∧ node = node' ∧ sequence = sequence' ∧ epoch = epoch' := by
  have tidy : last.Tidy := advances.preserves (fun _ _ => Advance.tidy)
    (history.preserves (fun _ _ _ => Advance.tidy) fresh.tidy)
  obtain ⟨consistent, dispatched⟩ := tidy
  refine ⟨?_, ?_, ?_⟩
  · intro program work fiber taskType place retries routes after undertakes bounded found ready
      reached executed
    exact undertakes.hands_out consistent bounded found ready reached executed
  · exact fun bounded => (dispatched bounded).once consistent bounded
  · intro id id' node node' sequence sequence' epoch epoch' input input' fits fits' same
    exact JobKey.generate_inj fits fits' same

end Engine

namespace TaskRun

/-- The work on a new process of one task, before its fiber takes a turn. -/
def begun : UnitOfWork :=
  (UnitOfWork.create (.create ⟨0⟩ program.hash .null "" default) default ⟨1⟩).start.2

/-- The fiber of the task. -/
def worker : Fiber := .create ⟨1⟩ ⟨0⟩ 0 0

theorem executed : begun.fiber? ⟨1⟩ = some worker ∧
    (outcome (Execution.step program ⟨1⟩) begun).1.isOk := by
  decide +kernel

end TaskRun

/-- The task is dispatched as a new job. After it was set aside and put back, there is still one
dispatch of it. -/
theorem Engine.dispatches_fresh_of_task :
    (∃ job after, HandsOut TaskRun.engine.store.jobs TaskRun.begun TaskRun.worker job after) ∧
    ∃ owner, ∃ place : Nat, ∀ id (place' : Nat) dispatch,
      ((TaskRun.engine.performAll TaskRun.operations).store.dispatchesOf id)[place']? =
        some dispatch -> dispatch.1 = TaskRun.key -> id = owner ∧ place' = place := by
  have rests (engine : Engine MemoryStore) :
      Advances (EngineOperation.scope .recover) engine engine := .refl
  constructor
  · have undertakes : TaskRun.engine.Undertakes TaskRun.program TaskRun.begun :=
      .create TaskRun.program.hash .null "" 0
    obtain ⟨hands, -⟩ := Fresh.dispatches_fresh ⟨rfl, rfl⟩ .refl (rests TaskRun.engine)
    obtain ⟨found, executed⟩ := TaskRun.executed
    cases taken : outcome (Execution.step TaskRun.program ⟨1⟩) TaskRun.begun with
    | mk answer after =>
      rw [taken] at executed
      cases answer with
      | error error => cases executed
      | ok value =>
        obtain ⟨job, handed⟩ :=
          hands _ _ TaskRun.worker _ _ _ _ _ undertakes (by decide) found rfl rfl taken
        exact ⟨job, after, handed⟩
  · obtain ⟨bounded, reopened, -⟩ := TaskRun.reopened
    obtain ⟨job, stored, -⟩ := (Option.any_eq_true _ _).1 reopened
    obtain ⟨-, once, -⟩ := Fresh.dispatches_fresh ⟨rfl, rfl⟩
      (.of_operations TaskRun.engine TaskRun.operations) (rests _)
    have listed := ((once bounded).told job.owner _ _).2 ⟨job, stored, rfl, rfl⟩
    obtain ⟨place, told⟩ := List.getElem?_of_mem (MemoryStore.mem_dispatchesOf.2 listed)
    exact ⟨job.owner, place, fun id place' dispatch told' same =>
      (once bounded).sole told' told same⟩

end ProcessEngine
