import ProcessEngine.Proofs.FreshDispatches
import ProcessEngine.Proofs.Waits

/-!
# Where jobs were handed out

A fiber that waits for a job waits where it has handed it out (`Engine.Rooted`). If the job is set
aside, the fiber is halted there on just the incident that the dead letter names, until the job is
put back or the fiber ends. Every atomic step keeps this (`Engine.Advance.rooted`), so in the course
of a history each such job was handed out by its fiber where the fiber still is
(`Engine.History.rooted`).
-/

namespace ProcessEngine

open UnitOfWork

/-- The fiber of the letter's job, if it lives, is halted on the incident of the letter where it has
handed the job out. -/
def DeadLetter.Roots (letter : DeadLetter) (Origin : FiberId -> JobKey -> Address -> Prop)
    (fibers : FiberId -> Option Fiber) : Prop :=
  ∀ fiber, fibers letter.job.fiber = some fiber -> ∃ id, letter.incident = some id ∧
    fiber.wait = .incident id ∧ Origin letter.job.fiber letter.key fiber.pc

namespace UnitOfWork

/-- All fibers that wait for jobs, and all whose jobs are set aside, are where they have handed them
out. -/
structure Rooted (work : UnitOfWork) (store : MemoryStore)
    (Origin : FiberId -> JobKey -> Address -> Prop) : Prop where
  parked : ∀ {id fiber key}, work.fiber? id = some fiber -> fiber.wait = .job key ->
    Origin id key fiber.pc
  held : ∀ {place letter}, (work.lettersOver store.deadLetters).get? place = some letter ->
    letter.job.owner = work.record.id -> letter.Roots Origin work.fiber?

variable {work next changed : UnitOfWork} {store : MemoryStore} {fiber : Fiber} {program : Program}
  {Origin : FiberId -> JobKey -> Address -> Prop}

/-! ## Turns -/

/-- A turn keeps fibers where they have handed out their jobs, if it is known where it hands one
out. -/
theorem Rooted.turned (rooted : work.Rooted store Origin)
    (turned : Turned program fiber work next) (shapely : work.Shapely)
    (found : work.fiber? fiber.id = some fiber) (ready : fiber.wait = .ready)
    (anchored : work.Anchored store)
    (hands : ∀ taskType node retries routes key name,
      program.instruction? fiber.pc = some (.dispatch taskType node retries routes) ->
      next = work.handOut fiber (.first work.record fiber key name retries work.time) ->
        Origin fiber.id (Job.first work.record fiber key name retries work.time).key fiber.pc) :
    next.Rooted store Origin := by
  constructor
  · intro id later key there waits
    cases turned.places shapely found ready there with
    | ready ready => cases ready.symm.trans waits
    | stays before pc wait =>
      rw [pc]
      exact rooted.parked before (wait.symm.trans waits)
    | handOut reached handed first pc waits' =>
      rw [pc, ← Wait.job.inj (waits'.symm.trans waits), first]
      exact hands _ _ _ _ _ _ reached (first ▸ handed)
    | race reached leads pc waits' => cases waits'.symm.trans waits
    | sleep waits' => cases waits'.symm.trans waits
    | listen waits' => cases waits'.symm.trans waits
    | consult waits' => cases waits'.symm.trans waits
    | halt raised alone waits' => cases waits'.symm.trans waits
  · intro place letter stored owned later there
    rw [turned.confined.lettersOver] at stored
    rw [turned.confined.id] at owned
    -- The fiber whose turn it is holds no dead letter, because it does not wait.
    have other : letter.job.fiber ≠ fiber.id :=
      anchored.free found (by simp [ready]) stored owned
    obtain ⟨former, before, wait, pc⟩ :=
      (turned.spares shapely).waits other (anchored.drawn stored) there
    rw [wait, pc]
    exact rooted.held stored owned former before

/-! ## Changes -/

/-- A dead letter that will be stored is one that is noted, or was stored before. -/
theorem lettersOver_cases {table : OrderedMap DeadLetterKey DeadLetter} {place : DeadLetterKey}
    {letter : DeadLetter} (found : (work.lettersOver table).get? place = some letter) :
    letter ∈ work.deadLetters ∨ table.get? place = some letter := by
  rcases OrderedMap.get?_foldl_insert_cases DeadLetter.place (fun letter => letter) work.deadLetters
    (work.removedDeadLetters.foldl OrderedMap.erase table) place with
    ⟨other, listed, -, found'⟩ | ⟨-, same⟩
  · cases found.symm.trans found'
    exact .inl listed
  · have kept := same.symm.trans found
    rw [OrderedMap.get?_foldl_erase] at kept
    split at kept
    · cases kept
    · exact .inr kept

end UnitOfWork

section

variable {store : MemoryStore} {id : InstanceId} {program : Program} {state : InstanceState}
  {now : Instant} {supply : IdSupply} {purpose : Purpose} {changed : UnitOfWork}
  {Origin : FiberId -> JobKey -> Address -> Prop}

/-- A job that a change sets aside was waited for, and its fiber is halted then where it was, on the
incident that the dead letter names. -/
theorem Intervened.buries
    (intervened : Intervened store id program (.begin state now supply) purpose changed)
    {letter : DeadLetter} (noted : letter ∈ changed.deadLetters) :
    ∃ fiber incident, state.fiber? letter.job.fiber = some fiber ∧
      fiber.wait = .job letter.key ∧ letter.incident = some incident ∧
      changed.fiber? letter.job.fiber = some { fiber with wait := .incident incident } := by
  have calm {next : UnitOfWork} {goal : Prop} (noted : letter ∈ next.deadLetters)
      (none : next.deadLetters = []) : goal :=
    absurd noted (none ▸ List.not_mem_nil)
  cases intervened with
  | run => exact calm noted rfl
  | cancel running closes => exact calm noted (confined_close closes).deadLetters
  | complete stored owned first wanted completion =>
    rename_i key job fiber
    have steady := (steady_accept (job.finished (.jobCompleted job.key)
      ((UnitOfWork.begin state now supply).recordCompletion ⟨job.key, completion, true, now⟩))
        completion.flags completion.payload).trans (steady_wake _ job.fiber (fiber.pc + 1))
    exact calm noted steady.deadLetters
  | record stored owned first unwanted completion => exact calm noted rfl
  | fail stored owned wanted failed =>
    rename_i key job fiber outcome
    cases failed with
    | retry notBefore problem => exact calm noted rfl
    | bury kind problem expires =>
      have steady := job.steady_stopped kind problem fiber.pc (.begin state now supply)
      have letters : (job.buried kind problem expires fiber.pc
          (.begin state now supply)).deadLetters =
            [job.letter problem ⟨supply.next⟩ now expires] :=
        congrArg (· ++ [job.letter problem ⟨supply.next⟩ now expires]) steady.deadLetters
      rw [letters] at noted
      obtain rfl := List.mem_singleton.1 noted
      refine ⟨fiber, ⟨supply.next⟩, wanted.found, wanted.waits, rfl, ?_⟩
      exact ((job.fiber?_buried kind problem expires fiber.pc _ job.fiber).trans (if_pos rfl)).trans
        (congrArg (Option.map _) wanted.found)
    | route problem leads =>
      rename_i code target
      have steady := (steady_dropWatchdog (Job.finished { job with lastError := some problem }
        (.jobErrorRouted job.key code) (.begin state now supply)) fiber).trans
          (steady_wake _ job.fiber target)
      exact calm noted steady.deadLetters
  | dismiss => exact calm noted rfl
  | deliver running signal => exact calm noted (confined_deliver _ signal).deadLetters
  | discard => exact calm noted rfl
  | restart stored settles running alone owned closed =>
    exact calm noted (((steady_emit _ _).trans (steady_restart _ _ _)).trans
      (steady_putIncident _ _)).deadLetters
  | settle stored settles owned closed => exact calm noted rfl
  | requeue stored owned running found waits settles =>
    rename_i place letter' fiber incident settled
    have parked := steady_park (.begin state now supply) letter'.job.fiber fiber.pc
      (.job letter'.key)
    exact calm noted
      ((settles.steady (.jobRequeued letter'.key)).deadLetters.trans parked.deadLetters)
  | abandon stored owned => exact calm noted rfl

/-- Every change keeps fibers where they have handed out their jobs. -/
theorem Intervened.rooted
    (intervened : Intervened store id program (.begin state now supply) purpose changed)
    (filed : store.Filed) (shapely : (UnitOfWork.begin state now supply).Shapely)
    (same : state.record.id = id) (anchored : (UnitOfWork.begin state now supply).Anchored store)
    (rooted : (UnitOfWork.begin state now supply).Rooted store Origin) :
    changed.Rooted store Origin := by
  have dwell := intervened.dwell shapely
  have reached := intervened.anchored filed shapely same anchored
  constructor
  · intro asked later key there waits
    rcases dwell asked later there with ready | ⟨former, before, dwells⟩
    · cases ready.symm.trans waits
    · cases dwells with
      | stays pc wait =>
        rw [pc]
        exact rooted.parked before (wait.symm.trans waits)
      | stops pc waited halted => cases halted.symm.trans waits
      | takesUp shelved own pc _ waits' =>
        subst own
        cases waits'.symm.trans waits
        obtain ⟨place, stored, owned⟩ := shelved
        obtain ⟨_, -, -, origin⟩ := rooted.held stored (owned.trans same.symm) former before
        rw [pc]
        exact origin
  · intro place letter stored owned later there
    rcases lettersOver_cases stored with noted | former
    · obtain ⟨fiber, incident, found, waited, named, halted⟩ := intervened.buries noted
      rw [← Option.some.inj (halted.symm.trans there)]
      exact ⟨incident, named, rfl, @rooted.parked _ fiber _ found waited⟩
    · obtain ⟨⟨incident, waits, -⟩, -⟩ := reached.held stored owned there
      have owned : letter.job.owner = state.record.id := owned.trans intervened.continues.id
      rcases dwell _ later there with ready | ⟨fiber, before, dwells⟩
      · cases ready.symm.trans waits
      · cases dwells with
        | stays pc wait =>
          rw [pc, wait]
          exact rooted.held former owned fiber before
        | stops pc waited _ =>
          -- A fiber whose job is set aside waits for no job.
          obtain ⟨_, -, halted, -⟩ := rooted.held former owned fiber before
          cases halted.symm.trans waited
        | takesUp shelved own pc _ waits' => cases waits'.symm.trans waits

end

namespace Engine

/-! ## Work that an engine is at -/

/-- The work that an engine is at: a new instance of a program that is known or a change of a stored
one, and fibers have taken turns after that. -/
inductive Engages (engine : Engine MemoryStore) (program : Program) : UnitOfWork -> Prop where
  | created {payload correlation} (known : engine.Knows program)
      (absent : engine.store.states.get? ⟨engine.supply.next⟩ = none) :
    Engages engine program (UnitOfWork.create (.create ⟨engine.supply.next⟩ program.hash payload
      correlation engine.now) engine.now ⟨engine.supply.next + 1⟩).start.2
  | changed {id state purpose changed} (known : engine.Knows program)
      (stored : engine.store.states.get? id = some state)
      (own : state.record.program = program.hash)
      (intervened : Intervened engine.store id program
        (.begin state engine.now engine.supply) purpose changed) :
    Engages engine program changed
  | turned {work id} (prior : Engages engine program work) (next : work.nextFiber? = some id) :
    Engages engine program (UnitOfWork.turn program id work)

/-- A turn in which a fiber hands out a job. -/
structure Handing where
  engine : Engine MemoryStore
  program : Program
  work : UnitOfWork
  engages : engine.Engages program work
  fiber : Fiber
  found : work.fiber? fiber.id = some fiber
  next : work.nextFiber? = some fiber.id
  job : Job
  /-- The fiber has reached a dispatch. -/
  reached : ∃ taskType node retries routes,
    program.instruction? fiber.pc = some (.dispatch taskType node retries routes)
  handed : UnitOfWork.turn program fiber.id work = work.handOut fiber job
  /-- As long as identifiers fit, there was no job of this key before. -/
  new : work.supply.next ≤ 2 ^ 128 -> (work.jobsOver engine.store.jobs).get? job.key = none

variable {engine next first last : Engine MemoryStore} {program : Program} {work : UnitOfWork}
  {scope : Scope}

/-- The turn hands out this job here. -/
structure Handing.Of (handing : Handing) (owner : InstanceId) (id : FiberId) (key : JobKey)
    (pc : Address) : Prop where
  owner : handing.work.record.id = owner
  fiber : handing.fiber.id = id
  key : handing.job.key = key
  pc : handing.fiber.pc = pc

/-- Jobs and fibers agree in all work that an engine is at. -/
theorem Engages.agrees (engages : engine.Engages program work) (consistent : engine.Consistent) :
    engine.supply.next ≤ work.supply.next ∧ work.Shapely ∧ (work.supply.next ≤ 2 ^ 128 ->
      work.record.id.Fits ∧ work.Agrees engine.store.jobs) := by
  have sound := consistent.orderly.sound
  induction engages with
  | @created payload correlation known absent =>
    have storable := @storable_create engine program _ payload correlation program.hash absent .refl
    refine ⟨storable.supply, shapely_start _, fun bounded => ?_⟩
    have earlier : engine.Bounded := Nat.le_trans storable.supply bounded
    exact ⟨Nat.lt_of_lt_of_le storable.drawn bounded,
      (consistent.agrees earlier).start sound earlier _ _ absent⟩
  | changed known stored own intervened =>
    have shapely := @shapely_begin _ _ engine.now _ (sound _ _ stored)
    obtain ⟨storable, named⟩ := storable_slice sound stored intervened .refl
    refine ⟨storable.supply, intervened.shapely shapely, fun bounded => ?_⟩
    have earlier : engine.Bounded := Nat.le_trans storable.supply bounded
    have began := (consistent.agrees earlier).begin sound earlier engine.now engine.supply stored
    exact ⟨Nat.lt_of_lt_of_le storable.drawn bounded, intervened.agrees consistent.orderly.filed
      shapely (sound _ _ stored).keyed rfl rfl began⟩
  | turned prior next ih =>
    obtain ⟨later, shapely, agrees⟩ := ih
    obtain ⟨-, fiber, rfl, found, ready⟩ := nextFiber_some shapely next
    have turned := turn_cases program found rfl
    have confined := turned.confined
    refine ⟨Nat.le_trans later confined.supply, shapely.turned found ready turned,
      fun bounded => ?_⟩
    obtain ⟨fits, agrees⟩ := agrees (Nat.le_trans confined.supply bounded)
    exact ⟨confined.id ▸ fits, turned.agrees shapely fits found ready agrees⟩

/-- A fiber that hands out a job in its turn does so where it is. -/
theorem Engages.handing (engages : engine.Engages program work) (consistent : engine.Consistent)
    {fiber : Fiber} (found : work.fiber? fiber.id = some fiber) (ready : fiber.wait = .ready)
    (next : work.nextFiber? = some fiber.id) {taskType node retries : Nat}
    {routes : List (ErrorRoute Address)} {key : NodeKey} {name : String}
    (reached : program.instruction? fiber.pc = some (.dispatch taskType node retries routes))
    (handed : UnitOfWork.turn program fiber.id work =
      work.handOut fiber (.first work.record fiber key name retries work.time)) :
    ∃ handing : Handing, handing.engine = engine ∧ handing.Of work.record.id fiber.id
      (Job.first work.record fiber key name retries work.time).key fiber.pc := by
  obtain ⟨-, -, agrees⟩ := engages.agrees consistent
  refine ⟨⟨engine, program, work, engages, fiber, found, next, _, ⟨_, _, _, _, reached⟩, handed,
    fun bounded => ?_⟩, rfl, rfl, rfl, rfl, rfl⟩
  obtain ⟨fits, agrees⟩ := agrees bounded
  exact agrees.unissued fits found ready key work.record.jobInput

/-! ## Stored instances -/

/-- All stored fibers that wait for jobs, and all whose jobs are set aside, are where they have
handed them out. -/
structure Rooted (engine : Engine MemoryStore)
    (Origin : InstanceId -> FiberId -> JobKey -> Address -> Prop) : Prop where
  parked : ∀ {owner id fiber key}, engine.fiber? owner id = some fiber ->
    fiber.wait = .job key -> Origin owner id key fiber.pc
  held : ∀ {place letter}, engine.store.deadLetters.get? place = some letter ->
    letter.Roots (Origin letter.job.owner) (engine.fiber? letter.job.owner)

variable {Origin Later : InstanceId -> FiberId -> JobKey -> Address -> Prop}

theorem Rooted.imp (rooted : engine.Rooted Origin)
    (later : ∀ {owner id key pc}, Origin owner id key pc -> Later owner id key pc) :
    engine.Rooted Later := by
  refine ⟨fun found waits => later (rooted.parked found waits), fun stored fiber found => ?_⟩
  obtain ⟨id, named, halted, origin⟩ := rooted.held stored fiber found
  exact ⟨id, named, halted, later origin⟩

/-- Nothing is put where jobs are handed out but by work. -/
theorem Rooted.of_same (rooted : engine.Rooted Origin)
    (states : next.store.states = engine.store.states)
    (letters : ∀ {place letter}, next.store.deadLetters.get? place = some letter ->
      engine.store.deadLetters.get? place = some letter) : next.Rooted Origin := by
  have same : ∀ owner, next.fiber? owner = engine.fiber? owner := by
    intro owner
    funext id
    rw [Engine.fiber?, Engine.fiber?, states]
  refine ⟨fun found waits => ?_, fun {place letter} stored => ?_⟩
  · rw [same] at found
    exact rooted.parked found waits
  · rw [same]
    exact rooted.held (letters stored)

/-- Work on a stored instance begins with all fibers where they have handed out their jobs. -/
theorem Rooted.beginning (rooted : engine.Rooted Origin) (sound : engine.Sound) {id : InstanceId}
    {state : InstanceState} (stored : engine.store.states.get? id = some state) :
    (UnitOfWork.begin state engine.now engine.supply).Rooted engine.store (Origin id) := by
  have same : engine.fiber? id = state.fiber? := by
    funext asked
    rw [Engine.fiber?, stored]
    rfl
  refine ⟨fun found waits => rooted.parked (same ▸ found) waits, fun stored' owned => ?_⟩
  have owned : _ = id := owned.trans (sound _ _ stored).keyed
  rw [← owned]
  have held := rooted.held stored'
  rw [owned, same] at held
  exact owned.symm ▸ held

/-- The fiber of a new instance waits for no job, and no job of it is set aside. -/
theorem Rooted.start (anchored : engine.Anchored) {record : ProcessInstance} {now : Instant}
    {supply : IdSupply} (absent : engine.store.states.get? record.id = none) :
    (UnitOfWork.create record now supply).start.2.Rooted engine.store (Origin record.id) := by
  constructor
  · intro id fiber key found waits
    have found := (fiber?_spawn (UnitOfWork.create record now supply) id 0 none).symm.trans found
    split at found
    · cases found
      cases waits
    · cases found
  · intro place letter stored owned
    obtain ⟨-, state, present, -⟩ := anchored.held stored
    rw [owned] at present
    cases absent.symm.trans present

/-- After work was stored, the fibers of its instance are those that it has reached. -/
theorem Storable.fiber?_apply (storable : engine.Storable work)
    (store : next.store = engine.store.apply work.finish.1) (asked : InstanceId) :
    next.fiber? asked = if asked = work.record.id then work.fiber? else engine.fiber? asked := by
  funext id
  rw [Engine.fiber?, store, storable.states_apply]
  split
  · rfl
  · rfl

/-- What is rooted when it is stored is rooted afterwards. -/
theorem Rooted.apply (rooted : engine.Rooted Origin) (storable : engine.Storable work)
    (anchored : work.Anchored engine.store)
    (reached : work.Rooted engine.store (Origin work.record.id))
    (store : next.store = engine.store.apply work.finish.1) : next.Rooted Origin := by
  have fibers := storable.fiber?_apply store
  have letters : next.store.deadLetters = work.lettersOver engine.store.deadLetters := by
    rw [store]
    rfl
  refine ⟨fun {owner id fiber key} found waits => ?_, fun {place letter} stored => ?_⟩
  · rw [fibers] at found
    split at found
    · rename_i mine
      exact mine ▸ reached.parked found waits
    · exact rooted.parked found waits
  · rw [letters] at stored
    rw [fibers]
    split
    · rename_i mine
      rw [mine]
      exact reached.held stored mine
    · rename_i other
      exact rooted.held (anchored.others stored other)

/-- However many turns are taken, fibers stay where they have handed out their jobs. -/
theorem Engages.rooted (engages : engine.Engages program work) (consistent : engine.Consistent)
    (named : program.Named work.record.program) (anchored : work.Anchored engine.store)
    (rooted : work.Rooted engine.store (Origin work.record.id))
    (hands : ∀ handing : Handing, handing.engine = engine -> ∀ owner id key pc,
      handing.Of owner id key pc -> Origin owner id key pc) (remaining taken : Nat) :
    (takeTurns program remaining taken work).2.Rooted engine.store (Origin work.record.id) := by
  induction remaining generalizing work taken with
  | zero => exact rooted
  | succ remaining ih =>
    have shapely := (engages.agrees consistent).2.1
    rw [takeTurns_succ program shapely]
    cases next : work.nextFiber? with
    | none => exact rooted
    | some id =>
      obtain ⟨-, fiber, rfl, found, ready⟩ := nextFiber_some shapely next
      have turned := turn_cases program found rfl
      have confined := turned.confined
      dsimp only
      rw [← confined.id]
      refine ih (engages.turned next) (confined.program ▸ named)
        (turned.anchored shapely named found ready anchored) ?_ _
      rw [confined.id]
      refine rooted.turned turned shapely found ready anchored
        (fun taskType node retries routes key name reached handed => ?_)
      obtain ⟨handing, same, isOf⟩ := engages.handing consistent found ready next reached handed
      exact hands handing same _ _ _ _ isOf

/-- Every atomic step keeps stored fibers where they have handed out their jobs. -/
theorem Advance.rooted (advance : Advance scope engine next) (consistent : engine.Consistent)
    (catalogues : engine.Catalogues) (anchored : engine.Anchored) (rooted : engine.Rooted Origin)
    (hands : ∀ handing : Handing, handing.engine = engine -> ∀ owner id key pc,
      handing.Of owner id key pc -> Origin owner id key pc) : next.Rooted Origin := by
  have orderly := consistent.orderly
  have sound := orderly.sound
  cases advance.effect sound with
  | same programs store supply => exact rooted.of_same (by rw [store]) (by rw [store]; exact id)
  | claim request store supply =>
    exact rooted.of_same (by rw [store]; rfl) (by rw [store]; exact id)
  | purge now store supply =>
    refine rooted.of_same (by rw [store]; rfl) (fun {place letter} found => ?_)
    rw [store] at found
    change (engine.store.deadLetters.filter _).get? _ = _ at found
    rw [OrderedMap.get?_filter, Option.filter_eq_some_iff] at found
    exact found.1
  | @create payload correlation program work known absent ran store supply took =>
    have engages := @Engages.created engine program payload correlation known absent
    refine rooted.apply (storable_create absent ran)
      (anchored.created catalogues known absent ran) ?_ store
    obtain ⟨steps, rfl⟩ := took
    rw [ran.confined.id]
    exact engages.rooted consistent (catalogues.known known)
      (anchored.start absent (Nat.le_add_right _ 2)) (Engine.Rooted.start anchored absent) hands
      steps 0
  | @slice id purpose state program work _ known stored own admitted intervened ran store _ took =>
    have engages := Engages.changed known stored own intervened
    refine rooted.apply (storable_slice sound stored intervened ran).1
      (anchored.sliced orderly catalogues known stored own intervened ran) ?_ store
    obtain ⟨steps, rfl⟩ := took
    have begun := sound _ _ stored
    have shapely := @shapely_begin _ _ engine.now engine.supply begun
    have continues := intervened.continues
    have beginning := anchored.beginning sound stored
    have changed := intervened.rooted orderly.filed shapely begun.keyed beginning
      (rooted.beginning sound stored)
    rw [← begun.keyed, show state.record.id = work.record.id from continues.id.symm] at changed
    rw [ran.confined.id]
    refine engages.rooted consistent ?_
      (intervened.anchored orderly.filed shapely begun.keyed beginning) changed hands steps 0
    rw [continues.program]
    exact own.symm ▸ catalogues.known known

/-! ## Histories -/

/-- On the way from one engine to another a fiber of the instance hands out the job here. -/
def HandsOutOnTheWay (first last : Engine MemoryStore) (owner : InstanceId) (id : FiberId)
    (key : JobKey) (pc : Address) : Prop :=
  ∃ handing : Handing, Advances .any first handing.engine ∧ Advances .any handing.engine last ∧
    handing.Of owner id key pc

/-- In the course of a history a fiber of the instance has handed out the job here. -/
def HasHandedOut (first : Engine MemoryStore) (entries : List HistoryEntry) (owner : InstanceId)
    (id : FiberId) (key : JobKey) (pc : Address) : Prop :=
  ∃ earlier entry rest before after, entries = earlier ++ entry :: rest ∧
    History first earlier before ∧ History first (earlier ++ [entry]) after ∧
    before.HandsOutOnTheWay after owner id key pc

/-- In an engine that began without anything stored, every fiber that waits for a job, or whose job
is set aside, is where it has handed out the job. -/
theorem History.rooted {entries : List HistoryEntry} (history : History first entries last)
    (fresh : first.Fresh) : last.Rooted (first.HasHandedOut entries) := by
  induction history with
  | refl =>
    refine ⟨fun {owner id fiber key} found => ?_, fun {place letter} found => ?_⟩
    · rw [Engine.fiber?, fresh.store] at found
      cases found
    · rw [fresh.store] at found
      cases found
  | step prior operation ih =>
    rename_i entries middle
    let Origin (reached : Engine MemoryStore) (owner : InstanceId) (id : FiberId) (key : JobKey)
        (pc : Address) : Prop := first.HasHandedOut entries owner id key pc ∨
      middle.HandsOutOnTheWay reached owner id key pc
    have step : ∀ engine next, Advance operation.scope engine next ->
        (engine.Consistent ∧ engine.Catalogues ∧ engine.Anchored) ∧
          Advances .any middle engine ∧ engine.Rooted (Origin engine) ->
        (next.Consistent ∧ next.Catalogues ∧ next.Anchored) ∧
          Advances .any middle next ∧ next.Rooted (Origin next) := by
      rintro engine next advance ⟨⟨consistent, catalogues, anchored⟩, way, rooted⟩
      have wide : Advances .any engine next :=
        (Advances.single advance).widen (fun _ _ => trivial) (fun _ _ => trivial)
      refine ⟨⟨advance.consistent consistent, advance.catalogues catalogues,
        advance.anchored consistent.orderly catalogues anchored⟩, way.trans wide, ?_⟩
      refine advance.rooted consistent catalogues anchored (rooted.imp (fun origin => ?_))
        (fun handing same owner id key pc isOf => .inr ⟨handing, same ▸ way, same ▸ wide, isOf⟩)
      refine origin.imp_right (fun onTheWay => ?_)
      obtain ⟨handing, earlier, later, isOf⟩ := onTheWay
      exact ⟨handing, earlier, later.trans wide, isOf⟩
    have begun : middle.Rooted (Origin middle) := ih.imp .inl
    obtain ⟨-, -, rooted⟩ := (operation.advances middle).preserves step
      ⟨⟨prior.consistent fresh, (prior.supplied fresh).toCatalogues, prior.anchored fresh⟩, .refl,
        begun⟩
    refine rooted.imp (fun origin => ?_)
    rcases origin with ⟨earlier, entry, rest, before, after, rfl, had, has, hands⟩ | hands
    · exact ⟨earlier, entry, rest ++ [(operation, (outcome operation.perform middle).1)], before,
        after, by simp, had, has, hands⟩
    · exact ⟨entries, _, [], middle, _, rfl, prior, prior.step operation, hands⟩

end Engine

end ProcessEngine
