import ProcessEngine.Proofs.CountedLoops
import ProcessEngine.Proofs.Deployments
import ProcessEngine.Proofs.Listeners
import ProcessEngine.Proofs.RaceTargets
import ProcessEngine.Proofs.Waits

/-!
# Races

A signal decides a race if it triggers an arm, and just one arm wins then: of the timers that are
due the one that was due first, or the first arm that awaits the message (`ArmWait.Wins`). Of the
others those with another target are cancelled. In a compiled program these are all others, because
the arms of a race keep different targets as long as a fiber waits (`DistinctArms`). All this is
`UnitOfWork.race_decided`.
-/

namespace ProcessEngine

open UnitOfWork

/-! ## The arm that wins -/

theorem Instant.lt_of_le_of_lt {first second third : Instant} (earlier : first ≤ second)
    (later : second < third) : first < third := by
  change first.second < second.second ∨ (first.second = second.second ∧
    first.nanosecond ≤ second.nanosecond) at earlier
  change second.second < third.second ∨ (second.second = third.second ∧
    second.nanosecond < third.nanosecond) at later
  change first.second < third.second ∨ (first.second = third.second ∧
    first.nanosecond < third.nanosecond)
  omega

theorem Instant.lt_irrefl {instant : Instant} : ¬ instant < instant := by
  change ¬ (instant.second < instant.second ∨ (instant.second = instant.second ∧
    instant.nanosecond < instant.nanosecond))
  omega

namespace ArmWait

/-- A signal of this kind ends the arm. -/
inductive Triggers (now : Instant) (arm : ArmWait) : WakeKind -> Prop where
  | timer {due} (times : arm.due? = some due) (come : due ≤ now) : Triggers now arm .timer
  | message {name correlation} (awaits : arm.awaits name correlation = true) :
    Triggers now arm (.message name correlation)

/-- The timer of the arm between the others is due, was due before those of the earlier arms, and no
later than those of the later ones. -/
structure DueFirst (now : Instant) (earlier : List ArmWait) (winner : ArmWait)
    (later : List ArmWait) (due : Instant) : Prop where
  times : winner.due? = some due
  come : due ≤ now
  sooner : ∀ rival ∈ earlier, ∀ due', rival.due? = some due' -> due < due'
  soonest : ∀ rival ∈ later, ∀ due', rival.due? = some due' -> due ≤ due'

/-- A signal of this kind ends the arm between the others first: by the clock the arm that was due
first, by a message the first one that awaits it. -/
inductive Wins (now : Instant) (earlier : List ArmWait) (winner : ArmWait)
    (later : List ArmWait) : WakeKind -> Prop where
  | timer {due} (first : DueFirst now earlier winner later due) :
    Wins now earlier winner later .timer
  | message {name correlation} (awaits : winner.awaits name correlation = true)
    (first : ∀ rival ∈ earlier, rival.awaits name correlation = false) :
    Wins now earlier winner later (.message name correlation)

variable {now due : Instant} {arms earlier later : List ArmWait} {arm winner : ArmWait}
  {target : Address} {kind : WakeKind}

/-- What is due first among the rest is due first of all, if it was due before the first arm. -/
theorem DueFirst.cons (first : DueFirst now earlier winner later due)
    (sooner : ∀ due', arm.due? = some due' -> due < due') :
    DueFirst now (arm :: earlier) winner later due :=
  ⟨first.times, first.come, List.forall_mem_cons.2 ⟨sooner, first.sooner⟩, first.soonest⟩

/-- No arm was due before the one that is due first. -/
theorem DueFirst.least (first : DueFirst now earlier winner later due) :
    ∀ rival ∈ earlier ++ winner :: later, ∀ due', rival.due? = some due' -> due ≤ due' := by
  intro rival listed due' times
  rcases List.mem_append.1 listed with among | among
  · exact Instant.le_of_lt (first.sooner rival among due' times)
  · rcases List.mem_cons.1 among with rfl | among
    · cases first.times.symm.trans times
      exact Instant.not_lt_iff.1 Instant.lt_irrefl
    · exact first.soonest rival among due' times

/-- The arm that comes first by its timer is due first. -/
theorem dueFirst_of_firstDue? (comes : firstDue? now arms = some (due, target)) :
    ∃ earlier winner later, arms = earlier ++ winner :: later ∧ winner.target = target ∧
      DueFirst now earlier winner later due := by
  induction arms generalizing due target with
  | nil => cases comes
  | cons arm rest ih =>
    have goesOn {due : Instant} {target : Address}
        (comes : firstDue? now rest = some (due, target))
        (sooner : ∀ due', arm.due? = some due' -> due ≤ now -> due < due') :
        ∃ earlier winner later, arm :: rest = earlier ++ winner :: later ∧
          winner.target = target ∧ DueFirst now earlier winner later due := by
      obtain ⟨earlier, winner, later, rfl, leads, first⟩ := ih comes
      exact ⟨arm :: earlier, winner, later, rfl, leads,
        first.cons (fun due' times => sooner due' times first.come)⟩
    rw [firstDue?] at comes
    cases times : arm.due? with
    | none =>
      rw [times] at comes
      exact goesOn comes (fun due' times' => by cases times.symm.trans times')
    | some own =>
      rw [times] at comes
      dsimp only at comes
      split at comes
      · rename_i late
        refine goesOn comes (fun due' times' come => ?_)
        cases times.symm.trans times'
        exact Instant.lt_of_le_of_lt come late
      · rename_i early
        have come := Instant.not_lt_iff.1 early
        -- The arm wins if nothing of the rest was due before it.
        have here (soonest : ∀ rival ∈ rest, ∀ due', rival.due? = some due' -> own ≤ due') :
            ∃ earlier winner later, arm :: rest = earlier ++ winner :: later ∧
              winner.target = arm.target ∧ DueFirst now earlier winner later own :=
          ⟨[], arm, rest, rfl, rfl, times, come, List.forall_mem_nil _, soonest⟩
        split at comes
        · rename_i alone
          cases comes
          refine here (fun rival listed due' times' => Instant.not_lt_iff.1 (fun sooner => ?_))
          have some := isSome_firstDue?_iff.2 ⟨rival, listed, due', times',
            Instant.le_trans (Instant.le_of_lt sooner) come⟩
          rw [alone] at some
          cases some
        · rename_i other target' comes'
          split at comes
          · rename_i sooner
            cases comes
            refine goesOn comes' (fun due' times' _ => ?_)
            cases times.symm.trans times'
            exact sooner
          · rename_i after
            cases comes
            obtain ⟨earlier, winner, later, rfl, -, first⟩ := ih comes'
            exact here (fun rival listed due' times' =>
              Instant.le_trans (Instant.not_lt_iff.1 after) (first.least rival listed due' times'))

/-- What wins a race is one of its arms, and wins against all others. -/
theorem wins_of_winner? (wins : winner? arms now kind = some target) :
    ∃ earlier winner later, arms = earlier ++ winner :: later ∧ winner.target = target ∧
      Wins now earlier winner later kind := by
  cases kind with
  | timer =>
    obtain ⟨⟨due, _⟩, comes, rfl⟩ := Option.map_eq_some_iff.1 wins
    obtain ⟨earlier, winner, later, split, leads, first⟩ := dueFirst_of_firstDue? comes
    exact ⟨earlier, winner, later, split, leads, .timer first⟩
  | message name correlation =>
    obtain ⟨winner, comes, rfl⟩ := Option.map_eq_some_iff.1 wins
    obtain ⟨awaits, earlier, later, split, first⟩ := List.find?_eq_some_iff_append.1 comes
    exact ⟨earlier, winner, later, split, rfl, .message awaits (fun rival listed => by
      simpa using first rival listed)⟩
  | human task => cases wins

/-- Some arm wins if one is triggered. -/
theorem isSome_winner?_iff :
    (winner? arms now kind).isSome = true ↔ ∃ arm ∈ arms, arm.Triggers now kind := by
  cases kind with
  | timer =>
    rw [winner?, Option.isSome_map, isSome_firstDue?_iff]
    constructor
    · rintro ⟨arm, listed, due, times, come⟩
      exact ⟨arm, listed, .timer times come⟩
    · rintro ⟨arm, listed, ⟨times, come⟩⟩
      exact ⟨arm, listed, _, times, come⟩
  | message name correlation =>
    rw [winner?, Option.isSome_map, List.find?_isSome]
    refine exists_congr (fun arm => and_congr_right (fun _ => ⟨.message, fun triggers => ?_⟩))
    cases triggers with
    | message awaits => exact awaits
  | human task =>
    constructor
    · intro won
      cases won
    · rintro ⟨arm, -, triggers⟩
      cases triggers

/-- If no two arms lead to the same address, the arms that lead elsewhere than the winner are all
the others. -/
theorem filter_target_eq
    (different : ((earlier ++ winner :: later).map ArmWait.target).Nodup) :
    ((earlier ++ winner :: later).map ArmWait.target).filter
      (fun target => target != winner.target) = (earlier ++ later).map ArmWait.target := by
  simp only [List.map_append, List.map_cons] at different ⊢
  obtain ⟨absent, -⟩ := List.nodup_cons.1 (List.nodup_middle.1 different)
  rw [List.filter_append, List.filter_cons_of_neg (by simp), ← List.filter_append,
    List.filter_eq_self]
  intro target listed
  rw [bne_iff_ne]
  rintro rfl
  exact absent listed

end ArmWait

/-! ## Arms of a compiled program -/

/-- No two arms of a race that a fiber waits for lead to the same address. -/
def DistinctArms (fibers : FiberId -> Option Fiber) : Prop :=
  ∀ id fiber node arms, fibers id = some fiber -> fiber.wait = .race node arms ->
    (arms.map ArmWait.target).Nodup

section

variable {fibers fibers' : FiberId -> Option Fiber} {program : Program} {work next : UnitOfWork}
  {fiber : Fiber}

theorem DistinctArms.dwell {Shelved : DeadLetter -> Prop} (distinct : DistinctArms fibers)
    (dwell : Dwell Shelved fibers fibers') : DistinctArms fibers' := by
  intro id later node arms found waits
  rcases dwell id later found with ready | ⟨former, before, dwells⟩
  · cases ready.symm.trans waits
  · cases dwells with
    | stays pc wait => exact distinct id former node arms before (wait ▸ waits)
    | stops pc waited halted => cases halted.symm.trans waits
    | takesUp shelved own pc halted waits' => cases waits'.symm.trans waits

/-- A fiber begins to wait for a race with different targets. -/
theorem DistinctArms.turned (distinct : DistinctArms work.fiber?) (apart : program.RacesApart)
    (turned : Turned program fiber work next) (shapely : work.Shapely)
    (found : work.fiber? fiber.id = some fiber) (ready : fiber.wait = .ready) :
    DistinctArms next.fiber? := by
  intro id later node arms there waits
  cases turned.places shapely found ready there with
  | ready ready => cases ready.symm.trans waits
  | stays before pc wait => exact distinct id _ node arms before (wait ▸ waits)
  | handOut reached handed first pc waits' => cases waits'.symm.trans waits
  | race reached leads pc waits' =>
    cases waits'.symm.trans waits
    rw [leads]
    exact apart _ _ _ reached
  | sleep waits' => cases waits'.symm.trans waits
  | listen waits' => cases waits'.symm.trans waits
  | consult waits' => cases waits'.symm.trans waits
  | halt raised alone waits' => cases waits'.symm.trans waits

theorem DistinctArms.ran (distinct : DistinctArms work.fiber?) (apart : program.RacesApart)
    (ran : Ran program work next) (shapely : work.Shapely) : DistinctArms next.fiber? := by
  induction ran with
  | refl => exact distinct
  | step prior running found ready turned ih =>
    exact ih.turned apart turned (prior.shapely shapely) found ready

/-- The fiber of a new instance waits for nothing. -/
theorem distinctArms_start (record : ProcessInstance) (now : Instant) (supply : IdSupply) :
    DistinctArms (UnitOfWork.create record now supply).start.2.fiber? := by
  intro id fiber node arms found waits
  have found := (fiber?_spawn (UnitOfWork.create record now supply) id 0 none).symm.trans found
  split at found
  · cases found
    cases waits
  · cases found

end

namespace Engine

variable {engine next first last : Engine MemoryStore} {program : Program} {scope : Scope}

/-- In all stored instances of the program the arms of races have different targets. -/
def DistinctArms (engine : Engine MemoryStore) (program : Program) : Prop :=
  ∀ id state, engine.store.states.get? id = some state -> state.record.program = program.hash ->
    ProcessEngine.DistinctArms state.fiber?

theorem DistinctArms.apply (distinct : engine.DistinctArms program) {work : UnitOfWork}
    (storable : engine.Storable work)
    (mine : work.record.program = program.hash -> ProcessEngine.DistinctArms work.fiber?)
    (store : next.store = engine.store.apply work.finish.1) : next.DistinctArms program := by
  intro id state stored own
  rw [store, storable.states_apply] at stored
  split at stored
  · cases stored
    exact mine own
  · exact distinct id state stored own

/-- Every atomic step keeps the targets of races different. -/
theorem Advance.distinctArms (advance : Advance scope engine next) (apart : program.RacesApart)
    (sound : engine.Sound) (sole : engine.Sole program)
    (distinct : engine.DistinctArms program) : next.DistinctArms program := by
  cases advance.act sound with
  | nothing untouched =>
    rw [DistinctArms, untouched.states]
    exact distinct
  | create known absent ran store supply took =>
    refine distinct.apply (storable_create absent ran) (fun own => ?_) store
    obtain rfl := sole _ known (ran.confined.program.symm.trans own)
    exact (distinctArms_start _ _ _).ran apart ran (shapely_start _)
  | slice known stored own admitted intervened ran store supply took =>
    refine distinct.apply (storable_slice sound stored intervened ran).1 (fun mine => ?_) store
    have same := (intervened.continues.trans ran.confined.toContinues).program
    obtain rfl := sole _ known ((own.symm.trans same.symm).trans mine)
    have shapely := @shapely_begin _ _ engine.now engine.supply (sound _ _ stored)
    exact ((distinct _ _ stored own).dwell (intervened.dwell shapely)).ran apart ran
      (intervened.shapely shapely)

theorem Advances.distinctArms (advances : Advances (.identifying program) first last)
    (apart : program.RacesApart) (fresh : first.Fresh) :
    last.Sound ∧ last.DistinctArms program := by
  have step : ∀ engine next, Advance (.identifying program) engine next ->
      engine.Orderly ∧ engine.Sole program ∧ engine.DistinctArms program ->
        next.Orderly ∧ next.Sole program ∧ next.DistinctArms program := by
    rintro engine next advance ⟨orderly, sole, distinct⟩
    exact ⟨advance.orderly orderly, advance.sole sole (fun _ unique => unique),
      advance.distinctArms apart orderly.sound sole distinct⟩
  have distinct : first.DistinctArms program := by
    intro id state stored
    rw [fresh.store] at stored
    cases stored
  obtain ⟨orderly, -, distinct⟩ :=
    advances.preserves step ⟨fresh.orderly, fresh.sole program, distinct⟩
  exact ⟨orderly.sound, distinct⟩

/-- So they are in all work that is under way. -/
theorem UnderWay.distinctArms {work : UnitOfWork} (underWay : first.UnderWay program work)
    (apart : program.RacesApart) (fresh : first.Fresh) :
    work.Shapely ∧ ProcessEngine.DistinctArms work.fiber? := by
  induction underWay with
  | created advances absent => exact ⟨shapely_start _, distinctArms_start _ _ _⟩
  | changed advances stored own intervened =>
    obtain ⟨sound, distinct⟩ := advances.distinctArms apart fresh
    rename_i engine id state purpose changed
    have shapely := @shapely_begin _ _ engine.now engine.supply (sound _ _ stored)
    exact ⟨intervened.shapely shapely, (distinct _ _ stored own).dwell (intervened.dwell shapely)⟩
  | turned prior next ih =>
    obtain ⟨shapely, distinct⟩ := ih
    obtain ⟨-, fiber, rfl, found, ready⟩ := nextFiber_some shapely next
    have turned := turn_cases program found rfl
    exact ⟨shapely.turned found ready turned, distinct.turned apart turned shapely found ready⟩

end Engine

/-! ## Decisions -/

namespace UnitOfWork

variable {work : UnitOfWork} {signal : WakeSignal} {fiber : Fiber} {node : NodeKey}
  {arms : List ArmWait}

/-- A fiber that waited for a race goes on where the winner leads, and the log names the winner and
the other targets. -/
structure Decides (work : UnitOfWork) (signal : WakeSignal) (fiber : Fiber) (node : NodeKey)
    (winner : Address) (losers : List Address) (next : UnitOfWork) : Prop where
  woken : next.fiber? signal.fiber =
    some { fiber with wait := .ready, pc := winner, epoch := fiber.epoch + 1 }
  others : ∀ id, id ≠ signal.fiber -> next.fiber? id = work.fiber? id
  record : next.record = work.record.accept signal.flags signal.payload
  events : next.events = work.events ++ .raceWon node winner ::
    losers.map (.raceArmCancelled node) ++ [.fiberResumed signal.fiber (fiber.epoch + 1)]

/-- To log arms that are cancelled does nothing else. -/
theorem foldl_cancelArms (work : UnitOfWork) (node : NodeKey) (targets : List Address) :
    let logged := targets.foldl
      (fun (work : UnitOfWork) target => work.emit (.raceArmCancelled node target)) work
    logged.state = work.state ∧
      logged.events = work.events ++ targets.map (.raceArmCancelled node) := by
  induction targets generalizing work with
  | nil => exact ⟨rfl, (List.append_nil _).symm⟩
  | cons target rest ih =>
    obtain ⟨state, events⟩ := ih (work.emit (.raceArmCancelled node target))
    exact ⟨state, events.trans (List.append_assoc ..)⟩

/-- A race is decided by the arm that wins it, if one does. -/
theorem resumption_race (running : work.record.isRunning = true)
    (found : work.fiber? signal.fiber = some fiber) (current : fiber.epoch = signal.epoch)
    (waits : fiber.wait = .race node arms) :
    work.resumption signal = match ArmWait.winner? arms work.time signal.kind with
      | none => .error (.noArm node)
      | some winner => .ok (.win node winner
          ((arms.map ArmWait.target).filter (fun target => target != winner))) := by
  have answers : fiber.answer work.time signal.kind =
      match ArmWait.winner? arms work.time signal.kind with
      | none => .error (.noArm node)
      | some winner => .ok (.win node winner
          ((arms.map ArmWait.target).filter (fun target => target != winner))) := by
    cases fiber
    cases waits
    rfl
  rw [resumption, running, found, ← answers]
  exact (if_neg Bool.false_ne_true).trans (if_pos current)

/-- What the winner of a race leaves. -/
theorem decides_resume (found : work.fiber? signal.fiber = some fiber) (winner : Address)
    (losers : List Address) :
    work.Decides signal fiber node winner losers
      ((work.updateRecord (fun record => record.accept signal.flags signal.payload)).resume
        signal.fiber (.win node winner losers)) := by
  obtain ⟨state, events⟩ := foldl_cancelArms ((work.updateRecord (fun record =>
    record.accept signal.flags signal.payload)).emit (.raceWon node winner)) node losers
  rw [resume]
  generalize losers.foldl _ _ = logged at state events ⊢
  have same : ∀ id, logged.fiber? id = work.fiber? id := by
    intro id
    rw [UnitOfWork.fiber?, state]
    rfl
  refine ⟨?_, fun id other => ?_, ?_, ?_⟩
  · rw [fiber?_wake, if_pos rfl, same, found]
    rfl
  · rw [fiber?_wake, if_neg other, same]
  · rw [wake, same, found]
    exact congrArg InstanceState.record state
  · rw [wake, same, found]
    refine (congrArg (· ++ _) events).trans ?_
    simp [emit, updateRecord, Fiber.wake]

/-- A signal wakes a fiber that waits for a race, in its present epoch, if it triggers one of the
arms; the winner is the arm that comes first, and the arms that lead elsewhere are cancelled, which
are all others if the instance is one of a compiled program. Otherwise the log says that the signal
was discarded, and nothing else is changed. -/
theorem race_decided (running : work.record.isRunning = true)
    (found : work.fiber? signal.fiber = some fiber) (current : fiber.epoch = signal.epoch)
    (waits : fiber.wait = .race node arms) :
    ((work.deliver signal).1 = .woken ↔
      ∃ arm ∈ arms, arm.Triggers work.time signal.kind) ∧
    (∀ next, work.deliver signal = (.woken, next) ->
      ∃ earlier winner later, arms = earlier ++ winner :: later ∧
        ArmWait.Wins work.time earlier winner later signal.kind ∧
        work.Decides signal fiber node winner.target ((arms.map ArmWait.target).filter
          (fun target => target != winner.target)) next ∧
        ∀ (graph : ProcessGraph) (program : Program) (first : Engine MemoryStore),
          graph.compile = .ok program -> first.Fresh -> first.UnderWay program work ->
          (arms.map ArmWait.target).filter (fun target => target != winner.target) =
            (earlier ++ later).map ArmWait.target) ∧
    ∀ reason next, work.deliver signal = (.discarded reason, next) ->
      reason = .noArm node ∧ next.state = work.state ∧
        next = work.emit (.signalDiscarded signal.fiber reason.text) := by
  have answers := resumption_race running found current waits
  rw [deliver]
  cases wins : ArmWait.winner? arms work.time signal.kind with
  | none =>
    have silent : ¬ ∃ arm ∈ arms, arm.Triggers work.time signal.kind := by
      rw [← ArmWait.isSome_winner?_iff, wins]
      exact Bool.false_ne_true
    rw [wins] at answers
    rw [answers]
    refine ⟨iff_of_false (fun woken => ?_) silent, fun next delivered => ?_,
      fun reason next delivered => ?_⟩
    · cases woken
    · cases delivered
    · cases delivered
      exact ⟨rfl, rfl, rfl⟩
  | some target =>
    have triggered := ArmWait.isSome_winner?_iff.1 (Option.isSome_iff_exists.2 ⟨target, wins⟩)
    rw [wins] at answers
    rw [answers]
    dsimp only
    refine ⟨iff_of_true rfl triggered, fun next delivered => ?_,
      fun _ _ delivered => absurd (congrArg Prod.fst delivered) Delivery.noConfusion⟩
    cases delivered
    obtain ⟨earlier, winner, later, rfl, rfl, beats⟩ := ArmWait.wins_of_winner? wins
    refine ⟨earlier, winner, later, rfl, beats, decides_resume found winner.target _,
      fun graph program first compiled fresh underWay => ?_⟩
    have apart := ProcessGraph.racesApart_of_compile compiled
    exact ArmWait.filter_target_eq
      ((underWay.distinctArms apart fresh).2 signal.fiber fiber node _ found waits)

end UnitOfWork

namespace OfferRace

def start : NodeKey := ⟨"s", Eq.refl true⟩
def offer : NodeKey := ⟨"o", Eq.refl true⟩
def accepted : NodeKey := ⟨"a", Eq.refl true⟩
def called : NodeKey := ⟨"c", Eq.refl true⟩
def expired : NodeKey := ⟨"e", Eq.refl true⟩
def mailed : NodeKey := ⟨"m", Eq.refl true⟩

/-- A race between the answer to an offer and three timers. -/
def nodes : List Node := [⟨start, .start⟩,
  ⟨offer, .raceWait [⟨.message "accept" none, accepted⟩, ⟨.timer 2000, expired⟩,
    ⟨.timer 1000, called⟩, ⟨.timer 1000, mailed⟩]⟩,
  ⟨accepted, .finish false⟩, ⟨called, .finish false⟩, ⟨expired, .finish false⟩,
  ⟨mailed, .finish false⟩]

def flows : List Flow := [{ source := start, target := offer }]

theorem made : (ProcessGraph.ofParts nodes flows).toOption.isSome := by decide +kernel

def graph : ProcessGraph := (ProcessGraph.ofParts nodes flows).toOption.get made

/-- There is nothing wrong with it. -/
theorem sound : graph.problems = [] := by decide_cbv

/-- Verification accepts it. -/
def verified : VerifiedGraph where
  graph := graph
  start := start
  pairs := graph.pairs
  sound := sound
  startNodes_eq := by decide +kernel
  pairs_eq := rfl

def instructions : List (Instruction Address) := [.jump 1,
  .race 0 [⟨.message 0 .processInstance, 2⟩, ⟨.timer 1000, 3⟩, ⟨.timer 2000, 4⟩, ⟨.timer 1000, 5⟩],
  .finish, .finish, .finish, .finish]

def symbols : SymbolTable := { nodes := [offer], messages := ["accept"] }

theorem code : ((Lowering.code verified).run {}).toOption.map (fun ((blocks, stubs), gathered) =>
    ((Assembly.allCode blocks stubs).map (Instruction.mapTargets (Assembly.resolve blocks stubs)),
      gathered.symbols)) = some (instructions, symbols) := by
  decide_cbv

def engine : Engine MemoryStore where
  store := {}
  now := default
  supply := ⟨0⟩

/-- What a fiber waits for that has come to the race. -/
def arms : List ArmWait := [⟨.message "accept" "offer-7", 2⟩,
  ⟨.timer ((default : Instant).after 1000), 3⟩, ⟨.timer ((default : Instant).after 2000), 4⟩,
  ⟨.timer ((default : Instant).after 1000), 5⟩]

def program (entries : OrderedMap NodeKey Address) (hash : ProgramHash) : Program :=
  ⟨instructions, { symbols with entries }, hash⟩

/-- The race is waited for from the beginning. -/
theorem turns (entries : OrderedMap NodeKey Address) (hash : ProgramHash) {work : UnitOfWork}
    (took : work = (UnitOfWork.takeTurns (program entries hash) 10000 0
      (UnitOfWork.create (.create ⟨0⟩ hash .null "offer-7" default) default ⟨1⟩).start.2).2) :
    (work.record.isRunning && (work.state.fibers.get? ⟨1⟩).any
      (fun fiber => fiber.epoch == 0 && fiber.wait == .race offer arms)) = true := by
  rw [took]
  cbv

/-- It is compiled. -/
theorem compiles : ∃ entries hash, graph.compile = .ok (program entries hash) :=
  @VerifiedGraph.compiles_of_code verified _ _ (Option.some_get made).symm
    (by simp [nodes, registerCount]) _ _ code

/-- The clock is asked when all timers are due. -/
def clock : Instant := (default : Instant).after 2500

def signal : WakeSignal := { owner := ⟨0⟩, fiber := ⟨1⟩, epoch := 0, kind := .timer }

open Engine UnitOfWork in
/-- Then the race is still waited for. -/
theorem waiting : ∃ program work fiber, graph.compile = .ok program ∧
    engine.UnderWay program work ∧ work.time = clock ∧ work.record.isRunning = true ∧
    work.fiber? ⟨1⟩ = some fiber ∧ fiber.epoch = 0 ∧ fiber.wait = .race offer arms := by
  obtain ⟨entries, hash, compiled⟩ := compiles
  obtain ⟨work, took, own, stored⟩ :=
    @states_deploy_start engine (program entries hash) _ compiled rfl rfl .null "offer-7"
  rw [show max 1 engine.config.maximumSteps = 10000 from rfl] at took
  obtain ⟨running, waits⟩ := Bool.and_eq_true_iff.1 (turns entries hash took)
  obtain ⟨fiber, found, same⟩ := (Option.any_eq_true _ _).1 waits
  rw [Bool.and_eq_true] at same
  have advances : Advances (.identifying (program entries hash)) engine (engine.performAll
      ([.deploy graph, .start hash .null "offer-7"] ++ [.setClock clock])) := by
    refine advances_identifying (fun entry listed other brings => ?_)
    simp only [entriesOf, List.cons_append, List.nil_append, List.mem_cons, List.not_mem_nil,
      or_false] at listed
    rcases listed with rfl | rfl | rfl
    · exact fun _ => Except.ok.inj (Eq.trans (Eq.symm brings) compiled)
    · cases brings
    · cases brings
  rw [performAll_append] at advances
  exact ⟨_, _, fiber, compiled, .changed advances stored own .run, rfl, running, found,
    eq_of_beq same.1, eq_of_beq same.2⟩

end OfferRace

open UnitOfWork in
/-- When all timers are due, the first one of the two that were due first wins. -/
theorem race_decided_of_offer : ∃ program work fiber next earlier winner later,
    OfferRace.graph.compile = .ok program ∧ OfferRace.engine.UnderWay program work ∧
    work.time = OfferRace.clock ∧ work.fiber? OfferRace.signal.fiber = some fiber ∧
    fiber.wait = .race OfferRace.offer OfferRace.arms ∧
    work.deliver OfferRace.signal = (.woken, next) ∧
    OfferRace.arms = earlier ++ winner :: later ∧
    ArmWait.Wins OfferRace.clock earlier winner later .timer ∧
    work.Decides OfferRace.signal fiber OfferRace.offer winner.target
      ((earlier ++ later).map ArmWait.target) next := by
  obtain ⟨program, work, fiber, compiled, underWay, time, running, found, current, waits⟩ :=
    OfferRace.waiting
  obtain ⟨wakes, decides, -⟩ :=
    @race_decided work OfferRace.signal fiber _ _ running found current waits
  have woken : (work.deliver OfferRace.signal).1 = .woken := by
    refine wakes.2 ⟨_, List.mem_cons_of_mem _ List.mem_cons_self, .timer rfl ?_⟩
    rw [time]
    decide
  obtain ⟨earlier, winner, later, split, wins, decides, others⟩ := decides _ (Prod.ext woken rfl)
  rw [others _ program OfferRace.engine compiled ⟨rfl, rfl⟩ underWay] at decides
  exact ⟨program, work, fiber, _, earlier, winner, later, compiled, underWay, time, found, waits,
    Prod.ext woken rfl, split, time ▸ wins, decides⟩

end ProcessEngine
