import ProcessEngine.Proofs.Mirrors

/-!
# Running in slices

An instance may run in slices: after some turns it is stored, and later it is loaded again and
runs on. Since the fiber that was interrupted is still the first one that can run and everything
that turns depend on is stored, the slices come to the same as one run that is not interrupted
(`Engine.History.slices_eq_run`).
-/

namespace ProcessEngine

namespace UnitOfWork

variable {program : Program} {work twin : UnitOfWork} {former : Output}

/-! ## Turns one after another -/

/-- Who takes the turns of a run, in order, and which address it has reached then. The first turn
is the given fiber's, if there is one. -/
def turnsFrom (program : Program) :
    Nat -> Option FiberId -> UnitOfWork -> List (FiberId × Address)
  | 0, _, _ => []
  | remaining + 1, holder, work =>
    match holder.or work.nextFiber? with
    | none => []
    | some id =>
      let (holder, after) := play program id work
      (id, (work.fiber? id).elim 0 Fiber.pc) :: turnsFrom program remaining holder after

/-- Who takes the turns of a run of at most the given number of steps. -/
def turns (program : Program) (maximumSteps : Nat) (work : UnitOfWork) :
    List (FiberId × Address) :=
  turnsFrom program (max 1 maximumSteps) none work

/-- The steps of a run are its turns. -/
theorem steps_takeTurnsFrom (program : Program) (remaining taken : Nat) (holder : Option FiberId)
    (work : UnitOfWork) : (takeTurnsFrom program remaining taken holder work).1.steps =
      taken + (turnsFrom program remaining holder work).length := by
  induction remaining generalizing taken holder work with
  | zero => rfl
  | succ remaining ih =>
    rw [takeTurnsFrom, turnsFrom]
    cases holder.or work.nextFiber? with
    | none => rfl
    | some id =>
      dsimp only
      rw [ih, List.length_cons]
      omega

/-- What was taken before counts as steps and changes nothing else. -/
theorem takeTurnsFrom_taken (program : Program) (remaining before taken : Nat)
    (holder : Option FiberId) (work : UnitOfWork) :
    takeTurnsFrom program remaining (before + taken) holder work =
      let ran := takeTurnsFrom program remaining taken holder work
      (⟨before + ran.1.steps, ran.1.exhausted⟩, ran.2) := by
  induction remaining generalizing taken holder work with
  | zero => rfl
  | succ remaining ih =>
    rw [takeTurnsFrom, takeTurnsFrom]
    cases holder.or work.nextFiber? with
    | none => rfl
    | some id => exact ih (taken + 1) _ _

theorem turnsFrom_of_leads {holder : Option FiberId} (leads : Leads holder work)
    (program : Program) (remaining : Nat) :
    turnsFrom program remaining holder work = turnsFrom program remaining none work := by
  cases remaining with
  | zero => rfl
  | succ remaining => rw [turnsFrom, turnsFrom, leads, Option.none_or]

/-- A run that has come to rest would have done so with more steps. -/
theorem takeTurnsFrom_add_of_rests (program : Program) {before taken : Nat} (more : Nat)
    {holder : Option FiberId}
    (rests : (takeTurnsFrom program before taken holder work).1.exhausted = false) :
    takeTurnsFrom program (before + more) taken holder work =
        takeTurnsFrom program before taken holder work ∧
      turnsFrom program (before + more) holder work = turnsFrom program before holder work := by
  induction before generalizing taken holder work with
  | zero =>
    rw [takeTurnsFrom, Option.isSome_eq_false_iff, Option.isNone_iff_eq_none] at rests
    rw [Nat.zero_add]
    cases more with
    | zero => exact ⟨rfl, rfl⟩
    | succ more => simp only [takeTurnsFrom, turnsFrom, rests, Option.isSome_none, and_self]
  | succ before ih =>
    rw [takeTurnsFrom] at rests
    rw [Nat.add_right_comm, takeTurnsFrom, takeTurnsFrom, turnsFrom, turnsFrom]
    cases first : holder.or work.nextFiber? with
    | none => exact ⟨rfl, rfl⟩
    | some id =>
      rw [first] at rests
      obtain ⟨same, turns⟩ := ih rests
      exact ⟨same, congrArg (List.cons _) turns⟩

/-- A run that was cut short goes on with whichever fiber is first then. -/
theorem takeTurnsFrom_add_of_exhausted (program : Program) (shapely : work.Shapely)
    {before taken : Nat} (more : Nat) {holder : Option FiberId} (leads : Leads holder work)
    {report : RunReport} {last : UnitOfWork}
    (ran : takeTurnsFrom program before taken holder work = (report, last))
    (exhausted : report.exhausted = true) :
    takeTurnsFrom program (before + more) taken holder work =
        takeTurnsFrom program more report.steps none last ∧
      turnsFrom program (before + more) holder work =
        turnsFrom program before holder work ++ turnsFrom program more none last := by
  induction before generalizing taken holder work with
  | zero =>
    cases ran
    rw [Nat.zero_add, takeTurnsFrom_of_leads leads]
    exact ⟨rfl, turnsFrom_of_leads leads program more⟩
  | succ before ih =>
    rw [takeTurnsFrom] at ran
    rw [Nat.add_right_comm, takeTurnsFrom, turnsFrom, turnsFrom]
    rw [leads] at ran ⊢
    cases next : work.nextFiber? with
    | none =>
      rw [next] at ran
      cases ran
      cases exhausted
    | some id =>
      rw [next] at ran
      obtain ⟨-, fiber, rfl, found, ready⟩ := nextFiber_some shapely next
      obtain ⟨same, turns⟩ := ih (shapely.turned found ready (turn_cases program found rfl))
        (leads_play program shapely next) ran
      exact ⟨same, congrArg (List.cons _) turns⟩

/-- Turns of two units of work that mirror each other. -/
theorem Mirrors.takeTurnsFrom (mirrors : Mirrors former work twin) (program : Program)
    (remaining taken : Nat) (holder : Option FiberId) :
    (takeTurnsFrom program remaining taken holder twin).1 =
        (takeTurnsFrom program remaining taken holder work).1 ∧
      turnsFrom program remaining holder twin = turnsFrom program remaining holder work ∧
      Mirrors former (UnitOfWork.takeTurnsFrom program remaining taken holder work).2
        (UnitOfWork.takeTurnsFrom program remaining taken holder twin).2 := by
  induction remaining generalizing taken holder work twin with
  | zero =>
    rw [UnitOfWork.takeTurnsFrom, UnitOfWork.takeTurnsFrom, mirrors.nextFiber?]
    exact ⟨rfl, rfl, mirrors⟩
  | succ remaining ih =>
    rw [UnitOfWork.takeTurnsFrom, UnitOfWork.takeTurnsFrom, turnsFrom, turnsFrom,
      mirrors.nextFiber?]
    cases holder.or work.nextFiber? with
    | none => exact ⟨rfl, rfl, mirrors⟩
    | some id =>
      obtain ⟨passes, played⟩ := mirrors.play program id
      obtain ⟨report, same, last⟩ := ih played (taken + 1) (UnitOfWork.play program id work).1
      dsimp only
      rw [passes, mirrors.fiber?, same]
      exact ⟨report, rfl, last⟩

end UnitOfWork

/-! ## Slices -/

/-- What slices come to: the turns that were taken, what they noted and where the next identifiers
come from. -/
@[ext]
structure Stretch where
  turns : List (FiberId × Address)
  output : Output
  supply : IdSupply

/-- One stretch after another. -/
def Stretch.followedBy (first next : Stretch) : Stretch :=
  ⟨first.turns ++ next.turns, first.output ++ next.output, next.supply⟩

namespace UnitOfWork

variable {Store : Type} [ProcessStore Store]

/-- One slice: an instance is loaded, runs for at most a number of steps and is stored. Yields
whether it could still run, or nothing if it is missing or belongs to another program. -/
def slice (program : Program) (id : InstanceId) (now : Instant) (maximumSteps : Nat)
    (supply : IdSupply) : StoreAction Store (Option (Bool × Stretch)) := do
  match <- ProcessStore.state? id with
  | none => return none
  | some state =>
    let work := begin state now supply
    match work.run program maximumSteps with
    | .error _ => return none
    | .ok (report, done) => do
      ProcessStore.commit done.finish.1
      return some (report.exhausted, ⟨work.turns program maximumSteps, done.output, done.supply⟩)

/-- Slices of the given numbers of steps, one after another, until the instance cannot run any
more. Yields nothing if that does not happen. -/
def slices (program : Program) (id : InstanceId) (now : Instant) :
    List Nat -> IdSupply -> StoreAction Store (Option Stretch)
  | [], _ => return none
  | maximumSteps :: rest, supply => do
    match <- slice program id now maximumSteps supply with
    | none => return none
    | some (false, stretch) => return some stretch
    | some (true, stretch) => do
      return (<- slices program id now rest stretch.supply).map stretch.followedBy

end UnitOfWork

namespace UnitOfWork

variable {program : Program} {store : MemoryStore} {id : InstanceId} {state : InstanceState}
  {now : Instant} {supply : IdSupply} {work last : UnitOfWork} {report : RunReport}

/-- An instance of a program is stored, in good shape and with identifiers that were drawn. -/
structure Holds (store : MemoryStore) (program : Program) (id : InstanceId)
    (state : InstanceState) (supply : IdSupply) : Prop where
  stored : store.states.get? id = some state
  sound : state.Sound id supply.next
  own : state.record.program = program.hash

/-- A slice stores the state that its turns have led to, and logs their events. -/
theorem outcome_slice (holds : Holds store program id state supply) {maximumSteps : Nat}
    (ran : takeTurnsFrom program (max 1 maximumSteps) 0 none (begin state now supply) =
      (report, last)) :
    outcome (slice program id now maximumSteps supply) store =
        (.ok (some (report.exhausted,
          ⟨(begin state now supply).turns program maximumSteps, last.output, last.supply⟩)),
          store.apply last.finish.1) ∧
      Holds (store.apply last.finish.1) program id last.finish.2 last.supply ∧
      (store.apply last.finish.1).eventsOf id = store.eventsOf id ++ last.output.events ∧
      last.time = now := by
  have steps : Ran program (begin state now supply) (takeTurns program (max 1 maximumSteps) 0
      (begin state now supply)).2 := ran_takeTurns (shapely_begin holds.sound) _ _
  rw [takeTurns, ran] at steps
  have confined := steps.confined
  have shapely := steps.shapely (shapely_begin holds.sound)
  have owner : last.record.id = id := confined.id.trans holds.sound.keyed
  have notes : last.Notes state := confined.notes _ (notes_begin holds.sound)
  have drawn : id.number < last.supply.next :=
    Nat.lt_of_lt_of_le holds.sound.drawn confined.supply
  refine ⟨?_, ⟨?_, sound_finish shapely notes owner drawn, confined.program.trans holds.own⟩, ?_,
    confined.time⟩
  · have loaded : outcome (ProcessStore.state? id) store = (.ok (some state), store) :=
      congrArg (fun found => (Except.ok found, store)) holds.stored
    have runs : (begin state now supply).run program maximumSteps = .ok (report, last) := by
      rw [run, takeTurns, ran]
      exact if_pos holds.own
    have current : store.version? last.finish.1.record.id = last.finish.1.base := by
      change store.version? last.record.id = last.base
      rw [owner, confined.base, MemoryStore.version?, holds.stored]
      rfl
    rw [slice, outcome_bind_ok loaded]
    dsimp only
    rw [runs]
    dsimp only
    rw [outcome_bind_ok (MemoryStore.outcome_commit_of_current _ _ current)]
    rfl
  · have storable : Engine.Storable { store := store, now := now, supply := supply } last := by
      refine ⟨shapely, ?_, owner ▸ drawn, confined.supply⟩
      rw [owner, holds.stored]
      exact notes
    rw [storable.states_apply, if_pos owner.symm]
  · rw [Engine.eventsOf_apply_finish, if_pos owner.symm]
    rfl

/-- Whoever loads an instance stands where the unit of work stood that has stored it. -/
theorem mirrors_begin {former : Output} {twin : UnitOfWork} (mirrors : Mirrors former work twin) :
    Mirrors (former ++ work.output) (begin work.finish.2 work.time work.supply) twin := by
  obtain ⟨version, time, same⟩ := mirrors.state
  refine ⟨⟨version, time, ?_⟩, mirrors.time, mirrors.supply, ?_⟩
  · rw [same]
    rfl
  · rw [mirrors.output]
    exact (Output.append_empty _).symm

/-- A run that rests has taken more turns than one that was cut short. -/
theorem lt_of_exhausted {before remaining taken : Nat} {holder : Option FiberId}
    (exhausted : (takeTurnsFrom program before taken holder work).1.exhausted = true)
    (rests : (takeTurnsFrom program remaining taken holder work).1.exhausted = false) :
    before < remaining := by
  refine Nat.lt_of_not_le (fun within => ?_)
  obtain ⟨more, rfl⟩ := Nat.exists_eq_add_of_le within
  rw [(takeTurnsFrom_add_of_rests program more rests).1, rests] at exhausted
  cases exhausted

/-- Two runs that rest are the same. -/
theorem takeTurnsFrom_eq_of_rests {steps steps' taken : Nat} {holder : Option FiberId}
    (rests : (takeTurnsFrom program steps taken holder work).1.exhausted = false)
    (rests' : (takeTurnsFrom program steps' taken holder work).1.exhausted = false) :
    takeTurnsFrom program steps taken holder work =
        takeTurnsFrom program steps' taken holder work ∧
      turnsFrom program steps holder work = turnsFrom program steps' holder work := by
  obtain ⟨same, turns⟩ := takeTurnsFrom_add_of_rests program steps' rests
  obtain ⟨same', turns'⟩ := takeTurnsFrom_add_of_rests program steps rests'
  rw [Nat.add_comm] at same' turns'
  exact ⟨same.symm.trans same', turns.symm.trans turns'⟩

/-- Slices come to the same as a run that stands where they begin and comes to rest. -/
theorem outcome_slices {former : Output} {twin : UnitOfWork} (budget : Nat -> Nat)
    (holds : Holds store program id state supply) (shapely : twin.Shapely)
    (mirrors : Mirrors former (begin state now supply) twin) {remaining : Nat}
    (ran : takeTurnsFrom program remaining 0 none twin = (report, last))
    (rests : report.exhausted = false) :
    ∃ count stretch after reached,
      outcome (slices program id now ((List.range count).map budget) supply) store =
        (.ok (some stretch), after) ∧
      stretch.turns = turnsFrom program remaining none twin ∧
      former ++ stretch.output = last.output ∧ stretch.supply = last.supply ∧
      after.states.get? id = some reached ∧ reached.Keeps last.state ∧
      after.eventsOf id = store.eventsOf id ++ stretch.output.events := by
  induction remaining using Nat.strong_induction_on generalizing
    former twin budget state supply store report with
  | _ remaining ih =>
  rcases sliced : takeTurnsFrom program (max 1 (budget 0)) 0 none (begin state now supply) with
    ⟨report', paused⟩
  rcases begun : takeTurnsFrom program (max 1 (budget 0)) 0 none twin with ⟨report'', paused'⟩
  obtain ⟨done, holds', logged, unchanged⟩ := outcome_slice holds sliced
  have alike := mirrors.takeTurnsFrom program (max 1 (budget 0)) 0 none
  rw [sliced, begun] at alike
  obtain ⟨rfl : report'' = report', turns, mirrors' : Mirrors former paused paused'⟩ := alike
  have resumed := mirrors_begin mirrors'
  have listed (count : Nat) : (List.range (count + 1)).map budget =
      budget 0 :: (List.range count).map (fun index => budget (index + 1)) := by
    rw [List.range_succ_eq_map, List.map_cons, List.map_map]
    rfl
  have rests' : (takeTurnsFrom program remaining 0 none twin).1.exhausted = false := by
    rw [ran]
    exact rests
  cases ends : report''.exhausted with
  | false =>
    -- The slice has come to rest, so it has taken all the turns of the run.
    obtain ⟨same, turns'⟩ := takeTurnsFrom_eq_of_rests (by rw [begun, ends]) rests'
    rw [begun, ran] at same
    cases same
    refine ⟨1, ⟨_, paused.output, paused.supply⟩, _, _, ?_, turns.symm.trans turns',
      mirrors'.output.symm, mirrors'.supply.symm, holds'.stored, resumed.state, logged⟩
    rw [listed, slices, outcome_bind_ok done, ends]
    rfl
  | true =>
    -- The run goes on from where the slice was cut short, and the next slices go along with it.
    have less := lt_of_exhausted (by rw [begun, ends]) rests'
    obtain ⟨more, rfl⟩ := Nat.exists_eq_add_of_le (Nat.le_of_lt less)
    obtain ⟨same, turns'⟩ := takeTurnsFrom_add_of_exhausted program shapely more
      (leads_none twin) begun ends
    rcases rest : takeTurnsFrom program more 0 none paused' with ⟨report₂, last'⟩
    have shifted := takeTurnsFrom_taken program more report''.steps 0 none paused'
    rw [Nat.add_zero, rest, ← same, ran] at shifted
    cases shifted
    have reached : Ran program twin (takeTurns program (max 1 (budget 0)) 0 twin).2 :=
      ran_takeTurns shapely _ _
    rw [takeTurns, begun] at reached
    rw [unchanged] at resumed
    obtain ⟨count, stretch, after, last'', outcomes, turns'', output, drawn, stored, keeps,
      logged'⟩ := ih more (by omega) (fun index => budget (index + 1)) holds'
        (reached.shapely shapely) resumed rest rests
    refine ⟨count + 1, Stretch.followedBy ⟨(begin state now supply).turns program (budget 0),
      paused.output, paused.supply⟩ stretch, after, last'', ?_, ?_, ?_, drawn, stored, keeps, ?_⟩
    · rw [listed, slices, outcome_bind_ok done, ends]
      dsimp only
      rw [outcome_bind_ok outcomes]
      rfl
    · rw [turns', turns, ← turns'']
      rfl
    · rw [← output, Output.append_assoc]
      rfl
    · rw [logged', logged, List.append_assoc]
      rfl

end UnitOfWork

namespace Engine

open UnitOfWork

variable {first engine : Engine MemoryStore} {entries : List HistoryEntry}

/-- Slicing is invisible. Whatever instance an engine has stored, and whatever the numbers of
steps, if a run of the instance comes to rest at all then its slices do so too, after the same
turns and with the same output, all of whose events are logged once; and they leave the instance in
the same state, apart from its version and when it was last changed. -/
theorem History.slices_eq_run (history : History first entries engine) (fresh : first.Fresh)
    {id : InstanceId} {state : InstanceState} (stored : engine.store.states.get? id = some state)
    {program : Program} {now : Instant} {maximumSteps : Nat} {report : RunReport}
    {last : UnitOfWork}
    (ran : (UnitOfWork.begin state now engine.supply).run program maximumSteps =
      .ok (report, last)) (rests : report.exhausted = false) (budget : Nat -> Nat) :
    ∃ count store reached,
      outcome (slices program id now ((List.range count).map budget) engine.supply) engine.store =
        (.ok (some ⟨(UnitOfWork.begin state now engine.supply).turns program maximumSteps,
          last.output, last.supply⟩), store) ∧
      store.states.get? id = some reached ∧ reached.Keeps last.finish.2 ∧
      store.eventsOf id = engine.store.eventsOf id ++ last.events := by
  have sound : state.Sound id engine.supply.next :=
    history.preserves (fun _ _ _ advance sound => advance.sound sound) fresh.sound id state stored
  rw [UnitOfWork.run] at ran
  split at ran
  · rename_i own
    have begun : Mirrors {} (.begin state now engine.supply) (.begin state now engine.supply) :=
      ⟨⟨_, _, rfl⟩, rfl, rfl, (Output.empty_append _).symm⟩
    obtain ⟨count, stretch, store, reached, outcomes, turns, output, supply, found,
      ⟨_, _, same⟩, logged⟩ := outcome_slices budget ⟨stored, sound, own⟩ (shapely_begin sound)
        begun (Except.ok.inj ran) rests
    rw [Output.empty_append] at output
    have same' : stretch = ⟨_, last.output, last.supply⟩ := Stretch.ext turns output supply
    rw [same'] at outcomes
    rw [output] at logged
    refine ⟨count, store, reached, outcomes, found, ⟨last.nextVersion, last.time, ?_⟩, logged⟩
    simp only [finish, finalRecord, record, same]
  · cases ran

end Engine

namespace BranchRun

open Engine UnitOfWork

/-- Two branches meet at a join. -/
def program : Program where
  instructions := [.fork 0 [1, 2], .jump 2, .join 0, .finish]
  symbols := { nodes := [⟨"j", Eq.refl true⟩] }
  hash := ⟨"31e4708b5ae717ebd3bf909110af86ef648c6e44b561af0ede33c8fcd684fd7f", by decide +kernel⟩

/-- An engine whose slices have one step. -/
def engine : Engine MemoryStore where
  store := {}
  config := { maximumSteps := 1 }
  now := default
  supply := ⟨0⟩

/-- An instance is started, which splits it. -/
def operations : List EngineOperation := [.install program, .start program.hash .null ""]

def split : Engine MemoryStore := engine.performAll operations

/-- The branches go on in slices as they would in one run. -/
theorem slices_eq_run_of_split : ∃ state report last,
    split.store.states.get? ⟨0⟩ = some state ∧
    (UnitOfWork.begin state split.now split.supply).run program 100 = .ok (report, last) ∧
    report.steps = 4 ∧
    ∃ count store reached,
      outcome (slices program ⟨0⟩ split.now ((List.range count).map (fun _ => 1)) split.supply)
        split.store = (.ok (some ⟨(UnitOfWork.begin state split.now split.supply).turns program 100,
          last.output, last.supply⟩), store) ∧
      store.states.get? ⟨0⟩ = some reached ∧ reached.Keeps last.finish.2 ∧
      store.eventsOf ⟨0⟩ = split.store.eventsOf ⟨0⟩ ++ last.events := by
  have facts : (split.store.states.get? ⟨0⟩).any (fun state =>
      match (UnitOfWork.begin state split.now split.supply).run program 100 with
      | .ok (report, _) => decide (report = ⟨4, false⟩)
      | .error _ => false) := by
    decide +kernel
  obtain ⟨state, stored, facts⟩ := (Option.any_eq_true _ _).1 facts
  split at facts
  · rename_i report last ran
    obtain rfl : report = ⟨4, false⟩ := of_decide_eq_true facts
    have history : History engine (engine.entriesOf operations) split :=
      .of_operations engine operations
    exact ⟨state, _, last, stored, ran, rfl,
      History.slices_eq_run history ⟨rfl, rfl⟩ stored ran rfl (fun _ => 1)⟩
  · cases facts

end BranchRun

end ProcessEngine
