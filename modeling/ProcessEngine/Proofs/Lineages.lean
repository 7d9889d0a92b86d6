import ProcessEngine.Proofs.ControlFlow
import ProcessEngine.Proofs.InclusiveGateways
import ProcessEngine.Proofs.Shelters

/-!
# Where fibers come from

Every fiber comes from one that was there before: from itself, or from the fiber whose turn it was
(`Descends`). It stays where that one was, goes on along an edge along which nothing is counted,
counts, or begins again after an incident (`Program.Proceeds`). For a fiber that waits goes on along
such an edge when its wait ends (`Program.Resumes`). This holds of turns
(`UnitOfWork.Turned.descends`) and of all changes that an engine makes (`Intervened.descends`).
-/

namespace ProcessEngine

open UnitOfWork

namespace Program

variable (program : Program)

/-- A fiber that waits in such a way goes on along edges along which nothing is counted. -/
inductive Resumes (incidents : OrderedMap IncidentId Incident) (fiber : Fiber) : Wait -> Prop where
  | ready : Resumes incidents fiber .ready
  | timer {due} (next : program.Passes fiber.pc (fiber.watch.elim (fiber.pc + 1) Watch.target)) :
    Resumes incidents fiber (.timer due)
  | message {name correlation} (next : program.Passes fiber.pc (fiber.pc + 1)) :
    Resumes incidents fiber (.message name correlation)
  | human {task} (next : program.Passes fiber.pc (fiber.pc + 1)) :
    Resumes incidents fiber (.human task)
  | job {key} (next : program.Passes fiber.pc (fiber.pc + 1)) : Resumes incidents fiber (.job key)
  | race {node arms} (next : ∀ target ∈ arms.map ArmWait.target, program.Passes fiber.pc target) :
    Resumes incidents fiber (.race node arms)
  | incident {id incident} (found : incidents.get? id = some incident)
    (next : incident.jobKey ≠ none -> program.Passes fiber.pc (fiber.pc + 1)) :
    Resumes incidents fiber (.incident id)

/-- How a fiber goes on from where it was, or from where the fiber was whose turn made it. -/
inductive Proceeds (actor : Option Fiber) (former later : Fiber) : Prop where
  | stays (same : later.pc = former.pc)
  | passes (passes : program.Passes former.pc later.pc)
  /-- Only a fiber whose turn it is counts, and it makes no other one then. -/
  | counts (acts : actor = some former) (same : later.id = former.id)
    (counts : program.CountsAt former.pc)
  | restarts {id} (halted : former.wait = .incident id) (ready : later.wait = .ready)

end Program

/-- Every fiber that waits goes on along edges along which nothing is counted. -/
def Stationed (program : Program) (incidents : OrderedMap IncidentId Incident)
    (fibers : FiberId -> Option Fiber) : Prop :=
  ∀ id fiber, fibers id = some fiber -> program.Resumes incidents fiber fiber.wait

/-- Every fiber comes from itself or from the one whose turn it was. -/
def Descends (program : Program) (incidents : OrderedMap IncidentId Incident)
    (actor : Option Fiber) (fibers fibers' : FiberId -> Option Fiber) : Prop :=
  ∀ id later, fibers' id = some later -> program.Resumes incidents later later.wait ∧
    ∃ former, (fibers id).or actor = some former ∧ program.Proceeds actor former later

/-- A fiber is where it was and waits as before. -/
structure Fiber.Remains (former later : Fiber) : Prop where
  id : later.id = former.id
  pc : later.pc = former.pc
  wait : later.wait = former.wait
  watch : later.watch = former.watch

/-- Fibers end, or are where they were and wait as before. -/
def Subsides (fibers fibers' : FiberId -> Option Fiber) : Prop :=
  ∀ id later, fibers' id = some later -> ∃ former, fibers id = some former ∧ former.Remains later

section

variable {program : Program} {incidents incidents' : OrderedMap IncidentId Incident}
  {fibers middle fibers' : FiberId -> Option Fiber} {actor : Option Fiber} {own : FiberId}
  {former later : Fiber} {wait : Wait}

/-! ## Edges along which nothing is counted -/

namespace Program

/-- An instruction that does not count is left along edges along which nothing is counted. -/
theorem passes_of_reached {source target : Address} {instruction : Instruction Address}
    (reached : program.instruction? source = some instruction)
    (plain : ∀ counter, instruction ≠ .incrementCounter counter)
    (onward : instruction.fallsThrough = true ∧ target = source + 1 ∨
      target ∈ instruction.targets) : program.Passes source target := by
  refine ⟨⟨instruction, reached, onward⟩, ?_⟩
  rintro ⟨counter, counts⟩
  exact plain counter (Option.some.inj (reached.symm.trans counts))

/-- Where a fiber may go on without having waited, control leads along an edge. -/
theorem flows_of_onward {source target : Address} {instruction : Instruction Address}
    (reached : program.instruction? source = some instruction)
    (onward : target ∈ instruction.onward source) : program.Flows source target := by
  refine ⟨instruction, reached, ?_⟩
  cases instruction with
  | jump other => exact .inr onward
  | branchIf other =>
    rcases List.mem_cons.1 onward with rfl | next
    · exact .inr List.mem_cons_self
    · exact .inl ⟨rfl, List.mem_singleton.1 next⟩
  | branchIfNot other =>
    rcases List.mem_cons.1 onward with rfl | next
    · exact .inr List.mem_cons_self
    · exact .inl ⟨rfl, List.mem_singleton.1 next⟩
  | dispatch => cases onward
  | waitTimer => cases onward
  | waitMessage => cases onward
  | waitHuman => cases onward
  | race => cases onward
  | fork => cases onward
  | forkInclusive => cases onward
  | finish => cases onward
  | terminate => cases onward
  | fault => cases onward
  | _ => exact .inl ⟨rfl, List.mem_singleton.1 onward⟩

/-- The fiber whose turn it is goes on along an edge: it counts, or nothing is counted. -/
theorem Flows.proceeds (flows : program.Flows former.pc later.pc) (same : later.id = former.id) :
    program.Proceeds (some former) former later := by
  by_cases counts : program.CountsAt former.pc
  · exact .counts rfl same counts
  · exact .passes ⟨flows, counts⟩

theorem Resumes.recalled (resumes : program.Resumes incidents former wait)
    (recalled : Recalled incidents incidents') : program.Resumes incidents' former wait := by
  cases resumes with
  | ready => exact .ready
  | timer next => exact .timer next
  | message next => exact .message next
  | human next => exact .human next
  | job next => exact .job next
  | race next => exact .race next
  | incident found next =>
    obtain ⟨resolved, found, status, rfl⟩ := recalled _ _ found
    exact .incident found next

theorem Resumes.of_same (resumes : program.Resumes incidents former wait)
    (pc : later.pc = former.pc) (watch : later.watch = former.watch) :
    program.Resumes incidents later wait := by
  cases resumes with
  | ready => exact .ready
  | timer next => exact .timer (by rw [watch, pc]; exact next)
  | message next => exact .message (pc ▸ next)
  | human next => exact .human (pc ▸ next)
  | job next => exact .job (pc ▸ next)
  | race next => exact .race (pc ▸ next)
  | incident found next => exact .incident found (pc ▸ next)

theorem Resumes.of_ready (ready : former.wait = .ready) :
    program.Resumes incidents former former.wait := by
  rw [ready]
  exact .ready

theorem Resumes.remains (resumes : program.Resumes incidents former former.wait)
    (remains : former.Remains later) : program.Resumes incidents later later.wait := by
  rw [remains.wait]
  exact resumes.of_same remains.pc remains.watch

theorem Proceeds.remains {between : Fiber} (proceeds : program.Proceeds actor former between)
    (remains : between.Remains later) : program.Proceeds actor former later := by
  cases proceeds with
  | stays same => exact .stays (remains.pc.trans same)
  | passes passes => exact .passes (remains.pc ▸ passes)
  | counts acts same counts => exact .counts acts (remains.id.trans same) counts
  | restarts halted ready => exact .restarts halted (remains.wait.trans ready)

end Program

/-! ## Fibers that end or remain -/

theorem Fiber.Remains.refl (fiber : Fiber) : fiber.Remains fiber := ⟨rfl, rfl, rfl, rfl⟩

theorem Fiber.Remains.trans {between : Fiber} (first : former.Remains between)
    (rest : between.Remains later) : former.Remains later :=
  ⟨rest.id.trans first.id, rest.pc.trans first.pc, rest.wait.trans first.wait,
    rest.watch.trans first.watch⟩

namespace Subsides

theorem of_same (same : ∀ id, fibers' id = fibers id) : Subsides fibers fibers' :=
  fun id later found => ⟨later, same id ▸ found, .refl later⟩

theorem trans (first : Subsides fibers middle) (rest : Subsides middle fibers') :
    Subsides fibers fibers' := by
  intro id later found
  obtain ⟨between, found, remains⟩ := rest id later found
  obtain ⟨former, found, remains'⟩ := first id between found
  exact ⟨former, found, remains'.trans remains⟩

theorem of_vacant (vacant : ∀ id, fibers' id = none) : Subsides fibers fibers' := by
  intro id later found
  cases (vacant id).symm.trans found

end Subsides

namespace UnitOfWork

variable (work : UnitOfWork) (id : FiberId)

theorem subsides_endFiber : Subsides work.fiber? (work.endFiber id).fiber? := by
  intro asked later found
  rw [fiber?_endFiber] at found
  split at found
  · cases found
  · exact ⟨later, found, .refl later⟩

theorem subsides_retire : Subsides work.fiber? (work.retire id).fiber? :=
  @retire_keeps work (fun reached => Subsides work.fiber? reached.fiber?)
    (fun id subsides => subsides.trans (subsides_endFiber _ id)) (.of_same (fun _ => rfl)) id

theorem subsides_completeIfIdle : Subsides work.fiber? work.completeIfIdle.fiber? :=
  .of_same (fiber?_completeIfIdle work)

theorem subsides_dropWatchdog (fiber : Fiber) :
    Subsides work.fiber? (work.dropWatchdog fiber).fiber? := by
  intro asked later found
  rw [fiber?_dropWatchdog] at found
  split at found
  · cases found
  · obtain ⟨former, before, rfl⟩ := Option.map_eq_some_iff.1 found
    refine ⟨former, before, ?_⟩
    split
    · exact ⟨rfl, rfl, rfl, rfl⟩
    · exact .refl former

end UnitOfWork

/-! ## Fibers that come from others -/

/-- A fiber that remains comes from itself. -/
theorem Stationed.remains {id : FiberId} (stationed : Stationed program incidents fibers)
    (recalled : Recalled incidents incidents') (found : fibers id = some former)
    (remains : former.Remains later) : program.Resumes incidents' later later.wait ∧
      ∃ before, (fibers id).or actor = some before ∧ program.Proceeds actor before later :=
  ⟨((stationed _ _ found).recalled recalled).remains remains, former,
    by rw [found, Option.some_or], .stays remains.pc⟩

namespace Descends

/-- What becomes of the fibers afterwards makes no difference if they end or remain. -/
theorem subsides (descends : Descends program incidents actor fibers middle)
    (rest : Subsides middle fibers') : Descends program incidents actor fibers fibers' := by
  intro id later found
  obtain ⟨between, found, remains⟩ := rest id later found
  obtain ⟨resumes, former, comes, proceeds⟩ := descends id between found
  exact ⟨resumes.remains remains, former, comes, proceeds.remains remains⟩

/-- One fiber goes on, all others end or remain. -/
theorem of_own (stationed : Stationed program incidents fibers)
    (recalled : Recalled incidents incidents') (found : fibers own = some former)
    (elsewhere : ∀ id later, id ≠ own -> fibers' id = some later ->
      ∃ before, fibers id = some before ∧ before.Remains later)
    (here : ∀ later, fibers' own = some later ->
      program.Resumes incidents' later later.wait ∧ program.Proceeds actor former later) :
    Descends program incidents' actor fibers fibers' := by
  intro id later present
  by_cases same : id = own
  · subst same
    obtain ⟨resumes, proceeds⟩ := here later present
    exact ⟨resumes, former, by rw [found, Option.some_or], proceeds⟩
  · obtain ⟨before, found, remains⟩ := elsewhere id later same present
    exact stationed.remains recalled found remains

theorem of_subsides (stationed : Stationed program incidents fibers)
    (recalled : Recalled incidents incidents') (subsides : Subsides fibers fibers') :
    Descends program incidents' actor fibers fibers' := by
  intro id later present
  obtain ⟨before, found, remains⟩ := subsides id later present
  exact stationed.remains recalled found remains

theorem recalled (descends : Descends program incidents actor fibers fibers')
    (recalled : Recalled incidents incidents') :
    Descends program incidents' actor fibers fibers' :=
  fun id later found =>
    (descends id later found).imp_left (fun resumes => resumes.recalled recalled)

theorem stationed (descends : Descends program incidents actor fibers fibers') :
    Stationed program incidents fibers' :=
  fun id later found => (descends id later found).1

end Descends

end

/-! ## Turns -/

namespace UnitOfWork

variable {program : Program} {table : OrderedMap IncidentId Incident} {work next : UnitOfWork}
  {fiber changed : Fiber} {actor : Option Fiber} {id : FiberId}

section

variable (stationed : Stationed program (work.incidentsOver table) work.fiber?)

include stationed

/-- A fiber waits where it is. -/
theorem descends_park (recalled : Recalled (work.incidentsOver table) (next.incidentsOver table))
    (found : work.fiber? id = some fiber) {pc : Address} {wait : Wait} (stays : pc = fiber.pc)
    (parks : ∀ asked, next.fiber? asked = if asked = id then
      (work.fiber? asked).map (fun former => { former with pc := pc, wait := wait })
      else work.fiber? asked)
    (resumes : program.Resumes (next.incidentsOver table) fiber wait) :
    Descends program (next.incidentsOver table) actor work.fiber? next.fiber? := by
  refine .of_own stationed recalled found (fun asked later other there => ?_)
    (fun later there => ?_)
  · rw [parks, if_neg other] at there
    exact ⟨later, there, .refl later⟩
  · rw [parks, if_pos rfl, found] at there
    cases there
    exact ⟨resumes.of_same stays rfl, .stays stays⟩

/-- A fiber goes on. -/
theorem descends_wake {incidents : OrderedMap IncidentId Incident}
    (recalled : Recalled (work.incidentsOver table) incidents)
    (found : work.fiber? id = some fiber) {before : UnitOfWork} {target : Address}
    (elsewhere : ∀ asked later, asked ≠ id -> before.fiber? asked = some later ->
      ∃ former, work.fiber? asked = some former ∧ former.Remains later)
    (proceeds : ∀ later : Fiber, later.pc = target -> later.wait = .ready ->
      program.Proceeds actor fiber later) :
    Descends program incidents actor work.fiber? (before.wake id target).fiber? := by
  refine .of_own stationed recalled found (fun asked later other there => ?_)
    (fun later there => ?_)
  · rw [fiber?_wake, if_neg other] at there
    exact elsewhere asked later other there
  · rw [fiber?_wake, if_pos rfl] at there
    obtain ⟨between, -, rfl⟩ := Option.map_eq_some_iff.1 there
    exact ⟨.ready, proceeds _ rfl rfl⟩

/-- The fiber whose turn it is computes. -/
theorem descends_computes (found : work.fiber? fiber.id = some fiber) (ready : fiber.wait = .ready)
    (computes : fiber.Computes changed) (flows : program.Flows fiber.pc changed.pc) :
    Descends program (work.incidentsOver table) (some fiber) work.fiber?
      (work.putFiber fiber.id changed).fiber? := by
  refine .of_own stationed (.refl _) found (fun asked later other there => ?_)
    (fun later there => ?_)
  · rw [fiber?_putFiber, if_neg other] at there
    exact ⟨later, there, .refl later⟩
  · rw [fiber?_putFiber, if_pos rfl] at there
    cases there
    exact ⟨.of_ready (computes.wait.trans ready), flows.proceeds computes.id⟩

/-- A fiber, whatever it has computed before, is halted where it is. -/
theorem descends_halt {before : UnitOfWork} {incident : Incident}
    (recalled : Recalled (work.incidentsOver table) ((before.halt incident).incidentsOver table))
    (found : work.fiber? incident.fiber = some fiber)
    (elsewhere : ∀ asked, asked ≠ incident.fiber -> before.fiber? asked = work.fiber? asked)
    (stays : incident.address = fiber.pc)
    (next : incident.jobKey ≠ none -> program.Passes fiber.pc (fiber.pc + 1)) :
    Descends program ((before.halt incident).incidentsOver table) actor work.fiber?
      (before.halt incident).fiber? := by
  refine .of_own stationed recalled found (fun asked later other there => ?_)
    (fun later there => ?_)
  · rw [halt, fiber?_putIncident, fiber?_park, if_neg other, fiber?_emit] at there
    rw [elsewhere _ other] at there
    exact ⟨later, there, .refl later⟩
  · rw [halt, fiber?_putIncident, fiber?_park, if_pos rfl] at there
    obtain ⟨between, -, rfl⟩ := Option.map_eq_some_iff.1 there
    have raised :
        ((before.halt incident).incidentsOver table).get? incident.id = some incident :=
      (get?_incidentsOver_halt ..).trans (if_pos rfl)
    exact ⟨.incident raised (fun about => stays ▸ next about), .stays stays⟩

/-- The fiber whose turn it is makes others where it sends them to. -/
theorem descends_fork (shapely : work.Shapely) {before : UnitOfWork}
    (resembles : work.Resembles fiber.id before)
    (recalled : Recalled (work.incidentsOver table) (next.incidentsOver table)) {join : NodeKey}
    {targets : List Address} (forks : before.Forked fiber join targets next)
    (leads : ∀ target ∈ targets, program.Passes fiber.pc target) :
    Descends program (next.incidentsOver table) (some fiber) work.fiber? next.fiber? := by
  intro id later present
  have own : id ≠ fiber.id := by
    rintro rfl
    cases forks.ended.symm.trans present
  by_cases apart : id.number < before.supply.next ∨
    before.supply.next + targets.length ≤ id.number
  · rw [forks.others id own apart, resembles.elsewhere id own] at present
    exact stationed.remains recalled present (.refl later)
  · obtain ⟨drawn, within⟩ := not_or.1 apart
    obtain ⟨number, same⟩ := Nat.exists_eq_add_of_le (Nat.le_of_not_lt drawn)
    have inside : number < targets.length := by omega
    obtain rfl : id = ⟨before.supply.next + number⟩ := congrArg Identifier.mk same
    rw [forks.branches number _ (List.getElem?_eq_getElem inside)] at present
    cases present
    have new : work.fiber? ⟨before.supply.next + number⟩ = none := by
      rw [resembles.supply]
      exact WellFormed.unused shapely (Nat.le_add_right _ _)
    exact ⟨.ready, fiber, by rw [new, Option.none_or],
      .passes (leads _ (List.getElem_mem inside))⟩

/-- The fiber whose turn it is gets a watchdog. -/
theorem descends_watchOver (shapely : work.Shapely) (found : work.fiber? fiber.id = some fiber)
    (ready : fiber.wait = .ready)
    {boundary duration : Nat} {interrupting : Bool} {target : Address} (key : NodeKey)
    (recalled : Recalled (work.incidentsOver table)
      ((work.watchOver fiber key duration interrupting target).incidentsOver table))
    (reached : program.instruction? fiber.pc =
      some (.watch boundary duration interrupting target)) :
    Descends program ((work.watchOver fiber key duration interrupting target).incidentsOver table)
      (some fiber) work.fiber? (work.watchOver fiber key duration interrupting target).fiber? := by
  have passes {next : Address} := @Program.passes_of_reached program _ next _ reached
    (by rintro _ ⟨⟩)
  have older : fiber.id ≠ ⟨work.supply.next⟩ := WellFormed.ne_fresh shapely found
  intro id later present
  rw [fiber?_watchOver work id fiber key duration interrupting target older] at present
  split at present
  · rename_i same
    rw [same, found] at present ⊢
    cases present
    exact ⟨.of_ready ready, fiber, rfl, .passes (passes (.inl ⟨rfl, rfl⟩))⟩
  · split at present
    · rename_i same
      cases present
      have new : work.fiber? id = none := by
        rw [same]
        exact WellFormed.unused shapely (Nat.le_refl _)
      exact ⟨.timer (passes (.inr List.mem_cons_self)), fiber, by rw [new, Option.none_or],
        .stays rfl⟩
    · exact stationed.remains recalled present (.refl later)

/-- The fiber whose turn it is ends at a join, or goes on behind it. -/
theorem descends_arriveAt (found : work.fiber? fiber.id = some fiber) (ready : fiber.wait = .ready)
    (recalled : Recalled (work.incidentsOver table) (next.incidentsOver table))
    (passes : program.Passes fiber.pc (fiber.pc + 1)) {join : NodeKey}
    (arrives : work.arriveAt fiber join = .ok next) :
    Descends program (next.incidentsOver table) actor work.fiber? next.fiber? := by
  have begun : ∀ {ticket arrival} {reached : UnitOfWork},
      work.arrive ticket = .ok (arrival, reached) -> Subsides work.fiber? reached.fiber? :=
    fun counted => .of_same (fun id => fiber?_arrive work id counted)
  cases arrivesAt arrives with
  | stray =>
    exact .of_subsides stationed recalled
      ((subsides_retire work fiber.id).trans (subsides_completeIfIdle _))
  | satisfied holds counted =>
    refine .of_own stationed recalled found (fun asked later other there => ?_)
      (fun later there => ?_)
    · rw [fiber?_updateFiber, if_neg other] at there
      exact begun counted asked later there
    · rw [fiber?_updateFiber, if_pos rfl, fiber?_arrive work _ counted, found] at there
      cases there
      exact ⟨.of_ready ready, .passes passes⟩
  | waiting holds counted =>
    exact .of_subsides stationed recalled ((begun counted).trans (subsides_retire _ _))
  | stale holds counted =>
    exact .of_subsides stationed recalled
      (((begun counted).trans (subsides_retire _ _)).trans (subsides_completeIfIdle _))

end

/-- What a fiber has computed before its turn ends changes nothing else. -/
theorem Prepared.resembles {before : UnitOfWork} (prepared : work.Prepared fiber before)
    (found : work.fiber? fiber.id = some fiber) :
    ∃ changed, before.fiber? fiber.id = some changed ∧ work.Resembles fiber.id before := by
  cases prepared with
  | same => exact ⟨fiber, found, .refl work fiber.id⟩
  | changed computes stays =>
    exact ⟨_, (fiber?_putFiber ..).trans (if_pos rfl), resembles_putFiber work fiber.id _⟩

/-- All fibers come from where they were before, or from the one whose turn it was. -/
theorem Turned.descends (turned : Turned program fiber work next) (shapely : work.Shapely)
    (recalls : work.Recalls table)
    (stationed : Stationed program (work.incidentsOver table) work.fiber?)
    (found : work.fiber? fiber.id = some fiber) (ready : fiber.wait = .ready) :
    Descends program (next.incidentsOver table) (some fiber) work.fiber? next.fiber? := by
  have recalled := ((turned.spares shapely).recalls recalls).2
  have suspends {start : UnitOfWork} {wait : Wait}
      (same : ∀ asked, start.fiber? asked = work.fiber? asked)
      (recalled : Recalled (work.incidentsOver table)
        ((start.suspend fiber wait).incidentsOver table))
      (resumes : program.Resumes (work.incidentsOver table) fiber wait) :
      Descends program ((start.suspend fiber wait).incidentsOver table) (some fiber) work.fiber?
        (start.suspend fiber wait).fiber? := by
    refine descends_park stationed recalled found rfl (fun asked => ?_) (resumes.recalled recalled)
    rw [suspend, fiber?_park, same]
  cases turned with
  | compute reached computes lands =>
    exact descends_computes stationed found ready computes (Program.flows_of_onward reached lands)
  | storeFlag reached computes lands =>
    exact descends_computes stationed found ready computes
      (Program.flows_of_onward reached (List.mem_singleton.2 lands))
  | count reached computes lands =>
    exact descends_computes stationed found ready computes
      (Program.flows_of_onward reached (List.mem_singleton.2 lands))
  | handOut reached named =>
    exact @suspends (work.dispatch _) _ (fun _ => rfl) recalled
      (.job (Program.passes_of_reached reached (by rintro _ ⟨⟩) (.inl ⟨rfl, rfl⟩)))
  | sleep reached =>
    refine suspends (fun _ => rfl) recalled (.timer ?_)
    rw [WellFormed.unwatched shapely found (by simp [ready])]
    exact Program.passes_of_reached reached (by rintro _ ⟨⟩) (.inl ⟨rfl, rfl⟩)
  | listen reached =>
    exact suspends (fun _ => rfl) recalled
      (.message (Program.passes_of_reached reached (by rintro _ ⟨⟩) (.inl ⟨rfl, rfl⟩)))
  | consult reached =>
    exact suspends (fun _ => rfl) recalled
      (.human (Program.passes_of_reached reached (by rintro _ ⟨⟩) (.inl ⟨rfl, rfl⟩)))
  | race reached leads =>
    refine suspends (fun _ => rfl) recalled (.race (fun target listed => ?_))
    rw [leads] at listed
    exact Program.passes_of_reached reached (by rintro _ ⟨⟩) (.inr listed)
  | watch reached =>
    exact descends_watchOver stationed shapely found ready _ recalled reached
  | unwatch reached computes lands =>
    have begun := descends_computes stationed found ready computes
      (Program.flows_of_onward reached (List.mem_singleton.2 lands))
    exact (begun.subsides (subsides_dropWatchdog _ fiber)).recalled recalled
  | fork reached named branches =>
    refine descends_fork stationed shapely (.refl work fiber.id) recalled
      (forked_fork found (WellFormed.drawn shapely found) _ _) (fun target listed => ?_)
    exact Program.passes_of_reached reached (by rintro _ ⟨⟩) (.inr listed)
  | forkInclusive reached named branches chosen prepared =>
    obtain ⟨changed, there, resembles⟩ := prepared.resembles found
    refine descends_fork stationed shapely resembles recalled
      (forked_fork there (resembles.supply ▸ WellFormed.drawn shapely found) _ _)
      (fun target listed => ?_)
    refine Program.passes_of_reached reached (by rintro _ ⟨⟩) (.inr (List.mem_append.2 ?_))
    rcases chosen with part | rfl
    · exact .inl (part.subset listed)
    · exact .inr listed
  | join reached named arrives =>
    have passes := Program.passes_of_reached reached (by rintro _ ⟨⟩) (.inl ⟨rfl, rfl⟩)
    exact descends_arriveAt stationed found ready recalled passes arrives
  | finish reached =>
    exact .of_subsides stationed recalled
      ((subsides_retire work fiber.id).trans (subsides_completeIfIdle _))
  | terminate reached closes =>
    exact .of_subsides stationed recalled (.of_vacant (vacant_close shapely closes))
  | halt prepared =>
    obtain ⟨changed, there, resembles⟩ := prepared.resembles found
    exact descends_halt stationed recalled found resembles.elsewhere rfl
      (fun about => absurd rfl about)

/-! ## Signals -/

/-- To log arms that are cancelled changes no fiber. -/
theorem fiber?_cancelArms (work : UnitOfWork) (node : NodeKey) (targets : List Address)
    (asked : FiberId) : (targets.foldl (fun (work : UnitOfWork) target =>
      work.emit (.raceArmCancelled node target)) work).fiber? asked = work.fiber? asked := by
  induction targets generalizing work with
  | nil => rfl
  | cons target rest ih => exact ih _

section

variable (stationed : Stationed program (work.incidentsOver table) work.fiber?)

include stationed

/-- A watchdog whose timer is due goes on at its boundary. -/
theorem descends_fire (found : work.fiber? id = some fiber) {watch : Watch}
    (passes : program.Passes fiber.pc watch.target) :
    Descends program (work.incidentsOver table) actor work.fiber? (work.fire id watch).fiber? := by
  rw [fire]
  dsimp only
  split
  · refine descends_wake stationed (.refl _) found (fun asked later other there => ?_)
      (fun later arrives _ => .passes (arrives ▸ passes))
    rw [fiber?_updateFiber, if_neg other, fiber?_interrupt] at there
    split at there
    · cases there
    · exact ⟨later, there, .refl later⟩
  · refine descends_wake stationed (.refl _) found (fun asked later other there => ?_)
      (fun later arrives _ => .passes (arrives ▸ passes))
    rw [fiber?_updateFiber, if_neg other, fiber?_updateFiber] at there
    split at there
    · obtain ⟨host, before, rfl⟩ := Option.map_eq_some_iff.1 there
      exact ⟨host, before, rfl, rfl, rfl, rfl⟩
    · exact ⟨later, there, .refl later⟩

/-- A fiber that is answered goes on where its wait leads. -/
theorem descends_resume (found : work.fiber? id = some fiber) {how : Resumption}
    (answered : fiber.Answered how) :
    Descends program (work.incidentsOver table) actor work.fiber? (work.resume id how).fiber? := by
  have resumes := stationed _ _ found
  have goesOn {before : UnitOfWork} {target : Address}
      (same : ∀ asked, before.fiber? asked = work.fiber? asked)
      (passes : program.Passes fiber.pc target) : Descends program (work.incidentsOver table) actor
        work.fiber? (before.wake id target).fiber? :=
    descends_wake stationed (.refl _) found
      (fun asked later _ there => ⟨later, same asked ▸ there, .refl later⟩)
      (fun later arrives _ => .passes (arrives ▸ passes))
  cases answered with
  | fire waits watches =>
    rw [waits] at resumes
    cases resumes with
    | timer next =>
      rw [watches] at next
      exact descends_fire stationed found next
  | timer waits free =>
    rw [waits] at resumes
    cases resumes with
    | timer next =>
      rw [free] at next
      exact goesOn (fun _ => rfl) next
  | message waits =>
    rw [waits] at resumes
    cases resumes with
    | message next => exact goesOn (fun _ => rfl) next
  | human waits =>
    rw [waits] at resumes
    cases resumes with
    | human next => exact goesOn (fun _ => rfl) next
  | race waits leads =>
    rw [waits] at resumes
    cases resumes with
    | race next => exact goesOn (fiber?_cancelArms _ _ _) (next _ leads)

theorem descends_deliver (signal : WakeSignal) :
    Descends program (work.incidentsOver table) actor work.fiber?
      (work.deliver signal).2.fiber? := by
  cases answered : work.resumption signal with
  | error reason =>
    rw [deliver, answered]
    exact .of_subsides stationed (.refl _) (.of_same (fun _ => rfl))
  | ok how =>
    obtain ⟨-, fiber, found, -, answers⟩ := resumption_ok answered
    rw [deliver, answered]
    exact @descends_resume program table
      (work.updateRecord (fun record => record.accept signal.flags signal.payload)) fiber actor
        signal.fiber stationed found how answers

/-- An operator lets a fiber begin again that is halted. -/
theorem descends_restart (incident : Incident) :
    Descends program (work.incidentsOver table) actor work.fiber?
      (work.restart program incident).2.fiber? := by
  rw [restart]
  split
  · exact .of_subsides stationed (.refl _) (.of_same (fun _ => rfl))
  · rename_i fiber present
    split
    · rename_i waits
      exact descends_wake stationed (.refl _) present
        (fun _ later _ there => ⟨later, there, .refl later⟩)
        (fun later _ ready => .restarts waits ready)
    · exact .of_subsides stationed (.refl _) (.of_same (fun _ => rfl))

end

end UnitOfWork

/-! ## Results of jobs -/

section

variable {work changed : UnitOfWork} {program : Program} {table : OrderedMap IncidentId Incident}
  {job : Job} {fiber : Fiber} {actor : Option Fiber}
  (stationed : Stationed program (work.incidentsOver table) work.fiber?)

include stationed

theorem UnitOfWork.Wanted.passes (wanted : work.Wanted job fiber) :
    program.Passes fiber.pc (fiber.pc + 1) := by
  have resumes := stationed _ _ wanted.found
  rw [wanted.waits] at resumes
  cases resumes with
  | job next => exact next

theorem Job.descends_applied (wanted : work.Wanted job fiber) (completion : JobCompletion)
    (recalled : Recalled (work.incidentsOver table)
      ((job.applied completion fiber.pc work).incidentsOver table)) :
    Descends program ((job.applied completion fiber.pc work).incidentsOver table) actor work.fiber?
      (job.applied completion fiber.pc work).fiber? :=
  descends_wake stationed recalled wanted.found
    (fun _ later _ there => ⟨later, there, .refl later⟩)
    (fun _ arrives _ => .passes (arrives ▸ wanted.passes stationed))

theorem Job.Failed.descends {outcome : FailureOutcome}
    (failed : job.Failed program work fiber outcome changed) (wanted : work.Wanted job fiber)
    (recalled : Recalled (work.incidentsOver table) (changed.incidentsOver table)) :
    Descends program (changed.incidentsOver table) actor work.fiber? changed.fiber? := by
  cases failed with
  | retry notBefore problem => exact .of_subsides stationed recalled (.of_same (fun _ => rfl))
  | bury kind problem expires cause =>
    rw [Job.buried, Job.incidentsOver_shelved, Job.stopped] at recalled ⊢
    refine Descends.subsides (descends_halt stationed recalled wanted.found (fun _ _ => rfl) rfl
      (fun _ => wanted.passes stationed)) (.of_same (Job.fiber?_shelved _ _))
  | route problem leads =>
    rename_i code target
    obtain ⟨instruction, reached, listed⟩ := mem_targets_of_errorRoute leads
    have passes := Program.passes_of_reached reached (by rintro _ rfl; cases listed) (.inr listed)
    let finished := Job.finished { job with lastError := some problem }
      (.jobErrorRouted job.key code) work
    exact descends_wake stationed recalled wanted.found
      (fun asked later _ => subsides_dropWatchdog finished fiber asked later)
      (fun later arrives _ => .passes (arrives ▸ passes))

/-- The fiber of a job that is put back waits for it where it is. -/
theorem DeadLetter.descends_requeued {letter : DeadLetter} {next : UnitOfWork}
    (found : work.fiber? letter.job.fiber = some fiber) {incident : IncidentId}
    (waits : fiber.wait = .incident incident)
    (raised : RaisedFor (work.incidentsOver table) incident letter.key)
    (recalled : Recalled (work.incidentsOver table) (next.incidentsOver table))
    (same : ∀ asked, next.fiber? asked = (letter.requeued fiber.pc work).fiber? asked) :
    Descends program (next.incidentsOver table) actor work.fiber? next.fiber? := by
  have resumes := stationed _ _ found
  rw [waits] at resumes
  cases resumes with
  | incident present next =>
    obtain ⟨_, present', about⟩ := raised
    cases present.symm.trans present'
    exact descends_park stationed recalled found rfl
      (fun asked => (same asked).trans (letter.fiber?_requeued _ work asked))
      (.job (next (by simp [about])))

end

/-! ## All changes -/

/-- All fibers that a change leaves are the ones that were there before. -/
theorem Intervened.descends {store : MemoryStore} {id : InstanceId} {program : Program}
    {state : InstanceState} {now : Instant} {supply : IdSupply} {purpose : Purpose}
    {changed : UnitOfWork}
    (intervened : Intervened store id program (.begin state now supply) purpose changed)
    (filed : store.Filed) (shapely : (UnitOfWork.begin state now supply).Shapely)
    (same : state.record.id = id) (anchored : (UnitOfWork.begin state now supply).Anchored store)
    (stationed : Stationed program store.incidents state.fiber?) :
    Descends program (changed.incidentsOver store.incidents) none state.fiber? changed.fiber? := by
  have recalled := (intervened.anchored filed shapely same anchored).recalled
  cases intervened with
  | run => exact .of_subsides stationed recalled (.of_same (fun _ => rfl))
  | cancel running closes =>
    exact .of_subsides stationed recalled (.of_vacant (vacant_close shapely closes))
  | complete stored owned first wanted completion =>
    exact Job.descends_applied stationed wanted completion recalled
  | record stored owned first unwanted completion =>
    exact .of_subsides stationed recalled (.of_same (fun _ => rfl))
  | fail stored owned wanted failed => exact failed.descends stationed wanted recalled
  | dismiss => exact .of_subsides stationed recalled (.of_same (fun _ => rfl))
  | deliver running signal =>
    exact (descends_deliver stationed signal).recalled recalled
  | discard => exact .of_subsides stationed recalled (.of_same (fun _ => rfl))
  | restart stored settles running alone owned closed =>
    exact (descends_restart stationed _).recalled recalled
  | settle stored settles owned closed =>
    exact .of_subsides stationed recalled (.of_same (fun _ => rfl))
  | requeue stored owned running found waits settles =>
    rename_i place letter fiber incident settled
    obtain ⟨⟨id', halted, raised⟩, -⟩ := anchored.held stored (owned.trans same.symm) found
    cases waits.symm.trans halted
    exact DeadLetter.descends_requeued stationed found waits raised recalled
      (settles.fibers_emit _)
  | abandon stored owned => exact .of_subsides stationed recalled (.of_same (fun _ => rfl))

end ProcessEngine
