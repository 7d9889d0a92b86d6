import ProcessEngine.Proofs.SafeChanges
import ProcessEngine.Proofs.Watchdogs

/-!
# Turns and changes of hosts

A fiber without a watchdog leaves pairs of hosts and watchdogs alone
(`UnitOfWork.Turned.loosens`), unless it gets a watchdog (`UnitOfWork.achieves_watch`). A host goes
through sheltered code, where in safe work no turn of it fails (`UnitOfWork.Safe.shelters`), so it
keeps its watchdog until it takes it away. All turns of a run keep fibers well guarded and what
every step keeps (`UnitOfWork.Safe.watches`).

A signal or a result lets a host go on where it takes its watchdog away, an error route and the
watchdog's own timer part the two at once, and a host whose job is set aside keeps its watchdog
until the job is put back. So every change that an engine makes keeps fibers well guarded
(`Intervened.handled`).
-/

namespace ProcessEngine

open UnitOfWork Instruction FiberWork Execution

namespace FiberWork

/-- What goes on at the next instruction only computes. -/
theorem Computation.ahead {α : Type} {fiber : Fiber} {fiberWork : FiberWork α}
    (computes : Computation fiberWork (fun pc => [pc + 1])) {Wanted : α -> Fiber -> Prop}
    (achieves : Achieves fiberWork fiber Wanted) :
    Achieves fiberWork fiber (fun _ changed =>
      fiber.Computes changed ∧ changed.pc = fiber.pc + 1) := by
  obtain ⟨value, after, succeeds, -⟩ := achieves
  have lands := computes fiber
  rw [succeeds] at lands
  cases lands with
  | ahead computes lands => exact ⟨value, after, succeeds, computes, List.mem_singleton.1 lands⟩

end FiberWork

namespace UnitOfWork

variable {work next : UnitOfWork} {program : Program} {incidents : OrderedMap IncidentId Incident}
  {fiber changed : Fiber} {id : FiberId}

/-! ## Operations on fibers that are bare -/

theorem loosens_putFiber (bare : BareAt work.fiber? id) (after : changed.Bare) :
    Loosens work.fiber? (work.putFiber id changed).fiber? :=
  .of_own (fun _ other => (fiber?_putFiber ..).trans (if_neg other)) bare
    (.of_found ((fiber?_putFiber ..).trans (if_pos rfl)) after)

theorem loosens_updateFiber (bare : BareAt work.fiber? id) {change : Fiber -> Fiber}
    (keeps : ∀ fiber, fiber.Bare -> (change fiber).Bare) :
    Loosens work.fiber? (work.updateFiber id change).fiber? := by
  refine .of_own (fun _ other => (fiber?_updateFiber ..).trans (if_neg other)) bare
    (fun later found => ?_)
  rw [fiber?_updateFiber, if_pos rfl] at found
  obtain ⟨former, before, rfl⟩ := Option.map_eq_some_iff.1 found
  exact keeps former (bare former before)

theorem loosens_park (bare : BareAt work.fiber? id) (pc : Address) (wait : Wait) :
    Loosens work.fiber? (work.park id pc wait).fiber? :=
  loosens_updateFiber bare (fun _ bare => ⟨bare.unguarded, bare.free⟩)

theorem loosens_wake (bare : BareAt work.fiber? id) (pc : Address) :
    Loosens work.fiber? (work.wake id pc).fiber? := by
  refine .of_own (fun _ other => (fiber?_wake ..).trans (if_neg other)) bare
    (fun later found => ?_)
  rw [fiber?_wake, if_pos rfl] at found
  obtain ⟨former, before, rfl⟩ := Option.map_eq_some_iff.1 found
  exact ⟨(bare former before).unguarded, (bare former before).free⟩

theorem loosens_endFiber (bare : BareAt work.fiber? id) :
    Loosens work.fiber? (work.endFiber id).fiber? :=
  .of_own (fun _ other => (fiber?_endFiber ..).trans (if_neg other)) bare
    (.of_none ((fiber?_endFiber ..).trans (if_pos rfl)))

theorem loosens_retire (bare : BareAt work.fiber? id) :
    Loosens work.fiber? (work.retire id).fiber? := by
  rw [retire]
  split
  · exact .of_same (fun _ => rfl)
  · rename_i fiber found
    rw [(bare fiber found).unguarded]
    exact loosens_endFiber bare

theorem loosens_completeIfIdle (work : UnitOfWork) :
    Loosens work.fiber? work.completeIfIdle.fiber? := .of_same (fiber?_completeIfIdle work)

theorem loosens_dropWatchdog (bare : BareAt work.fiber? fiber.id) (alone : fiber.watchdog = none) :
    Loosens work.fiber? (work.dropWatchdog fiber).fiber? := by
  rw [dropWatchdog, alone]
  exact loosens_updateFiber bare (fun _ bare => ⟨rfl, bare.free⟩)

/-- The fibers of branches are new, and bare. -/
theorem loosens_branches (shapely : work.Shapely) (parent : Fiber) (ticket : JoinTicket)
    (targets : List Address) :
    Loosens work.fiber? (targets.foldl (branch parent ticket) work).fiber? := by
  induction targets generalizing work with
  | nil => exact .of_same (fun _ => rfl)
  | cons target rest ih =>
    have begun : Loosens work.fiber? (branch parent ticket work target).fiber? :=
      .of_own (fun _ other => (fiber?_branch ..).trans (if_neg other))
        (.of_none (WellFormed.unused shapely (Nat.le_refl _)))
        (.of_found ((fiber?_branch ..).trans (if_pos rfl)) ⟨rfl, rfl⟩)
    exact begun.trans (ih (shapely.branch parent ticket target))

theorem loosens_fork (shapely : work.Shapely) {parent : Fiber}
    (bare : BareAt work.fiber? parent.id) (join : NodeKey) (targets : List Address) :
    Loosens work.fiber? (work.fork parent join targets).fiber? := by
  have activated : Loosens work.fiber? (work.activateJoin join targets.length).2.fiber? :=
    .of_same (fun _ => rfl)
  have begun : (work.activateJoin join targets.length).2.Shapely :=
    shapely.of_same (fun _ => rfl) (steady_activateJoin work join _).toContinues
  have branched := fun ticket => activated.trans (loosens_branches begun parent ticket targets)
  exact (branched _).trans (loosens_endFiber ((branched _).bareAt bare))

theorem loosens_arriveAt (bare : BareAt work.fiber? fiber.id) {join : NodeKey}
    (arrives : work.arriveAt fiber join = .ok next) : Loosens work.fiber? next.fiber? := by
  have begun : ∀ {ticket arrival} {reached : UnitOfWork},
      work.arrive ticket = .ok (arrival, reached) -> Loosens work.fiber? reached.fiber? :=
    fun counted => .of_same (fun id => fiber?_arrive work id counted)
  have retires : ∀ {ticket arrival} {reached : UnitOfWork},
      work.arrive ticket = .ok (arrival, reached) ->
      Loosens work.fiber? (reached.retire fiber.id).fiber? :=
    fun counted => (begun counted).trans (loosens_retire ((begun counted).bareAt bare))
  cases arrivesAt arrives with
  | stray => exact (loosens_retire bare).trans (loosens_completeIfIdle _)
  | satisfied holds counted =>
    exact (begun counted).trans (loosens_updateFiber ((begun counted).bareAt bare)
      (fun _ bare => ⟨bare.unguarded, bare.free⟩))
  | waiting holds counted => exact retires counted
  | stale holds counted => exact (retires counted).trans (loosens_completeIfIdle _)

theorem loosens_raise (bare : BareAt work.fiber? id) (symbols : SymbolTable) (address : Address)
    (kind : FaultClass) (message : String) :
    Loosens work.fiber? (work.raise symbols id address kind message).fiber? :=
  @loosens_park ({ work with supply := ⟨work.supply.next + 1⟩ }.emit
    (.incidentRaised ⟨work.supply.next⟩ kind)) id bare address (.incident ⟨work.supply.next⟩)

theorem loosens_close (shapely : work.Shapely) {status : InstanceStatus} {event : RuntimeEvent}
    (closes : work.close status event = .ok next) : Loosens work.fiber? next.fiber? :=
  .of_vacant (vacant_close shapely closes)

/-! ## Turns of fibers without a watchdog -/

theorem loosens_prepared (found : work.fiber? fiber.id = some fiber) (bare : fiber.Bare)
    {before : UnitOfWork} (prepared : work.Prepared fiber before) :
    Loosens work.fiber? before.fiber? := by
  cases prepared with
  | same => exact .of_same (fun _ => rfl)
  | changed computes stays =>
    exact loosens_putFiber (.of_found found bare)
      ⟨computes.watchdog.trans bare.unguarded, computes.watch.trans bare.free⟩

/-- A turn of a fiber without a watchdog leaves pairs alone if it sets none. -/
theorem Turned.loosens (turned : Turned program fiber work next) (shapely : work.Shapely)
    (sets : ∀ instruction, program.instruction? fiber.pc = some instruction ->
      instruction.guards? = none)
    (found : work.fiber? fiber.id = some fiber) (bare : fiber.Bare) :
    Loosens work.fiber? next.fiber? := by
  have there : BareAt work.fiber? fiber.id := .of_found found bare
  have computed {changed : Fiber} (computes : fiber.Computes changed) :
      Loosens work.fiber? (work.putFiber fiber.id changed).fiber? :=
    loosens_putFiber there
      ⟨computes.watchdog.trans bare.unguarded, computes.watch.trans bare.free⟩
  cases turned with
  | compute reached computes lands => exact computed computes
  | storeFlag reached computes lands => exact computed computes
  | count reached computes lands => exact computed computes
  | handOut reached named => exact @loosens_park (work.dispatch _) fiber.id there _ _
  | sleep reached => exact loosens_park there _ _
  | listen reached => exact loosens_park there _ _
  | consult reached => exact loosens_park there _ _
  | race reached leads => exact loosens_park there _ _
  | watch reached => cases sets _ reached
  | unwatch reached computes lands =>
    exact (computed computes).trans
      (loosens_dropWatchdog ((computed computes).bareAt there) bare.unguarded)
  | fork reached named branches => exact loosens_fork shapely there _ _
  | forkInclusive reached named branches chosen prepared =>
    have begun := loosens_prepared found bare prepared
    exact begun.trans (loosens_fork (shapely.prepared found prepared) (begun.bareAt there) _ _)
  | join reached named arrives => exact loosens_arriveAt there arrives
  | finish reached => exact (loosens_retire there).trans (loosens_completeIfIdle _)
  | terminate reached closes => exact loosens_close shapely closes
  | halt prepared =>
    have begun := loosens_prepared found bare prepared
    exact begun.trans (loosens_raise (begun.bareAt there) _ _ _ _)

/-- A fiber executes the instruction that it has reached. -/
theorem achieves_step {instruction : Instruction Address}
    (reached : program.instruction? fiber.pc = some instruction)
    (found : work.fiber? fiber.id = some fiber) {Wanted : Unit -> UnitOfWork -> Prop}
    (achieves : Achieves (execute program fiber instruction) work Wanted) :
    Achieves (step program fiber.id) work Wanted := by
  refine .bind (.get ?_)
  rw [found]
  dsimp only
  rw [reached]
  exact achieves

/-- A fiber gets a watchdog for the block that begins with the next instruction. -/
theorem handled_watchOver (shapely : work.Shapely) (shielded : program.Shielded)
    (found : work.fiber? fiber.id = some fiber) (ready : fiber.wait = .ready) (bare : fiber.Bare)
    {boundary : Nat} {key : NodeKey} {duration : Nat} {interrupting : Bool} {target : Address}
    (reached : program.instruction? fiber.pc = some (.watch boundary duration interrupting target))
    (named : program.symbols.node? boundary = some key) :
    Handled program incidents work.supply.next work.fiber?
      (work.watchOver fiber key duration interrupting target).fiber? := by
  obtain ⟨code, stands, shelters⟩ := shielded _ _ _ _ _ reached
  have older : fiber.id ≠ ⟨work.supply.next⟩ := WellFormed.ne_fresh shapely found
  have after := fun asked =>
    fiber?_watchOver work asked fiber key duration interrupting target older
  refine .armed found bare ((after _).trans ((if_pos rfl).trans (congrArg _ found))) rfl bare.free
    ?_ (Nat.le_refl _) (WellFormed.unused shapely (Nat.le_refl _))
    ((after _).trans ((if_neg (Ne.symm older)).trans (if_pos rfl))) rfl rfl rfl
    (shielded.guards fiber.id reached named)
    (fun id other new => (after id).trans ((if_neg other).trans (if_neg new)))
  rw [ready]
  exact .ready stands shelters

/-- A fiber without a watchdog that reaches the instruction gets one. -/
theorem achieves_watch (checked : program.Checked) (shielded : program.Shielded)
    (shapely : work.Shapely) (found : work.fiber? fiber.id = some fiber)
    (ready : fiber.wait = .ready) (bare : fiber.Bare) {boundary duration : Nat}
    {interrupting : Bool} {target : Address}
    (reached : program.instruction? fiber.pc =
      some (.watch boundary duration interrupting target)) :
    Achieves (step program fiber.id) work (fun _ next =>
      ∀ incidents, Handled program incidents work.supply.next work.fiber? next.fiber?) := by
  have known := checked.known (List.mem_of_getElem? reached) ⟨.node, boundary⟩ List.mem_cons_self
  refine achieves_step reached found ?_
  rw [execute]
  refine .bind (achieves_node known (fun key named => .modify (fun incidents => ?_)))
  exact handled_watchOver shapely shielded found ready bare reached named

/-! ## Turns of hosts -/

/-- A host that may have changed takes its watchdog away; both are bare afterwards. -/
theorem loosens_drop (guarded : WellGuarded program incidents work.fiber?) (shapely : work.Shapely)
    (found : work.fiber? fiber.id = some fiber) (knows : fiber.watchdog ≠ none)
    {before : UnitOfWork} (there : before.fiber? fiber.id = some changed)
    (watch : changed.watch = fiber.watch)
    (elsewhere : ∀ id, id ≠ fiber.id -> before.fiber? id = work.fiber? id) :
    BareAt (before.dropWatchdog fiber).fiber? fiber.id ∧
      Loosens work.fiber? (before.dropWatchdog fiber).fiber? := by
  obtain ⟨watchdog, knows'⟩ := Option.ne_none_iff_exists'.1 knows
  have other : watchdog ≠ fiber.id := by
    rintro rfl
    exact WellFormed.unguarded shapely found knows'
  have after := fun asked => fiber?_dropWatchdog before asked fiber
  have bare : BareAt (before.dropWatchdog fiber).fiber? fiber.id := by
    intro later present
    rw [after, if_neg (by simpa [knows'] using other), there] at present
    obtain rfl : _ = later := by simpa using present
    exact ⟨rfl, watch.trans (guarded.free shapely found knows)⟩
  refine ⟨bare, guarded.parts shapely found knows' (fun id different different' => ?_) bare
    (.of_none ((after watchdog).trans (if_pos knows')))⟩
  rw [after, if_neg (by simpa [knows'] using Ne.symm different'), elsewhere id different]
  simp [different]

section

variable {instruction : Instruction Address} {rest : List (Instruction Address)} {supply : Nat}
  (found : work.fiber? fiber.id = some fiber) (free : fiber.watch = none)
  (stands : program.HasCode fiber.pc (instruction :: rest))
  (stays : instruction.frees? = none)

include stands

theorem still_of_stands (stays : instruction.frees? = none) : ¬ program.Unwatches fiber.pc := by
  rintro ⟨boundary, reached⟩
  cases stands.head.symm.trans reached
  cases stays

/-- What is known of the stack at an instruction that goes on at the next one. -/
theorem carries_of_suits (suits : program.Suits incidents fiber) (ready : fiber.wait = .ready)
    (goesOn : ∀ slots, ¬ instruction.Leaves slots) :
    ∃ slots next, fiber.Carries slots ∧ instruction.Passes slots next := by
  rw [Program.Suits, ready] at suits
  cases suits with
  | ready stands' checks carries =>
    cases checks with
    | passes passes after =>
      cases stands.head.symm.trans stands'.head
      exact ⟨_, _, carries, passes⟩
    | leaves leaves =>
      cases stands.head.symm.trans stands'.head
      exact absurd leaves (goesOn _)

include found free stays

/-- A host goes on in sheltered code. -/
theorem handled_computes (ready : fiber.wait = .ready) {boundary : Nat}
    (after : Shelters boundary rest) {slots next : List Slot} (carries : fiber.Carries slots)
    {fiberWork : FiberWork Unit} (advances : Advances fiberWork slots next)
    (computes : Computation fiberWork (fun pc => [pc + 1])) :
    Achieves (onFiber fiber.id fiberWork) work (fun _ next =>
      ∀ incidents, Handled program incidents supply work.fiber? next.fiber?) := by
  refine achieves_onFiber found ((computes.ahead (advances fiber carries)).mono ?_)
  rintro _ changed ⟨computes, place⟩ incidents
  refine .moved found ((fiber?_putFiber ..).trans (if_pos rfl))
    (fun _ other => (fiber?_putFiber ..).trans (if_neg other)) computes.watchdog
    (computes.watch.trans free) (fun _ => ?_) (fun _ _ guards => ?_)
    (fun _ _ => still_of_stands stands stays)
  · rw [computes.wait, ready]
    exact .ready (place ▸ stands.tail) after
  · rw [place]
    exact guards.next (still_of_stands stands stays)

/-- A host begins to wait for an answer. -/
theorem handled_suspend {wait : Wait} (asks : wait.Asks)
    (next : program.Unwatches (fiber.pc + 1)) :
    Handled program incidents supply work.fiber? (work.suspend fiber wait).fiber? :=
  .moved found ((fiber?_park ..).trans ((if_pos rfl).trans (congrArg _ found)))
    (fun _ other => (fiber?_park ..).trans (if_neg other)) rfl free
    (fun _ => .asking asks (still_of_stands stands stays) next) (fun _ _ guards => guards)
    (fun _ _ => still_of_stands stands stays)

end

/-- The instruction of a host in sheltered code can be executed, and the host keeps its watchdog or
takes it away. -/
theorem Safe.shelters {table : OrderedMap IncidentId Incident} (checked : program.Checked)
    (safe : work.Safe program table) (shapely : work.Shapely)
    (guarded : WellGuarded program incidents work.fiber?)
    (found : work.fiber? fiber.id = some fiber) (ready : fiber.wait = .ready)
    (knows : fiber.watchdog ≠ none) {supply : Nat} :
    Achieves (step program fiber.id) work (fun _ next =>
      ∀ incidents, Handled program incidents supply work.fiber? next.fiber?) := by
  have suits := safe.fibers found
  have protects := guarded.protects found knows
  have free := guarded.free shapely found knows
  rw [ready] at protects
  obtain ⟨boundary, code, stands, shelters⟩ : ∃ boundary code,
      program.HasCode fiber.pc code ∧ Shelters boundary code := by
    cases protects with
    | ready stands shelters => exact ⟨_, _, stands, shelters⟩
    | asking asks => cases asks
  have known {instruction rest} (stands : program.HasCode fiber.pc (instruction :: rest)) :=
    fun reference => checked.known stands.mem reference
  cases shelters with
  | unwatch =>
    refine achieves_step stands.head found ?_
    rw [execute]
    refine .bind (achieves_onFiber found (.modify (.modify ?_)))
    exact fun _ => .loosened (And.right (loosens_drop guarded shapely found knows
      ((fiber?_putFiber ..).trans (if_pos rfl)) rfl
      (fun _ other => (fiber?_putFiber ..).trans (if_neg other))))
  | @loadFlag flag _ after =>
    have goesOn : ∀ slots, ¬ (loadFlag flag : Instruction Address).Leaves slots := by
      rintro _ ⟨⟩
    obtain ⟨slots, next, carries, -⟩ := carries_of_suits stands suits ready goesOn
    refine achieves_step stands.head found ?_
    rw [execute]
    refine .bind (achieves_symbol (known stands _ List.mem_cons_self)
      (fun name => .bind (.get ?_)))
    exact handled_computes found free stands rfl ready after carries
      ((turns_push_any _).advances (fun _ _ => advances_advance))
      (.after (moves_push _) (fun _ => computation_advance))
  | @storeRegister index _ after =>
    have goesOn : ∀ slots, ¬ (storeRegister index : Instruction Address).Leaves slots := by
      rintro _ ⟨⟩
    obtain ⟨slots, next, carries, passes⟩ := carries_of_suits stands suits ready goesOn
    cases passes with
    | storeRegister inside =>
      refine achieves_step stands.head found ?_
      rw [execute]
      exact handled_computes found free stands rfl ready after carries
        (turns_pop.advances (fun value _ => (turns_setRegister inside value).advances
          (fun _ _ => advances_advance)))
        (.after moves_pop (fun value => .after (moves_setRegister _ value)
          (fun _ => computation_advance)))
  | dispatch =>
    refine achieves_step stands.head found ?_
    rw [execute]
    refine .bind (achieves_symbol (known stands _ List.mem_cons_self) (fun name => .bind
      (achieves_node (known stands _ (List.mem_cons_of_mem _ List.mem_cons_self))
        (fun key _ => .modify ?_))))
    exact fun _ => @handled_suspend (work.dispatch _) _ _ _ _ _ _ found free stands rfl _ .job
      ⟨_, stands.tail.head⟩
  | @waitMessage name source _ =>
    have goesOn : ∀ slots, ¬ (waitMessage name source : Instruction Address).Leaves slots := by
      rintro _ ⟨⟩
    obtain ⟨slots, next, carries, passes⟩ := carries_of_suits stands suits ready goesOn
    cases passes with
    | waitMessage inside =>
      refine achieves_step stands.head found ?_
      rw [execute]
      refine .bind (achieves_symbol (known stands _ List.mem_cons_self)
        (fun name => .bind (.get ?_)))
      obtain ⟨correlation, resolved⟩ := resolve_ok inside carries work.record
      exact .bind (.lift resolved (.set (fun _ =>
        handled_suspend found free stands rfl .message ⟨_, stands.tail.head⟩)))
  | waitHuman =>
    refine achieves_step stands.head found ?_
    rw [execute]
    refine .bind (achieves_symbol (known stands _ List.mem_cons_self) (fun name => .modify ?_))
    exact fun _ => handled_suspend found free stands rfl .human ⟨_, stands.tail.head⟩

/-! ## Runs -/

/-- A turn in safe work parts pairs, lets one fiber go on or gives it a watchdog. -/
theorem Safe.handled {table : OrderedMap IncidentId Incident} (checked : program.Checked)
    (shielded : program.Shielded) (safe : work.Safe program table) (shapely : work.Shapely)
    (guarded : WellGuarded program (work.incidentsOver table) work.fiber?)
    (next : work.nextFiber? = some id) :
    Handled program ((UnitOfWork.turn program id work).incidentsOver table) work.supply.next
      work.fiber? (UnitOfWork.turn program id work).fiber? := by
  obtain ⟨running, fiber, rfl, found, ready⟩ := nextFiber_some shapely next
  have succeeded (achieves : Achieves (step program fiber.id) work (fun _ next =>
      ∀ incidents, Handled program incidents work.supply.next work.fiber? next.fiber?)) :
      Handled program ((UnitOfWork.turn program fiber.id work).incidentsOver table)
        work.supply.next work.fiber? (UnitOfWork.turn program fiber.id work).fiber? := by
    obtain ⟨⟨⟩, after, succeeds, handled⟩ := achieves
    rw [UnitOfWork.turn, play_eq, succeeds]
    exact handled _
  by_cases alone : fiber.watchdog = none
  · have bare : fiber.Bare := ⟨alone, WellFormed.unwatched shapely found (by simp [ready])⟩
    by_cases sets : ∃ boundary duration interrupting target,
        program.instruction? fiber.pc = some (.watch boundary duration interrupting target)
    · obtain ⟨boundary, duration, interrupting, target, reached⟩ := sets
      exact succeeded (achieves_watch checked shielded shapely found ready bare reached)
    · refine .loosened ((turn_cases program found rfl).loosens shapely ?_ found bare)
      intro instruction reached
      cases instruction with
      | watch boundary duration interrupting target =>
        exact absurd ⟨boundary, duration, interrupting, target, reached⟩ sets
      | _ => rfl
  · exact succeeded (safe.shelters checked shapely guarded found ready alone)

/-- However many turns are taken, fibers stay well guarded, and what every step keeps is kept. -/
theorem Safe.watches {table : OrderedMap IncidentId Incident} (checked : program.Checked)
    (shielded : program.Shielded) (safe : work.Safe program table) (shapely : work.Shapely)
    (guarded : WellGuarded program (work.incidentsOver table) work.fiber?)
    (remaining taken : Nat) :
    WellGuarded program ((takeTurns program remaining taken work).2.incidentsOver table)
      (takeTurns program remaining taken work).2.fiber? ∧
    ∀ {watchdog Holds}, Endures program watchdog Holds -> watchdog.number < work.supply.next ->
      Holds work.fiber? -> Holds (takeTurns program remaining taken work).2.fiber? := by
  induction remaining generalizing work taken with
  | zero => exact ⟨guarded, fun _ _ holds => holds⟩
  | succ remaining ih =>
    rw [takeTurns_succ program shapely]
    cases next : work.nextFiber? with
    | none => exact ⟨guarded, fun _ _ holds => holds⟩
    | some id =>
      have turned : ∃ fiber, work.fiber? fiber.id = some fiber ∧ fiber.wait = .ready ∧
          Turned program fiber work (UnitOfWork.turn program id work) := by
        obtain ⟨-, fiber, rfl, found, ready⟩ := nextFiber_some shapely next
        exact ⟨fiber, found, ready, turn_cases program found rfl⟩
      obtain ⟨fiber, found, ready, turned⟩ := turned
      have spares := turned.spares shapely
      have handled := safe.handled checked shielded shapely guarded next
      obtain ⟨still, keeps⟩ := ih (safe.turn checked shapely next).2
        (shapely.turned found ready turned)
        (guarded.handled shapely handled (spares.recalls safe.recalls).2) (taken + 1)
      exact ⟨still, fun endures drawn holds =>
        keeps endures (Nat.lt_of_lt_of_le drawn spares.supply) (endures drawn handled holds)⟩

end UnitOfWork

/-! ## Changes -/

namespace UnitOfWork

variable {work : UnitOfWork} {program : Program} {incidents later : OrderedMap IncidentId Incident}
  {fiber : Fiber} {id : FiberId} {supply : Nat}

/-- A fiber that waits goes on, and takes its watchdog away next if it has one. -/
theorem handled_wake (found : work.fiber? id = some fiber) (free : fiber.watch = none)
    (waits : fiber.wait ≠ .ready)
    (next : fiber.watchdog ≠ none ->
      program.Unwatches (fiber.pc + 1) ∧ ¬ program.Unwatches fiber.pc) :
    Handled program incidents supply work.fiber? (work.wake id (fiber.pc + 1)).fiber? :=
  .moved found ((fiber?_wake ..).trans ((if_pos rfl).trans (congrArg _ found)))
    (fun _ other => (fiber?_wake ..).trans (if_neg other)) rfl free
    (fun knows =>
      @Program.Unwatches.protects program _ (fiber.wake (fiber.pc + 1)) (next knows).1)
    (fun knows _ guards => guards.next (next knows).2) (fun _ ready => absurd ready waits)

/-- A fiber that waits waits for something else, where it is. -/
theorem handled_wait {next : UnitOfWork} (found : work.fiber? id = some fiber)
    (free : fiber.watch = none) (waits : fiber.wait ≠ .ready) {wait : Wait}
    (parks : ∀ asked, next.fiber? asked = if asked = id then
      (work.fiber? asked).map (fun former => { former with pc := fiber.pc, wait := wait })
      else work.fiber? asked)
    (protects : fiber.watchdog ≠ none -> program.Protects incidents fiber wait) :
    Handled program incidents supply work.fiber? next.fiber? := by
  refine .moved found ((parks id).trans ((if_pos rfl).trans (congrArg _ found)))
    (fun asked other => (parks asked).trans (if_neg other)) rfl free (fun knows => ?_)
    (fun _ _ guards => guards) (fun _ ready => absurd ready waits)
  cases protects knows with
  | ready stands shelters => exact .ready stands shelters
  | asking asks still next => exact .asking asks still next
  | halted raised still next => exact .halted raised still next

/-- A fiber whose wait nobody answers has no watchdog. -/
theorem bare_of_waits (guarded : WellGuarded program incidents work.fiber?)
    (found : work.fiber? id = some fiber) (free : fiber.watch = none)
    (waits : ¬ program.Protects incidents fiber fiber.wait) : BareAt work.fiber? id :=
  .of_found found ⟨by_contra fun knows => waits (guarded.protects found knows), free⟩

/-- A watchdog goes on without its host, which was freed of it. -/
theorem loosens_release (guarded : WellGuarded program incidents work.fiber?)
    (shapely : work.Shapely) {watch : Watch} (found : work.fiber? id = some fiber)
    (watches : fiber.watch = some watch) {freed : UnitOfWork} (tickets : List JoinTicket)
    (bare : BareAt freed.fiber? watch.host)
    (elsewhere : ∀ asked, asked ≠ watch.host -> freed.fiber? asked = work.fiber? asked) :
    Loosens work.fiber? ((freed.updateFiber id (fun fiber =>
      { fiber with watch := none, tickets := tickets })).wake id watch.target).fiber? := by
  obtain ⟨host, hosts, knows, -⟩ := guarded.attended found watches
  have other : watch.host ≠ id := (WellFormed.watching shapely found watches).1
  have alone : fiber.watchdog = none := by
    by_contra knows
    rw [guarded.free shapely found knows] at watches
    cases watches
  have there : freed.fiber? id = some fiber := (elsewhere id (Ne.symm other)).trans found
  have after : ∀ asked, ((freed.updateFiber id (fun fiber =>
      { fiber with watch := none, tickets := tickets })).wake id watch.target).fiber? asked =
      if asked = id then
        some (Fiber.wake { fiber with watch := none, tickets := tickets } watch.target)
      else freed.fiber? asked := by
    intro asked
    rw [fiber?_wake, fiber?_updateFiber]
    split
    · rename_i same
      rw [same, there]
      rfl
    · rfl
  refine guarded.parts shapely hosts knows (fun asked host watchdog => ?_) ?_
    (.of_found ((after id).trans (if_pos rfl)) ⟨alone, rfl⟩)
  · rw [after, if_neg watchdog, elsewhere asked host]
  · intro later present
    rw [after, if_neg other] at present
    exact bare later present

/-- When a watchdog fires, it parts with its host. -/
theorem loosens_fire (guarded : WellGuarded program incidents work.fiber?) (shapely : work.Shapely)
    {watch : Watch} (found : work.fiber? id = some fiber) (watches : fiber.watch = some watch) :
    Loosens work.fiber? (work.fire id watch).fiber? := by
  obtain ⟨host, hosts, knows, -⟩ := guarded.attended found watches
  have logged (asked : FiberId) :
      (work.emit (.boundaryFired watch.boundary watch.interrupting)).fiber? asked =
        work.fiber? asked := rfl
  rw [fire]
  dsimp only
  split
  · refine loosens_release guarded shapely found watches _
      (.of_none ((fiber?_interrupt ..).trans (if_pos rfl))) (fun asked other => ?_)
    rw [fiber?_interrupt, if_neg other, logged]
  · have free : host.watch = none := guarded.free shapely hosts (by simp [knows])
    refine loosens_release guarded shapely found watches [] (.of_found
      ((fiber?_updateFiber ..).trans ((if_pos rfl).trans (congrArg _ hosts))) ⟨rfl, free⟩)
      (fun asked other => ?_)
    rw [fiber?_updateFiber, if_neg other, logged]

/-- A fiber that is answered parts with its watchdog or is about to take it away. -/
theorem handled_resume (guarded : WellGuarded program incidents work.fiber?)
    (shapely : work.Shapely) (found : work.fiber? id = some fiber) {how : Resumption}
    (answered : fiber.Answered how) :
    Handled program later supply work.fiber? (work.resume id how).fiber? := by
  have free (waits : ∀ due, fiber.wait ≠ .timer due) : fiber.watch = none :=
    WellFormed.unwatched shapely found waits
  cases answered with
  | fire waits watches => exact .loosened (loosens_fire guarded shapely found watches)
  | timer waits free =>
    refine .loosened (loosens_wake (bare_of_waits guarded found free ?_) _)
    exact fun protects => protects.ne_timer _ waits
  | message waits =>
    refine handled_wake found (free (by simp [waits])) (by simp [waits]) (fun knows => ?_)
    exact (guarded.protects found knows).next (waits ▸ .message)
  | human waits =>
    refine handled_wake found (free (by simp [waits])) (by simp [waits]) (fun knows => ?_)
    exact (guarded.protects found knows).next (waits ▸ .human)
  | race waits leads =>
    rename_i node arms winner losers
    have bare : BareAt work.fiber? id := by
      refine bare_of_waits guarded found (free (by simp [waits])) (fun protects => ?_)
      rw [waits] at protects
      cases protects with
      | asking asks => cases asks
    have logged : ∀ (targets : List Address) (start : UnitOfWork), BareAt start.fiber? id ->
        Loosens start.fiber? ((targets.foldl (fun (work : UnitOfWork) target =>
          work.emit (.raceArmCancelled node target)) start).wake id winner).fiber? := by
      intro targets
      induction targets with
      | nil => exact fun start bare => loosens_wake bare winner
      | cons target rest ih => exact fun start bare => ih _ bare
    exact .loosened (logged losers _ bare)

theorem handled_deliver (guarded : WellGuarded program incidents work.fiber?)
    (shapely : work.Shapely) (signal : WakeSignal) :
    Handled program later supply work.fiber? (work.deliver signal).2.fiber? := by
  cases answered : work.resumption signal with
  | error reason =>
    rw [UnitOfWork.deliver, answered]
    exact .loosened (.of_same (fun _ => rfl))
  | ok how =>
    obtain ⟨-, fiber, found, -, answers⟩ := resumption_ok answered
    rw [UnitOfWork.deliver, answered]
    exact @handled_resume
      (work.updateRecord (fun record => record.accept signal.flags signal.payload)) program
        incidents later fiber signal.fiber supply guarded
          (shapely.accept signal.flags signal.payload) found how answers

/-- A host is halted only for a job that was set aside, so no operator lets it begin again. -/
theorem loosens_restart (guarded : WellGuarded program incidents work.fiber?)
    (shapely : work.Shapely) {incident resolved : Incident}
    (found : incidents.get? resolved.id = some incident) (alone : incident.jobKey = none) :
    Loosens work.fiber? (work.restart program resolved).2.fiber? := by
  rw [restart]
  split
  · exact .of_same (fun _ => rfl)
  · rename_i fiber present
    split
    · rename_i waits
      refine loosens_wake (bare_of_waits guarded present
        (WellFormed.unwatched shapely present (by simp [waits])) (fun protects => ?_)) _
      rw [waits] at protects
      cases protects with
      | asking asks => cases asks
      | halted raised =>
        obtain ⟨other, found', about⟩ := raised
        cases found.symm.trans found'
        cases alone.symm.trans about
    · exact .of_same (fun _ => rfl)

end UnitOfWork

section

variable {work changed : UnitOfWork} {program : Program}
  {incidents later table : OrderedMap IncidentId Incident} {job : Job} {fiber : Fiber}
  {supply : Nat}

/-- The host of a job goes on where it takes its watchdog away. -/
theorem Job.handled_applied (guarded : WellGuarded program incidents work.fiber?)
    (shapely : work.Shapely) (wanted : work.Wanted job fiber) (completion : JobCompletion) :
    Handled program later supply work.fiber? (job.applied completion fiber.pc work).fiber? := by
  refine @handled_wake ((job.finished (.jobCompleted job.key) (work.recordCompletion
    ⟨job.key, completion, true, work.time⟩)).updateRecord (fun record =>
      record.accept completion.flags completion.payload)) program later fiber job.fiber supply
        wanted.found (wanted.unwatched shapely _ wanted.found) (by simp [wanted.waits])
          (fun knows => ?_)
  exact (guarded.protects wanted.found knows).next (wanted.waits ▸ .job)

/-- A host whose job fails waits for it to be put back, or parts with its watchdog. -/
theorem Job.Failed.handled {outcome : FailureOutcome}
    (failed : job.Failed program work fiber outcome changed)
    (guarded : WellGuarded program incidents work.fiber?) (shapely : work.Shapely)
    (wanted : work.Wanted job fiber) :
    Handled program (changed.incidentsOver table) supply work.fiber? changed.fiber? := by
  have free := wanted.unwatched shapely _ wanted.found
  have waits : fiber.wait ≠ .ready := by simp [wanted.waits]
  have named : fiber.id = job.fiber := WellFormed.keyed shapely wanted.found
  cases failed with
  | retry notBefore problem => exact .loosened (.of_same (fun _ => rfl))
  | bury kind problem expires cause =>
    refine handled_wait wanted.found free waits
      (job.fiber?_buried kind problem expires fiber.pc work) (fun knows => ?_)
    rw [Job.buried, Job.incidentsOver_shelved]
    obtain ⟨next, still⟩ := (guarded.protects wanted.found knows).next (wanted.waits ▸ .job)
    exact .halted (job.raisedFor_stopped kind problem fiber.pc table) still next
  | route problem leads =>
    rename_i code target
    let finished := Job.finished { job with lastError := some problem }
      (.jobErrorRouted job.key code) work
    have found : finished.fiber? fiber.id = some fiber := named ▸ wanted.found
    have dropped : BareAt (finished.dropWatchdog fiber).fiber? fiber.id ∧
        Loosens work.fiber? (finished.dropWatchdog fiber).fiber? := by
      by_cases alone : fiber.watchdog = none
      · have bare : BareAt finished.fiber? fiber.id := .of_found found ⟨alone, free⟩
        have loosens := loosens_dropWatchdog bare alone
        exact ⟨loosens.bareAt bare, loosens⟩
      · exact loosens_drop guarded shapely found alone found rfl (fun _ _ => rfl)
    obtain ⟨bare, loosens⟩ := dropped
    exact .loosened (loosens.trans (loosens_wake (named ▸ bare) target))

/-- The host of a job that is put back waits for it again. -/
theorem DeadLetter.handled_requeued {letter : DeadLetter}
    (guarded : WellGuarded program incidents work.fiber?) (shapely : work.Shapely)
    (found : work.fiber? letter.job.fiber = some fiber) {incident : IncidentId}
    (waits : fiber.wait = .incident incident) {next : UnitOfWork}
    (same : ∀ asked, next.fiber? asked = (letter.requeued fiber.pc work).fiber? asked) :
    Handled program later supply work.fiber? next.fiber? := by
  refine handled_wait found (WellFormed.unwatched shapely found (by simp [waits]))
    (by simp [waits]) (fun asked => (same asked).trans (letter.fiber?_requeued _ work asked))
    (fun knows => ?_)
  have protects := guarded.protects found knows
  rw [waits] at protects
  cases protects with
  | asking asks => cases asks
  | halted raised still next => exact .asking .job still next

/-- Every change parts pairs or lets one fiber go on. -/
theorem Intervened.handled {store : MemoryStore} {id : InstanceId} {state : InstanceState}
    {now : Instant} {supply : IdSupply} {purpose : Purpose}
    (intervened : Intervened store id program (.begin state now supply) purpose changed)
    (shapely : (UnitOfWork.begin state now supply).Shapely)
    (recalls : (UnitOfWork.begin state now supply).Recalls store.incidents)
    (guarded : WellGuarded program store.incidents state.fiber?) :
    Handled program (changed.incidentsOver store.incidents) supply.next state.fiber?
      changed.fiber? := by
  have same : Loosens state.fiber? state.fiber? := .of_same (fun _ => rfl)
  cases intervened with
  | run => exact .loosened same
  | cancel running closes => exact .loosened (loosens_close shapely closes)
  | complete stored owned first wanted completion =>
    exact Job.handled_applied guarded shapely wanted completion
  | record stored owned first unwanted completion => exact .loosened same
  | fail stored owned wanted failed => exact failed.handled guarded shapely wanted
  | dismiss => exact .loosened same
  | deliver running signal => exact handled_deliver guarded shapely signal
  | discard => exact .loosened same
  | restart stored settles running alone owned closed =>
    obtain ⟨status, rfl⟩ := settles
    have named := (recalls _ _ stored).1
    exact .loosened (loosens_restart guarded (shapely.emit _)
      ((congrArg _ named).trans stored) alone)
  | settle stored settles owned closed => exact .loosened same
  | requeue stored owned running found waits settles =>
    rename_i place letter fiber incident settled
    exact DeadLetter.handled_requeued guarded shapely found waits (settles.fibers_emit _)
  | abandon stored owned => exact .loosened same

end

end ProcessEngine
