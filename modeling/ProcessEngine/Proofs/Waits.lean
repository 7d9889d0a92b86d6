import ProcessEngine.Proofs.Lineages
import ProcessEngine.Proofs.WatchedWork

/-!
# Where waits come from

A fiber begins to wait only in its own turn, at the instruction that it has reached
(`Program.Places`, `UnitOfWork.Turned.places`). Whatever an engine changes of the instance, it stays
there until it is ready again: at most its wait for a job gives way to an incident, or the other way
round (`Fiber.Dwells`, `Intervened.dwell`).
-/

namespace ProcessEngine

open UnitOfWork

/-- A dead letter of the instance is stored. -/
def MemoryStore.Shelves (store : MemoryStore) (owner : InstanceId) (letter : DeadLetter) : Prop :=
  ∃ place, store.deadLetters.get? place = some letter ∧ letter.job.owner = owner

/-- A fiber is where it was and waits as before, or its job was set aside, or put back from one of
the dead letters. -/
inductive Fiber.Dwells (Shelved : DeadLetter -> Prop) (id : FiberId) (former later : Fiber) :
    Prop where
  | stays (pc : later.pc = former.pc) (wait : later.wait = former.wait)
  | stops {key incident} (pc : later.pc = former.pc) (waited : former.wait = .job key)
    (halted : later.wait = .incident incident)
  | takesUp {letter incident} (shelved : Shelved letter) (own : letter.job.fiber = id)
    (pc : later.pc = former.pc) (halted : former.wait = .incident incident)
    (waits : later.wait = .job letter.key)

/-- Every fiber that is not ready has dwelt. -/
def Dwell (Shelved : DeadLetter -> Prop) (fibers fibers' : FiberId -> Option Fiber) : Prop :=
  ∀ id later, fibers' id = some later ->
    later.wait = .ready ∨ ∃ former, fibers id = some former ∧ former.Dwells Shelved id later

/-- What a fiber waits for after a turn of one fiber: nothing, the same as before, or what it
begins to wait for at the instruction that it has reached. -/
inductive Program.Places (program : Program) (fiber : Fiber) (work next : UnitOfWork)
    (later : Fiber) : FiberId -> Prop where
  | ready {id} (ready : later.wait = .ready) : Places program fiber work next later id
  | stays {id former} (found : work.fiber? id = some former) (pc : later.pc = former.pc)
    (wait : later.wait = former.wait) : Places program fiber work next later id
  | handOut {taskType node retries routes job key name}
    (reached : program.instruction? fiber.pc = some (.dispatch taskType node retries routes))
    (handed : next = work.handOut fiber job)
    (first : job = .first work.record fiber key name retries work.time)
    (pc : later.pc = fiber.pc) (waits : later.wait = .job job.key) :
    Places program fiber work next later fiber.id
  | race {node arms key} {waits : List ArmWait}
    (reached : program.instruction? fiber.pc = some (.race node arms))
    (leads : waits.map ArmWait.target = arms.map ArmCode.target) (pc : later.pc = fiber.pc)
    (waits : later.wait = .race key waits) : Places program fiber work next later fiber.id
  | sleep {id due} (waits : later.wait = .timer due) : Places program fiber work next later id
  | listen {id name correlation} (waits : later.wait = .message name correlation) :
    Places program fiber work next later id
  | consult {id task} (waits : later.wait = .human task) : Places program fiber work next later id
  | halt {incident} (raised : next.incidents = work.incidents ++ [incident])
    (alone : incident.jobKey = none) (waits : later.wait = .incident incident.id) :
    Places program fiber work next later fiber.id

section

variable {Shelved : DeadLetter -> Prop} {fibers fibers' : FiberId -> Option Fiber}
  {program : Program} {work next changed : UnitOfWork} {fiber : Fiber} {id : FiberId}

theorem Fiber.Remains.dwells {former later : Fiber} (remains : former.Remains later) :
    former.Dwells Shelved id later := .stays remains.pc remains.wait

namespace Dwell

theorem of_subsides (subsides : Subsides fibers fibers') : Dwell Shelved fibers fibers' := by
  intro id later found
  obtain ⟨former, before, remains⟩ := subsides id later found
  exact .inr ⟨former, before, remains.dwells⟩

theorem of_same (same : ∀ id, fibers' id = fibers id) : Dwell Shelved fibers fibers' :=
  .of_subsides (.of_same same)

/-- One fiber dwells, all others end or remain. -/
theorem of_own {own : FiberId}
    (elsewhere : ∀ id later, id ≠ own -> fibers' id = some later ->
      ∃ former, fibers id = some former ∧ former.Remains later)
    (here : ∀ later, fibers' own = some later ->
      later.wait = .ready ∨ ∃ former, fibers own = some former ∧ former.Dwells Shelved own later) :
    Dwell Shelved fibers fibers' := by
  intro id later found
  by_cases same : id = own
  · subst same
    exact here later found
  · obtain ⟨former, before, remains⟩ := elsewhere id later same found
    exact .inr ⟨former, before, remains.dwells⟩

/-- One fiber goes on, all others end or remain. -/
theorem of_wake {before : UnitOfWork} {pc : Address}
    (elsewhere : ∀ asked later, asked ≠ id -> before.fiber? asked = some later ->
      ∃ former, fibers asked = some former ∧ former.Remains later) :
    Dwell Shelved fibers (before.wake id pc).fiber? := by
  refine @of_own _ _ _ id (fun asked later other found => ?_) (fun later found => .inl ?_)
  · rw [fiber?_wake, if_neg other] at found
    exact elsewhere asked later other found
  · rw [fiber?_wake, if_pos rfl] at found
    obtain ⟨former, -, rfl⟩ := Option.map_eq_some_iff.1 found
    rfl

/-- One fiber is replaced, all others remain. -/
theorem of_put {own : FiberId} {change : Fiber -> Fiber}
    (put : ∀ asked, fibers' asked =
      if asked = own then (fibers asked).map change else fibers asked)
    (dwells : ∀ former, fibers own = some former -> former.Dwells Shelved own (change former)) :
    Dwell Shelved fibers fibers' := by
  refine @of_own _ _ _ own (fun asked later other found => ?_) (fun later found => ?_)
  · rw [put, if_neg other] at found
    exact ⟨later, found, .refl later⟩
  · rw [put, if_pos rfl] at found
    obtain ⟨former, there, rfl⟩ := Option.map_eq_some_iff.1 found
    exact .inr ⟨former, there, dwells former there⟩

end Dwell

/-! ## Changes -/

namespace UnitOfWork

theorem dwell_fire (work : UnitOfWork) (id : FiberId) (watch : Watch) :
    Dwell Shelved work.fiber? (work.fire id watch).fiber? := by
  rw [fire]
  dsimp only
  split
  · refine .of_wake (fun asked later other found => ?_)
    rw [fiber?_updateFiber, if_neg other, fiber?_interrupt] at found
    split at found
    · cases found
    · exact ⟨later, found, .refl later⟩
  · refine .of_wake (fun asked later other found => ?_)
    rw [fiber?_updateFiber, if_neg other, fiber?_updateFiber] at found
    split at found
    · obtain ⟨host, before, rfl⟩ := Option.map_eq_some_iff.1 found
      exact ⟨host, before, rfl, rfl, rfl, rfl⟩
    · exact ⟨later, found, .refl later⟩

theorem dwell_deliver (work : UnitOfWork) (signal : WakeSignal) :
    Dwell Shelved work.fiber? (work.deliver signal).2.fiber? := by
  rw [deliver]
  split
  · exact .of_same (fun _ => rfl)
  · rename_i how answered
    cases how with
    | goOn pc => exact .of_wake (fun _ later _ found => ⟨later, found, .refl later⟩)
    | win race winner losers =>
      refine .of_wake (fun asked later _ found => ⟨later, ?_, .refl later⟩)
      rw [fiber?_cancelArms] at found
      exact found
    | fire watch => exact dwell_fire _ signal.fiber watch

theorem dwell_restart (work : UnitOfWork) (program : Program) (incident : Incident) :
    Dwell Shelved work.fiber? (work.restart program incident).2.fiber? := by
  rw [restart]
  split
  · exact .of_same (fun _ => rfl)
  · split
    · exact .of_wake (fun _ later _ found => ⟨later, found, .refl later⟩)
    · exact .of_same (fun _ => rfl)

end UnitOfWork

theorem Job.Failed.dwell {job : Job} {outcome : FailureOutcome}
    (failed : job.Failed program work fiber outcome changed) (wanted : work.Wanted job fiber) :
    Dwell Shelved work.fiber? changed.fiber? := by
  cases failed with
  | retry notBefore problem => exact .of_same (fun _ => rfl)
  | bury kind problem expires cause =>
    refine .of_put (job.fiber?_buried kind problem expires fiber.pc work) (fun former there => ?_)
    cases wanted.found.symm.trans there
    exact .stops rfl wanted.waits rfl
  | route problem leads =>
    rename_i code target
    let finished := Job.finished { job with lastError := some problem }
      (.jobErrorRouted job.key code) work
    exact @Dwell.of_wake _ _ job.fiber (finished.dropWatchdog fiber) target
      (fun asked later _ => subsides_dropWatchdog finished fiber asked later)

/-- Whatever an engine changes of an instance, fibers that wait dwell or become ready. -/
theorem Intervened.dwell {store : MemoryStore} {owner : InstanceId} {purpose : Purpose}
    (intervened : Intervened store owner program work purpose changed) (shapely : work.Shapely) :
    Dwell (store.Shelves owner) work.fiber? changed.fiber? := by
  cases intervened with
  | run => exact .of_same (fun _ => rfl)
  | cancel running closes => exact .of_subsides (.of_vacant (vacant_close shapely closes))
  | complete stored owned first wanted completion =>
    exact .of_wake (fun _ later _ found => ⟨later, found, .refl later⟩)
  | record stored owned first unwanted completion => exact .of_same (fun _ => rfl)
  | fail stored owned wanted failed => exact failed.dwell wanted
  | dismiss => exact .of_same (fun _ => rfl)
  | deliver running signal => exact dwell_deliver work signal
  | discard => exact .of_same (fun _ => rfl)
  | restart stored settles running alone owned closed =>
    rename_i key incident resolved
    exact dwell_restart (work.emit (.incidentResolved incident.id)) program resolved
  | settle stored settles owned closed => exact .of_same (fun _ => rfl)
  | requeue stored owned running found waits settles =>
    rename_i place letter fiber incident settled
    refine .of_put (fun asked => (settles.fibers_emit (.jobRequeued letter.key) asked).trans
      (letter.fiber?_requeued fiber.pc work asked)) (fun former there => ?_)
    cases found.symm.trans there
    exact .takesUp ⟨place, stored, owned⟩ rfl rfl waits rfl
  | abandon stored owned => exact .of_same (fun _ => rfl)

/-! ## Turns -/

namespace Program.Places

variable {before : UnitOfWork} {changed later : Fiber}

theorem of_subsides (subsides : Subsides work.fiber? fibers) (there : fibers id = some later) :
    program.Places fiber work next later id := by
  obtain ⟨former, before, remains⟩ := subsides id later there
  exact .stays before remains.pc remains.wait

/-- A fiber that computes stays ready, all others remain. -/
theorem of_computes {after : Fiber} (ready : fiber.wait = .ready)
    (computes : fiber.Computes changed)
    (there : (work.putFiber fiber.id changed).fiber? id = some after)
    (remains : after.Remains later) : program.Places fiber work next later id := by
  rw [fiber?_putFiber] at there
  split at there
  · cases there
    exact .ready (remains.wait.trans (computes.wait.trans ready))
  · exact .stays there remains.pc remains.wait

/-- A fiber begins to wait where it is, all others remain. -/
theorem of_suspend (before : UnitOfWork) {wait : Wait}
    (same : ∀ asked, before.fiber? asked = work.fiber? asked)
    (there : (before.suspend fiber wait).fiber? id = some later)
    (begins : later.pc = fiber.pc -> later.wait = wait ->
      program.Places fiber work next later fiber.id) :
    program.Places fiber work next later id := by
  rw [suspend, fiber?_park, same] at there
  split at there
  · rename_i own
    obtain ⟨former, -, rfl⟩ := Option.map_eq_some_iff.1 there
    exact own ▸ begins rfl rfl
  · exact .stays there rfl rfl

/-- The watchdog that a host gets begins to sleep. -/
theorem of_watchOver {key : NodeKey} {duration : Nat} {interrupting : Bool} {target : Address}
    (found : work.fiber? fiber.id = some fiber) (older : fiber.id ≠ ⟨work.supply.next⟩)
    (ready : fiber.wait = .ready)
    (there : (work.watchOver fiber key duration interrupting target).fiber? id = some later) :
    program.Places fiber work next later id := by
  rw [fiber?_watchOver work id fiber key duration interrupting target older] at there
  split at there
  · rename_i own
    rw [own, found] at there
    cases there
    exact .ready ready
  · split at there
    · cases there
      exact .sleep rfl
    · exact .stays there rfl rfl

/-- The fibers of a fork are ready, all others remain. -/
theorem of_fork {join : NodeKey} {targets : List Address} (shapely : work.Shapely)
    (found : work.fiber? fiber.id = some fiber)
    (prepared : before.fiber? fiber.id = some changed) (resembles : work.Resembles fiber.id before)
    (there : (before.fork fiber join targets).fiber? id = some later) :
    program.Places fiber work next later id := by
  have forks := forked_fork prepared (resembles.supply ▸ WellFormed.drawn shapely found) join
    targets
  have own : id ≠ fiber.id := by
    rintro rfl
    cases forks.ended.symm.trans there
  by_cases apart : id.number < before.supply.next ∨
    before.supply.next + targets.length ≤ id.number
  · rw [forks.others id own apart, resembles.elsewhere id own] at there
    exact .stays there rfl rfl
  · obtain ⟨drawn, within⟩ := not_or.1 apart
    obtain ⟨number, same⟩ := Nat.exists_eq_add_of_le (Nat.le_of_not_lt drawn)
    obtain rfl : id = ⟨before.supply.next + number⟩ := congrArg Identifier.mk same
    rw [forks.branches number _ (List.getElem?_eq_getElem (by omega))] at there
    cases there
    exact .ready rfl

/-- A fiber that arrives goes on or ends, all others remain. -/
theorem of_arrival {join : NodeKey} (found : work.fiber? fiber.id = some fiber)
    (ready : fiber.wait = .ready) (arrives : work.arriveAt fiber join = .ok next)
    (there : next.fiber? id = some later) : program.Places fiber work next later id := by
  cases arrivesAt arrives with
  | stray =>
    exact of_subsides ((subsides_retire work fiber.id).trans (subsides_completeIfIdle _)) there
  | satisfied holds counted =>
    rw [fiber?_updateFiber, fiber?_arrive work _ counted] at there
    split at there
    · rename_i own
      rw [own, found] at there
      cases there
      exact .ready ready
    · exact .stays there rfl rfl
  | waiting holds counted =>
    have begun : Subsides work.fiber? _ := .of_same (fun id => fiber?_arrive work id counted)
    exact of_subsides (begun.trans (subsides_retire _ _)) there
  | stale holds counted =>
    have begun : Subsides work.fiber? _ := .of_same (fun id => fiber?_arrive work id counted)
    exact of_subsides ((begun.trans (subsides_retire _ _)).trans (subsides_completeIfIdle _)) there

/-- A fiber that is halted waits for the incident that is raised, all others remain. -/
theorem of_halt (before : UnitOfWork) {incident : Incident}
    (elsewhere : ∀ asked, asked ≠ fiber.id -> before.fiber? asked = work.fiber? asked)
    (owned : incident.fiber = fiber.id) (alone : incident.jobKey = none)
    (raised : next.incidents = work.incidents ++ [incident])
    (there : (before.halt incident).fiber? id = some later) :
    program.Places fiber work next later id := by
  rw [UnitOfWork.halt, fiber?_putIncident, fiber?_park, owned] at there
  split at there
  · rename_i own
    obtain ⟨former, -, rfl⟩ := Option.map_eq_some_iff.1 there
    rw [own]
    exact .halt raised alone rfl
  · rename_i other
    exact .stays ((elsewhere id other).symm.trans there) rfl rfl

end Program.Places

namespace UnitOfWork

/-- A turn leaves every other fiber where it waits. -/
theorem Turned.places (turned : Turned program fiber work next) (shapely : work.Shapely)
    (found : work.fiber? fiber.id = some fiber) (ready : fiber.wait = .ready) {later : Fiber}
    (there : next.fiber? id = some later) : program.Places fiber work next later id := by
  cases turned with
  | compute reached computes lands => exact .of_computes ready computes there (.refl later)
  | storeFlag reached computes lands => exact .of_computes ready computes there (.refl later)
  | count reached computes lands => exact .of_computes ready computes there (.refl later)
  | handOut reached named =>
    exact .of_suspend (work.dispatch _) (fun _ => rfl) there
      (fun pc => .handOut reached rfl rfl pc)
  | sleep reached => exact .of_suspend _ (fun _ => rfl) there (fun _ => .sleep)
  | listen reached => exact .of_suspend _ (fun _ => rfl) there (fun _ => .listen)
  | consult reached => exact .of_suspend _ (fun _ => rfl) there (fun _ => .consult)
  | race reached leads =>
    exact .of_suspend _ (fun _ => rfl) there (fun pc => .race reached leads pc)
  | watch reached => exact .of_watchOver found (WellFormed.ne_fresh shapely found) ready there
  | unwatch reached computes lands =>
    obtain ⟨between, before, remains⟩ := subsides_dropWatchdog _ fiber id later there
    exact .of_computes ready computes before remains
  | fork reached named branches => exact .of_fork shapely found found (.refl work fiber.id) there
  | forkInclusive reached named branches chosen prepared =>
    obtain ⟨changed, kept, resembles⟩ := prepared.resembles found
    exact .of_fork shapely found kept resembles there
  | join reached named arrives => exact .of_arrival found ready arrives there
  | finish reached =>
    exact .of_subsides ((subsides_retire work fiber.id).trans (subsides_completeIfIdle _)) there
  | terminate reached closes => exact .of_subsides (.of_vacant (vacant_close shapely closes)) there
  | halt prepared cause =>
    rename_i kind message before
    obtain ⟨changed, -, resembles⟩ := prepared.resembles found
    let drawn : UnitOfWork := { before with supply := ⟨before.supply.next + 1⟩ }
    have raised (incident : Incident) :
        (drawn.halt incident).incidents = work.incidents ++ [incident] := by
      rw [incidents_halt, ← resembles.incidents]
    exact .of_halt drawn resembles.elsewhere rfl rfl (raised _) there

end UnitOfWork

end

end ProcessEngine
