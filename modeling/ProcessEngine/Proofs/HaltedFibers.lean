import ProcessEngine.Proofs.InclusiveGateways
import ProcessEngine.Proofs.Shelters
import ProcessEngine.Proofs.Stranding

/-!
# Fibers that wait for an operator

A fiber that is halted on an incident about no job has no watchdog and is none. Turns of other
fibers leave it alone (`UnitOfWork.Turned.bypasses`), and so does every change but the resolution of
its incident. So it stays parked at the address of the incident as long as the incident is open and
the instance runs (`Engine.Advances.parks`), and an incident that is closed stays closed
(`Engine.History.closed`).
-/

namespace ProcessEngine

open UnitOfWork

/-- Apart from one fiber, those that are bare are left as they are. -/
def Bypasses (own : FiberId) (fibers fibers' : FiberId -> Option Fiber) : Prop :=
  ∀ id fiber, id ≠ own -> fibers id = some fiber -> fiber.Bare -> fibers' id = some fiber

namespace Bypasses

variable {fibers middle fibers' : FiberId -> Option Fiber} {own : FiberId}

theorem of_elsewhere (elsewhere : ∀ id, id ≠ own -> fibers' id = fibers id) :
    Bypasses own fibers fibers' :=
  fun id _ other found _ => (elsewhere id other).trans found

theorem trans (first : Bypasses own fibers middle) (rest : Bypasses own middle fibers') :
    Bypasses own fibers fibers' :=
  fun id fiber other found bare => rest id fiber other (first id fiber other found bare) bare

end Bypasses

/-- The fiber of the incident waits at its address for its resolution. -/
def Incident.Holds (incident : Incident) (fibers : FiberId -> Option Fiber) : Prop :=
  ∃ fiber, fibers incident.fiber = some fiber ∧ fiber.wait = .incident incident.id ∧
    fiber.pc = incident.address

namespace UnitOfWork

variable {work next before : UnitOfWork} {program : Program} {fiber host : Fiber}
  {id own : FiberId} {table : OrderedMap IncidentId Incident}

/-! ## Turns of other fibers -/

/-- A bare fiber is nobody's watchdog. -/
theorem Shapely.ne_watchdog (shapely : work.Shapely) (hosts : work.fiber? own = some host)
    {watchdog : FiberId} (knows : host.watchdog = some watchdog)
    (found : work.fiber? id = some fiber) (bare : fiber.Bare) : id ≠ watchdog := by
  rintro rfl
  obtain ⟨watch, watches, -⟩ := WellFormed.watched shapely hosts knows found
  cases bare.free.symm.trans watches

theorem bypasses_endFiber (work : UnitOfWork) (id : FiberId) :
    Bypasses id work.fiber? (work.endFiber id).fiber? :=
  .of_elsewhere (fun _ other => (fiber?_endFiber ..).trans (if_neg other))

theorem bypasses_wake (work : UnitOfWork) (id : FiberId) (pc : Address) :
    Bypasses id work.fiber? (work.wake id pc).fiber? :=
  .of_elsewhere (fun _ other => (fiber?_wake ..).trans (if_neg other))

/-- A fiber ends together with its watchdog only. -/
theorem bypasses_retire (shapely : work.Shapely) (id : FiberId) :
    Bypasses id work.fiber? (work.retire id).fiber? := by
  intro asked other apart found bare
  rw [retire]
  split
  · exact found
  · rename_i host hosts
    have kept := bypasses_endFiber work id asked other apart found bare
    cases knows : host.watchdog with
    | none => exact kept
    | some watchdog =>
      exact (fiber?_endFiber ..).trans
        ((if_neg (shapely.ne_watchdog hosts knows found bare)).trans kept)

/-- A host that drops its watchdog, whatever has become of it before, ends nobody else. -/
theorem bypasses_dropWatchdog (shapely : work.Shapely) (found : work.fiber? host.id = some host)
    (bypasses : Bypasses host.id work.fiber? before.fiber?) :
    Bypasses host.id work.fiber? (before.dropWatchdog host).fiber? := by
  intro asked other apart there bare
  rw [fiber?_dropWatchdog, if_neg, bypasses asked other apart there bare]
  · exact congrArg some (if_neg apart)
  · exact fun knows => shapely.ne_watchdog found knows there bare rfl

/-- The branches of a split are new. -/
theorem bypasses_fork (shapely : work.Shapely) {parent : Fiber}
    (found : work.fiber? parent.id = some fiber) (join : NodeKey) (targets : List Address) :
    Bypasses parent.id work.fiber? (work.fork parent join targets).fiber? := by
  have forked := forked_fork found (WellFormed.drawn shapely found) join targets
  exact fun asked other apart there _ =>
    (forked.others asked apart (.inl (WellFormed.drawn shapely there))).trans there

theorem bypasses_arriveAt (shapely : work.Shapely) {join : NodeKey}
    (arrives : work.arriveAt fiber join = .ok next) :
    Bypasses fiber.id work.fiber? next.fiber? := by
  have begun {ticket : JoinTicket} {arrival : Arrival} {reached : UnitOfWork}
      (counted : work.arrive ticket = .ok (arrival, reached)) :
      Bypasses fiber.id work.fiber? reached.fiber? ∧ reached.Shapely :=
    ⟨.of_elsewhere (fun asked _ => fiber?_arrive work asked counted),
      shapely.of_same (fun asked => fiber?_arrive work asked counted)
        (steady_arrive counted).toContinues⟩
  have settles (work : UnitOfWork) : Bypasses fiber.id work.fiber? work.completeIfIdle.fiber? :=
    .of_elsewhere (fun asked _ => fiber?_completeIfIdle work asked)
  cases arrivesAt arrives with
  | stray => exact (bypasses_retire shapely fiber.id).trans (settles _)
  | satisfied holds counted =>
    exact (begun counted).1.trans
      (.of_elsewhere (fun _ other => (fiber?_updateFiber ..).trans (if_neg other)))
  | waiting holds counted =>
    exact (begun counted).1.trans (bypasses_retire (begun counted).2 fiber.id)
  | stale holds counted =>
    exact ((begun counted).1.trans (bypasses_retire (begun counted).2 fiber.id)).trans (settles _)

theorem bypasses_prepared (prepared : work.Prepared fiber before) :
    Bypasses fiber.id work.fiber? before.fiber? := by
  cases prepared with
  | same => exact .of_elsewhere (fun _ _ => rfl)
  | changed computes stays =>
    exact .of_elsewhere (fun _ other => (fiber?_putFiber ..).trans (if_neg other))

/-- As long as the instance runs, a turn leaves bare fibers alone whose turn it is not. -/
theorem Turned.bypasses (turned : Turned program fiber work next) (shapely : work.Shapely)
    (found : work.fiber? fiber.id = some fiber) (running : next.record.isRunning = true) :
    Bypasses fiber.id work.fiber? next.fiber? := by
  have puts (changed : Fiber) :
      Bypasses fiber.id work.fiber? (work.putFiber fiber.id changed).fiber? :=
    .of_elsewhere (fun _ other => (fiber?_putFiber ..).trans (if_neg other))
  have parks (pc : Address) (wait : Wait) :
      Bypasses fiber.id work.fiber? (work.park fiber.id pc wait).fiber? :=
    .of_elsewhere (fun _ other => (fiber?_park ..).trans (if_neg other))
  cases turned with
  | compute reached computes lands => exact puts _
  | storeFlag reached computes lands => exact puts _
  | count reached computes lands => exact puts _
  | handOut reached named =>
    exact .of_elsewhere (fun _ other => (fiber?_park ..).trans (if_neg other))
  | sleep reached => exact parks _ _
  | listen reached => exact parks _ _
  | consult reached => exact parks _ _
  | race reached leads => exact parks _ _
  | watch reached =>
    intro asked other apart there bare
    rw [fiber?_watchOver _ _ _ _ _ _ _ (WellFormed.ne_fresh shapely found), if_neg apart,
      if_neg (WellFormed.ne_fresh shapely there)]
    exact there
  | unwatch reached computes lands => exact bypasses_dropWatchdog shapely found (puts _)
  | fork reached named branches => exact bypasses_fork shapely found _ _
  | forkInclusive reached named branches chosen prepared =>
    obtain ⟨former, present⟩ := Option.isSome_iff_exists.1
      (present_prepared prepared found)
    exact (bypasses_prepared prepared).trans
      (bypasses_fork (shapely.prepared found prepared) present _ _)
  | join reached named arrives => exact bypasses_arriveAt shapely arrives
  | finish reached =>
    exact (bypasses_retire shapely fiber.id).trans
      (.of_elsewhere (fun asked _ => fiber?_completeIfIdle _ asked))
  | terminate reached closes =>
    rw [stopped_close closes (by simp)] at running
    cases running
  | halt prepared =>
    exact (bypasses_prepared prepared).trans
      (.of_elsewhere (fun _ other => (fiber?_park ..).trans (if_neg other)))

/-! ## Fibers that are parked -/

/-- As long as the instance runs, its open incidents that are about no job hold their fibers. -/
def Parks (work : UnitOfWork) (table : OrderedMap IncidentId Incident) : Prop :=
  work.record.isRunning = true -> ∀ id incident,
    (work.incidentsOver table).get? id = some incident -> incident.owner = work.record.id ->
      incident.isOpen = true -> incident.jobKey = none -> incident.Holds work.fiber?

variable {incident : Incident}

/-- A fiber that is halted on an incident about no job is bare. -/
theorem Sheltered.bare (sheltered : work.Sheltered program table)
    (found : work.fiber? own = some fiber) {asked : IncidentId}
    (waits : fiber.wait = .incident asked)
    (present : (work.incidentsOver table).get? asked = some incident)
    (alone : incident.jobKey = none) : fiber.Bare := by
  refine bare_of_waits sheltered.guarded found
    (WellFormed.unwatched sheltered.shapely found (by simp [waits])) ?_ fiber found
  rw [waits]
  intro protects
  cases protects with
  | asking asks => cases asks
  | halted raised =>
    obtain ⟨other, present', about⟩ := raised
    cases present.symm.trans present'
    cases alone.symm.trans about

/-- Fibers stay parked if their incidents hold them, or are as before and bare fibers that wait for
them are left alone. -/
theorem Parks.kept (parks : work.Parks table) (sheltered : work.Sheltered program table)
    (owner : next.record.id = work.record.id)
    (runs : next.record.isRunning = true -> work.record.isRunning = true)
    (kept : next.record.isRunning = true -> ∀ id incident,
      (next.incidentsOver table).get? id = some incident -> incident.isOpen = true ->
        incident.jobKey = none -> incident.Holds next.fiber? ∨
          (work.incidentsOver table).get? id = some incident ∧ ∀ asked fiber,
            work.fiber? asked = some fiber -> fiber.Bare -> fiber.wait = .incident id ->
              next.fiber? asked = some fiber) : next.Parks table := by
  intro running id incident present owned pending alone
  rcases kept running id incident present pending alone with holds | ⟨before, stays⟩
  · exact holds
  · obtain ⟨fiber, found, waits, place⟩ :=
      parks (runs running) id incident before (owned.trans owner) pending alone
    have named : incident.id = id := (sheltered.safe.recalls _ _ before).1
    have bare := sheltered.bare found (named ▸ waits) before alone
    exact ⟨fiber, stays _ fiber found bare (named ▸ waits), waits, place⟩

/-- They do if a fiber that waits for no incident goes on. -/
theorem Parks.bypassed (parks : work.Parks table) (sheltered : work.Sheltered program table)
    (owner : next.record.id = work.record.id)
    (runs : next.record.isRunning = true -> work.record.isRunning = true)
    (incidents : next.incidents = work.incidents) (found : work.fiber? own = some fiber)
    (waits : ∀ id, fiber.wait ≠ .incident id)
    (bypasses : next.record.isRunning = true -> Bypasses own work.fiber? next.fiber?) :
    next.Parks table := by
  refine parks.kept sheltered owner runs (fun running id incident present _ _ => .inr ⟨?_, ?_⟩)
  · rw [← incidentsOver_of_same incidents]
    exact present
  · intro asked other there bare halted
    refine bypasses running asked other ?_ there bare
    rintro rfl
    cases found.symm.trans there
    exact waits id halted

theorem Parks.emit (parks : work.Parks table) (event : RuntimeEvent) :
    (work.emit event).Parks table := parks

/-- An incident that is noted closed parks nobody. -/
theorem Parks.putIncident (parks : work.Parks table) (closed : incident.isOpen = false) :
    (work.putIncident incident).Parks table := by
  intro running id other present owned pending alone
  rw [get?_incidentsOver_putIncident] at present
  split at present
  · cases present
    cases closed.symm.trans pending
  · exact parks running id other present owned pending alone

/-- A fiber that is halted is held by its incident. -/
theorem holds_halt (found : work.fiber? incident.fiber = some fiber) :
    incident.Holds (work.halt incident).fiber? := by
  refine ⟨{ fiber with pc := incident.address, wait := .incident incident.id },
    (fiber?_park ..).trans ((if_pos rfl).trans ?_), rfl, rfl⟩
  exact congrArg (Option.map _) found

/-- Turns leave parked fibers parked. -/
theorem Turned.parks (turned : Turned program fiber work next)
    (sheltered : work.Sheltered program table) (running : work.record.isRunning = true)
    (found : work.fiber? fiber.id = some fiber) (ready : fiber.wait = .ready)
    (parks : work.Parks table) : next.Parks table := by
  have bypasses := turned.bypasses sheltered.shapely found
  rcases turned.incidents with same | ⟨before, kind, message, prepared, -, rfl⟩
  · exact parks.bypassed sheltered turned.confined.id (fun _ => running) same found
      (by simp [ready]) bypasses
  · refine parks.kept sheltered turned.confined.id (fun _ => running)
      (fun still id incident present pending alone => ?_)
    have same : before.incidents = work.incidents := by
      cases prepared <;> rfl
    obtain ⟨former, there⟩ := Option.isSome_iff_exists.1 (present_prepared prepared found)
    rw [raise] at present
    have present := (get?_incidentsOver_halt ..).symm.trans present
    split at present
    · cases present
      exact .inl (holds_halt there)
    · refine .inr ⟨?_, fun asked other listed bare waits => ?_⟩
      · rw [← incidentsOver_of_same same]
        exact present
      · refine bypasses still asked other ?_ listed bare
        rintro rfl
        cases found.symm.trans listed
        cases ready.symm.trans waits

theorem Sheltered.turn (sheltered : work.Sheltered program table) (checked : program.Checked)
    (shielded : program.Shielded) (first : work.nextFiber? = some id) :
    (UnitOfWork.turn program id work).Sheltered program table := by
  obtain ⟨safe, shapely, guarded⟩ := sheltered
  obtain ⟨-, fiber, rfl, found, ready⟩ := nextFiber_some shapely first
  have turned := turn_cases program found rfl
  have handled := safe.handled checked shielded shapely guarded first
  exact ⟨(safe.turn checked shapely first).2, shapely.turned found ready turned,
    guarded.handled shapely handled ((turned.spares shapely).recalls safe.recalls).2⟩

/-- However many turns are taken, parked fibers stay parked. -/
theorem Sheltered.parks (sheltered : work.Sheltered program table) (checked : program.Checked)
    (shielded : program.Shielded) (parks : work.Parks table) (remaining taken : Nat) :
    (takeTurns program remaining taken work).2.Parks table := by
  induction remaining generalizing work taken with
  | zero => exact parks
  | succ remaining ih =>
    rw [takeTurns_succ program sheltered.shapely]
    cases first : work.nextFiber? with
    | none => exact parks
    | some id =>
      obtain ⟨running, fiber, rfl, found, ready⟩ := nextFiber_some sheltered.shapely first
      have turned : Turned program fiber work (UnitOfWork.turn program fiber.id work) :=
        turn_cases program found rfl
      exact ih (sheltered.turn checked shielded first)
        (turned.parks sheltered running found ready parks) _

/-- An instance that runs after some turns has run before them. -/
theorem Ran.running (ran : Ran program work next) (running : next.record.isRunning = true) :
    work.record.isRunning = true := by
  induction ran with
  | refl => exact running
  | step prior still found ready turned ih => exact ih still

/-- However many turns others take, a bare fiber is left as it is as long as the instance runs. -/
theorem Sheltered.bystands (sheltered : work.Sheltered program table) (checked : program.Checked)
    (shielded : program.Shielded) (found : work.fiber? own = some fiber) (bare : fiber.Bare)
    (steps taken : Nat)
    (others : ∀ earlier < steps, (takeTurns program earlier taken work).2.nextFiber? ≠ some own)
    (running : (takeTurns program steps taken work).2.record.isRunning = true) :
    (takeTurns program steps taken work).2.fiber? own = some fiber := by
  induction steps generalizing work taken with
  | zero => exact found
  | succ steps ih =>
    rw [takeTurns_succ program sheltered.shapely] at running ⊢
    cases first : work.nextFiber? with
    | none => exact found
    | some id =>
      rw [first] at running
      obtain ⟨-, actor, rfl, acts, ready⟩ := nextFiber_some sheltered.shapely first
      have turned : Turned program actor work (UnitOfWork.turn program actor.id work) :=
        turn_cases program acts rfl
      have after := sheltered.turn checked shielded first
      have apart : own ≠ actor.id := by
        rintro rfl
        exact others 0 (Nat.succ_pos _) first
      have kept := turned.bypasses sheltered.shapely acts
        ((ran_takeTurns after.shapely _ _).running running) own fiber apart found bare
      refine ih after kept (taken + 1) (fun earlier before => ?_) running
      have later := others (earlier + 1) (Nat.succ_lt_succ before)
      rwa [takeTurns_succ program sheltered.shapely, first] at later

/-! ## Changes of other fibers -/

/-- A watchdog that goes on ends its host only, or makes it forget the watchdog. -/
theorem bypasses_fire (guarded : WellGuarded program table work.fiber?)
    (found : work.fiber? id = some fiber) {watch : Watch} (watches : fiber.watch = some watch) :
    Bypasses id work.fiber? (work.fire id watch).fiber? := by
  obtain ⟨host, hosts, knows, -⟩ := guarded.attended found watches
  intro asked other apart there bare
  have unhosted : asked ≠ watch.host := by
    rintro rfl
    cases hosts.symm.trans there
    cases bare.unguarded.symm.trans knows
  rw [fire]
  dsimp only
  rw [fiber?_wake, if_neg apart, fiber?_updateFiber, if_neg apart]
  split
  · rw [fiber?_interrupt, if_neg unhosted]
    exact there
  · rw [fiber?_updateFiber, if_neg unhosted]
    exact there

/-- The fiber that is answered goes on alone. -/
theorem bypasses_resume (guarded : WellGuarded program table work.fiber?)
    (found : work.fiber? id = some fiber) {how : Resumption} (answered : fiber.Answered how) :
    Bypasses id work.fiber? (work.resume id how).fiber? := by
  cases answered with
  | fire waits watches => exact bypasses_fire guarded found watches
  | timer => exact bypasses_wake work id _
  | message => exact bypasses_wake work id _
  | human => exact bypasses_wake work id _
  | race waits leads =>
    rename_i node arms winner losers
    have logged : ∀ (work : UnitOfWork) target,
        Bypasses id work.fiber? (work.emit (.raceArmCancelled node target)).fiber? :=
      fun _ _ => .of_elsewhere (fun _ _ => rfl)
    have cancelled := @related_foldl _ (fun work next => Bypasses id work.fiber? next.fiber?)
      (fun _ => .of_elsewhere (fun _ _ => rfl)) .trans _ logged losers
      (work.emit (.raceWon node winner))
    exact cancelled.trans (bypasses_wake _ id winner)

/-- A fiber that waits for an incident hears no signal. -/
theorem Parks.deliver (parks : work.Parks table) (sheltered : work.Sheltered program table)
    (signal : WakeSignal) : (work.deliver signal).2.Parks table := by
  have owner := (confined_deliver work signal).id
  have incidents := incidents_deliver work signal
  cases answered : work.resumption signal with
  | error reason =>
    rw [UnitOfWork.deliver, answered]
    exact parks
  | ok how =>
    obtain ⟨running, fiber, found, -, answers⟩ := resumption_ok answered
    have idle : ∀ id, fiber.wait ≠ .incident id := by
      cases answers with
      | fire waits => simp [waits]
      | timer waits => simp [waits]
      | message waits => simp [waits]
      | human waits => simp [waits]
      | race waits => simp [waits]
    refine parks.bypassed sheltered owner (fun _ => running) incidents found idle (fun _ => ?_)
    rw [UnitOfWork.deliver, answered]
    exact @bypasses_resume (work.updateRecord (fun record =>
      record.accept signal.flags signal.payload)) program fiber signal.fiber
        (work.incidentsOver table) sheltered.guarded found how answers

/-- Fibers that wait for other incidents do not begin again. -/
theorem fiber?_restart (found : work.fiber? own = some fiber)
    (waits : fiber.wait ≠ .incident incident.id) :
    (work.restart program incident).2.fiber? own = some fiber := by
  rw [restart]
  split
  · exact found
  · rename_i halted there
    split
    · rename_i waits'
      refine (fiber?_wake ..).trans ((if_neg ?_).trans found)
      rintro rfl
      cases found.symm.trans there
      exact waits waits'
    · exact found

/-- A fiber that begins again leaves its incident behind, which is closed. -/
theorem Parks.restart (parks : work.Parks table) (sheltered : work.Sheltered program table)
    (closed : incident.isOpen = false) :
    ((work.restart program incident).2.putIncident incident).Parks table := by
  have restarted := persists_restart work program incident
  refine parks.kept sheltered (steady_restart work program incident).id
    (fun running => restarted.isRunning ▸ running) (fun _ id other present pending alone => ?_)
  rw [get?_incidentsOver_putIncident, incidentsOver_of_same (incidents_restart ..)] at present
  split at present
  · cases present
    cases closed.symm.trans pending
  · rename_i different
    refine .inr ⟨present, fun asked fiber there _ waits => fiber?_restart there ?_⟩
    rw [waits]
    exact fun same => different (Wait.incident.inj same)

end UnitOfWork

section

variable {work changed : UnitOfWork} {program : Program} {fiber : Fiber}
  {table : OrderedMap IncidentId Incident} {job : Job}

/-- The failure of a job leaves parked fibers parked. -/
theorem Job.Failed.parks {outcome : FailureOutcome}
    (failed : job.Failed program work fiber outcome changed) (wanted : work.Wanted job fiber)
    (sheltered : work.Sheltered program table) (parks : work.Parks table) :
    changed.Parks table := by
  have shapely := sheltered.shapely
  have owner := failed.continues.id
  have runs : changed.record.isRunning = true -> work.record.isRunning = true :=
    fun running => failed.persists.isRunning ▸ running
  have idle : ∀ id, fiber.wait ≠ .incident id := by simp [wanted.waits]
  cases failed with
  | retry notBefore problem => exact parks
  | bury kind problem expires cause =>
    refine parks.kept sheltered owner runs (fun _ id incident present _ alone => ?_)
    rw [Job.buried, Job.incidentsOver_shelved, Job.stopped, get?_incidentsOver_halt] at present
    split at present
    · cases present
      cases alone
    · refine .inr ⟨present, fun asked other there _ waits => ?_⟩
      rw [job.fiber?_buried, if_neg]
      · exact there
      · rintro rfl
        cases wanted.found.symm.trans there
        exact idle id waits
  | route problem leads =>
    rename_i code target
    have named : fiber.id = job.fiber := WellFormed.keyed shapely wanted.found
    have found : work.fiber? fiber.id = some fiber := named ▸ wanted.found
    refine parks.bypassed sheltered owner runs
      ((incidents_wake ..).trans (incidents_dropWatchdog ..)) found idle (fun _ => ?_)
    have finished : Bypasses fiber.id work.fiber? (Job.finished
        { job with lastError := some problem } (.jobErrorRouted job.key code) work).fiber? :=
      .of_elsewhere (fun _ _ => rfl)
    have dropped := bypasses_dropWatchdog shapely found finished
    rw [named] at dropped ⊢
    exact dropped.trans (bypasses_wake _ job.fiber target)

/-- The incident of a fiber whose job is put back is about the job. -/
theorem DeadLetter.parks_requeued {letter : DeadLetter} {incident : IncidentId}
    (parks : work.Parks table) (sheltered : work.Sheltered program table)
    (running : work.record.isRunning = true)
    (found : work.fiber? letter.job.fiber = some fiber) (waits : fiber.wait = .incident incident)
    (raised : RaisedFor (work.incidentsOver table) incident letter.key) :
    (letter.requeued fiber.pc work).Parks table := by
  have incidents : (letter.requeued fiber.pc work).incidents = work.incidents :=
    letter.incidents_requeued fiber.pc (.jobRequeued letter.key)
  refine parks.kept sheltered (letter.continues_requeued _).id (fun _ => running)
    (fun _ id other present _ alone => .inr ?_)
  rw [incidentsOver_of_same incidents] at present
  refine ⟨present, fun asked halted there _ waits' => ?_⟩
  rw [letter.fiber?_requeued, if_neg]
  · exact there
  · rintro rfl
    cases found.symm.trans there
    cases waits.symm.trans waits'
    obtain ⟨_, present', about⟩ := raised
    cases present.symm.trans present'
    cases alone.symm.trans about

end

/-- Every change leaves parked fibers parked, or closes their incidents. -/
theorem Intervened.parks {store : MemoryStore} {id : InstanceId} {program : Program}
    {state : InstanceState} {now : Instant} {supply : IdSupply} {purpose : Purpose}
    {changed : UnitOfWork}
    (intervened : Intervened store id program (.begin state now supply) purpose changed)
    (same : state.record.id = id) (anchored : (UnitOfWork.begin state now supply).Anchored store)
    (sheltered : (UnitOfWork.begin state now supply).Sheltered program store.incidents)
    (parks : (UnitOfWork.begin state now supply).Parks store.incidents) :
    changed.Parks store.incidents := by
  have owner := intervened.continues.id
  cases intervened with
  | run => exact parks
  | cancel running closes =>
    intro still
    rw [stopped_close closes (by simp)] at still
    cases still
  | complete stored owned first wanted completion =>
    rename_i key job fiber
    have persists := job.persists_applied completion fiber.pc (UnitOfWork.begin state now supply)
    refine parks.bypassed sheltered owner (fun running => persists.isRunning ▸ running) ?_
      wanted.found (by simp [wanted.waits])
      (fun _ => .of_elsewhere (fun _ other => (fiber?_wake ..).trans (if_neg other)))
    refine (incidents_wake ..).trans ?_
    cases completion.payload <;> rfl
  | record stored owned first unwanted completion => exact parks
  | fail stored owned wanted failed => exact failed.parks wanted sheltered parks
  | dismiss => exact parks
  | deliver running signal => exact parks.deliver sheltered signal
  | discard => exact parks
  | restart stored settles running alone owned closed =>
    have logged : ∀ event, ((UnitOfWork.begin state now supply).emit event).Sheltered program
        store.incidents := fun event =>
      ⟨sheltered.safe.emit event, sheltered.shapely.emit event, sheltered.guarded⟩
    exact (parks.emit _).restart (logged _) closed
  | settle stored settles owned closed => exact (parks.emit _).putIncident closed
  | requeue stored owned running found waits settles =>
    rename_i place letter fiber incident settled
    obtain ⟨⟨id', halted, raised⟩, -⟩ := anchored.held stored (owned.trans same.symm) found
    cases waits.symm.trans halted
    have requeued := letter.parks_requeued parks sheltered running found waits raised
    cases settles with
    | nothing => exact requeued.emit _
    | incident linked settles closed => exact ((requeued.emit _).putIncident closed).emit _
  | abandon stored owned => exact parks

namespace Engine

variable {engine next first last : Engine MemoryStore} {program : Program} {scope : Scope}
  {work : UnitOfWork} {entries : List HistoryEntry}

/-! ## Stored incidents hold their fibers -/

/-- As long as an instance of the program runs, its open incidents that are about no job hold their
fibers. -/
def Parks (engine : Engine MemoryStore) (program : Program) : Prop :=
  ∀ id incident state, engine.store.incidents.get? id = some incident ->
    engine.store.states.get? incident.owner = some state ->
      state.record.program = program.hash -> state.record.isRunning = true ->
        incident.isOpen = true -> incident.jobKey = none -> incident.Holds state.fiber?

/-- So it is when work on a stored instance begins. -/
theorem Parks.beginning (parks : engine.Parks program) (sound : engine.Sound) {id : InstanceId}
    {state : InstanceState} (stored : engine.store.states.get? id = some state)
    (own : state.record.program = program.hash) :
    (UnitOfWork.begin state engine.now engine.supply).Parks engine.store.incidents := by
  intro running key incident present owned pending alone
  refine parks key incident state present ?_ own running pending alone
  rw [owned]
  exact (congrArg _ (sound _ _ stored).keyed).trans stored

/-- No incident belongs to an instance that is new. -/
theorem Secure.parks_start (secure : engine.Secure program) {hash : ProgramHash} {payload : Json}
    {correlation : String} (absent : engine.store.states.get? ⟨engine.supply.next⟩ = none) :
    (UnitOfWork.create (.create ⟨engine.supply.next⟩ hash payload correlation engine.now)
      engine.now ⟨engine.supply.next + 1⟩).start.2.Parks engine.store.incidents := by
  intro running key incident present owned
  obtain ⟨state, stored, -⟩ := secure.excused present
  rw [owned] at stored
  cases absent.symm.trans stored

/-- Fibers that are parked when work is stored are parked afterwards. -/
theorem Parks.apply (parks : engine.Parks program) (storable : engine.Storable work)
    (reached : work.Anchored engine.store)
    (attributed : work.Attributed engine.store.incidents engine.supply.next)
    (mine : work.record.program = program.hash -> work.Parks engine.store.incidents)
    (store : next.store = engine.store.apply work.finish.1) : next.Parks program := by
  intro id incident state found stored own running pending alone
  have found : (work.incidentsOver engine.store.incidents).get? id = some incident := by
    rw [store] at found
    exact found
  rw [store, storable.states_apply] at stored
  split at stored
  · rename_i owned
    cases stored
    exact mine own running id incident found owned pending alone
  · rename_i foreign
    rcases attributed.opens (reached.recalls _ _ found).1 found pending with before | ⟨owned, -⟩
    · exact parks id incident state before stored own running pending alone
    · exact absurd owned foreign

/-- Every atomic step leaves parked fibers parked. -/
theorem Advance.parks (advance : Advance scope engine next) (checked : program.Checked)
    (shielded : program.Shielded) (sheltered : engine.Sheltered program)
    (parks : engine.Parks program) : next.Parks program := by
  have ⟨orderly, catalogues, anchored, sole, secure, _⟩ := sheltered
  cases advance.act orderly.sound with
  | nothing untouched =>
    rw [Parks, untouched.states, untouched.incidents]
    exact parks
  | create known absent ran store supply took =>
    refine parks.apply (storable_create absent ran)
      (anchored.created catalogues known absent ran)
      (ran.attributed (shapely_start _) ⟨Nat.le_add_right _ 2, nofun⟩) (fun own => ?_) store
    obtain rfl := sole _ known (ran.confined.program.symm.trans own)
    obtain ⟨steps, rfl⟩ := took
    exact (sheltered.start checked absent).parks checked shielded (secure.parks_start absent)
      steps 0
  | slice known stored own admitted intervened ran store supply took =>
    have begun := orderly.sound _ _ stored
    refine parks.apply (storable_slice orderly.sound stored intervened ran).1
      (anchored.sliced orderly catalogues known stored own intervened ran)
      (ran.attributed (intervened.shapely (shapely_begin begun))
        (intervened.attributed begun.keyed)) (fun mine => ?_) store
    have same := (intervened.continues.trans ran.confined.toContinues).program
    obtain rfl := sole _ known ((own.symm.trans same.symm).trans mine)
    obtain ⟨steps, rfl⟩ := took
    have anchors := anchored.beginning orderly.sound stored
    have begins := sheltered.beginning stored own
    exact (intervened.sheltered checked orderly.filed begun.keyed anchors begins).1.parks checked
      shielded (intervened.parks begun.keyed anchors begins (parks.beginning orderly.sound stored
        own)) steps 0

/-- Whatever an engine was asked, its instances of a program look after watchdogs, and their open
incidents that are about no job hold their fibers. -/
theorem Advances.parks (advances : Advances (.identifying program) first last)
    (checked : program.Checked) (shielded : program.Shielded)
    (sheltered : first.Sheltered program) (parks : first.Parks program) :
    last.Sheltered program ∧ last.Parks program := by
  have step : ∀ engine next, Advance (.identifying program) engine next ->
      engine.Sheltered program ∧ engine.Parks program ->
        next.Sheltered program ∧ next.Parks program := by
    rintro engine next advance ⟨sheltered, parks⟩
    exact ⟨advance.sheltered checked shielded (fun _ unique => unique) sheltered,
      advance.parks checked shielded sheltered parks⟩
  exact advances.preserves step ⟨sheltered, parks⟩

theorem Fresh.parks (fresh : first.Fresh) (program : Program) : first.Parks program := by
  intro id incident state found
  rw [fresh.store] at found
  cases found

/-- A history brings no other program of the hash if it identifies the program. -/
theorem History.advances (history : History first entries last)
    (identified : Identified entries program) : Advances (.identifying program) first last := by
  induction history with
  | refl => exact .refl
  | step prior operation ih =>
    have head := identified _ (List.mem_append_right _ (List.mem_singleton.2 rfl))
    exact (ih (fun entry listed => identified entry (List.mem_append_left _ listed))).trans
      ((operation.advances _).widen (fun _ _ => trivial) head)

/-! ## Incidents that are closed -/

/-- An incident is stored, and it is closed. -/
def Closed (engine : Engine MemoryStore) (id : IncidentId) : Prop :=
  ∃ incident, engine.store.incidents.get? id = some incident ∧ incident.isOpen = false

/-- An incident that is closed when work is stored is closed afterwards. -/
theorem Closed.apply {id : IncidentId} (closed : engine.Closed id) (anchored : engine.Anchored)
    (reached : work.Anchored engine.store)
    (attributed : work.Attributed engine.store.incidents engine.supply.next)
    (store : next.store = engine.store.apply work.finish.1) : next.Closed id := by
  obtain ⟨incident, stored, settled⟩ := closed
  obtain ⟨later, found, -⟩ := reached.recalled _ _ stored
  refine ⟨later, by rw [store]; exact found, ?_⟩
  by_contra pending
  rcases attributed.opens (reached.recalls _ _ found).1 found (Bool.not_eq_false _ ▸ pending)
    with before | ⟨-, drawn⟩
  · cases stored.symm.trans before
    exact pending settled
  · exact Nat.not_lt_of_le drawn (anchored.keyed _ _ stored).2

/-- An incident that is closed stays closed. -/
theorem Advance.closed (advance : Advance scope engine next) (orderly : engine.Orderly)
    (catalogues : engine.Catalogues) (anchored : engine.Anchored) {id : IncidentId}
    (closed : engine.Closed id) : next.Closed id := by
  cases advance.act orderly.sound with
  | nothing untouched =>
    rw [Closed, untouched.incidents]
    exact closed
  | create known absent ran store supply took =>
    exact closed.apply anchored (anchored.created catalogues known absent ran)
      (ran.attributed (shapely_start _) ⟨Nat.le_add_right _ 2, nofun⟩) store
  | slice known stored own admitted intervened ran store supply took =>
    have begun := orderly.sound _ _ stored
    exact closed.apply anchored (anchored.sliced orderly catalogues known stored own intervened ran)
      (ran.attributed (intervened.shapely (shapely_begin begun))
        (intervened.attributed begun.keyed)) store

theorem History.closed (history : History first entries last)
    (orderly : first.Orderly) (catalogues : first.Catalogues) (anchored : first.Anchored)
    {id : IncidentId} (closed : first.Closed id) : last.Closed id := by
  have step : ∀ scope engine next, Advance scope engine next ->
      ((engine.Orderly ∧ engine.Catalogues) ∧ engine.Anchored) ∧ engine.Closed id ->
        ((next.Orderly ∧ next.Catalogues) ∧ next.Anchored) ∧ next.Closed id := by
    rintro scope engine next advance ⟨⟨⟨orderly, catalogues⟩, anchored⟩, closed⟩
    exact ⟨⟨⟨advance.orderly orderly, advance.catalogues catalogues⟩,
      advance.anchored orderly catalogues anchored⟩,
      advance.closed orderly catalogues anchored closed⟩
  exact (history.preserves step ⟨⟨⟨orderly, catalogues⟩, anchored⟩, closed⟩).2

end Engine

end ProcessEngine
