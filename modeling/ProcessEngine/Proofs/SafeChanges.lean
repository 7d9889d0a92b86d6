import ProcessEngine.Proofs.Anchors
import ProcessEngine.Proofs.SafeTurns

/-!
# Changes without faults

Signals, results of jobs and operators let a fiber go on only where a checked program accepts it:
behind the instruction where it waits, at the target of an arm or of an error route, at a boundary,
or at the beginning of the node where it was halted. So every change that an engine makes of work
that is safe leads to work that is safe (`Intervened.safe`). The incidents that it notes are new ones
of the instance, or stored ones that it closes (`Intervened.attributed`).
-/

namespace ProcessEngine

open UnitOfWork

namespace UnitOfWork

variable {work next : UnitOfWork} {program : Program} {table : OrderedMap IncidentId Incident}
  {fiber : Fiber} {id : FiberId}

/-- An incident that is settled excuses as before. -/
theorem Safe.putIncident (safe : work.Safe program table) {key : IncidentId}
    {incident resolved : Incident}
    (found : (work.incidentsOver table).get? key = some incident)
    (settles : incident.Settles resolved) : (work.putIncident resolved).Safe program table := by
  obtain ⟨recalls, recalled⟩ := safe.recalls.putIncident found settles
  refine ⟨recalls, safe.counted, fun listed => (safe.fibers listed).recalled recalled,
    fun {asked other} found' owned => ?_⟩
  rw [get?_incidentsOver_putIncident] at found'
  split at found'
  · cases found'
    obtain ⟨status, rfl⟩ := settles
    exact (safe.excused found owned).settles ⟨status, rfl⟩
  · exact safe.excused found' owned

theorem Safe.accept (safe : work.Safe program table) (flags : Flags) (payload : Option Json) :
    (work.updateRecord (fun record => record.accept flags payload)).Safe program table :=
  safe.of_same (steady_accept work flags payload).supply (steady_accept work flags payload).id
    (by cases payload <;> rfl) (by cases payload <;> rfl) rfl safe.fibers

theorem Safe.updateJob (safe : work.Safe program table) (job : Job) :
    (work.updateJob job).Safe program table :=
  safe.of_same (Nat.le_refl _) rfl rfl rfl rfl safe.fibers

theorem Safe.removeDeadLetter (safe : work.Safe program table) (place : DeadLetterKey) :
    (work.removeDeadLetter place).Safe program table :=
  safe.of_same (Nat.le_refl _) rfl rfl rfl rfl safe.fibers

/-! ## Signals -/

theorem Safe.interrupt (safe : work.Safe program table) (host : FiberId) :
    (work.interrupt host).2.Safe program table := by
  rw [UnitOfWork.interrupt]
  split
  · exact safe
  · rename_i fiber _
    exact (safe.cancelAwaitedJob fiber).endFiber host

/-- A watchdog goes on at its boundary as a fiber like any other. -/
theorem Safe.release (safe : work.Safe program table) {target : Address}
    (accepts : program.Accepts target)
    (empty : ∀ fiber, work.fiber? id = some fiber -> fiber.Carries []) (tickets : List JoinTicket) :
    ((work.updateFiber id (fun fiber => { fiber with watch := none, tickets := tickets })).wake id
      target).Safe program table := by
  cases found : work.fiber? id with
  | none =>
    rw [UnitOfWork.updateFiber, found]
    dsimp only
    rw [UnitOfWork.wake, found]
    exact safe
  | some guard =>
    have carries := empty guard found
    let freed : Fiber := { guard with watch := none, tickets := tickets }
    have suits : program.Suits (work.incidentsOver table) (freed.wake target) :=
      Program.suits_of_accepts rfl ⟨carries.stack, carries.registers⟩ accepts
    -- The watchdog that has forgotten its host but still waits would suit nothing.
    have same : ((work.updateFiber id (fun fiber => { fiber with
        watch := none, tickets := tickets })).wake id target) =
        ((work.putFiber id freed).putFiber id (freed.wake target)).emit
          (.fiberResumed id (freed.wake target).epoch) := by
      rw [UnitOfWork.updateFiber, found]
      dsimp only
      rw [UnitOfWork.wake, fiber?_putFiber, if_pos rfl]
    rw [same]
    have awake : ((work.putFiber id freed).putFiber id (freed.wake target)).Safe program table := by
      refine safe.of_same (Nat.le_refl _) rfl rfl rfl rfl (fun {asked other} listed => ?_)
      rw [fiber?_putFiber] at listed
      split at listed
      · cases listed
        exact suits
      · rename_i different
        rw [fiber?_putFiber, if_neg different] at listed
        exact safe.fibers listed
    exact awake.emit _

/-- A watchdog whose timer is due goes on at its boundary. -/
theorem Safe.fire (safe : work.Safe program table) {watch : Watch}
    (found : work.fiber? id = some fiber) {due : Instant} (waits : fiber.wait = .timer due)
    (watches : fiber.watch = some watch) : (work.fire id watch).Safe program table := by
  have suits := safe.fibers found
  rw [Program.Suits, waits] at suits
  cases suits with
  | timer carries accepts =>
    rw [watches] at accepts
    rw [UnitOfWork.fire]
    dsimp only
    split
    · refine Safe.release ((safe.emit _).interrupt watch.host) accepts (fun other found' => ?_) _
      rw [fiber?_interrupt] at found'
      split at found'
      · cases found'
      · cases found.symm.trans found'
        exact carries
    · have forgot : ((work.emit (.boundaryFired watch.boundary watch.interrupting)).updateFiber
          watch.host (fun host => { host with watchdog := none })).Safe program table :=
        (safe.emit _).relate (fun _ => rfl) (fun _ => rfl) (fun _ => rfl) (fun _ => rfl)
          (fun _ => rfl)
      refine forgot.release accepts (fun other found' => ?_) _
      rw [fiber?_updateFiber] at found'
      have found : (work.emit (.boundaryFired watch.boundary watch.interrupting)).fiber? id =
        some fiber := found
      rw [found] at found'
      split at found'
      · cases found'
        exact ⟨carries.stack, carries.registers⟩
      · cases found'
        exact carries

/-- A fiber that is answered goes on where the program accepts it. -/
theorem Safe.resume (safe : work.Safe program table) (found : work.fiber? id = some fiber)
    {how : Resumption} (answered : fiber.Answered how) :
    (work.resume id how).Safe program table := by
  have suits := safe.fibers found
  have empty (waits : fiber.wait ≠ .ready) : ∀ other, work.fiber? id = some other ->
      other.Carries [] := by
    intro other found'
    cases found.symm.trans found'
    exact suits.empty waits
  cases answered with
  | fire waits watches => exact safe.fire found waits watches
  | timer waits free =>
    rw [Program.Suits, waits] at suits
    cases suits with
    | timer carries accepts =>
      rw [free] at accepts
      exact safe.wake accepts (empty (by simp [waits]))
  | message waits =>
    rw [Program.Suits, waits] at suits
    cases suits with
    | message carries accepts => exact safe.wake accepts (empty (by simp [waits]))
  | human waits =>
    rw [Program.Suits, waits] at suits
    cases suits with
    | human carries accepts => exact safe.wake accepts (empty (by simp [waits]))
  | race waits leads =>
    rename_i node arms winner losers
    rw [Program.Suits, waits] at suits
    cases suits with
    | race carries accepts =>
      have logged : ∀ (targets : List Address) (start : UnitOfWork), start.Safe program table ->
          (∀ other, start.fiber? id = some other -> other.Carries []) ->
          ((targets.foldl (fun (work : UnitOfWork) target =>
            work.emit (.raceArmCancelled node target)) start).wake id winner).Safe program
              table := by
        intro targets
        induction targets with
        | nil => exact fun start safe empty => safe.wake (accepts winner leads) empty
        | cons target rest ih => exact fun start safe empty => ih _ (safe.emit _) empty
      exact logged losers _ (safe.emit _) (empty (by simp [waits]))

theorem Safe.deliver (safe : work.Safe program table) (signal : WakeSignal) :
    (work.deliver signal).2.Safe program table := by
  cases answered : work.resumption signal with
  | error reason =>
    rw [UnitOfWork.deliver, answered]
    exact safe.emit _
  | ok how =>
    obtain ⟨-, fiber, found, -, answers⟩ := resumption_ok answered
    rw [UnitOfWork.deliver, answered]
    exact (safe.accept signal.flags signal.payload).resume found answers

/-! ## Operators -/

/-- A fiber that an operator lets begin again does so where the program accepts it. -/
theorem Safe.restart (safe : work.Safe program table) {key : IncidentId}
    {incident resolved : Incident} (found : (work.incidentsOver table).get? key = some incident)
    (settles : incident.Settles resolved) (alone : resolved.jobKey = none) :
    (work.restart program resolved).2.Safe program table := by
  obtain ⟨status, rfl⟩ := settles
  obtain ⟨named, -⟩ := safe.recalls _ _ found
  rw [UnitOfWork.restart]
  split
  · exact safe
  · rename_i fiber present
    split
    · rename_i waits
      have suits := safe.fibers present
      rw [Program.Suits, waits] at suits
      cases suits with
      | incident carries found' excused next =>
        have same : incident.id = key := named
        cases (same ▸ found').symm.trans found
        refine safe.wake (excused.alone alone).2 (fun other present' => ?_)
        cases present.symm.trans present'
        exact carries
    · exact safe

end UnitOfWork

/-! ## Results of jobs -/

section

variable {work changed : UnitOfWork} {program : Program} {table : OrderedMap IncidentId Incident}
  {job : Job} {fiber : Fiber}

/-- A fiber that waits for a job goes on at the next instruction. -/
theorem UnitOfWork.Wanted.continues (wanted : work.Wanted job fiber)
    (safe : work.Safe program table) : fiber.Carries [] ∧ program.Accepts (fiber.pc + 1) := by
  have suits := safe.fibers wanted.found
  rw [Program.Suits, wanted.waits] at suits
  cases suits with
  | job carries next => exact ⟨carries, next⟩

theorem Job.safe_finished (safe : work.Safe program table) (job : Job) (event : RuntimeEvent) :
    (job.finished event work).Safe program table := (safe.updateJob _).emit _

theorem Job.safe_applied (safe : work.Safe program table) (wanted : work.Wanted job fiber)
    (completion : JobCompletion) : (job.applied completion fiber.pc work).Safe program table := by
  obtain ⟨carries, accepts⟩ := wanted.continues safe
  have recorded : (work.recordCompletion ⟨job.key, completion, true, work.time⟩).Safe program
      table := safe.of_same (Nat.le_refl _) rfl rfl rfl rfl safe.fibers
  refine ((Job.safe_finished recorded job _).accept completion.flags completion.payload).wake
    accepts (fun other found => ?_)
  cases wanted.found.symm.trans found
  exact carries

theorem Job.safe_shelved (safe : work.Safe program table) (letter : DeadLetter) :
    (Job.shelved letter work).Safe program table :=
  safe.of_same (Nat.le_refl _) rfl rfl rfl rfl safe.fibers

/-- An error route leads to a target of the dispatch. -/
theorem mem_targets_of_errorRoute {code : String} {target : Address}
    (leads : errorRoute? program fiber code = some target) :
    ∃ instruction, program.instruction? fiber.pc = some instruction ∧
      target ∈ instruction.targets := by
  rw [errorRoute?] at leads
  split at leads
  · rename_i routes reached
    obtain ⟨route, among, rfl⟩ := Option.map_eq_some_iff.1 leads
    exact ⟨_, reached, List.mem_map_of_mem (List.mem_of_find?_eq_some among)⟩
  · cases leads

theorem Job.Failed.safe {outcome : FailureOutcome}
    (failed : job.Failed program work fiber outcome changed) (checked : program.Checked)
    (owned : job.owner = work.record.id) (wanted : work.Wanted job fiber)
    (safe : work.Safe program table) : changed.Safe program table := by
  obtain ⟨carries, accepts⟩ := wanted.continues safe
  have empty : ∀ other, work.fiber? job.fiber = some other -> other.Carries [] := by
    intro other found
    cases wanted.found.symm.trans found
    exact carries
  cases failed with
  | retry notBefore problem => exact (safe.updateJob _).emit _
  | bury kind problem expires cause =>
    let incident : Incident :=
      { Incident.raise ⟨work.supply.next⟩ job.owner job.fiber fiber.pc kind problem work.time with
        node := some job.node
        jobKey := some job.key
        attempts := job.attempt }
    have excused : program.Excuses incident :=
      ⟨cause.1, nofun, fun unrouted => absurd unrouted cause.2⟩
    have stopped : ({ work with supply := ⟨work.supply.next + 1⟩ }.halt incident).Safe program
      table := safe.halt (.refl work job.fiber) owned rfl excused empty (fun _ => accepts)
    exact Job.safe_shelved stopped _
  | route problem leads =>
    rename_i code target
    obtain ⟨instruction, reached, listed⟩ := mem_targets_of_errorRoute leads
    have finished := Job.safe_finished safe { job with lastError := some problem }
      (.jobErrorRouted job.key code)
    refine (finished.dropWatchdog fiber).wake
      (checked.targets (List.mem_of_getElem? reached) _ listed) (fun other found => ?_)
    rw [fiber?_dropWatchdog] at found
    split at found
    · cases found
    · obtain ⟨former, before, rfl⟩ := Option.map_eq_some_iff.1 found
      have carries := empty former before
      split
      · exact ⟨carries.stack, carries.registers⟩
      · exact carries

/-- A job is put back at a fiber that goes on at the next instruction. -/
theorem DeadLetter.safe_requeued {letter : DeadLetter} (safe : work.Safe program table)
    (found : work.fiber? letter.job.fiber = some fiber) {incident : IncidentId}
    (waits : fiber.wait = .incident incident)
    (raised : RaisedFor (work.incidentsOver table) incident letter.key) :
    (letter.requeued fiber.pc work).Safe program table := by
  have parked : (work.park letter.job.fiber fiber.pc (.job letter.key)).Safe program table := by
    refine safe.park (fun other found' => ?_)
    cases found.symm.trans found'
    have suits := safe.fibers found
    rw [Program.Suits, waits] at suits
    cases suits with
    | incident carries present excused next =>
      obtain ⟨_, present', about⟩ := raised
      cases present.symm.trans present'
      exact .job ⟨carries.stack, carries.registers⟩ (next (by simp [about]))
  exact (parked.updateJob _).removeDeadLetter _

/-! ## All changes -/

/-- Every change keeps work safe. -/
theorem Intervened.safe {store : MemoryStore} {id : InstanceId} {state : InstanceState}
    {now : Instant} {supply : IdSupply} {purpose : Purpose}
    (intervened : Intervened store id program (.begin state now supply) purpose changed)
    (checked : program.Checked) (same : state.record.id = id)
    (anchored : (UnitOfWork.begin state now supply).Anchored store)
    (safe : (UnitOfWork.begin state now supply).Safe program store.incidents) :
    changed.Safe program store.incidents := by
  cases intervened with
  | run => exact safe
  | cancel running closes => exact safe.close closes
  | complete stored owned first wanted completion => exact Job.safe_applied safe wanted completion
  | record stored owned first unwanted completion =>
    exact safe.of_same (Nat.le_refl _) rfl rfl rfl rfl safe.fibers
  | fail stored owned wanted failed =>
    exact failed.safe checked (owned.trans same.symm) wanted safe
  | dismiss => exact safe
  | deliver running signal => exact safe.deliver signal
  | discard => exact safe
  | restart stored settles running alone owned closed =>
    rename_i key incident resolved
    have restarted : (((UnitOfWork.begin state now supply).emit
        (.incidentResolved incident.id)).restart program resolved).2.incidents =
          (UnitOfWork.begin state now supply).incidents := incidents_restart _ _ _
    have kept : ((((UnitOfWork.begin state now supply).emit
        (.incidentResolved incident.id)).restart program resolved).2.incidentsOver
          store.incidents).get? key = some incident := by
      rw [incidentsOver_of_same restarted]
      exact stored
    exact ((safe.emit _).restart stored settles alone).putIncident kept settles
  | settle stored settles owned closed => exact (safe.emit _).putIncident stored settles
  | requeue stored owned running found waits settles =>
    rename_i place letter fiber incident settled
    obtain ⟨⟨id', halted, raised⟩, -⟩ := anchored.held stored (owned.trans same.symm) found
    cases waits.symm.trans halted
    have requeued := letter.safe_requeued safe found waits raised
    cases settles with
    | nothing => exact requeued.emit _
    | incident linked settles closed =>
      rename_i former resolved
      obtain ⟨key, -, present⟩ := Option.bind_eq_some_iff.1 linked
      have kept : (((letter.requeued fiber.pc (.begin state now supply)).emit
          (.incidentResolved former.id)).incidentsOver store.incidents).get? key = some former := by
        rw [incidentsOver_of_same (letter.incidents_requeued fiber.pc _)]
        exact present
      exact ((requeued.emit _).putIncident kept settles).emit _
  | abandon stored owned => exact ((safe.updateJob _).removeDeadLetter _).emit _

end

/-! ## Whose incidents are noted -/

namespace UnitOfWork

/-- Every incident that is noted belongs to the instance and is new, or is one that was stored
before and is closed now. Identifiers below a number were drawn before. -/
structure Attributed (work : UnitOfWork) (table : OrderedMap IncidentId Incident) (drawn : Nat) :
    Prop where
  supply : drawn ≤ work.supply.next
  noted : ∀ incident ∈ work.incidents,
    incident.owner = work.record.id ∧ drawn ≤ incident.id.number ∨ incident.isOpen = false ∧
      ∃ key former, table.get? key = some former ∧ former.Settles incident

variable {work next : UnitOfWork} {table : OrderedMap IncidentId Incident} {own : FiberId}
  {program : Program} {drawn : Nat}

theorem Attributed.spared (attributed : work.Attributed table drawn)
    (spares : work.Spares own next) : next.Attributed table drawn := by
  obtain ⟨raised, appended, fresh⟩ := spares.raised
  refine ⟨Nat.le_trans attributed.supply spares.supply, fun incident listed => ?_⟩
  rw [spares.owner]
  rw [appended] at listed
  rcases List.mem_append.1 listed with before | new
  · exact attributed.noted incident before
  · obtain ⟨owned, late, -⟩ := fresh incident new
    exact .inl ⟨owned, Nat.le_trans attributed.supply late⟩

theorem Attributed.of_same (attributed : work.Attributed table drawn)
    (continues : work.Continues next) (incidents : next.incidents = work.incidents) :
    next.Attributed table drawn := by
  refine ⟨Nat.le_trans attributed.supply continues.supply, fun incident listed => ?_⟩
  rw [continues.id]
  exact attributed.noted incident (incidents ▸ listed)

theorem Attributed.emit (attributed : work.Attributed table drawn) (event : RuntimeEvent) :
    (work.emit event).Attributed table drawn := attributed.of_same (continues_emit work event) rfl

theorem Attributed.restart (attributed : work.Attributed table drawn) (program : Program)
    (incident : Incident) : (work.restart program incident).2.Attributed table drawn :=
  attributed.of_same (steady_restart work program incident).toContinues (incidents_restart _ _ _)

theorem Attributed.putIncident (attributed : work.Attributed table drawn) {key : IncidentId}
    {incident resolved : Incident} (found : table.get? key = some incident)
    (settles : incident.Settles resolved) (closed : resolved.isOpen = false) :
    (work.putIncident resolved).Attributed table drawn := by
  refine ⟨attributed.supply, fun other listed => ?_⟩
  rcases List.mem_append.1 listed with before | new
  · exact attributed.noted other before
  · cases List.mem_singleton.1 new
    exact .inr ⟨closed, key, incident, found, settles⟩

theorem Ran.attributed (ran : Ran program work next) (shapely : work.Shapely)
    (attributed : work.Attributed table drawn) : next.Attributed table drawn := by
  induction ran with
  | refl => exact attributed
  | step prior running found ready turned ih =>
    exact ih.spared (turned.spares (prior.shapely shapely))

/-- An incident that will be stored is one that is noted, or was stored before. -/
theorem incidentsOver_cases {asked : IncidentId} {incident : Incident}
    (found : (work.incidentsOver table).get? asked = some incident) :
    incident ∈ work.incidents ∨ table.get? asked = some incident := by
  rcases OrderedMap.get?_foldl_insert_cases Incident.id (fun incident => incident) work.incidents
    table asked with ⟨other, listed, -, found'⟩ | ⟨-, same⟩
  · cases found.symm.trans found'
    exact .inl listed
  · exact .inr (same.symm.trans found)

/-- An incident that is open was stored before, or it belongs to the instance and is new. -/
theorem Attributed.opens (attributed : work.Attributed table drawn) {asked : IncidentId}
    {incident : Incident} (named : incident.id = asked)
    (found : (work.incidentsOver table).get? asked = some incident)
    (pending : incident.isOpen = true) :
    table.get? asked = some incident ∨
      incident.owner = work.record.id ∧ drawn ≤ asked.number := by
  rcases incidentsOver_cases found with noted | kept
  · rcases attributed.noted incident noted with new | ⟨closed, -⟩
    · exact .inr (named ▸ new)
    · cases closed.symm.trans pending
  · exact .inl kept

end UnitOfWork

theorem Job.Failed.attributed {work changed : UnitOfWork} {table : OrderedMap IncidentId Incident}
    {drawn : Nat} {job : Job} {fiber : Fiber} {program : Program} {outcome : FailureOutcome}
    (failed : job.Failed program work fiber outcome changed) (owned : job.owner = work.record.id)
    (attributed : work.Attributed table drawn) : changed.Attributed table drawn := by
  cases failed with
  | retry notBefore problem =>
    exact attributed.of_same ((continues_updateJob work _).trans (continues_emit _ _)) rfl
  | bury kind problem expires cause =>
    have stopped := attributed.spared (job.spares_stopped owned kind problem fiber.pc)
    exact stopped.of_same (Job.continues_shelved _ _) rfl
  | route problem leads => exact attributed.spared (job.spares_routed problem _ _ _)

theorem DeadLetter.attributed_requeued {work : UnitOfWork}
    {table : OrderedMap IncidentId Incident} {drawn : Nat} (letter : DeadLetter)
    (attributed : work.Attributed table drawn) (pc : Address) (event : RuntimeEvent) :
    ((letter.requeued pc work).emit event).Attributed table drawn :=
  attributed.of_same ((letter.continues_requeued pc).trans (continues_emit _ _))
    (letter.incidents_requeued pc event)

/-- A change notes only new incidents of the instance, and stored ones that it closes. -/
theorem Intervened.attributed {store : MemoryStore} {id : InstanceId} {state : InstanceState}
    {now : Instant} {supply : IdSupply} {purpose : Purpose} {program : Program}
    {changed : UnitOfWork}
    (intervened : Intervened store id program (.begin state now supply) purpose changed)
    (same : state.record.id = id) :
    changed.Attributed store.incidents supply.next := by
  have begun : (UnitOfWork.begin state now supply).Attributed store.incidents supply.next :=
    ⟨Nat.le_refl _, nofun⟩
  have continues := intervened.continues
  cases intervened with
  | run => exact begun
  | cancel running closes => exact begun.of_same continues (incidents_close closes)
  | complete stored owned first wanted completion =>
    exact begun.spared (Job.spares_applied _ completion _)
  | record stored owned first unwanted completion => exact begun.of_same continues rfl
  | fail stored owned wanted failed => exact failed.attributed (owned.trans same.symm) begun
  | dismiss => exact begun
  | deliver running signal => exact begun.spared (spares_deliver _ signal)
  | discard => exact begun
  | restart stored settles running alone owned closed =>
    exact ((begun.emit _).restart program _).putIncident stored settles closed
  | settle stored settles owned closed => exact (begun.emit _).putIncident stored settles closed
  | requeue stored owned running found waits settles =>
    rename_i place letter fiber incident settled
    have requeued := letter.attributed_requeued begun fiber.pc
    cases settles with
    | nothing => exact requeued _
    | incident linked settles closed =>
      obtain ⟨key, -, present⟩ := Option.bind_eq_some_iff.1 linked
      exact ((requeued _).putIncident present settles closed).emit _
  | abandon stored owned => exact begun.of_same continues rfl

end ProcessEngine
