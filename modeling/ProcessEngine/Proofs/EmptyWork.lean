import ProcessEngine.Proofs.Commits
import ProcessEngine.Proofs.Interventions

/-!
# Work that stores nothing

An engine stores nothing if its unit of work is empty, and to see that it looks at the lists of
what has changed, not at the state. An operation may change the record of the instance without
putting it on a list: it sets a flag, counts, merges what a signal brings along, expects fibers at
a join or ends the instance. But no such operation stands alone. Each call of the machine and each
change of an engine puts something on a list when it changes the state, and what is on a list stays
on it or leaves something on another (`UnitOfWork.Reveals`). So nothing is lost when an empty unit
of work is not stored (`Engine.skipped_commit_loses_nothing`).
-/

namespace ProcessEngine

/-- A call of the machine. -/
inductive MachineCall where
  | run (maximumSteps : Nat)
  | deliver (signal : WakeSignal)
  | resumeJob (fiber : FiberId) (completion : JobCompletion)
  | routeError (fiber : FiberId) (target : Address)
  | restart (incident : Incident)
  | halt (incident : Incident)
  | cancel (reason : String)

namespace UnitOfWork

/-- The unit of work after a call; a call that fails changes nothing. -/
def call (program : Program) (work : UnitOfWork) : MachineCall -> UnitOfWork
  | .run maximumSteps => ((work.run program maximumSteps).toOption.map Prod.snd).getD work
  | .deliver signal => (work.deliver signal).2
  | .resumeJob fiber completion => (work.resumeJob fiber completion).toOption.getD work
  | .routeError fiber target => (work.routeError fiber target).toOption.getD work
  | .restart incident => (work.restart program incident).2
  | .halt incident => work.halt incident
  | .cancel reason => (work.cancel reason).toOption.getD work

/-- The unit of work after one call after the other. -/
def callAll (program : Program) (work : UnitOfWork) (calls : List MachineCall) : UnitOfWork :=
  calls.foldl (call program) work

/-- The work has noted nothing but fibers and joins that may have changed. -/
structure Silent (work : UnitOfWork) : Prop where
  jobs : work.jobs = []
  cancelledJobs : work.cancelledJobs = []
  completions : work.completions = []
  incidents : work.incidents = []
  deadLetters : work.deadLetters = []
  removedDeadLetters : work.removedDeadLetters = []
  events : work.events = []

/-- If there is nothing to store later, there was nothing to store before either, and the state has
not changed in between. -/
def Reveals (work next : UnitOfWork) : Prop :=
  next.isEmpty = true -> work.isEmpty = true ∧ next.state = work.state

/-- If there is something to store, there still is later. -/
def StaysFilled (work next : UnitOfWork) : Prop := work.isEmpty = false -> next.isEmpty = false

variable {work first middle last next : UnitOfWork} {program : Program} {id : FiberId}
variable {fiber : Fiber}

theorem Reveals.refl (work : UnitOfWork) : work.Reveals work := fun empty => ⟨empty, rfl⟩

theorem Reveals.trans (earlier : first.Reveals middle) (later : middle.Reveals last) :
    first.Reveals last := by
  intro empty
  obtain ⟨before, same⟩ := later empty
  obtain ⟨begun, same'⟩ := earlier before
  exact ⟨begun, same.trans same'⟩

theorem Reveals.staysFilled (reveals : work.Reveals next) : work.StaysFilled next := by
  intro filled
  rw [← Bool.not_eq_true] at filled ⊢
  exact fun empty => filled (reveals empty).1

/-- What has put something on a list reveals whatever it did. -/
theorem Reveals.of_filled (filled : next.isEmpty = false) : work.Reveals next := by
  intro empty
  rw [filled] at empty
  cases empty

theorem StaysFilled.refl (work : UnitOfWork) : work.StaysFilled work := id

theorem StaysFilled.trans (earlier : first.StaysFilled middle) (later : middle.StaysFilled last) :
    first.StaysFilled last := fun filled => later (earlier filled)

theorem silent_of_isEmpty (empty : work.isEmpty = true) : work.Silent := by
  simp only [isEmpty, Bool.and_eq_true, List.isEmpty_iff] at empty
  obtain ⟨⟨⟨⟨⟨⟨⟨-, jobs⟩, cancelled⟩, completions⟩, incidents⟩, letters⟩, removed⟩, events⟩ := empty
  exact ⟨jobs, cancelled, completions, incidents, letters, removed, events⟩

/-! ## What puts something on a list -/

@[simp] theorem isEmpty_emit (work : UnitOfWork) (event : RuntimeEvent) :
    (work.emit event).isEmpty = false := by
  simp [isEmpty, emit]

/-- A change of the record alone is on no list. -/
@[simp] theorem isEmpty_updateRecord (work : UnitOfWork)
    (change : ProcessInstance -> ProcessInstance) :
    (work.updateRecord change).isEmpty = work.isEmpty := rfl

@[simp] theorem isEmpty_putFiber (work : UnitOfWork) (id : FiberId) (fiber : Fiber) :
    (work.putFiber id fiber).isEmpty = false := by
  have noted : work.touched.insert id ≠ [] := List.ne_nil_of_mem List.mem_insert_self
  simp [isEmpty, putFiber, noted]

@[simp] theorem isEmpty_putIncident (work : UnitOfWork) (incident : Incident) :
    (work.putIncident incident).isEmpty = false := by
  simp [isEmpty, putIncident]

@[simp] theorem isEmpty_halt (work : UnitOfWork) (incident : Incident) :
    (work.halt incident).isEmpty = false := isEmpty_putIncident _ _

@[simp] theorem isEmpty_raise (work : UnitOfWork) (symbols : SymbolTable) (fiber : FiberId)
    (address : Address) (kind : FaultClass) (message : String) :
    (work.raise symbols fiber address kind message).isEmpty = false := isEmpty_putIncident _ _

@[simp] theorem isEmpty_park (work : UnitOfWork) (id : FiberId) (pc : Address) (wait : Wait) :
    (work.park id pc wait).isEmpty = false := isEmpty_emit _ _

/-- An arrival notes its join, also if its ticket is stale. -/
theorem isEmpty_arrive {ticket : JoinTicket} {arrival : Arrival}
    (arrives : work.arrive ticket = .ok (arrival, next)) : next.isEmpty = false := by
  rw [arrive] at arrives
  cases counted : work.state.arrive ticket with
  | error error =>
    rw [counted] at arrives
    cases arrives
  | ok result =>
    rw [counted] at arrives
    cases arrives
    have noted : work.joins.insert ticket.join ≠ [] := List.ne_nil_of_mem List.mem_insert_self
    simp [isEmpty, noted]

/-- A fiber that goes on leaves its event. -/
theorem isEmpty_wake (found : work.fiber? id = some fiber) (pc : Address) :
    (work.wake id pc).isEmpty = false := by
  rw [wake, found]
  exact isEmpty_emit _ _

/-- An instance that is closed leaves its event. -/
theorem isEmpty_close {status : InstanceStatus} {event : RuntimeEvent}
    (closes : work.close status event = .ok next) : next.isEmpty = false := by
  obtain ⟨-, rfl⟩ := close_cases closes
  exact isEmpty_emit _ _

/-! ## Operations reveal what they do -/

theorem reveals_updateFiber (work : UnitOfWork) (id : FiberId) (change : Fiber -> Fiber) :
    work.Reveals (work.updateFiber id change) := by
  rw [updateFiber]
  split
  · exact .of_filled (isEmpty_putFiber _ _ _)
  · exact .refl work

theorem reveals_endFiber (work : UnitOfWork) (id : FiberId) : work.Reveals (work.endFiber id) := by
  rw [endFiber]
  split
  · exact .refl work
  · exact .of_filled (isEmpty_emit _ _)

theorem reveals_wake (work : UnitOfWork) (id : FiberId) (pc : Address) :
    work.Reveals (work.wake id pc) := by
  cases found : work.fiber? id with
  | none =>
    rw [wake, found]
    exact .refl work
  | some fiber => exact .of_filled (isEmpty_wake found pc)

/-- A completion that is applied leaves its event. -/
theorem isEmpty_applied (job : Job) (completion : JobCompletion) (pc : Address)
    (work : UnitOfWork) : (job.applied completion pc work).isEmpty = false := by
  refine (reveals_wake _ job.fiber (pc + 1)).staysFilled ?_
  rw [isEmpty_updateRecord]
  exact isEmpty_emit _ _

theorem reveals_retire (work : UnitOfWork) (id : FiberId) : work.Reveals (work.retire id) :=
  @retire_keeps work work.Reveals (fun _ reveals => reveals.trans (reveals_endFiber _ _))
    (.refl work) id

theorem reveals_completeIfIdle (work : UnitOfWork) : work.Reveals work.completeIfIdle := by
  rw [completeIfIdle]
  split
  · exact .of_filled (isEmpty_emit _ _)
  · exact .refl work

theorem reveals_dropWatchdog (work : UnitOfWork) (fiber : Fiber) :
    work.Reveals (work.dropWatchdog fiber) :=
  @dropWatchdog_keeps work work.Reveals (fun _ reveals => reveals.trans (reveals_endFiber _ _))
    fiber (reveals_updateFiber work _ _)

theorem reveals_branch (parent : Fiber) (ticket : JoinTicket) (work : UnitOfWork)
    (target : Address) : work.Reveals (branch parent ticket work target) :=
  (Reveals.of_filled (isEmpty_emit _ _)).trans (reveals_updateFiber _ _ _)

theorem reveals_fork (work : UnitOfWork) (parent : Fiber) (join : NodeKey)
    (targets : List Address) : work.Reveals (work.fork parent join targets) := by
  have activated : work.Reveals (work.activateJoin join targets.length).2 :=
    .of_filled (isEmpty_emit _ _)
  have branched := related_foldl Reveals.refl Reveals.trans
    (reveals_branch parent ⟨join, (work.activateJoin join targets.length).1⟩) targets
    (work.activateJoin join targets.length).2
  exact (activated.trans branched).trans (reveals_endFiber _ _)

theorem reveals_watchOver (work : UnitOfWork) (host : Fiber) (boundary : NodeKey)
    (duration : Nat) (interrupting : Bool) (target : Address) :
    work.Reveals (work.watchOver host boundary duration interrupting target) :=
  ((Reveals.of_filled (isEmpty_emit _ _)).trans (reveals_updateFiber _ _ _)).trans
    (reveals_updateFiber _ _ _)

/-- A join that loses its expected fibers is noted at the same arrival. -/
theorem reveals_arriveAt {join : NodeKey} (arrives : work.arriveAt fiber join = .ok next) :
    work.Reveals next := by
  cases arrivesAt arrives with
  | stray => exact (reveals_retire work _).trans (reveals_completeIfIdle _)
  | satisfied holds counted =>
    exact (Reveals.of_filled (isEmpty_arrive counted)).trans (reveals_updateFiber _ _ _)
  | waiting holds counted =>
    exact (Reveals.of_filled (isEmpty_arrive counted)).trans (reveals_retire _ _)
  | stale holds counted =>
    exact ((Reveals.of_filled (isEmpty_arrive counted)).trans (reveals_retire _ _)).trans
      (reveals_completeIfIdle _)

theorem reveals_cancelAwaitedJob (work : UnitOfWork) (fiber : Fiber) :
    work.Reveals (work.cancelAwaitedJob fiber) := by
  rw [cancelAwaitedJob]
  split
  · exact .of_filled (by simp [isEmpty, cancelJob])
  · exact .refl work

theorem reveals_interrupt (work : UnitOfWork) (host : FiberId) :
    work.Reveals (work.interrupt host).2 := by
  rw [interrupt]
  split
  · exact .refl work
  · exact (reveals_cancelAwaitedJob work _).trans (reveals_endFiber _ _)

/-- A fiber that goes on leaves something on a list. -/
theorem isEmpty_resume (found : work.fiber? id = some fiber) (how : Resumption) :
    (work.resume id how).isEmpty = false := by
  cases how with
  | goOn pc => exact isEmpty_wake found pc
  | win race winner losers =>
    have cancelled := related_foldl Reveals.refl Reveals.trans (fun (work : UnitOfWork) target =>
      Reveals.of_filled (isEmpty_emit work (.raceArmCancelled race target))) losers
      (work.emit (.raceWon race winner))
    exact (cancelled.trans (reveals_wake _ id winner)).staysFilled (isEmpty_emit _ _)
  | fire watch =>
    rw [resume, fire]
    dsimp only
    refine Reveals.staysFilled ((reveals_updateFiber _ _ _).trans (reveals_wake _ _ _)) ?_
    split
    · exact (reveals_interrupt _ _).staysFilled (isEmpty_emit _ _)
    · exact (reveals_updateFiber _ _ _).staysFilled (isEmpty_emit _ _)

/-- What a signal brings along is merged only if its fiber goes on. -/
theorem isEmpty_deliver (work : UnitOfWork) (signal : WakeSignal) :
    (work.deliver signal).2.isEmpty = false := by
  cases how : work.resumption signal with
  | error reason =>
    rw [deliver, how]
    exact isEmpty_emit _ _
  | ok resumes =>
    obtain ⟨-, fiber, found, -, -⟩ := resumption_ok how
    rw [deliver, how]
    exact @isEmpty_resume (work.updateRecord _) _ _ found resumes

end UnitOfWork

/-! ## Instructions reveal what they do -/

namespace Execution

open UnitOfWork

variable {program : Program} {id : FiberId} {α β : Type}

theorem reveals_look : Moves Reveals (getThe UnitOfWork : Execution UnitOfWork) := Reveals.refl

theorem reveals_liftExcept (result : Except MachineError α) :
    Moves Reveals (liftExcept result : Execution α) := by
  intro work
  rw [outcome_liftExcept]
  exact .refl work

theorem reveals_symbol (reference : SymbolReference) :
    Moves Reveals (symbol program reference) := by
  rw [symbol]
  split
  · exact .pure Reveals.refl _
  · exact .throw Reveals.refl _

theorem reveals_node (index : Nat) : Moves Reveals (node program index) := by
  rw [node]
  split
  · exact .pure Reveals.refl _
  · exact .throw Reveals.refl _

theorem reveals_armWait (fiber : Fiber) (arm : ArmCode Address) :
    Moves Reveals (armWait program fiber arm) := by
  refine .bind @Reveals.trans reveals_look (fun work => ?_)
  cases arm.trigger with
  | timer duration => exact .pure Reveals.refl _
  | message name correlation =>
    refine .bind @Reveals.trans (reveals_symbol _) (fun name => ?_)
    exact .bind @Reveals.trans (reveals_liftExcept _) (fun _ => .pure Reveals.refl _)

theorem reveals_modify {change : UnitOfWork -> UnitOfWork}
    (reveals : ∀ work, Reveals work (change work)) :
    Moves Reveals (modify change : Execution PUnit) := by
  intro work
  rw [outcome_modify]
  exact reveals work

/-- A change after which something is on a list reveals what it did. -/
theorem reveals_fill {change : UnitOfWork -> UnitOfWork}
    (filled : ∀ work, (change work).isEmpty = false) :
    Moves Reveals (modify change : Execution PUnit) :=
  reveals_modify (fun work => .of_filled (filled work))

/-- Work on a fiber leaves the fiber on a list, unless there is no such fiber. -/
theorem onFiber_cases (fiberWork : FiberWork α) (work : UnitOfWork) :
    (∃ error, outcome (onFiber id fiberWork) work = (.error error, work)) ∨
      (outcome (onFiber id fiberWork) work).2.isEmpty = false := by
  rw [onFiber, outcome_bind_ok (outcome_getThe work)]
  cases work.fiber? id with
  | none => exact .inl ⟨_, rfl⟩
  | some fiber =>
    refine .inr ?_
    change (outcome (do set _; liftExcept _) work).2.isEmpty = false
    rw [outcome_bind_ok (outcome_set _ work), outcome_liftExcept]
    exact isEmpty_putFiber _ _ _

theorem reveals_onFiber (fiberWork : FiberWork α) : Moves Reveals (onFiber id fiberWork) := by
  intro work
  rcases onFiber_cases fiberWork work with ⟨error, fails⟩ | filled
  · rw [fails]
    exact .refl work
  · exact .of_filled filled

/-- After work on a fiber the record may be changed without a note. -/
theorem reveals_onFiber_bind {fiberWork : FiberWork α} {next : α -> Execution β}
    (staysFilled : ∀ value, Moves StaysFilled (next value)) :
    Moves Reveals (onFiber id fiberWork >>= next) := by
  intro work
  rw [outcome_bind]
  rcases onFiber_cases fiberWork work with ⟨error, fails⟩ | filled
  · rw [fails]
    exact .refl work
  · generalize outcome (onFiber id fiberWork) work = result at filled ⊢
    obtain ⟨result, after⟩ := result
    cases result with
    | error error => exact .of_filled filled
    | ok value => exact .of_filled (staysFilled value after filled)

/-- What takes the place of the unit of work is made from it. -/
theorem reveals_replace {change : UnitOfWork -> Except LifecycleError UnitOfWork}
    (reveals : ∀ work next, change work = .ok next -> work.Reveals next) :
    Moves Reveals (do replace (change (<- getThe UnitOfWork))) := by
  intro work
  rw [outcome_bind_ok (outcome_getThe work)]
  cases changed : change work with
  | error error => exact .refl work
  | ok next => exact reveals work next changed

/-- Every instruction reveals what it does, also if it fails. -/
theorem reveals_execute (program : Program) (fiber : Fiber) (instruction : Instruction Address) :
    Moves Reveals (execute program fiber instruction) := by
  have named {reference : SymbolReference} {next : String -> Execution Unit}
      (reveals : ∀ name, Moves Reveals (next name)) :
      Moves Reveals (symbol program reference >>= next) :=
    .bind @Reveals.trans (reveals_symbol reference) reveals
  have placed {index : Nat} {next : NodeKey -> Execution Unit}
      (reveals : ∀ key, Moves Reveals (next key)) :
      Moves Reveals (node program index >>= next) :=
    .bind @Reveals.trans (reveals_node index) reveals
  have looked {next : UnitOfWork -> Execution Unit}
      (reveals : ∀ found, Moves Reveals (next found)) :
      Moves Reveals (getThe UnitOfWork >>= next) :=
    .bind @Reveals.trans reveals_look reveals
  have forks (join : Nat) (targets : List Address) :
      Moves Reveals (do
        let key <- node program join
        modify (fun work => work.fork fiber key targets) : Execution Unit) :=
    placed (fun key => reveals_modify (fun work => reveals_fork work fiber key targets))
  cases instruction with
  | loadFlag | loadCounter =>
    rw [execute]
    exact named (fun _ => looked (fun _ => reveals_onFiber _))
  | storeFlag flag =>
    -- The flag itself is on no list, but the fiber that has popped its value is.
    rw [execute]
    exact named (fun _ => reveals_onFiber_bind (fun _ _ filled => filled))
  | incrementCounter counter =>
    rw [execute]
    exact named (fun _ => reveals_onFiber_bind (fun _ _ _ => isEmpty_emit _ _))
  | dispatch taskType index retries routes =>
    rw [execute]
    exact named (fun _ => placed (fun _ => reveals_fill (fun _ => isEmpty_park _ _ _ _)))
  | waitTimer duration =>
    rw [execute]
    exact reveals_fill (fun _ => isEmpty_park _ _ _ _)
  | waitMessage name correlation =>
    rw [execute]
    refine named (fun _ => looked (fun work => ?_))
    exact .bind @Reveals.trans (reveals_liftExcept _) (fun _ _ =>
      .of_filled (isEmpty_park work _ _ _))
  | waitHuman task =>
    rw [execute]
    exact named (fun _ => reveals_fill (fun _ => isEmpty_park _ _ _ _))
  | race index arms =>
    rw [execute]
    refine placed (fun _ => .bind @Reveals.trans ?_ (fun _ => ?_))
    · exact .mapM Reveals.refl @Reveals.trans (reveals_armWait fiber) arms
    · exact reveals_fill (fun _ => isEmpty_park _ _ _ _)
  | watch boundary duration interrupting target =>
    rw [execute]
    exact placed (fun _ => reveals_modify (fun work => reveals_watchOver work fiber _ _ _ _))
  | unwatch boundary =>
    rw [execute]
    exact .bind @Reveals.trans (reveals_onFiber _)
      (fun _ => reveals_modify (fun work => reveals_dropWatchdog work fiber))
  | fork join targets =>
    rw [execute]
    split
    · exact .throw Reveals.refl _
    · exact forks join targets
  | forkInclusive join targets fallback gateway =>
    rw [execute]
    refine .bind @Reveals.trans (reveals_onFiber _) (fun choices => ?_)
    dsimp only
    generalize ((targets.zip choices).filter Prod.snd).map Prod.fst = chosen
    generalize (if chosen.isEmpty then fallback.toList else chosen) = selected
    split
    · exact reveals_fill (fun _ => isEmpty_raise _ _ _ _ _ _)
    · exact forks join _
  | join index =>
    rw [execute]
    exact placed (fun key => reveals_replace (fun _ _ => reveals_arriveAt))
  | finish =>
    rw [execute]
    exact reveals_modify (fun work => (reveals_retire work _).trans (reveals_completeIfIdle _))
  | terminate =>
    rw [execute]
    exact reveals_replace (fun _ _ closes => .of_filled (isEmpty_close closes))
  | fault reason =>
    rw [execute]
    exact reveals_fill (fun _ => isEmpty_raise _ _ _ _ _ _)
  | _ =>
    rw [execute]
    exact reveals_onFiber _

theorem reveals_step (program : Program) (id : FiberId) : Moves Reveals (step program id) := by
  refine .bind @Reveals.trans reveals_look (fun work => ?_)
  cases work.fiber? id with
  | none => exact .throw Reveals.refl _
  | some fiber =>
    dsimp only
    cases program.instruction? fiber.pc with
    | none => exact .throw Reveals.refl _
    | some instruction => exact reveals_execute program fiber instruction

end Execution

namespace UnitOfWork

variable {work next : UnitOfWork} {program : Program}

/-! ## Calls reveal what they do -/

/-- An instruction that cannot be executed leaves an incident, and any other reveals what it
did. -/
theorem reveals_play (program : Program) (id : FiberId) (work : UnitOfWork) :
    work.Reveals (play program id work).2 := by
  have stepped := Execution.reveals_step program id work
  rw [play_eq]
  generalize outcome (Execution.step program id) work = result at stepped ⊢
  obtain ⟨result, after⟩ := result
  cases result with
  | error error => exact .of_filled (isEmpty_raise _ _ _ _ _ _)
  | ok done => exact stepped

theorem reveals_takeTurnsFrom (program : Program) (remaining taken : Nat)
    (holder : Option FiberId) (work : UnitOfWork) :
    work.Reveals (takeTurnsFrom program remaining taken holder work).2 := by
  induction remaining generalizing taken holder work with
  | zero => exact .refl work
  | succ remaining ih =>
    rw [takeTurnsFrom]
    split
    · exact .refl work
    · rename_i id _
      exact (reveals_play program id work).trans (ih _ _ _)

theorem reveals_run {maximumSteps : Nat} {report : RunReport}
    (ran : work.run program maximumSteps = .ok (report, next)) : work.Reveals next := by
  rw [run] at ran
  split at ran
  · have reveals := reveals_takeTurnsFrom program (max 1 maximumSteps) 0 none work
    rwa [← takeTurns, Except.ok.inj ran] at reveals
  · cases ran

theorem reveals_resumeJob {id : FiberId} {completion : JobCompletion}
    (resumes : work.resumeJob id completion = .ok next) : work.Reveals next := by
  cases found : work.fiber? id with
  | none =>
    rw [resumeJob, found] at resumes
    cases resumes
  | some fiber =>
    cases (resumeJob_of_found work found completion).symm.trans resumes
    exact .of_filled (@isEmpty_wake (work.updateRecord _) _ _ found _)

theorem reveals_routeError {id : FiberId} {target : Address}
    (routes : work.routeError id target = .ok next) : work.Reveals next := by
  cases found : work.fiber? id with
  | none =>
    rw [routeError, found] at routes
    cases routes
  | some fiber =>
    cases (routeError_of_found work found target).symm.trans routes
    exact (reveals_dropWatchdog work fiber).trans (reveals_wake _ _ _)

theorem reveals_restart (work : UnitOfWork) (program : Program) (incident : Incident) :
    work.Reveals (work.restart program incident).2 := by
  rw [restart]
  split
  · exact .refl work
  · split
    · exact reveals_wake work _ _
    · exact .refl work

/-- Every call of the machine reveals what it does. -/
theorem reveals_call (program : Program) (work : UnitOfWork) (call : MachineCall) :
    work.Reveals (work.call program call) := by
  cases call with
  | run maximumSteps =>
    rw [UnitOfWork.call]
    cases ran : work.run program maximumSteps with
    | error error => exact .refl work
    | ok result => exact reveals_run ran
  | deliver signal => exact .of_filled (isEmpty_deliver work signal)
  | resumeJob fiber completion =>
    rw [UnitOfWork.call]
    cases resumes : work.resumeJob fiber completion with
    | error error => exact .refl work
    | ok next => exact reveals_resumeJob resumes
  | routeError fiber target =>
    rw [UnitOfWork.call]
    cases routes : work.routeError fiber target with
    | error error => exact .refl work
    | ok next => exact reveals_routeError routes
  | restart incident => exact reveals_restart work program incident
  | halt incident => exact .of_filled (isEmpty_halt work incident)
  | cancel reason =>
    rw [UnitOfWork.call]
    cases closes : work.cancel reason with
    | error error => exact .refl work
    | ok next => exact .of_filled (isEmpty_close closes)

/-- So does any number of calls. -/
theorem reveals_callAll (program : Program) (work : UnitOfWork) (calls : List MachineCall) :
    work.Reveals (work.callAll program calls) :=
  related_foldl Reveals.refl Reveals.trans (reveals_call program) calls work

end UnitOfWork

/-! ## Changes reveal what they do -/

open UnitOfWork

/-- Every change of an engine reveals what it does. -/
theorem Intervened.reveals {store : MemoryStore} {id : InstanceId} {program : Program}
    {work changed : UnitOfWork} {purpose : Purpose}
    (intervened : Intervened store id program work purpose changed) : work.Reveals changed := by
  cases intervened with
  | run | dismiss | discard => exact .refl work
  | cancel running closes => exact .of_filled (isEmpty_close closes)
  | complete stored owned first wanted completion => exact .of_filled (isEmpty_applied _ _ _ _)
  | record stored owned first unwanted completion => exact .of_filled (isEmpty_emit _ _)
  | fail stored owned wanted failed =>
    cases failed with
    | retry notBefore problem => exact .of_filled (isEmpty_emit _ _)
    | bury kind problem expires => exact .of_filled (isEmpty_emit _ _)
    | route problem leads =>
      exact ((Reveals.of_filled (isEmpty_emit _ _)).trans (reveals_dropWatchdog _ _)).trans
        (reveals_wake _ _ _)
  | deliver running signal => exact .of_filled (isEmpty_deliver work signal)
  | restart stored settles running alone owned closed => exact .of_filled (isEmpty_putIncident _ _)
  | settle stored settles owned closed => exact .of_filled (isEmpty_putIncident _ _)
  | requeue stored owned running found waits settles => exact .of_filled (isEmpty_emit _ _)
  | abandon stored owned => exact .of_filled (isEmpty_emit _ _)

namespace Engine

/-- Nothing is lost when an empty unit of work is not stored. Whatever calls of the machine are made
on the stored state of an instance, if there is nothing to store in the end, then after each of the
calls the state was the stored one, and no job, completion, incident, dead letter or event was
noted. So if an attempt to change an instance leads to an empty unit of work, it yields the result of
the change and keeps the store, which has the state that was reached. -/
theorem skipped_commit_loses_nothing :
    (∀ program state time supply calls earlier, earlier <+: calls ->
      ((UnitOfWork.begin state time supply).callAll program calls).isEmpty = true ->
      ((UnitOfWork.begin state time supply).callAll program earlier).state = state ∧
      ((UnitOfWork.begin state time supply).callAll program earlier).Silent) ∧
    (∀ (engine prepared : Engine MemoryStore) (id : InstanceId) (purpose : Purpose)
      (Result : Type) (change : Change Result) (result : Result) (report : RunReport)
      (work : UnitOfWork), Intervention engine.store engine.config id purpose change ->
      outcome (prepare id change) engine = (.ok (result, report, work), prepared) ->
      work.isEmpty = true ->
      outcome (attempt id change) engine = (.ok (some result), prepared) ∧
      prepared.store = engine.store ∧
      engine.store.states.get? id = some work.state ∧ work.Silent) := by
  constructor
  · rintro program state time supply calls earlier ⟨later, rfl⟩ empty
    rw [callAll, List.foldl_append] at empty
    have between := reveals_callAll program
      ((UnitOfWork.begin state time supply).callAll program earlier) later empty
    exact ⟨(reveals_callAll program _ earlier between.1).2, silent_of_isEmpty between.1⟩
  · intro engine prepared id purpose Result change result report work intended prepares empty
    have prepared_cases := prepared_prepare id change engine
    rw [prepares] at prepared_cases
    cases prepared_cases with
    | sliced sliced =>
      rename_i programs state program
      obtain ⟨changed, parts⟩ := slice_parts sliced.done
      obtain ⟨steps, took⟩ := parts.took
      have reveals : (UnitOfWork.begin state engine.now engine.supply).Reveals work := by
        rw [took]
        exact (intended.intervened parts.made).reveals.trans
          (reveals_takeTurnsFrom program steps 0 none changed)
      refine ⟨?_, rfl, ?_, silent_of_isEmpty empty⟩
      · rw [attempt_eq, outcome_bind_ok prepares]
        dsimp only
        rw [deposit, if_pos empty, outcome_pure]
      · rw [(reveals empty).2]
        exact sliced.stored

end Engine

namespace TaskRun

/-- An instance whose fiber waits for its job. -/
def idle : Engine MemoryStore := engine.performAll
  [.install program, .start program.hash .null ""]

/-- Calls that have no effect there: no fiber can run, no fiber waits for the incident, and the
fiber that is to take an error route does not exist. -/
def calls : List MachineCall := [.run 5,
  .restart (.raise ⟨8⟩ ⟨0⟩ ⟨1⟩ 0 .noRoute "" default), .routeError ⟨7⟩ 0]

end TaskRun

/-- Calls without an effect, and a run of an instance that waits. -/
theorem Engine.skipped_commit_loses_nothing_of_idle :
    ∃ state, TaskRun.idle.store.states.get? ⟨0⟩ = some state ∧
      ((UnitOfWork.begin state default ⟨9⟩).callAll TaskRun.program TaskRun.calls).state = state ∧
      ∃ prepared : Engine MemoryStore,
        outcome (attempt ⟨0⟩ Change.none) TaskRun.idle = (.ok (some ()), prepared) ∧
        prepared.store = TaskRun.idle.store := by
  obtain ⟨calls, attempts⟩ := skipped_commit_loses_nothing
  have facts : (TaskRun.idle.store.states.get? ⟨0⟩).any (fun state =>
      ((UnitOfWork.begin state default ⟨9⟩).callAll TaskRun.program TaskRun.calls).isEmpty &&
        (outcome (prepare ⟨0⟩ Change.none) TaskRun.idle).1.toOption.any
          (fun made => made.2.2.isEmpty)) = true := by
    decide +kernel
  obtain ⟨state, stored, facts⟩ := (Option.any_eq_true _ _).1 facts
  obtain ⟨empty, idle⟩ := (Bool.and_eq_true _ _).mp facts
  refine ⟨state, stored, (calls _ _ _ _ _ _ (List.prefix_refl _) empty).1, ?_⟩
  rcases prepares : outcome (prepare ⟨0⟩ Change.none) TaskRun.idle with ⟨_ | made, prepared⟩
  · rw [prepares] at idle
    cases idle
  · rw [prepares] at idle
    obtain ⟨⟨⟩, report, work⟩ := made
    obtain ⟨yields, kept, -⟩ := attempts _ _ _ _ _ _ _ _ _ .run prepares idle
    exact ⟨prepared, yields, kept⟩

end ProcessEngine
