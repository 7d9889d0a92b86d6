import ProcessEngine.Proofs.Finality

/-!
# Units of work that mirror each other

What a machine does depends on the state of an instance, on the time and on the identifiers that
are drawn, but neither on the version of the instance nor on what was noted before. So two units
of work that agree in the former stay alike: they note the same, each after what it had noted
before (`UnitOfWork.Mirrors.takeTurnsFrom`).
-/

namespace ProcessEngine

/-- What the turns of a run note, apart from the state of their instance. -/
@[ext]
structure Output where
  events : List RuntimeEvent := []
  jobs : List JobWrite := []
  cancelledJobs : List JobKey := []
  incidents : List Incident := []

namespace Output

instance : Append Output where
  append former added := ⟨former.events ++ added.events, former.jobs ++ added.jobs,
    former.cancelledJobs ++ added.cancelledJobs, former.incidents ++ added.incidents⟩

variable (first middle last : Output)

@[simp] theorem events_append : (first ++ last).events = first.events ++ last.events := rfl
@[simp] theorem jobs_append : (first ++ last).jobs = first.jobs ++ last.jobs := rfl
@[simp] theorem cancelledJobs_append :
    (first ++ last).cancelledJobs = first.cancelledJobs ++ last.cancelledJobs := rfl
@[simp] theorem incidents_append :
    (first ++ last).incidents = first.incidents ++ last.incidents := rfl

theorem append_assoc : first ++ middle ++ last = first ++ (middle ++ last) := by
  ext1 <;> simp

@[simp] theorem append_empty : first ++ ({} : Output) = first := by
  ext1 <;> simp

@[simp] theorem empty_append : ({} : Output) ++ last = last := by
  ext1 <;> simp

end Output

namespace UnitOfWork

/-- What was noted so far, apart from the state. -/
def output (work : UnitOfWork) : Output :=
  ⟨work.events, work.jobs, work.cancelledJobs, work.incidents⟩

/-- The second unit of work is where the first one is, and has noted something before. -/
structure Mirrors (former : Output) (work twin : UnitOfWork) : Prop where
  state : work.state.Keeps twin.state
  time : twin.time = work.time
  supply : twin.supply = work.supply
  output : twin.output = former ++ work.output

variable {former : Output} {work twin next next' : UnitOfWork} {program : Program} {α β : Type}

namespace Mirrors

section

variable (mirrors : Mirrors former work twin)

include mirrors

theorem fibers : twin.state.fibers = work.state.fibers := by
  obtain ⟨_, _, same⟩ := mirrors.state
  rw [same]

theorem fiber? (id : FiberId) : twin.fiber? id = work.fiber? id :=
  congrArg (fun fibers => OrderedMap.get? fibers id) mirrors.fibers

theorem isRunning : twin.record.isRunning = work.record.isRunning := by
  obtain ⟨_, _, same⟩ := mirrors.state
  rw [record, same]
  rfl

theorem nextFiber? : twin.nextFiber? = work.nextFiber? := by
  obtain ⟨_, _, same⟩ := mirrors.state
  rw [UnitOfWork.nextFiber?, UnitOfWork.nextFiber?, mirrors.isRunning, same]
  rfl

/-- Both note the same and go on alike. -/
theorem step (added : Output) (state : next.state.Keeps next'.state)
    (time : next.time = work.time) (time' : next'.time = twin.time)
    (supply : next'.supply = next.supply) (output : next.output = work.output ++ added)
    (output' : next'.output = twin.output ++ added) : Mirrors former next next' := by
  refine ⟨state, ?_, supply, ?_⟩
  · rw [time', time, mirrors.time]
  · rw [output', output, mirrors.output, Output.append_assoc]

/-- Both go on alike and note nothing. -/
theorem silent (state : next.state.Keeps next'.state) (time : next.time = work.time)
    (time' : next'.time = twin.time) (supply : next'.supply = next.supply)
    (output : next.output = work.output) (output' : next'.output = twin.output) :
    Mirrors former next next' :=
  ⟨state, by rw [time', time, mirrors.time], supply, by rw [output', output, mirrors.output]⟩

/-! ## Operations -/

theorem emit (event : RuntimeEvent) : Mirrors former (work.emit event) (twin.emit event) := by
  refine mirrors.step { events := [event] } mirrors.state rfl rfl mirrors.supply ?_ ?_
  all_goals
    ext1 <;> simp [UnitOfWork.output, UnitOfWork.emit]

theorem putFiber (id : FiberId) (fiber : Fiber) :
    Mirrors former (work.putFiber id fiber) (twin.putFiber id fiber) := by
  obtain ⟨version, time, same⟩ := mirrors.state
  refine mirrors.silent ⟨version, time, ?_⟩ rfl rfl mirrors.supply rfl rfl
  rw [UnitOfWork.putFiber, UnitOfWork.putFiber, same]

theorem updateFiber (id : FiberId) (change : Fiber -> Fiber) :
    Mirrors former (work.updateFiber id change) (twin.updateFiber id change) := by
  rw [UnitOfWork.updateFiber, UnitOfWork.updateFiber, mirrors.fiber?]
  split
  · exact mirrors.putFiber id _
  · exact mirrors

/-- The record may be changed in any way that neither reads nor sets version and time. -/
theorem updateRecord {change change' : ProcessInstance -> ProcessInstance}
    (same : ∀ version time, change' { work.record with version := version, updatedAt := time } =
      { change work.record with version := version, updatedAt := time }) :
    Mirrors former (work.updateRecord change) (twin.updateRecord change') := by
  obtain ⟨version, time, equal⟩ := mirrors.state
  refine mirrors.silent ⟨version, time, ?_⟩ rfl rfl mirrors.supply rfl rfl
  rw [UnitOfWork.updateRecord, UnitOfWork.updateRecord, equal]
  exact congrArg (InstanceState.mk · _ _) (same version time)

theorem resupply (supply : IdSupply) :
    Mirrors former { work with supply := supply } { twin with supply := supply } :=
  ⟨mirrors.state, mirrors.time, rfl, mirrors.output⟩

theorem spawn (pc : Address) (parent : Option FiberId) :
    (twin.spawn pc parent).1 = (work.spawn pc parent).1 ∧
      Mirrors former (work.spawn pc parent).2 (twin.spawn pc parent).2 := by
  obtain ⟨version, time, same⟩ := mirrors.state
  have supply := mirrors.supply
  have numbered : Mirrors former
      { work with
        state := { work.state with record := work.record.takeSequence.2 }
        supply := ⟨work.supply.next + 1⟩ }
      { twin with
        state := { twin.state with record := twin.record.takeSequence.2 }
        supply := ⟨work.supply.next + 1⟩ } := by
    refine mirrors.silent ⟨version, time, ?_⟩ rfl rfl rfl rfl rfl
    rw [record, record, same]
    rfl
  have fiber : Fiber.create ⟨work.supply.next⟩ twin.record.id twin.record.nextSequence pc =
      Fiber.create ⟨work.supply.next⟩ work.record.id work.record.nextSequence pc := by
    rw [record, record, same]
  rw [UnitOfWork.spawn, UnitOfWork.spawn, supply]
  refine ⟨rfl, ?_⟩
  change Mirrors former (UnitOfWork.emit (UnitOfWork.putFiber _ _ _) _)
    (UnitOfWork.emit (UnitOfWork.putFiber _ _ (Fiber.create ⟨work.supply.next⟩ twin.record.id
      twin.record.nextSequence pc)) _)
  rw [fiber]
  exact (numbered.putFiber _ _).emit _

theorem endFiber (id : FiberId) : Mirrors former (work.endFiber id) (twin.endFiber id) := by
  rw [UnitOfWork.endFiber, UnitOfWork.endFiber, mirrors.fiber?]
  split
  · exact mirrors
  · refine Mirrors.emit ?_ (.fiberEnded id)
    obtain ⟨version, time, same⟩ := mirrors.state
    refine mirrors.silent ⟨version, time, ?_⟩ rfl rfl mirrors.supply rfl rfl
    rw [same]

theorem park (id : FiberId) (pc : Address) (wait : Wait) :
    Mirrors former (work.park id pc wait) (twin.park id pc wait) :=
  (mirrors.updateFiber id _).emit _

theorem activateJoin (join : NodeKey) (expected : Nat) :
    (twin.activateJoin join expected).1 = (work.activateJoin join expected).1 ∧
      Mirrors former (work.activateJoin join expected).2 (twin.activateJoin join expected).2 := by
  obtain ⟨version, time, same⟩ := mirrors.state
  have number : (twin.activateJoin join expected).1 = (work.activateJoin join expected).1 := by
    rw [UnitOfWork.activateJoin, UnitOfWork.activateJoin, same]
    rfl
  refine ⟨number, ?_⟩
  change Mirrors former (UnitOfWork.emit _ _)
    (UnitOfWork.emit _ (.joinActivated join (twin.activateJoin join expected).1 expected))
  rw [number]
  refine Mirrors.emit ?_ _
  refine mirrors.silent ⟨version, time, ?_⟩ rfl rfl mirrors.supply rfl rfl
  rw [same]

theorem dispatch (job : Job) : Mirrors former (work.dispatch job) (twin.dispatch job) := by
  refine mirrors.step { events := [.jobDispatched job.key job.taskType], jobs := [.dispatch job] }
    mirrors.state rfl rfl mirrors.supply ?_ ?_
  all_goals
    ext1 <;> simp [UnitOfWork.output, UnitOfWork.dispatch, UnitOfWork.emit]

theorem cancelJob (key : JobKey) : Mirrors former (work.cancelJob key) (twin.cancelJob key) := by
  refine mirrors.step { events := [.jobCancelled key], cancelledJobs := [key] }
    mirrors.state rfl rfl mirrors.supply ?_ ?_
  all_goals
    ext1 <;> simp [UnitOfWork.output, UnitOfWork.cancelJob, UnitOfWork.emit]

theorem putIncident (incident : Incident) :
    Mirrors former (work.putIncident incident) (twin.putIncident incident) := by
  refine mirrors.step { incidents := [incident] } mirrors.state rfl rfl mirrors.supply ?_ ?_
  all_goals
    ext1 <;> simp [UnitOfWork.output, UnitOfWork.putIncident]

theorem arrive (ticket : JoinTicket) :
    (∃ error, work.arrive ticket = .error error ∧ twin.arrive ticket = .error error) ∨
      ∃ arrival next next', work.arrive ticket = .ok (arrival, next) ∧
        twin.arrive ticket = .ok (arrival, next') ∧ Mirrors former next next' := by
  obtain ⟨version, time, same⟩ := mirrors.state
  have told (arrival : Arrival) {state state' : InstanceState} (keeps : state.Keeps state') :
      Mirrors former
        { work with
          state := state
          joins := work.joins.insert ticket.join
          events := work.events ++ (arrivalEvent? ticket.join arrival).toList }
        { twin with
          state := state'
          joins := twin.joins.insert ticket.join
          events := twin.events ++ (arrivalEvent? ticket.join arrival).toList } := by
    refine mirrors.step { events := (arrivalEvent? ticket.join arrival).toList } keeps rfl rfl
      mirrors.supply ?_ ?_
    all_goals
      ext1 <;> simp [UnitOfWork.output]
  have admitted : twin.state.admission? ticket = work.state.admission? ticket := by
    rw [same]
    rfl
  rw [UnitOfWork.arrive, UnitOfWork.arrive, InstanceState.arrive, InstanceState.arrive, admitted]
  cases work.state.admission? ticket with
  | none => exact .inr ⟨_, _, _, rfl, rfl, told .stale mirrors.state⟩
  | some found =>
    obtain ⟨barrier, expected⟩ := found
    dsimp only
    split
    · exact .inl ⟨_, rfl, rfl⟩
    · split
      · exact .inr ⟨_, _, _, rfl, rfl, told (.satisfied _) ⟨version, time, by rw [same]⟩⟩
      · exact .inr ⟨_, _, _, rfl, rfl, told (.waiting _ _) ⟨version, time, by rw [same]⟩⟩

/-! ## Ends, splits and waits -/

theorem retire (id : FiberId) : Mirrors former (work.retire id) (twin.retire id) := by
  rw [UnitOfWork.retire, UnitOfWork.retire, mirrors.fiber?]
  split
  · exact mirrors
  · rename_i fiber _
    cases fiber.watchdog with
    | none => exact mirrors.endFiber id
    | some watchdog => exact (mirrors.endFiber id).endFiber watchdog

theorem conclude (status : InstanceStatus) (event : RuntimeEvent) :
    Mirrors former (work.conclude status event) (twin.conclude status event) := by
  refine Mirrors.emit (mirrors.updateRecord (fun version time => ?_)) event
  rw [mirrors.time]

theorem completeIfIdle : Mirrors former work.completeIfIdle twin.completeIfIdle := by
  rw [UnitOfWork.completeIfIdle, UnitOfWork.completeIfIdle, mirrors.isRunning, mirrors.fibers]
  split
  · exact mirrors.conclude _ _
  · exact mirrors

theorem cancelAwaitedJob (fiber : Fiber) :
    Mirrors former (work.cancelAwaitedJob fiber) (twin.cancelAwaitedJob fiber) := by
  rw [UnitOfWork.cancelAwaitedJob, UnitOfWork.cancelAwaitedJob]
  split
  · exact mirrors.cancelJob _
  · exact mirrors

theorem close (status : InstanceStatus) (event : RuntimeEvent) :
    (∃ error, work.close status event = .error error ∧ twin.close status event = .error error) ∨
      ∃ next next', work.close status event = .ok next ∧ twin.close status event = .ok next' ∧
        Mirrors former next next' := by
  have same : twin.record.status = work.record.status := by
    obtain ⟨_, _, same⟩ := mirrors.state
    rw [record, same]
    rfl
  have order : twin.state.fibersInOrder = work.state.fibersInOrder := by
    rw [InstanceState.fibersInOrder, mirrors.fibers]
    rfl
  rw [UnitOfWork.close, UnitOfWork.close, same, order]
  cases work.record.status.change status with
  | error error => exact .inl ⟨error, rfl, rfl⟩
  | ok done =>
    refine .inr ⟨_, _, rfl, rfl, Mirrors.conclude ?_ status event⟩
    exact List.foldl_rel mirrors (fun fiber _ before before' mirrors =>
      (mirrors.cancelAwaitedJob fiber).endFiber fiber.id)

theorem branch (parent : Fiber) (ticket : JoinTicket) (target : Address) :
    Mirrors former (branch parent ticket work target) (branch parent ticket twin target) := by
  obtain ⟨child, spawned⟩ := mirrors.spawn target (some parent.id)
  change Mirrors former (UnitOfWork.updateFiber _ (work.spawn target (some parent.id)).1 _)
    (UnitOfWork.updateFiber _ (twin.spawn target (some parent.id)).1 _)
  rw [child]
  exact spawned.updateFiber _ _

theorem fork (parent : Fiber) (join : NodeKey) (targets : List Address) :
    Mirrors former (work.fork parent join targets) (twin.fork parent join targets) := by
  obtain ⟨number, activated⟩ := mirrors.activateJoin join targets.length
  rw [UnitOfWork.fork, UnitOfWork.fork]
  dsimp only
  rw [number]
  refine Mirrors.endFiber ?_ parent.id
  exact List.foldl_rel activated (fun target _ before before' mirrors =>
    mirrors.branch parent _ target)

theorem arriveAt (fiber : Fiber) (join : NodeKey) :
    (∃ error, work.arriveAt fiber join = .error error ∧
      twin.arriveAt fiber join = .error error) ∨
      ∃ next next', work.arriveAt fiber join = .ok next ∧ twin.arriveAt fiber join = .ok next' ∧
        Mirrors former next next' := by
  rw [UnitOfWork.arriveAt, UnitOfWork.arriveAt]
  split
  · exact .inr ⟨_, _, rfl, rfl, (mirrors.retire fiber.id).completeIfIdle⟩
  · rename_i ticket _
    obtain ⟨error, fails, fails'⟩ | ⟨arrival, next, next', counts, counts', counted⟩ :=
      mirrors.arrive ticket
    · rw [fails, fails']
      exact .inl ⟨error, rfl, rfl⟩
    · rw [counts, counts']
      cases arrival with
      | satisfied activation => exact .inr ⟨_, _, rfl, rfl, counted.updateFiber fiber.id _⟩
      | waiting arrived expected => exact .inr ⟨_, _, rfl, rfl, counted.retire fiber.id⟩
      | stale => exact .inr ⟨_, _, rfl, rfl, (counted.retire fiber.id).completeIfIdle⟩

theorem halt (incident : Incident) : Mirrors former (work.halt incident) (twin.halt incident) :=
  ((mirrors.emit _).park _ _ _).putIncident incident

theorem raise (symbols : SymbolTable) (fiber : FiberId) (address : Address) (kind : FaultClass)
    (message : String) : Mirrors former (work.raise symbols fiber address kind message)
      (twin.raise symbols fiber address kind message) := by
  have owner : twin.record.id = work.record.id := by
    obtain ⟨_, _, same⟩ := mirrors.state
    rw [record, same]
    rfl
  have incident : Incident.raise ⟨twin.supply.next⟩ twin.record.id fiber address kind message
      twin.time = .raise ⟨work.supply.next⟩ work.record.id fiber address kind message work.time := by
    rw [mirrors.supply, owner, mirrors.time]
  change Mirrors former (UnitOfWork.halt _ _)
    (UnitOfWork.halt { twin with supply := ⟨twin.supply.next + 1⟩ }
      { Incident.raise ⟨twin.supply.next⟩ twin.record.id fiber address kind message twin.time with
        node := symbols.nodeContaining? address })
  rw [incident, mirrors.supply]
  exact (mirrors.resupply _).halt _

theorem watchOver (host : Fiber) (boundary : NodeKey) (duration : Nat) (interrupting : Bool)
    (target : Address) : Mirrors former (work.watchOver host boundary duration interrupting target)
      (twin.watchOver host boundary duration interrupting target) := by
  obtain ⟨watchdog, spawned⟩ := mirrors.spawn host.pc (some host.id)
  rw [UnitOfWork.watchOver, UnitOfWork.watchOver]
  dsimp only
  rw [watchdog, spawned.time]
  exact (spawned.updateFiber _ _).updateFiber _ _

theorem dropWatchdog (host : Fiber) :
    Mirrors former (work.dropWatchdog host) (twin.dropWatchdog host) := by
  have freed := mirrors.updateFiber host.id (fun fiber => { fiber with watchdog := none })
  rw [UnitOfWork.dropWatchdog, UnitOfWork.dropWatchdog]
  cases host.watchdog with
  | none => exact freed
  | some watchdog => exact freed.endFiber watchdog

/-- Both hand out the same job. -/
theorem handOut (fiber : Fiber) (node : NodeKey) (taskType : String) (retries : Nat) :
    Mirrors former (work.handOut fiber (.first work.record fiber node taskType retries work.time))
      (twin.handOut fiber (.first twin.record fiber node taskType retries twin.time)) := by
  have job : Job.first twin.record fiber node taskType retries twin.time =
      .first work.record fiber node taskType retries work.time := by
    obtain ⟨_, _, same⟩ := mirrors.state
    rw [record, same, mirrors.time]
    rfl
  rw [job]
  exact (mirrors.dispatch _).park _ _ _

end

end Mirrors

end UnitOfWork

/-! ## Instructions -/

namespace Execution

open UnitOfWork

variable {former : Output} {program : Program} {work twin : UnitOfWork} {α β : Type}

/-- Both come to the same and go on alike. -/
def Alike (former : Output) (result result' : Except MachineError α × UnitOfWork) : Prop :=
  result'.1 = result.1 ∧ Mirrors former result.2 result'.2

theorem Alike.bind {first first' : Execution α} {next next' : α -> Execution β}
    (alike : Alike former (outcome first work) (outcome first' twin))
    (go : ∀ value work twin, Mirrors former work twin ->
      Alike former (outcome (next value) work) (outcome (next' value) twin)) :
    Alike former (outcome (first >>= next) work) (outcome (first' >>= next') twin) := by
  rw [outcome_bind, outcome_bind]
  generalize outcome first work = reached at alike ⊢
  generalize outcome first' twin = reached' at alike ⊢
  obtain ⟨result, work⟩ := reached
  obtain ⟨result', twin⟩ := reached'
  obtain ⟨rfl : result' = result, mirrors⟩ := alike
  cases result' with
  | ok value => exact go value work twin mirrors
  | error error => exact ⟨rfl, mirrors⟩

theorem Alike.get {next next' : UnitOfWork -> Execution β}
    (go : Alike former (outcome (next work) work) (outcome (next' twin) twin)) :
    Alike former (outcome (getThe UnitOfWork >>= next) work)
      (outcome (getThe UnitOfWork >>= next') twin) := by
  rwa [outcome_bind_ok (outcome_getThe work), outcome_bind_ok (outcome_getThe twin)]

section

variable (mirrors : Mirrors former work twin)

include mirrors

theorem alike_pure (value : α) :
    Alike former (outcome (pure value : Execution α) work) (outcome (pure value) twin) :=
  ⟨rfl, mirrors⟩

theorem alike_throw (error : MachineError) :
    Alike former (outcome (throw error : Execution α) work) (outcome (throw error) twin) :=
  ⟨rfl, mirrors⟩

theorem alike_symbol (reference : SymbolReference) :
    Alike former (outcome (symbol program reference) work)
      (outcome (symbol program reference) twin) := by
  rw [symbol]
  split
  · exact alike_pure mirrors _
  · exact alike_throw mirrors _

theorem alike_node (index : Nat) :
    Alike former (outcome (node program index) work) (outcome (node program index) twin) := by
  rw [node]
  split
  · exact alike_pure mirrors _
  · exact alike_throw mirrors _

theorem alike_onFiber (id : FiberId) (fiberWork : FiberWork α) :
    Alike former (outcome (onFiber id fiberWork) work) (outcome (onFiber id fiberWork) twin) := by
  rw [onFiber]
  refine .get ?_
  rw [mirrors.fiber?]
  cases work.fiber? id with
  | none => exact alike_throw mirrors _
  | some fiber =>
    change Alike former (outcome (do set _; liftExcept _) work) (outcome (do set _; liftExcept _) twin)
    rw [outcome_bind_ok (outcome_set _ work), outcome_bind_ok (outcome_set _ twin),
      outcome_liftExcept, outcome_liftExcept]
    exact ⟨rfl, mirrors.putFiber id _⟩

theorem alike_replace {result result' : Except LifecycleError UnitOfWork}
    (same : (∃ error, result = .error error ∧ result' = .error error) ∨
      ∃ next next', result = .ok next ∧ result' = .ok next' ∧ Mirrors former next next') :
    Alike former (outcome (replace result) work) (outcome (replace result') twin) := by
  obtain ⟨error, rfl, rfl⟩ | ⟨next, next', rfl, rfl, mirrors⟩ := same
  · exact ⟨rfl, mirrors⟩
  · exact ⟨rfl, mirrors⟩

theorem flag (name : String) : twin.record.flag name = work.record.flag name := by
  obtain ⟨_, _, same⟩ := mirrors.state
  rw [record, same]
  rfl

theorem counter (name : String) : twin.record.counter name = work.record.counter name := by
  obtain ⟨_, _, same⟩ := mirrors.state
  rw [record, same]
  rfl

theorem resolve (correlation : CorrelationSource) (fiber : Fiber) :
    correlation.resolve twin.record fiber = correlation.resolve work.record fiber := by
  obtain ⟨_, _, same⟩ := mirrors.state
  rw [record, same]
  cases correlation <;> rfl

theorem alike_armWait (fiber : Fiber) (arm : ArmCode Address) :
    Alike former (outcome (armWait program fiber arm) work)
      (outcome (armWait program fiber arm) twin) := by
  rw [armWait]
  refine .get ?_
  split
  · rw [mirrors.time]
    exact alike_pure mirrors _
  · refine .bind (alike_symbol mirrors _) (fun name work' twin' mirrors' => ?_)
    rw [resolve mirrors]
    refine .bind ?_ (fun found work' twin' mirrors' => alike_pure mirrors' _)
    rw [outcome_liftExcept, outcome_liftExcept]
    exact ⟨rfl, mirrors'⟩

theorem alike_armWaits (fiber : Fiber) (arms : List (ArmCode Address)) :
    Alike former (outcome (arms.mapM (armWait program fiber)) work)
      (outcome (arms.mapM (armWait program fiber)) twin) := by
  induction arms generalizing work twin with
  | nil => exact alike_pure mirrors _
  | cons arm rest ih =>
    rw [List.mapM_cons]
    exact .bind (alike_armWait mirrors fiber arm) (fun wait work twin mirrors =>
      .bind (ih mirrors) (fun waits work twin mirrors => alike_pure mirrors _))

end

/-- Every instruction comes to the same. -/
theorem alike_execute (mirrors : Mirrors former work twin) (program : Program) (fiber : Fiber)
    (instruction : Instruction Address) :
    Alike former (outcome (execute program fiber instruction) work)
      (outcome (execute program fiber instruction) twin) := by
  cases instruction with
  | loadFlag index =>
    rw [execute]
    refine .bind (alike_symbol mirrors _) (fun name work twin mirrors => .get ?_)
    rw [flag mirrors]
    exact alike_onFiber mirrors _ _
  | storeFlag index =>
    rw [execute]
    refine .bind (alike_symbol mirrors _) (fun name work twin mirrors => ?_)
    refine .bind (alike_onFiber mirrors _ _) (fun value work twin mirrors => ⟨rfl, ?_⟩)
    dsimp only [outcome_modify]
    exact mirrors.updateRecord (fun version time => rfl)
  | loadCounter index =>
    rw [execute]
    refine .bind (alike_symbol mirrors _) (fun name work twin mirrors => .get ?_)
    rw [counter mirrors]
    exact alike_onFiber mirrors _ _
  | incrementCounter index =>
    rw [execute]
    refine .bind (alike_symbol mirrors _) (fun name work twin mirrors => ?_)
    refine .bind (alike_onFiber mirrors _ _) (fun _ work twin mirrors => ⟨rfl, ?_⟩)
    rw [outcome_modify, outcome_modify]
    dsimp only
    rw [counter mirrors]
    exact (mirrors.updateRecord (fun version time => rfl)).emit _
  | dispatch taskType index retries routes =>
    rw [execute]
    refine .bind (alike_symbol mirrors _) (fun name work twin mirrors => ?_)
    exact .bind (alike_node mirrors index) (fun key work twin mirrors =>
      ⟨rfl, mirrors.handOut fiber key name retries⟩)
  | waitTimer duration =>
    rw [execute, outcome_modify, outcome_modify, mirrors.time]
    exact ⟨rfl, mirrors.park _ _ _⟩
  | waitMessage index correlation =>
    rw [execute]
    refine .bind (alike_symbol mirrors _) (fun name work twin mirrors => .get ?_)
    rw [resolve mirrors, outcome_bind, outcome_bind, outcome_liftExcept, outcome_liftExcept]
    cases correlation.resolve work.record fiber with
    | error error => exact ⟨rfl, mirrors⟩
    | ok found => exact ⟨rfl, mirrors.park _ _ _⟩
  | waitHuman index =>
    rw [execute]
    exact .bind (alike_symbol mirrors _) (fun name work twin mirrors => ⟨rfl, mirrors.park _ _ _⟩)
  | race index arms =>
    rw [execute]
    refine .bind (alike_node mirrors index) (fun key work twin mirrors => ?_)
    exact .bind (alike_armWaits mirrors fiber arms) (fun waits work twin mirrors =>
      ⟨rfl, mirrors.park _ _ _⟩)
  | watch index duration interrupting target =>
    rw [execute]
    exact .bind (alike_node mirrors index) (fun key work twin mirrors =>
      ⟨rfl, mirrors.watchOver fiber key duration interrupting target⟩)
  | unwatch index =>
    rw [execute]
    exact .bind (alike_onFiber mirrors _ _) (fun _ work twin mirrors =>
      ⟨rfl, mirrors.dropWatchdog fiber⟩)
  | fork index targets =>
    rw [execute]
    split
    · exact alike_throw mirrors _
    · exact .bind (alike_node mirrors index) (fun key work twin mirrors =>
        ⟨rfl, mirrors.fork fiber key targets⟩)
  | forkInclusive index targets fallback gateway =>
    rw [execute]
    refine .bind (alike_onFiber mirrors _ _) (fun choices work twin mirrors => ?_)
    dsimp only
    generalize ((targets.zip choices).filter Prod.snd).map Prod.fst = chosen
    generalize (if chosen.isEmpty then fallback.toList else chosen) = selected
    split
    · exact ⟨rfl, mirrors.raise _ _ _ _ _⟩
    · exact .bind (alike_node mirrors index) (fun key work twin mirrors =>
        ⟨rfl, mirrors.fork fiber key selected⟩)
  | join index =>
    rw [execute]
    exact .bind (alike_node mirrors index) (fun key work twin mirrors =>
      .get (alike_replace mirrors (mirrors.arriveAt fiber key)))
  | finish =>
    rw [execute]
    exact ⟨rfl, (mirrors.retire fiber.id).completeIfIdle⟩
  | terminate =>
    rw [execute]
    exact .get (alike_replace mirrors (mirrors.close _ _))
  | fault reason =>
    rw [execute]
    exact ⟨rfl, mirrors.raise _ _ _ _ _⟩
  | _ =>
    rw [execute]
    exact alike_onFiber mirrors _ _

theorem alike_step (mirrors : Mirrors former work twin) (program : Program) (id : FiberId) :
    Alike former (outcome (step program id) work) (outcome (step program id) twin) := by
  rw [step]
  refine .get ?_
  rw [mirrors.fiber?]
  split
  · exact alike_throw mirrors _
  · split
    · exact alike_throw mirrors _
    · exact alike_execute mirrors program _ _

end Execution

/-! ## Runs -/

namespace UnitOfWork

variable {former : Output} {work twin : UnitOfWork}

namespace Mirrors

variable (mirrors : Mirrors former work twin)

include mirrors

theorem satisfies (fiber : Fiber) (join : NodeKey) :
    twin.satisfies fiber join = work.satisfies fiber join := by
  rw [UnitOfWork.satisfies, UnitOfWork.satisfies]
  cases fiber.tickets.find? (isFor join) with
  | none => rfl
  | some ticket =>
    dsimp only [Option.map]
    obtain ⟨error, fails, fails'⟩ | ⟨arrival, next, next', counts, counts', counted⟩ :=
      mirrors.arrive ticket
    · rw [fails, fails']
    · rw [counts, counts']
      cases arrival <;> rfl

theorem keepsTurn (program : Program) (id : FiberId) :
    UnitOfWork.keepsTurn program id twin = UnitOfWork.keepsTurn program id work := by
  have same : twin.satisfies = work.satisfies := funext fun fiber => funext (mirrors.satisfies fiber)
  rw [UnitOfWork.keepsTurn, UnitOfWork.keepsTurn, mirrors.fiber?, same]

/-- A turn passes on to the same fiber and notes the same. -/
theorem play (program : Program) (id : FiberId) :
    (play program id twin).1 = (play program id work).1 ∧
      Mirrors former (UnitOfWork.play program id work).2 (UnitOfWork.play program id twin).2 := by
  have alike := Execution.alike_step mirrors program id
  rw [play_eq, play_eq, mirrors.keepsTurn]
  generalize outcome (Execution.step program id) work = reached at alike ⊢
  generalize outcome (Execution.step program id) twin = reached' at alike ⊢
  obtain ⟨result, after⟩ := reached
  obtain ⟨result', after'⟩ := reached'
  obtain ⟨rfl : result' = result, mirrors⟩ := alike
  cases result' with
  | ok done => exact ⟨rfl, mirrors⟩
  | error error =>
    refine ⟨rfl, ?_⟩
    dsimp only
    rw [mirrors.fiber?]
    exact mirrors.raise _ _ _ _ _

end Mirrors

end UnitOfWork

end ProcessEngine
