import ProcessEngine.Proofs.Epochs
import ProcessEngine.Proofs.Supplies
import ProcessEngine.Proofs.Transactions

/-!
# Signals that are sent

Signals are sent by those who call the engine and by the engine itself: to all that wait for a
message, and to all whose timers are due. `Engine.sendingsOf` lists them for a sequence of
operations, each with the engine that it finds. Between two of them no signal changes an instance
(`Engine.sends_performAll`), so the list misses none.
-/

namespace ProcessEngine

/-- A signal that is sent, and the engine that it finds. -/
structure Sending where
  engine : Engine MemoryStore
  signal : WakeSignal

namespace Sending

/-- What comes of the signal. -/
def answer (sending : Sending) : Except EngineError Delivery :=
  (outcome (Engine.signal sending.signal) sending.engine).1

/-- The engine after the signal was delivered. -/
def after (sending : Sending) : Engine MemoryStore :=
  (outcome (Engine.signal sending.signal) sending.engine).2

end Sending

/-- Everything is admitted. -/
def Scope.any : Scope := ⟨fun _ => True, fun _ => True⟩

/-- No signal is delivered and no program is brought. -/
def Scope.silent : Scope := ⟨fun purpose => purpose ≠ .signal, fun _ => False⟩

namespace Engine

variable {engine first middle last : Engine MemoryStore} {scope wider : Scope}

theorem Advance.widen (advance : Advance scope first last)
    (admits : ∀ purpose, scope.admits purpose -> wider.admits purpose)
    (installs : ∀ program, scope.installs program -> wider.installs program) :
    Advance wider first last := by
  cases advance with
  | rest store supply known => exact .rest store supply known
  | learn brought added => exact .learn (installs _ brought) added
  | keep known put => exact .keep known put
  | claim request => exact .claim request
  | purge now => exact .purge now
  | create loaded done settled => exact .create loaded done settled
  | slice intended admitted sliced settled =>
    exact .slice intended (admits _ admitted) sliced settled

theorem Advances.widen (advances : Advances scope first last)
    (admits : ∀ purpose, scope.admits purpose -> wider.admits purpose)
    (installs : ∀ program, scope.installs program -> wider.installs program) :
    Advances wider first last := by
  induction advances with
  | refl => exact .refl
  | step prior advance ih => exact .step ih (advance.widen admits installs)

theorem Advances.any (advances : Advances scope first last) : Advances .any first last :=
  advances.widen (fun _ _ => trivial) (fun _ _ => trivial)

theorem advances_performAll (engine : Engine MemoryStore) (operations : List EngineOperation) :
    Advances .any engine (engine.performAll operations) := by
  induction operations generalizing engine with
  | nil => exact .refl
  | cons operation rest ih => exact (operation.advances engine).any.trans (ih _)

/-! ## The signals of operations -/

/-- Sends one signal after another; if failures stop everything, nothing follows the first one. -/
def sendAll (stops : Bool) : List WakeSignal -> Engine MemoryStore -> List Sending
  | [], _ => []
  | signal :: rest, engine =>
    let sending : Sending := ⟨engine, signal⟩
    sending ::
      if stops && sending.answer.toOption.isNone then [] else sendAll stops rest sending.after

/-- The signals for all that wait for a message. -/
def messageSendings (name correlation : String) (payload : Option Json)
    (engine : Engine MemoryStore) : List Sending :=
  engine.sendAll true ((engine.store.waiters name correlation).map
    (fun reference => reference.signal (.message name correlation) payload))

/-- The signals for all whose timers are due. -/
def timerSendings (engine : Engine MemoryStore) : List Sending :=
  engine.sendAll false ((engine.store.dueTimers engine.now).map
    (fun reference => reference.signal .timer none))

/-- The signals that workers send in their sweeps. -/
def workSendings : Nat -> Engine MemoryStore -> List Sending
  | 0, _ => []
  | turns + 1, engine =>
    match outcome dequeue engine with
    | (.ok (some id), after) =>
      workSendings turns (outcome (attempted (do
        run id
        return true)) after).2
    | (.ok none, after) =>
      let sent := if after.config.sweepTimers then after.timerSendings else []
      let swept := outcome (do
        sweep
        isIdle) after
      match swept with
      | (.ok false, checked) => sent ++ workSendings turns checked
      | _ => sent
    | _ => []

end Engine

/-- The signals that are sent while an operation is performed. -/
def EngineOperation.sendings (operation : EngineOperation) (engine : Engine MemoryStore) :
    List Sending :=
  match operation with
  | .signal id fiber epoch kind inputs =>
    let current := (engine.fiber? id fiber).elim 0 Fiber.epoch
    [⟨engine, ⟨id, fiber, epoch.getD current, kind, inputs.flags, inputs.payload⟩⟩]
  | .correlate name correlation payload => engine.messageSendings name correlation payload
  | .fireTimers => engine.timerSendings
  | .work turns => engine.workSendings turns
  | _ => []

namespace Engine

/-- The signals that are sent while one operation after another is performed. -/
def sendingsOf (engine : Engine MemoryStore) : List EngineOperation -> List Sending
  | [] => []
  | operation :: rest =>
    operation.sendings engine ++ sendingsOf (outcome operation.perform engine).2 rest

/-! ## Nothing is missing -/

/-- An engine is led to another one by just the signals that are listed, besides steps that
deliver none. -/
inductive Sends (first : Engine MemoryStore) : List Sending -> Engine MemoryStore -> Prop where
  | refl : Sends first [] first
  | pass {sendings middle last} (prior : Sends first sendings middle)
      (advances : Advances .silent middle last) : Sends first sendings last
  | install {sendings middle} (prior : Sends first sendings middle) (program : Program) :
    Sends first sendings (outcome (install program) middle).2
  | send {sendings middle} (prior : Sends first sendings middle) (signal : WakeSignal) :
    Sends first (sendings ++ [⟨middle, signal⟩]) (Sending.after ⟨middle, signal⟩)

namespace Sends

variable {engine first middle last : Engine MemoryStore} {sendings later : List Sending}

theorem single (engine : Engine MemoryStore) (signal : WakeSignal) :
    Sends engine [⟨engine, signal⟩] (Sending.after ⟨engine, signal⟩) := .send .refl signal

theorem trans (prior : Sends first sendings middle) (rest : Sends middle later last) :
    Sends first (sendings ++ later) last := by
  induction rest with
  | refl => simpa using prior
  | pass _ advances ih => exact .pass ih advances
  | install _ program ih => exact .install ih program
  | send _ signal ih =>
    rw [← List.append_assoc]
    exact .send ih signal

/-- What follows an action may be silent. -/
theorem bind {α β : Type} {action : EngineAction MemoryStore α}
    {next : α -> EngineAction MemoryStore β}
    (sends : Sends engine sendings (outcome action engine).2)
    (follows : ∀ value, Follows .silent (next value)) :
    Sends engine sendings (outcome (action >>= next) engine).2 := by
  rw [outcome_bind]
  rcases found : outcome action engine with ⟨result, after⟩
  rw [found] at sends
  cases result with
  | ok value => exact .pass sends (follows value after)
  | error error => exact sends

theorem advances (sends : Sends first sendings last) : Advances .any first last := by
  induction sends with
  | refl => exact .refl
  | pass _ advances ih => exact ih.trans advances.any
  | install _ program ih => exact ih.trans (follows_install trivial _)
  | send _ signal ih => exact ih.trans (follows_signal trivial signal _)

/-- A signal is sent on the way from the first engine to the last one. -/
theorem passes (sends : Sends first sendings last) {sending : Sending}
    (listed : sending ∈ sendings) :
    Advances .any first sending.engine ∧ Advances .any sending.after last := by
  induction sends with
  | refl => cases listed
  | pass _ advances ih =>
    obtain ⟨before, rest⟩ := ih listed
    exact ⟨before, rest.trans advances.any⟩
  | install _ program ih =>
    obtain ⟨before, rest⟩ := ih listed
    exact ⟨before, rest.trans (follows_install trivial _)⟩
  | send prior signal ih =>
    rcases List.mem_append.1 listed with former | new
    · obtain ⟨before, rest⟩ := ih former
      exact ⟨before, rest.trans (follows_signal trivial signal _)⟩
    · cases List.mem_singleton.1 new
      exact ⟨prior.advances, .refl⟩

/-- A signal that is listed after another one is sent after it. -/
theorem pairwise (sends : Sends first sendings last) :
    sendings.Pairwise (fun earlier later => Advances .any earlier.after later.engine) := by
  induction sends with
  | refl => exact .nil
  | pass _ _ ih => exact ih
  | install _ _ ih => exact ih
  | send prior signal ih =>
    refine List.pairwise_append.2 ⟨ih, List.pairwise_singleton _ _, ?_⟩
    intro earlier listed later new
    cases List.mem_singleton.1 new
    exact (prior.passes listed).2

/-- Whenever a signal is sent, stored states are sound and programs are at hand. -/
theorem supplied (sends : Sends first sendings last) (sound : first.Sound)
    (supplied : first.Supplied) :
    (last.Sound ∧ last.Supplied) ∧
      ∀ sending ∈ sendings, sending.engine.Sound ∧ sending.engine.Supplied := by
  have steps : ∀ {scope : Scope} {engine next : Engine MemoryStore},
      (∀ program, ¬ scope.installs program) -> Advances scope engine next ->
      engine.Sound ∧ engine.Supplied -> next.Sound ∧ next.Supplied := by
    intro scope engine next brings advances
    refine @Advances.preserves scope _ _ (fun engine => engine.Sound ∧ engine.Supplied) ?_ advances
    rintro engine next advance ⟨sound, supplied⟩
    exact ⟨advance.sound sound, advance.supplied sound supplied brings⟩
  induction sends with
  | refl => exact ⟨⟨sound, supplied⟩, nofun⟩
  | pass _ advances ih => exact ⟨steps (fun _ => id) advances ih.1, ih.2⟩
  | install _ program ih =>
    have installed : Follows .any (Engine.install program) := follows_install trivial
    refine ⟨⟨?_, ih.1.2.install program⟩, ih.2⟩
    exact (installed _).preserves (fun _ _ advance sound => advance.sound sound) ih.1.1
  | send _ signal ih =>
    have delivered : Follows ⟨fun _ => True, fun _ => False⟩ (Engine.signal signal) :=
      follows_signal trivial signal
    refine ⟨steps (fun _ => id) (delivered _) ih.1, fun sending listed => ?_⟩
    rcases List.mem_append.1 listed with former | new
    · exact ih.2 sending former
    · cases List.mem_singleton.1 new
      exact ih.1

end Sends

theorem outcome_attempted (request : EngineAction MemoryStore Bool)
    (engine : Engine MemoryStore) : outcome (attempted request) engine =
      (.ok ((outcome request engine).1.toOption.getD false), (outcome request engine).2) := by
  rw [attempted, outcome_tryCatch]
  rcases outcome request engine with ⟨result, after⟩
  cases result with
  | ok met => rfl
  | error error => rfl

theorem outcome_wakes (engine : Engine MemoryStore) (signal : WakeSignal) :
    outcome (wakes signal) engine =
      ((Sending.answer ⟨engine, signal⟩).map (· == .woken), Sending.after ⟨engine, signal⟩) := by
  rw [wakes, outcome_bind, Sending.answer, Sending.after]
  rcases outcome (Engine.signal signal) engine with ⟨result, after⟩
  cases result with
  | ok delivery => rfl
  | error error => rfl

theorem sends_mapM_wakes (signal : FiberReference -> WakeSignal)
    (references : List FiberReference) (engine : Engine MemoryStore) :
    Sends engine (engine.sendAll true (references.map signal))
      (outcome (references.mapM (fun reference => wakes (signal reference))) engine).2 := by
  induction references generalizing engine with
  | nil => exact .refl
  | cons reference rest ih =>
    have sent := Sends.single engine (signal reference)
    rw [List.mapM_cons, outcome_bind, outcome_wakes, List.map_cons, sendAll]
    cases Sending.answer ⟨engine, signal reference⟩ with
    | error error => exact sent
    | ok delivery => exact sent.trans (.bind (ih _) (fun _ => .pure _))

theorem sends_mapM_attempted (signal : FiberReference -> WakeSignal)
    (references : List FiberReference) (engine : Engine MemoryStore) :
    Sends engine (engine.sendAll false (references.map signal))
      (outcome (references.mapM (fun reference => attempted (wakes (signal reference))))
        engine).2 := by
  induction references generalizing engine with
  | nil => exact .refl
  | cons reference rest ih =>
    have sent := Sends.single engine (signal reference)
    rw [List.mapM_cons, outcome_bind, outcome_attempted, outcome_wakes, List.map_cons, sendAll]
    exact sent.trans (.bind (ih _) (fun _ => .pure _))

theorem sends_correlate (name correlation : String) (payload : Option Json)
    (engine : Engine MemoryStore) :
    Sends engine (engine.messageSendings name correlation payload)
      (outcome (correlate name correlation payload) engine).2 := by
  have asked := outcome_ask_read (fun store => store.waiters name correlation) engine
  rw [correlate, show ProcessStore.waiters name correlation = StoreAction.read
    (fun store : MemoryStore => .ok (store.waiters name correlation)) from rfl,
    outcome_bind_ok asked]
  exact .bind (sends_mapM_wakes _ _ engine) (fun _ => .pure _)

theorem sends_fireTimers (engine : Engine MemoryStore) :
    Sends engine engine.timerSendings (outcome fireTimers engine).2 := by
  have asked := outcome_ask_read (fun store => store.dueTimers engine.now) engine
  rw [fireTimers, outcome_bind_ok (outcome_getThe engine),
    show ProcessStore.dueTimers engine.now = StoreAction.read
      (fun store : MemoryStore => .ok (store.dueTimers engine.now)) from rfl,
    outcome_bind_ok asked]
  exact .bind (sends_mapM_attempted _ _ engine) (fun _ => .pure _)

theorem sends_sweep (engine : Engine MemoryStore) :
    Sends engine (if engine.config.sweepTimers then engine.timerSendings else [])
      (outcome sweep engine).2 := by
  have rest : Follows .silent (do
      (<- ask ProcessStore.runnable).forM enqueue
      let _ <- pruneLocks : EngineAction MemoryStore Unit) :=
    .bind (follows_read MemoryStore.runnable) (fun _ =>
      .bind (.forM (fun id => follows_enqueue id) _) (fun _ =>
        .bind follows_pruneLocks (fun _ => .pure _)))
  rw [sweep, outcome_bind_ok (outcome_getThe engine)]
  split
  · exact .bind (sends_fireTimers engine) (fun _ => rest)
  · exact .pass .refl (rest engine)

theorem sends_work (turns : Nat) (engine : Engine MemoryStore) :
    Sends engine (engine.workSendings turns) (outcome (work turns) engine).2 := by
  have idle : Follows .silent isIdle := follows_isIdle
  have taken : Follows .silent dequeue := follows_dequeue
  induction turns generalizing engine with
  | zero => exact .pass .refl (idle engine)
  | succ turns ih =>
    have begun := Sends.pass .refl (taken engine)
    rw [work, outcome_bind, workSendings]
    generalize outcome dequeue engine = dequeued at begun ⊢
    obtain ⟨next, after⟩ := dequeued
    cases next with
    | error error => exact begun
    | ok next =>
      cases next with
      | some id =>
        have admitted : Scope.silent.admits .run := nofun
        have runs : Follows .silent (run id) := follows_run admitted id
        have ran : Follows .silent (attempted (do
            run id
            return true)) := .attempted (.bind runs (fun _ => .pure true))
        have sent := begun.pass (ran after)
        dsimp only
        rw [outcome_bind]
        rw [outcome_attempted] at sent ⊢
        exact sent.trans (ih _)
      | none =>
        have swept : Sends after _ (outcome (sweep >>= fun _ => isIdle) after).2 :=
          .bind (sends_sweep after) (fun _ => idle)
        dsimp only
        generalize tidied : outcome (sweep >>= fun _ => isIdle) after = checked at swept ⊢
        rw [← bind_assoc, outcome_bind, tidied]
        obtain ⟨rest, checked⟩ := checked
        have sent := begun.trans swept
        cases rest with
        | error error => exact sent
        | ok rests =>
          cases rests with
          | true => exact sent
          | false => exact sent.trans (ih checked)

theorem sends_deploy (graph : ProcessGraph) (engine : Engine MemoryStore) :
    Sends engine [] (outcome (deploy graph) engine).2 := by
  rw [Engine.deploy, outcome_bind, check, outcome_liftExcept]
  cases graph.compile with
  | error error => exact .refl
  | ok program => exact .install .refl program

theorem outcome_epochOf (owner : InstanceId) (id : FiberId) (engine : Engine MemoryStore) :
    outcome (epochOf owner id) engine =
      (.ok ((engine.fiber? owner id).elim 0 Fiber.epoch), engine) := by
  rw [epochOf, outcome_bind, outcome_tryCatch, outcome_map, outcome_stateOf, fiber?]
  cases engine.store.states.get? owner with
  | none => rfl
  | some state => rfl

end Engine

open Engine

/-- An operation sends the signals that are listed for it and no others. -/
theorem EngineOperation.sends (operation : EngineOperation) (engine : Engine MemoryStore) :
    Sends engine (operation.sendings engine) (outcome operation.perform engine).2 := by
  have silent : (∀ purpose, operation.scope.admits purpose -> purpose ≠ .signal) ->
      (∀ program, ¬ operation.scope.installs program) ->
      Sends engine [] (outcome operation.perform engine).2 := fun quiet brings =>
    .pass .refl ((operation.advances engine).widen quiet (fun program => brings program))
  cases operation with
  | deploy graph =>
    rw [show (EngineOperation.deploy graph).perform =
      EngineReply.installed <$> Engine.deploy graph from rfl, outcome_map]
    exact sends_deploy graph engine
  | install program =>
    rw [show (EngineOperation.install program).perform =
      EngineReply.installed <$> Engine.install program from rfl, outcome_map]
    dsimp only
    exact .install .refl program
  | signal id fiber epoch kind inputs =>
    cases epoch with
    | some epoch =>
      rw [show (EngineOperation.signal id fiber (some epoch) kind inputs).perform = (do
        EngineReply.delivery <$> Engine.signal
          ⟨id, fiber, <- pure epoch, kind, inputs.flags, inputs.payload⟩) from rfl,
        outcome_bind_ok (outcome_pure _ _), outcome_map]
      exact .single engine _
    | none =>
      rw [show (EngineOperation.signal id fiber none kind inputs).perform = (do
        EngineReply.delivery <$> Engine.signal
          ⟨id, fiber, <- epochOf id fiber, kind, inputs.flags, inputs.payload⟩) from rfl,
        outcome_bind_ok (outcome_epochOf _ _ _), outcome_map]
      exact .single engine _
  | correlate name correlation payload =>
    rw [show (EngineOperation.correlate name correlation payload).perform =
      EngineReply.count <$> Engine.correlate name correlation payload from rfl, outcome_map]
    exact sends_correlate name correlation payload engine
  | fireTimers =>
    rw [show EngineOperation.fireTimers.perform =
      EngineReply.count <$> Engine.fireTimers from rfl, outcome_map]
    exact sends_fireTimers engine
  | work turns =>
    rw [show (EngineOperation.work turns).perform =
      EngineReply.worked <$> Engine.work turns from rfl, outcome_map]
    exact sends_work turns engine
  | _ =>
    exact silent (by rintro purpose admitted rfl; cases admitted) (fun program brings => brings)

/-- So do any number of operations. -/
theorem Engine.sends_performAll (engine : Engine MemoryStore) (operations : List EngineOperation) :
    Sends engine (engine.sendingsOf operations) (engine.performAll operations) := by
  induction operations generalizing engine with
  | nil => exact .refl
  | cons operation rest ih => exact (operation.sends engine).trans (ih _)

end ProcessEngine
