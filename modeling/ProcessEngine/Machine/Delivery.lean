import ProcessEngine.Machine.Ending
import ProcessEngine.Machine.Waiting
import ProcessEngine.Signal

/-!
# Delivery of signals

A signal ends the wait of its fiber if the instance runs, the fiber exists in the epoch
that the sender has seen and the wait is for just that signal; otherwise it is discarded
and only the log says so (`UnitOfWork.deliver`). The first arm of a race to be triggered
wins. A watchdog whose timer fires takes the place of its host or starts beside it.
-/

namespace ProcessEngine

/-- Why a signal has no effect. -/
inductive DiscardReason where
  | notRunning (status : InstanceStatus)
  | fiberGone
  | superseded (sent current : Nat)
  /-- No arm of the race was triggered. -/
  | noArm (race : NodeKey)
  | otherWait (wait : Wait)
deriving DecidableEq

/-- The text of a reason in the log. -/
def DiscardReason.text : DiscardReason -> String
  | .notRunning status => "instance is " ++ status.name
  | .fiberGone => "fiber no longer exists"
  | .superseded sent current =>
    "epoch " ++ toString sent ++ " superseded by " ++ toString current
  | .noArm race => "no armed trigger of race " ++ race.text ++ " matches"
  | .otherWait wait => "fiber is waiting on " ++ wait.label

/-- What comes of a signal. -/
inductive Delivery where
  | woken
  | discarded (reason : DiscardReason)
deriving DecidableEq

/-- How a fiber goes on after its wait. -/
inductive Resumption where
  | goOn (pc : Address)
  | win (race : NodeKey) (winner : Address) (losers : List Address)
  | fire (watch : Watch)
deriving DecidableEq

/-- The arm that is due first; of several, the one that is listed first. -/
def ArmWait.firstDue? (now : Instant) : List ArmWait -> Option (Instant × Address)
  | [] => none
  | arm :: rest =>
    let later := firstDue? now rest
    match arm.due? with
    | none => later
    | some due =>
      if now < due then later
      else match later with
        | none => some (due, arm.target)
        | some (other, target) =>
          if other < due then some (other, target) else some (due, arm.target)

/-- Where the arm that a signal triggers leads. -/
def ArmWait.winner? (arms : List ArmWait) (now : Instant) : WakeKind -> Option Address
  | .timer => (firstDue? now arms).map Prod.snd
  | .message name correlation =>
    (arms.find? (fun arm => arm.awaits name correlation)).map ArmWait.target
  | .human _ => none

namespace Fiber

/-- How a wait goes on after a signal, if the signal ends it. -/
def answer (fiber : Fiber) (now : Instant) (kind : WakeKind) : Except DiscardReason Resumption :=
  let refused := Except.error (.otherWait fiber.wait)
  match fiber.wait, kind with
  | .timer due, .timer =>
    if due ≤ now then .ok (fiber.watch.elim (.goOn (fiber.pc + 1)) .fire) else refused
  | .message name correlation, .message name' correlation' =>
    if name = name' ∧ correlation = correlation' then .ok (.goOn (fiber.pc + 1)) else refused
  | .human task, .human task' => if task = task' then .ok (.goOn (fiber.pc + 1)) else refused
  | .race node arms, kind =>
    match ArmWait.winner? arms now kind with
    | none => .error (.noArm node)
    | some winner =>
      .ok (.win node winner ((arms.map ArmWait.target).filter (fun target => target != winner)))
  | _, _ => refused

end Fiber

/-- Sets flags and perhaps a new payload. -/
def ProcessInstance.accept (record : ProcessInstance) (flags : Flags) (payload : Option Json) :
    ProcessInstance :=
  payload.elim (record.mergeFlags flags) (record.mergeFlags flags).setPayload

namespace UnitOfWork

/-- How the fiber of a signal goes on, if the signal has an effect. -/
def resumption (work : UnitOfWork) (signal : WakeSignal) : Except DiscardReason Resumption :=
  if !work.record.isRunning then .error (.notRunning work.record.status)
  else match work.fiber? signal.fiber with
    | none => .error .fiberGone
    | some fiber =>
      if fiber.epoch = signal.epoch then fiber.answer work.time signal.kind
      else .error (.superseded signal.epoch fiber.epoch)

/-- Ends the host of a watchdog and cancels the job it waits for; yields its tickets. -/
def interrupt (work : UnitOfWork) (host : FiberId) : List JoinTicket × UnitOfWork :=
  match work.fiber? host with
  | none => ([], work)
  | some fiber => (fiber.tickets, (work.cancelAwaitedJob fiber).endFiber host)

/-- Lets a watchdog take the place of its host, or start beside it without tickets. -/
def fire (work : UnitOfWork) (watchdog : FiberId) (watch : Watch) : UnitOfWork :=
  let logged := work.emit (.boundaryFired watch.boundary watch.interrupting)
  let (tickets, freed) :=
    if watch.interrupting then logged.interrupt watch.host
    else ([], logged.updateFiber watch.host (fun host => { host with watchdog := none }))
  (freed.updateFiber watchdog (fun fiber => { fiber with watch := none, tickets := tickets })).wake
    watchdog watch.target

/-- Lets a fiber go on. -/
def resume (work : UnitOfWork) (id : FiberId) : Resumption -> UnitOfWork
  | .goOn pc => work.wake id pc
  | .win race winner losers =>
    (losers.foldl (fun (work : UnitOfWork) target => work.emit (.raceArmCancelled race target))
      (work.emit (.raceWon race winner))).wake id winner
  | .fire watch => work.fire id watch

/-- Delivers a signal. -/
def deliver (work : UnitOfWork) (signal : WakeSignal) : Delivery × UnitOfWork :=
  match work.resumption signal with
  | .error reason => (.discarded reason, work.emit (.signalDiscarded signal.fiber reason.text))
  | .ok how =>
    (.woken, (work.updateRecord (fun record => record.accept signal.flags signal.payload)).resume
      signal.fiber how)

/-- Lets a fiber go on after its job was done. -/
def resumeJob (work : UnitOfWork) (id : FiberId) (completion : JobCompletion) :
    Except MachineError UnitOfWork :=
  match work.fiber? id with
  | none => .error (.missingFiber id)
  | some fiber =>
    .ok ((work.updateRecord (fun record =>
      record.accept completion.flags completion.payload)).wake id (fiber.pc + 1))

/-- Where a business error of the job that a fiber waits for leads. -/
def errorRoute? (program : Program) (fiber : Fiber) (code : String) : Option Address :=
  match program.instruction? fiber.pc with
  | some (.dispatch _ _ _ routes) =>
    (routes.find? (fun route => route.code == code)).map ErrorRoute.target
  | _ => none

/-- Lets a fiber take an error route, without its watchdog. -/
def routeError (work : UnitOfWork) (id : FiberId) (target : Address) :
    Except MachineError UnitOfWork :=
  match work.fiber? id with
  | none => .error (.missingFiber id)
  | some fiber => .ok ((work.dropWatchdog fiber).wake id target)

end UnitOfWork

end ProcessEngine
