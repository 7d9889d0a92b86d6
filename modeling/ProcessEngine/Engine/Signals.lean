import ProcessEngine.Engine.Basic
import ProcessEngine.Machine.Delivery

/-!
# Signals of an engine

Signals are delivered to single fibers: to one that is named, to all that wait for a
message, or to all whose timers are due.
-/

namespace ProcessEngine

/-- A signal for the fiber of a reference. -/
def FiberReference.signal (reference : FiberReference) (kind : WakeKind)
    (payload : Option Json) : WakeSignal :=
  ⟨reference.owner, reference.fiber, reference.epoch, kind, .empty, payload⟩

/-- The change that a signal makes; one for an instance that has ended is not even logged. -/
def WakeSignal.change (signal : WakeSignal) : Change Delivery := fun _ work =>
  if work.record.isRunning then .ok (work.deliver signal)
  else .ok (.discarded (.notRunning work.record.status), work)

namespace Engine

variable {Store : Type} [ProcessStore Store]

/-- Delivers a signal. -/
def signal (signal : WakeSignal) : EngineAction Store Delivery := do
  lock signal.owner
  transact signal.owner signal.change

/-- Delivers a signal; tells whether a fiber was woken. -/
def wakes (wakeUp : WakeSignal) : EngineAction Store Bool := do
  return (<- signal wakeUp) == .woken

/-- Delivers a message to every fiber that waits for it and counts the ones it wakes. -/
def correlate (name correlation : String) (payload : Option Json) :
    EngineAction Store Nat := do
  let waiting <- ask (ProcessStore.waiters name correlation)
  let woken <- waiting.mapM (fun reference =>
    wakes (reference.signal (.message name correlation) payload))
  return woken.count true

/-- Wakes every fiber whose timer is due and counts them; one that cannot be woken stays. -/
def fireTimers : EngineAction Store Nat := do
  let due <- ask (ProcessStore.dueTimers (<- getThe (Engine Store)).now)
  let woken <- due.mapM (fun reference => attempted (wakes (reference.signal .timer none)))
  return woken.count true

/-- The epoch of a fiber, or zero for one that is not stored. -/
def epochOf (owner : InstanceId) (fiber : FiberId) : EngineAction Store Nat := do
  let state? <- tryCatch (some <$> stateOf owner) (fun _ => return none)
  return (state? >>= fun state => state.fiber? fiber).elim 0 Fiber.epoch

end Engine

end ProcessEngine
