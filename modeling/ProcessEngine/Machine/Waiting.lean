import ProcessEngine.Machine.Error
import ProcessEngine.UnitOfWork

/-!
# Waits that instructions begin

What a fiber waits for is fixed when its wait begins: a timer gets its due time, a
message its correlation and a job its key.
-/

namespace ProcessEngine

/-- The input of a job: what the instance works on and its flags. -/
def ProcessInstance.jobInput (record : ProcessInstance) : Json :=
  .list [record.payload, record.flags.encode]

/-- The first attempt of the job that a fiber hands out. -/
def Job.first (record : ProcessInstance) (fiber : Fiber) (node : NodeKey) (taskType : String)
    (retries : Nat) (now : Instant) : Job where
  key := .generate record.id node fiber.sequence fiber.epoch record.jobInput
  owner := record.id
  fiber := fiber.id
  epoch := fiber.epoch
  node := node
  taskType := taskType
  payload := record.payload
  flags := record.flags
  attempt := 1
  retriesRemaining := retries
  maximumRetries := retries
  status := .pending
  notBefore := now
  claimedAt := none
  claimedBy := none
  lastError := none
  createdAt := now

/-- The correlation that a message must have. -/
def CorrelationSource.resolve (record : ProcessInstance) (fiber : Fiber) :
    CorrelationSource -> Except MachineError String
  | .processInstance => .ok record.correlation
  | .register index =>
    match fiber.registers[index]? with
    | some value => .ok value.display
    | none => .error (.registerOutOfRange fiber.pc index)

namespace UnitOfWork

/-- Lets a fiber wait at the instruction it has reached. -/
def suspend (work : UnitOfWork) (fiber : Fiber) (wait : Wait) : UnitOfWork :=
  work.park fiber.id fiber.pc wait

/-- Hands out a job and lets its fiber wait for the result. -/
def handOut (work : UnitOfWork) (fiber : Fiber) (job : Job) : UnitOfWork :=
  (work.dispatch job).suspend fiber (.job job.key)

/-- Makes a watchdog for a fiber, which goes on. -/
def watchOver (work : UnitOfWork) (host : Fiber) (boundary : NodeKey) (duration : Nat)
    (interrupting : Bool) (target : Address) : UnitOfWork :=
  let (watchdog, work) := work.spawn host.pc (some host.id)
  let armed := work.updateFiber watchdog (fun fiber => { fiber with
    wait := .timer (work.time.after duration)
    watch := some ⟨host.id, boundary, interrupting, target⟩ })
  armed.updateFiber host.id (fun fiber =>
    { fiber with watchdog := some watchdog, pc := fiber.pc + 1 })

/-- Takes the watchdog of a fiber away. -/
def dropWatchdog (work : UnitOfWork) (fiber : Fiber) : UnitOfWork :=
  let freed := work.updateFiber fiber.id (fun fiber => { fiber with watchdog := none })
  fiber.watchdog.elim freed freed.endFiber

end UnitOfWork

end ProcessEngine
