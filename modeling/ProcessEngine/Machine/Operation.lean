import ProcessEngine.Machine.Delivery
import ProcessEngine.Machine.Run

/-!
# Operations of the machine

Everything that can be asked of a unit of work while a program is loaded, as data: an
operation has a written form and a written result, so work can be scripted.
-/

namespace ProcessEngine

/-- Something to do in a unit of work. -/
inductive MachineOperation where
  | start
  | run (maximumSteps : Nat)
  /-- Delivers a signal; without an epoch it is for the current one. -/
  | deliver (fiber : FiberId) (epoch : Option Nat) (kind : WakeKind) (inputs : JobCompletion)
  | resumeJob (fiber : FiberId) (completion : JobCompletion)
  | cancel (reason : String)
  | errorRoute (fiber : FiberId) (code : String)
  | routeError (fiber : FiberId) (target : Address)
  | halt (fiber : FiberId) (address : Address) (kind : FaultClass) (message : String)
      (node : Option NodeKey)
  | restart (incident : Incident)
  | spawn (pc : Address) (parent : Option FiberId)
  | endFiber (fiber : FiberId)
  | park (fiber : FiberId) (pc : Address) (wait : Wait)
  | wake (fiber : FiberId) (pc : Address)
  | activateJoin (join : NodeKey) (expected : Nat)
  | arrive (ticket : JoinTicket)
  | cancelJob (key : JobKey)
  | pushValue (fiber : FiberId) (value : Value)
  | giveTicket (fiber : FiberId) (ticket : JoinTicket)
  | setFlag (name : String) (value : Value)
  | setCounter (name : String) (value : Int64)
  /-- Lists the fibers that can run. -/
  | ready
  /-- Tells which program is loaded. -/
  | program

/-- The written form of a delivery. -/
def Delivery.toJson : Delivery -> Json
  | .woken => .text "woken"
  | .discarded reason => .object [("discarded", .text reason.text)]

/-- The written form of an arrival. -/
def Arrival.toJson : Arrival -> Json
  | .waiting arrived expected =>
    .object [("waiting", .list [Encode.nat arrived, Encode.nat expected])]
  | .satisfied activation => .object [("satisfied", Encode.nat activation)]
  | .stale => .text "stale"

/-- The written form of a report. -/
def RunReport.toJson (report : RunReport) : Json :=
  .object [("steps", Encode.nat report.steps), ("exhausted", .bool report.exhausted)]

/-- Reads what a job or a signal brings along: flags and perhaps a payload. -/
def JobCompletion.inputs? (json : Json) : Option JobCompletion := do
  return ⟨<- Decode.memberOr "flags" .empty Flags.reader json,
    <- Decode.memberIfAny "payload" Decode.payload json⟩

/-- Reads a completion that is given as such, or whose parts are given. -/
def JobCompletion.given? (json : Json) : Option JobCompletion := do
  match <- Decode.memberIfAny "completion" reader json with
  | some completion => return completion
  | none => inputs? json

namespace MachineOperation

/-- How the operation of a name is read. -/
def reader? : String -> Option (Json -> Option MachineOperation)
  | "start" => some (fun _ => some .start)
  | "run" => some (fun json => do
    return .run (<- Decode.memberOr "max_steps" 10000 Decode.nat64 json))
  | "deliver" => some (fun json => do
    return .deliver (<- Decode.member "fiber" reader json)
      (<- Decode.memberIfAny "epoch" Decode.nat64 json) (<- Decode.member "kind" reader json)
      (<- JobCompletion.inputs? json))
  | "resume_job" => some (fun json => do
    return .resumeJob (<- Decode.member "fiber" reader json) (<- JobCompletion.given? json))
  | "cancel" => some (fun json => do return .cancel (<- Decode.member "reason" reader json))
  | "error_route" => some (fun json => do
    return .errorRoute (<- Decode.member "fiber" reader json) (<- Decode.member "code" reader json))
  | "route_error" => some (fun json => do
    return .routeError (<- Decode.member "fiber" reader json)
      (<- Decode.member "target" Decode.nat32 json))
  | "halt" => some (fun json => do
    return .halt (<- Decode.member "fiber" reader json) (<- Decode.member "addr" Decode.nat32 json)
      (<- Decode.member "class" reader json) (<- Decode.member "message" reader json)
      (<- Decode.memberIfAny "node" reader json))
  | "restart" => some (fun json => do return .restart (<- Decode.member "incident" reader json))
  | "spawn" => some (fun json => do
    return .spawn (<- Decode.member "pc" Decode.nat32 json)
      (<- Decode.memberIfAny "parent" reader json))
  | "end_fiber" => some (fun json => do return .endFiber (<- Decode.member "fiber" reader json))
  | "park" => some (fun json => do
    return .park (<- Decode.member "fiber" reader json) (<- Decode.member "pc" Decode.nat32 json)
      (<- Decode.member "wait" reader json))
  | "wake" => some (fun json => do
    return .wake (<- Decode.member "fiber" reader json) (<- Decode.member "pc" Decode.nat32 json))
  | "activate_join" => some (fun json => do
    return .activateJoin (<- Decode.member "join" reader json)
      (<- Decode.member "expected" Decode.nat32 json))
  | "arrive" => some (fun json => do return .arrive (<- Decode.member "ticket" reader json))
  | "cancel_job" => some (fun json => do return .cancelJob (<- Decode.member "job" reader json))
  | "push" => some (fun json => do
    return .pushValue (<- Decode.member "fiber" reader json) (<- Decode.member "value" reader json))
  | "ticket" => some (fun json => do
    return .giveTicket (<- Decode.member "fiber" reader json)
      (<- Decode.member "ticket" reader json))
  | "set_flag" => some (fun json => do
    return .setFlag (<- Decode.member "name" reader json) (<- Decode.member "value" reader json))
  | "set_counter" => some (fun json => do
    return .setCounter (<- Decode.member "name" reader json) (<- Decode.member "value" reader json))
  | "ready" => some (fun _ => some .ready)
  | "program" => some (fun _ => some .program)
  | _ => none

/-- Does something to a fiber and tells whether it exists. -/
def onFiber (work : UnitOfWork) (id : FiberId) (change : UnitOfWork -> UnitOfWork) :
    Json × UnitOfWork :=
  (.bool (work.fiber? id).isSome, change work)

/-- Does what is asked while a program is loaded; yields the written result. -/
def perform (loaded : Program) (work : UnitOfWork) :
    MachineOperation -> Except MachineError (Json × UnitOfWork)
  | .start =>
    let (id, work) := work.start
    .ok (encode id, work)
  | .run maximumSteps => do
    let (report, work) <- work.run loaded maximumSteps
    return (report.toJson, work)
  | .deliver fiber epoch kind inputs =>
    let current := (work.fiber? fiber).elim 0 Fiber.epoch
    let (delivery, work) := work.deliver
      ⟨work.record.id, fiber, epoch.getD current, kind, inputs.flags, inputs.payload⟩
    .ok (delivery.toJson, work)
  | .resumeJob fiber completion => do return (.null, <- work.resumeJob fiber completion)
  | .cancel reason => do return (.null, <- (work.cancel reason).mapError .lifecycle)
  | .errorRoute fiber code =>
    .ok (Encode.nullable Encode.nat (work.fiber? fiber >>= fun fiber =>
      UnitOfWork.errorRoute? loaded fiber code), work)
  | .routeError fiber target => do return (.null, <- work.routeError fiber target)
  | .halt fiber address kind message node =>
    let (id, supply) := work.supply.draw
    .ok (.null, { work with supply := supply }.halt
      { Incident.raise id work.record.id fiber address kind message work.time with node := node })
  | .restart incident =>
    let (restarted, work) := work.restart loaded incident
    .ok (.bool restarted, work)
  | .spawn pc parent =>
    let (id, work) := work.spawn pc parent
    .ok (encode id, work)
  | .endFiber fiber => .ok (onFiber work fiber (fun work => work.endFiber fiber))
  | .park fiber pc wait => .ok (.null, work.park fiber pc wait)
  | .wake fiber pc => .ok (.null, work.wake fiber pc)
  | .activateJoin join expected =>
    let (activation, work) := work.activateJoin join expected
    .ok (Encode.nat activation, work)
  | .arrive ticket => do
    let (arrival, work) <- (work.arrive ticket).mapError .lifecycle
    return (arrival.toJson, work)
  | .cancelJob key => .ok (.null, work.cancelJob key)
  | .pushValue fiber value => .ok (onFiber work fiber (fun work =>
    work.updateFiber fiber (fun fiber => { fiber with stack := value :: fiber.stack })))
  | .giveTicket fiber ticket => .ok (onFiber work fiber (fun work =>
    work.updateFiber fiber (fun fiber => { fiber with tickets := ticket :: fiber.tickets })))
  | .setFlag name value =>
    .ok (Encode.nullable encode (work.record.flags.get? name), work.updateRecord (fun record =>
      { record with flags := record.flags.insert name value }))
  | .setCounter name value =>
    .ok (Encode.nullable encode (work.record.counters.get? name),
      work.updateRecord (fun record =>
        { record with counters := record.counters.insert name value }))
  | .ready => .ok (Encode.list encode work.state.readyFibers, work)
  | .program => .ok (encode loaded.hash, work)

end MachineOperation

end ProcessEngine
