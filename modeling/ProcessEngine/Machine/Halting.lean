import ProcessEngine.UnitOfWork

/-!
# Halted fibers

A fiber that cannot go on waits for an operator to resolve an incident. Code that faults
at a gateway is entered again from the start of the gateway's node.
-/

namespace ProcessEngine

namespace UnitOfWork

/-- Records an incident and lets its fiber wait for its resolution. -/
def halt (work : UnitOfWork) (incident : Incident) : UnitOfWork :=
  ((work.emit (.incidentRaised incident.id incident.kind)).park incident.fiber incident.address
    (.incident incident.id)).putIncident incident

/-- Halts a fiber on a new incident of the node whose code holds the address. -/
def raise (work : UnitOfWork) (symbols : SymbolTable) (fiber : FiberId) (address : Address)
    (kind : FaultClass) (message : String) : UnitOfWork :=
  let (id, supply) := work.supply.draw
  { work with supply := supply }.halt
    { Incident.raise id work.record.id fiber address kind message work.time with
      node := symbols.nodeContaining? address }

/-- Where the fiber of an incident begins again: at the node that faulted, if it is known. -/
def restartAddress (program : Program) (incident : Incident) : Address :=
  (incident.node >>= program.entry?).getD incident.address

/-- Lets a fiber that waits for the resolution of an incident begin again; tells whether one
did. -/
def restart (work : UnitOfWork) (program : Program) (incident : Incident) : Bool × UnitOfWork :=
  match work.fiber? incident.fiber with
  | none => (false, work)
  | some fiber =>
    if fiber.wait = .incident incident.id then
      (true, work.wake incident.fiber (restartAddress program incident))
    else (false, work)

end UnitOfWork

/-- The key of a node, or its number if it has none. -/
def SymbolTable.nodeText (symbols : SymbolTable) (index : Nat) : String :=
  (symbols.node? index).elim ("#" ++ toString index) NodeKey.text

/-- The message for code that stops on purpose. -/
def RoutingFault.message (symbols : SymbolTable) : RoutingFault -> String
  | .noRoute gateway =>
    "exclusive gateway " ++ symbols.nodeText gateway ++ " has no true condition and no default"
  | .noBranch gateway =>
    "inclusive gateway " ++ symbols.nodeText gateway ++ " selected no branch and has no default"

end ProcessEngine
