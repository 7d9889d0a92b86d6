import ProcessEngine.Machine.Ending

/-!
# Splits and joins of fibers

A split ends its fiber and makes one for each branch, with a ticket for the join. The
last branch to arrive at the join goes on and gives its ticket up; the others end.
-/

namespace ProcessEngine

namespace UnitOfWork

/-- Makes the fiber of one branch. -/
def branch (parent : Fiber) (ticket : JoinTicket) (work : UnitOfWork) (target : Address) :
    UnitOfWork :=
  let (child, work) := work.spawn target (some parent.id)
  work.updateFiber child (fun fiber =>
    { fiber with tickets := ticket :: parent.tickets, epoch := parent.epoch })

/-- Replaces a fiber by one for each target, all of which are expected at a join. -/
def fork (work : UnitOfWork) (parent : Fiber) (join : NodeKey) (targets : List Address) :
    UnitOfWork :=
  let (activation, work) := work.activateJoin join targets.length
  (targets.foldl (branch parent ⟨join, activation⟩) work).endFiber parent.id

/-- Whether a ticket is for a join. -/
def isFor (join : NodeKey) (ticket : JoinTicket) : Bool := ticket.join == join

/-- Brings a fiber to a join, where it spends its innermost ticket for it. -/
def arriveAt (work : UnitOfWork) (fiber : Fiber) (join : NodeKey) :
    Except LifecycleError UnitOfWork :=
  match fiber.tickets.find? (isFor join) with
  | none => .ok (work.retire fiber.id).completeIfIdle
  | some ticket => do
    let (arrival, work) <- work.arrive ticket
    match arrival with
    | .satisfied _ =>
      return work.updateFiber fiber.id (fun fiber =>
        { fiber with tickets := fiber.tickets.eraseP (isFor join), pc := fiber.pc + 1 })
    | .waiting _ _ => return work.retire fiber.id
    | .stale => return (work.retire fiber.id).completeIfIdle

end UnitOfWork

end ProcessEngine
