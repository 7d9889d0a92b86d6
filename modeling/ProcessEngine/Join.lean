import ProcessEngine.Instance.State

/-!
# Joins

A split activates its join: it begins a new count of arrivals and says how many are
expected. Every fiber of the split arrives once with a ticket of that activation, and
the last one that is expected satisfies the join. A ticket of an earlier activation,
or one that comes after the join was satisfied, is stale and counts for nothing.
-/

namespace ProcessEngine

/-- What an arrival at a join comes to. -/
inductive Arrival where
  /-- Others are still expected. -/
  | waiting (arrived expected : Nat)
  /-- The last expected fiber has arrived. -/
  | satisfied (activation : Nat)
  | stale
deriving DecidableEq, Repr

namespace InstanceState

/-- Activates a join; yields the number of the activation. -/
def activateJoin (state : InstanceState) (join : NodeKey) (expected : Nat) :
    Nat × InstanceState :=
  let activation := match state.barriers.get? join with
    | some barrier => barrier.activation + 1
    | none => 1
  (activation, { state with
    barriers := state.barriers.insert join ⟨join, activation, 0⟩
    record := { state.record with expected := state.record.expected.insert join expected } })

/-- The barrier and the expected number of arrivals that a ticket is good for. -/
def admission? (state : InstanceState) (ticket : JoinTicket) : Option (JoinBarrier × Nat) := do
  let barrier <- state.barriers.get? ticket.join
  if barrier.activation = ticket.activation then
    let expected <- state.record.expected.get? ticket.join
    return (barrier, expected)
  else none

/-- Spends a ticket. -/
def arrive (state : InstanceState) (ticket : JoinTicket) :
    Except LifecycleError (Arrival × InstanceState) :=
  match state.admission? ticket with
  | none => .ok (.stale, state)
  | some (barrier, expected) =>
    if expected ≤ barrier.arrived then
      .error (.joinOverflow ticket.join barrier.arrived expected)
    else
      let arrived := barrier.arrived + 1
      let counted := { state with
        barriers := state.barriers.insert ticket.join { barrier with arrived := arrived } }
      if arrived = expected then
        .ok (.satisfied barrier.activation, { counted with record :=
          { counted.record with expected := counted.record.expected.erase ticket.join } })
      else .ok (.waiting arrived expected, counted)

end InstanceState

end ProcessEngine
