import ProcessEngine.Fiber.Wait

/-!
# Fibers

A fiber is one thread of control of an instance. Its epoch rises with every wake and
every turn of a loop, so a signal that was meant for an earlier wait is recognised.
A fiber that came out of a split holds a ticket for each join that expects it. A
watchdog is a fiber that waits for a timer on behalf of another one, its host.
-/

namespace ProcessEngine

/-- The right to arrive once at a join. -/
structure JoinTicket where
  join : NodeKey
  /-- The activation of the join that the ticket is for. -/
  activation : Nat
deriving DecidableEq

/-- What a watchdog does when its timer fires. -/
structure Watch where
  host : FiberId
  boundary : NodeKey
  /-- Whether the host is ended. -/
  interrupting : Bool
  /-- Where the watchdog goes on. -/
  target : Address
deriving DecidableEq

/-- One thread of control. -/
structure Fiber where
  id : FiberId
  owner : InstanceId
  /-- The place of the fiber in the order in which fibers were made. -/
  sequence : Nat
  /-- The address of the next instruction. -/
  pc : Address
  /-- The values that are being computed with, the topmost first. -/
  stack : List Value
  registers : List Value
  wait : Wait
  epoch : Nat
  /-- The joins that expect the fiber, the innermost first. -/
  tickets : List JoinTicket
  /-- The watchdog that watches over the fiber. -/
  watchdog : Option FiberId
  /-- What the fiber watches over, if it is a watchdog. -/
  watch : Option Watch
deriving DecidableEq

namespace Fiber

/-- A fiber that can run from an address on. -/
def create (id : FiberId) (owner : InstanceId) (sequence : Nat) (pc : Address) : Fiber where
  id := id
  owner := owner
  sequence := sequence
  pc := pc
  stack := []
  registers := List.replicate registerCount default
  wait := .ready
  epoch := 0
  tickets := []
  watchdog := none
  watch := none

/-- The fiber after its wait has ended; it goes on at an address in a new epoch. -/
def wake (fiber : Fiber) (pc : Address) : Fiber :=
  { fiber with wait := .ready, pc := pc, epoch := fiber.epoch + 1 }

/-- Whether the fiber is a watchdog. -/
def isWatchdog (fiber : Fiber) : Bool := fiber.watch.isSome

end Fiber

instance : JsonCodec JoinTicket where
  encode ticket := .object [("join", encode ticket.join),
    ("activation", Encode.nat ticket.activation)]
  reader := Decode.record do
    return ⟨<- Decode.field "join" reader, <- Decode.field "activation" Decode.nat64⟩

instance : JsonCodec Watch where
  encode watch := .object [("host", encode watch.host), ("boundary", encode watch.boundary),
    ("interrupting", .bool watch.interrupting), ("target", Encode.nat watch.target)]
  reader := Decode.record do
    return ⟨<- Decode.field "host" reader, <- Decode.field "boundary" reader,
      <- Decode.field "interrupting" reader, <- Decode.field "target" Decode.nat32⟩

/-- In the written form the topmost value and the innermost ticket come last. -/
instance : JsonCodec Fiber where
  encode fiber := .object [("id", encode fiber.id), ("instance", encode fiber.owner),
    ("seq", Encode.nat fiber.sequence), ("pc", Encode.nat fiber.pc),
    ("stack", Encode.list encode fiber.stack.reverse),
    ("registers", Encode.list encode fiber.registers),
    ("wait", encode fiber.wait), ("loop_epoch", Encode.nat fiber.epoch),
    ("tickets", Encode.list encode fiber.tickets.reverse),
    ("watchdog", Encode.nullable encode fiber.watchdog),
    ("watch", Encode.nullable encode fiber.watch)]
  reader := Decode.record do
    return ⟨<- Decode.field "id" reader, <- Decode.field "instance" reader,
      <- Decode.field "seq" Decode.nat64, <- Decode.field "pc" Decode.nat32,
      (<- Decode.field "stack" (Decode.list reader)).reverse,
      <- Decode.field "registers" (Decode.list reader), <- Decode.field "wait" reader,
      <- Decode.field "loop_epoch" Decode.nat64,
      (<- Decode.field "tickets" (Decode.list reader)).reverse,
      <- Decode.optional "watchdog" reader, <- Decode.optional "watch" reader⟩

end ProcessEngine
