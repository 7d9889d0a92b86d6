import ProcessEngine.Engine.Instances
import ProcessEngine.Machine.Halting

/-!
# Incidents and dead letters of an engine

An operator resolves an incident, which lets its fiber begin again unless a job is set
aside for it; such a fiber waits until the job is put back. A job that is given up leaves
its fiber where it is.
-/

namespace ProcessEngine

namespace Incident

/-- Resolves the incident in a unit of work and stores it; what is done before it is stored is
given. -/
def settle (incident : Incident) (resolution : String) (work : UnitOfWork)
    (before : Incident -> UnitOfWork -> UnitOfWork) : Except EngineError UnitOfWork := do
  let resolved <- (incident.resolve resolution work.time).mapError .lifecycle
  return (before resolved (work.emit (.incidentResolved incident.id))).putIncident resolved

/-- The change that resolves the incident; its fiber begins again if no job is set aside. -/
def settlement (incident : Incident) (resolution : String) : Change Unit :=
  fun program work => do
    let restart (resolved : Incident) (work : UnitOfWork) :=
      if resolved.jobKey.isNone && work.record.isRunning then (work.restart program resolved).2
      else work
    return ((), <- incident.settle resolution work restart)

end Incident

namespace DeadLetter

/-- The job as it is put back. -/
def renewed (letter : DeadLetter) (now : Instant) : Job :=
  { letter.job with
    status := .pending
    retriesRemaining := letter.job.maximumRetries
    attempt := letter.job.attempt + 1
    notBefore := now
    claimedAt := none
    claimedBy := none }

/-- Where the fiber of the job waits for an operator. -/
def halted? (letter : DeadLetter) (work : UnitOfWork) : Option Address :=
  work.fiber? letter.job.fiber >>= fun fiber =>
    match fiber.wait with
    | .incident _ => some fiber.pc
    | _ => none

/-- The change that puts the job back, lets its fiber wait for it and resolves an incident. -/
def requeue (letter : DeadLetter) (linked : Option Incident) : Change Unit := fun _ work => do
  work.ensureRunning
  match letter.halted? work with
  | none => .error (.orphanedDeadLetter letter.key)
  | some pc =>
    let parked := work.park letter.job.fiber pc (.job letter.key)
    let requeued := (parked.updateJob (letter.renewed work.time)).removeDeadLetter letter.place
    let settled <- match linked.filter Incident.isOpen with
      | some incident => incident.settle "job requeued" requeued (fun _ work => work)
      | none => .ok requeued
    return ((), settled.emit (.jobRequeued letter.key))

/-- The change that gives the job up. -/
def abandon (letter : DeadLetter) : Change Unit := fun _ work =>
  let cancelled := work.updateJob { letter.job with status := .cancelled }
  .ok ((), (cancelled.removeDeadLetter letter.place).emit (.jobCancelled letter.key))

end DeadLetter

namespace Engine

variable {Store : Type} [ProcessStore Store]

/-- The incident of an identifier. -/
def incidentOf (id : IncidentId) : EngineAction Store Incident :=
  require (.unknownIncident id) (ProcessStore.incident? id)

/-- Resolves an open incident. -/
def resolve (id : IncidentId) (resolution : String) : EngineAction Store Unit := do
  let owner := (<- incidentOf id).owner
  lock owner
  let incident <- incidentOf id
  if incident.isOpen then transact owner (incident.settlement resolution)
  else throw (.alreadyResolved id)

/-- The dead letter at a place. -/
def deadLetterAt (place : DeadLetterKey) : EngineAction Store DeadLetter :=
  require (.unknownDeadLetter place) (ProcessStore.deadLetter? place)

/-- Puts the job of a dead letter back. -/
def requeue (place : DeadLetterKey) : EngineAction Store Unit := do
  let owner := (<- deadLetterAt place).job.owner
  lock owner
  let letter <- deadLetterAt place
  let linked <- match letter.incident with
    | some id => ask (ProcessStore.incident? id)
    | none => pure none
  transact owner (letter.requeue linked)

/-- Gives up the job of a dead letter. -/
def cancelDeadLetter (place : DeadLetterKey) : EngineAction Store Unit := do
  let owner := (<- deadLetterAt place).job.owner
  lock owner
  let letter <- deadLetterAt place
  transact owner letter.abandon

/-- Drops the dead letters that have expired and counts them. -/
def purge : EngineAction Store Nat := do
  ask (ProcessStore.purge (<- getThe (Engine Store)).now)

end Engine

end ProcessEngine
