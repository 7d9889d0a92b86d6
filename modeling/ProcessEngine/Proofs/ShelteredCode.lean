import ProcessEngine.Fiber.Basic
import ProcessEngine.Proofs.AssembledCode

/-!
# Code that a watchdog watches over

Behind every instruction that sets a watchdog stands code that loads values, waits for an answer
and then takes that watchdog away (`Instruction.Encloses`). A program with such code is shielded
(`Program.Shielded`): as long as a fiber goes through that code it neither splits, ends nor sets
another watchdog. What a graph is lowered to is shielded, because only the wait of a node with a
boundary timer is enclosed so (`Program.Carries.shielded`). The addresses of the two instructions
bound the block that the watchdog guards (`Program.GuardedBlock`).
-/

namespace ProcessEngine

namespace Instruction

variable {Target : Type}

/-- Code that goes on to the instruction that takes the watchdog of a boundary away, with at most
one wait before it. -/
inductive Shelters (boundary : Nat) : List (Instruction Target) -> Prop where
  | unwatch {rest} : Shelters boundary (.unwatch boundary :: rest)
  | loadFlag {flag rest} (after : Shelters boundary rest) :
    Shelters boundary (.loadFlag flag :: rest)
  | storeRegister {index rest} (after : Shelters boundary rest) :
    Shelters boundary (.storeRegister index :: rest)
  | dispatch {taskType node retries routes rest} :
    Shelters boundary (.dispatch taskType node retries routes :: .unwatch boundary :: rest)
  | waitMessage {name source rest} :
    Shelters boundary (.waitMessage name source :: .unwatch boundary :: rest)
  | waitHuman {task rest} : Shelters boundary (.waitHuman task :: .unwatch boundary :: rest)

theorem Shelters.append {boundary : Nat} {code : List (Instruction Target)}
    (shelters : Shelters boundary code) (more : List (Instruction Target)) :
    Shelters boundary (code ++ more) := by
  induction shelters with
  | unwatch => exact .unwatch
  | loadFlag _ ih => exact .loadFlag ih
  | storeRegister _ ih => exact .storeRegister ih
  | dispatch => exact .dispatch
  | waitMessage => exact .waitMessage
  | waitHuman => exact .waitHuman

/-- The boundary that the instruction sets a watchdog for. -/
def guards? : Instruction Target -> Option Nat
  | .watch boundary _ _ _ => some boundary
  | _ => none

/-- The boundary whose watchdog the instruction takes away. -/
def frees? : Instruction Target -> Option Nat
  | .unwatch boundary => some boundary
  | _ => none

/-- Sheltered code takes the watchdog away once, and until then it sets none and takes none
away. -/
theorem Shelters.split {boundary : Nat} {code : List (Instruction Target)}
    (shelters : Shelters boundary code) : ∃ inside rest, code = inside ++ .unwatch boundary :: rest ∧
      ∀ instruction ∈ inside, instruction.guards? = none ∧ instruction.frees? = none := by
  have more {instruction : Instruction Target} {rest : List (Instruction Target)}
      (calm : instruction.guards? = none ∧ instruction.frees? = none)
      (split : ∃ inside others, rest = inside ++ .unwatch boundary :: others ∧
        ∀ instruction ∈ inside, instruction.guards? = none ∧ instruction.frees? = none) :
      ∃ inside others, instruction :: rest = inside ++ .unwatch boundary :: others ∧
        ∀ instruction ∈ inside, instruction.guards? = none ∧ instruction.frees? = none := by
    obtain ⟨inside, others, rfl, calms⟩ := split
    exact ⟨instruction :: inside, others, rfl, List.forall_mem_cons.2 ⟨calm, calms⟩⟩
  have last {rest : List (Instruction Target)} :
      ∃ inside others, Instruction.unwatch boundary :: rest =
          inside ++ .unwatch boundary :: others ∧
        ∀ instruction ∈ inside, instruction.guards? = none ∧ instruction.frees? = none :=
    ⟨[], rest, rfl, by simp⟩
  induction shelters with
  | unwatch => exact last
  | loadFlag _ ih => exact more ⟨rfl, rfl⟩ ih
  | storeRegister _ ih => exact more ⟨rfl, rfl⟩ ih
  | dispatch => exact more ⟨rfl, rfl⟩ last
  | waitMessage => exact more ⟨rfl, rfl⟩ last
  | waitHuman => exact more ⟨rfl, rfl⟩ last

/-- Behind every instruction that sets a watchdog stands code that it watches over. -/
def Encloses : List (Instruction Target) -> Prop
  | [] => True
  | instruction :: rest =>
    (∀ boundary, instruction.guards? = some boundary -> Shelters boundary rest) ∧ Encloses rest

theorem Encloses.append {code more : List (Instruction Target)} (encloses : Encloses code)
    (others : Encloses more) : Encloses (code ++ more) := by
  induction code with
  | nil => exact others
  | cons instruction rest ih =>
    exact ⟨fun boundary sets => (encloses.1 boundary sets).append more, ih encloses.2⟩

theorem Encloses.flatten {codes : List (List (Instruction Target))}
    (each : ∀ code ∈ codes, Encloses code) : Encloses codes.flatten := by
  induction codes with
  | nil => trivial
  | cons code rest ih =>
    obtain ⟨first, others⟩ := List.forall_mem_cons.1 each
    exact first.append (ih others)

theorem Encloses.drop {code : List (Instruction Target)} (encloses : Encloses code)
    (place : Nat) : Encloses (code.drop place) := by
  induction place generalizing code with
  | zero => exact encloses
  | succ place ih =>
    cases code with
    | nil => trivial
    | cons instruction rest => exact ih encloses.2

/-- Code that sets no watchdog. -/
def Unwatched (code : List (Instruction Target)) : Prop :=
  ∀ instruction ∈ code, instruction.guards? = none

theorem Unwatched.encloses {code : List (Instruction Target)} (unwatched : Unwatched code) :
    Encloses code := by
  induction code with
  | nil => trivial
  | cons instruction rest ih =>
    obtain ⟨first, others⟩ := List.forall_mem_cons.1 unwatched
    refine ⟨fun boundary sets => ?_, ih others⟩
    cases first.symm.trans sets

/-- An instruction without targets sets no watchdog. -/
theorem guards?_eq_none {instruction : Instruction Target}
    (alone : ∀ target ∈ instruction.targets, False) : instruction.guards? = none := by
  cases instruction with
  | watch boundary duration interrupting target => exact (alone target List.mem_cons_self).elim
  | _ => rfl

end Instruction

open Instruction

/-! ## The code of nodes -/

namespace References

variable {Target : Type} {references : References Target} {verified : VerifiedGraph}
  {key : NodeKey} {code : List (Instruction Target)}

/-- Code that refers to no target sets no watchdog. -/
theorem unwatched_of_refers {Joined : Nat -> Prop}
    (refers : ∀ instruction ∈ code, references.Refers (fun _ => False) Joined instruction) :
    Unwatched code :=
  fun instruction listed => guards?_eq_none (refers instruction listed).1

theorem Tests.unwatched {condition : Condition} (tests : references.Tests condition code) :
    Unwatched code := @unwatched_of_refers _ _ _ (fun _ => True) (Tests.refers condition tests)

theorem Onward.unwatched (onward : references.Onward verified key code) : Unwatched code := by
  cases onward with
  | jump => exact List.forall_mem_singleton.2 rfl

theorem Branch.unwatched {place : Flow × Nat} (branch : references.Branch key place code) :
    Unwatched code := by
  cases branch with
  | always => exact List.forall_mem_singleton.2 rfl
  | tested conditional tests =>
    exact List.forall_mem_append.2 ⟨tests.unwatched, List.forall_mem_singleton.2 rfl⟩

theorem Choice.unwatched {place : Flow × Nat} (choice : references.Choice place code) :
    Unwatched code := @unwatched_of_refers _ _ _ (fun _ => True) choice.refers

theorem Correlates.unwatched {register : Nat} {flag : Option String} {source : CorrelationSource}
    (correlates : references.Correlates register flag source code) : Unwatched code :=
  @unwatched_of_refers _ _ _ (fun _ => True) correlates.refers

/-- The correlation of a wait is loaded while a watchdog watches over it. -/
theorem Correlates.shelters {register : Nat} {flag : Option String} {source : CorrelationSource}
    (correlates : references.Correlates register flag source code) {boundary : Nat}
    {rest : List (Instruction Target)} (after : Shelters boundary rest) :
    Shelters boundary (code ++ rest) := by
  cases correlates with
  | ofInstance => exact after
  | ofFlag => exact .loadFlag (.storeRegister after)

theorem Arms.unwatched {register : Nat} {arms : List RaceArm} {codes : List (ArmCode Target)}
    (each : references.Arms verified key register arms code codes) : Unwatched code := by
  induction each with
  | none => exact List.forall_mem_nil _
  | timer _ _ _ _ ih => exact ih
  | message _ _ _ _ correlates _ ih => exact List.forall_mem_append.2 ⟨correlates.unwatched, ih⟩

/-- A wait is enclosed if there is a timer to watch over it. -/
theorem Guarded.encloses {wait : List (Instruction Target)} (unwatched : Unwatched wait)
    (shelters : ∀ boundary, Shelters boundary (wait ++ [.unwatch boundary]))
    (guarded : references.Guarded verified key wait code) : Encloses code := by
  cases guarded with
  | alone => exact unwatched.encloses
  | watched =>
    refine ⟨fun boundary sets => ?_, unwatched.encloses.append
      (Unwatched.encloses (List.forall_mem_singleton.2 rfl))⟩
    cases sets
    exact shelters _

/-- The code of a node encloses its wait. -/
theorem NodeCode.encloses {kind : NodeKind} (shaped : references.NodeCode verified key kind code) :
    Encloses code := by
  have single {instruction : Instruction Target} (sets : instruction.guards? = none) :
      Encloses [instruction] := Unwatched.encloses (List.forall_mem_singleton.2 sets)
  cases shaped with
  | start onward => exact onward.unwatched.encloses
  | boundaryTimer onward => exact onward.unwatched.encloses
  | finish => exact single rfl
  | terminate => exact single rfl
  | serviceTask _ _ _ guarded onward =>
    exact (guarded.encloses (List.forall_mem_singleton.2 rfl) (fun _ => .dispatch)).append
      onward.unwatched.encloses
  | exclusive each _ =>
    exact (Encloses.flatten (forall_of_forall₂ each (fun _ _ _ branch =>
      branch.unwatched.encloses))).append (single rfl)
  | exclusiveOrFault each _ _ =>
    exact (Encloses.flatten (forall_of_forall₂ each (fun _ _ _ branch =>
      branch.unwatched.encloses))).append (single rfl)
  | parallel => exact single rfl
  | inclusive _ _ _ chosen _ _ =>
    exact (Encloses.flatten (forall_of_forall₂ chosen (fun _ _ _ choice =>
      choice.unwatched.encloses))).append (single rfl)
  | join _ onward => exact ⟨nofun, onward.unwatched.encloses⟩
  | timerWait onward => exact ⟨nofun, onward.unwatched.encloses⟩
  | messageWait _ correlates guarded onward =>
    refine (guarded.encloses (List.forall_mem_append.2 ⟨correlates.unwatched,
      List.forall_mem_singleton.2 rfl⟩) (fun boundary => ?_)).append onward.unwatched.encloses
    rw [List.append_assoc]
    exact correlates.shelters .waitMessage
  | humanWait _ guarded onward =>
    exact (guarded.encloses (List.forall_mem_singleton.2 rfl) (fun _ => .waitHuman)).append
      onward.unwatched.encloses
  | race _ each => exact each.unwatched.encloses.append (single rfl)

end References

/-! ## Programs -/

namespace Program

variable (program : Program)

/-- The instruction at the address takes a watchdog away. -/
def Unwatches (address : Address) : Prop :=
  ∃ boundary, program.instruction? address = some (.unwatch boundary)

/-- Every instruction that sets a watchdog is followed by code that it watches over. -/
def Shielded : Prop :=
  ∀ address boundary duration interrupting target,
    program.instruction? address = some (.watch boundary duration interrupting target) ->
      ∃ code, program.HasCode (address + 1) code ∧ Shelters boundary code

variable {program}

theorem Unwatches.hasCode {address : Address} (unwatches : program.Unwatches address) :
    ∃ boundary, program.HasCode address [.unwatch boundary] := by
  obtain ⟨boundary, reached⟩ := unwatches
  obtain ⟨inside, is⟩ := List.getElem?_eq_some_iff.1 reached
  refine ⟨boundary, program.instructions.drop (address + 1), ?_⟩
  rw [List.drop_eq_getElem_cons inside, is]
  rfl

theorem shielded_of_encloses (encloses : Encloses program.instructions) : program.Shielded := by
  intro address boundary duration interrupting target reached
  obtain ⟨inside, is⟩ := List.getElem?_eq_some_iff.1 reached
  have from' := encloses.drop address
  rw [List.drop_eq_getElem_cons inside, is] at from'
  exact ⟨_, List.prefix_rfl, from'.1 boundary rfl⟩

/-! ## Guarded blocks -/

/-- The code from one address to another one is guarded by a watchdog: the first instruction sets
it, the last one takes it away, and those between them set no watchdog and take none away. -/
structure GuardedBlock (program : Program) (watch : Watch) (first last : Address) : Prop where
  bounds : ∃ boundary duration,
    program.symbols.node? boundary = some watch.boundary ∧
    program.instruction? first =
      some (.watch boundary duration watch.interrupting watch.target) ∧
    program.instruction? last = some (.unwatch boundary)
  order : first < last
  calm : ∀ {address instruction}, first < address -> address < last ->
    program.instruction? address = some instruction ->
      instruction.guards? = none ∧ instruction.frees? = none

/-- The address lies in a block that the watchdog guards, after the instruction that sets it and
not after the one that takes it away. -/
def Guards (program : Program) (watch : Watch) (pc : Address) : Prop :=
  ∃ first last, program.GuardedBlock watch first last ∧ first < pc ∧ pc ≤ last

/-- The next address lies there too, unless the watchdog is taken away. -/
theorem Guards.next {watch : Watch} {pc : Address} (guards : program.Guards watch pc)
    (stays : ¬ program.Unwatches pc) : program.Guards watch (pc + 1) := by
  obtain ⟨first, last, block, after, before⟩ := guards
  refine ⟨first, last, block, Nat.lt_succ_of_lt after, Nat.lt_of_le_of_ne before ?_⟩
  rintro rfl
  obtain ⟨boundary, -, -, -, reached⟩ := block.bounds
  exact stays ⟨boundary, reached⟩

/-- What stands before other code stands at the addresses that follow. -/
theorem HasCode.instruction?_add {address : Address} {before rest : List (Instruction Address)}
    {instruction : Instruction Address}
    (stands : program.HasCode address (before ++ instruction :: rest)) :
    program.instruction? (address + before.length) = some instruction ∧
      ∀ {place inner}, place < before.length ->
        program.instruction? (address + place) = some inner -> inner ∈ before := by
  induction before generalizing address with
  | nil => exact ⟨stands.head, fun inside => absurd inside (Nat.not_lt_zero _)⟩
  | cons first others ih =>
    obtain ⟨there, inside⟩ := ih stands.tail
    constructor
    · rw [List.length_cons, Nat.add_comm others.length, ← Nat.add_assoc]
      exact there
    · intro place inner within reached
      cases place with
      | zero =>
        cases stands.head.symm.trans reached
        exact List.mem_cons_self
      | succ place =>
        refine List.mem_cons_of_mem _ (inside (Nat.lt_of_succ_lt_succ within) ?_)
        rw [Nat.add_assoc, Nat.add_comm 1]
        exact reached

/-- Behind the instruction that sets a watchdog begins the block that it guards. -/
theorem Shielded.guards (shielded : program.Shielded) {pc target : Address}
    {boundary duration : Nat} {interrupting : Bool} {key : NodeKey} (host : FiberId)
    (reached : program.instruction? pc = some (.watch boundary duration interrupting target))
    (named : program.symbols.node? boundary = some key) :
    program.Guards ⟨host, key, interrupting, target⟩ (pc + 1) := by
  obtain ⟨code, stands, shelters⟩ := shielded _ _ _ _ _ reached
  obtain ⟨inside, rest, rfl, calm⟩ := shelters.split
  obtain ⟨taken, within⟩ := stands.instruction?_add
  refine ⟨pc, pc + 1 + inside.length, ⟨⟨boundary, duration, named, reached, taken⟩, ?_, ?_⟩,
    Nat.lt_succ_self pc, Nat.le_add_right _ _⟩
  · exact Nat.lt_of_lt_of_le (Nat.lt_succ_self pc) (Nat.le_add_right _ _)
  · intro address instruction after before reached
    obtain ⟨place, rfl⟩ := Nat.exists_eq_add_of_le after
    exact calm instruction (within (Nat.lt_of_add_lt_add_left before) reached)

/-- A program that carries the flows of a verified graph is shielded. -/
theorem Carries.shielded {verified : VerifiedGraph}
    {blocks : List (NodeKey × List (Instruction Address))}
    {stubs : List (List (Instruction Address))} (carries : program.Carries verified blocks stubs) :
    program.Shielded := by
  refine shielded_of_encloses ?_
  rw [carries.instructions]
  refine .append (.flatten (fun code listed => ?_)) (.flatten (fun stub among => ?_))
  · obtain ⟨block, among, rfl⟩ := List.mem_map.1 listed
    obtain ⟨node, -, shaped⟩ := carries.shaped block among
    exact shaped.encloses
  · obtain ⟨target, counter, entry, -, -, -, rfl⟩ := carries.counted stub among
    exact ⟨nofun, nofun, trivial⟩

end Program

/-- What a graph is compiled to is shielded. -/
theorem ProcessGraph.shielded_of_compile {graph : ProcessGraph} {program : Program}
    (compiled : graph.compile = .ok program) : program.Shielded := by
  obtain ⟨verified, -, blocks, stubs, carries⟩ := VerifiedGraph.carries_of_compile compiled
  exact carries.shielded

end ProcessEngine
