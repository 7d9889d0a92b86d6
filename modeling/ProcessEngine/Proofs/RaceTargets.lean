import ProcessEngine.Proofs.AssembledCode
import ProcessEngine.Proofs.RaceArms

/-!
# Targets of races

No two arms of a race of a compiled program lead to the same address
(`ProcessGraph.racesApart_of_compile`). For verification finds no two arms of a race with the same
target, the code of each node begins at an address of its own, and a stub is never mistaken for the
code of a node, because the code of nodes counts nothing. Only at its end does the code of a node
begin a race or have no route for a fiber (`References.NodeCode.plain_or_terminal`).
-/

namespace ProcessEngine

namespace Instruction

variable {Target : Type}

/-- Whether an instruction neither counts a turn nor begins a race, and always has a route for its
fiber. -/
def isPlain : Instruction Target -> Bool
  | .incrementCounter _ => false
  | .race _ _ => false
  | .forkInclusive _ _ none _ => false
  | .fault _ => false
  | _ => true

/-- Code that neither counts turns nor begins races, and always has a route for a fiber. -/
abbrev Plain (code : List (Instruction Target)) : Prop :=
  ∀ instruction ∈ code, instruction.isPlain = true

end Instruction

open Instruction

/-! ## The code of nodes -/

namespace References

variable {Target : Type} {references : References Target} {verified : VerifiedGraph}
  {key : NodeKey} {code : List (Instruction Target)}

mutual

theorem Tests.plain : (condition : Condition) -> {code : List (Instruction Target)} ->
    references.Tests condition code -> Plain code
  | .flag name, code, tests => by
    rw [Tests] at tests
    obtain ⟨flag, -, rfl⟩ := tests
    simp [Plain, isPlain]
  | .equals name value, code, tests => by
    rw [Tests] at tests
    obtain ⟨flag, -, rfl⟩ := tests
    simp [Plain, isPlain]
  | .counterBelow name limit, code, tests => by
    rw [Tests] at tests
    obtain ⟨counter, -, rfl⟩ := tests
    simp [Plain, isPlain]
  | .negation condition, code, tests => by
    rw [Tests] at tests
    obtain ⟨test, inner, rfl⟩ := tests
    exact List.forall_mem_append.2 ⟨Tests.plain condition inner, List.forall_mem_singleton.2 rfl⟩
  | .all [], code, tests => by
    rw [Tests] at tests
    exact tests ▸ List.forall_mem_singleton.2 rfl
  | .any [], code, tests => by
    rw [Tests] at tests
    exact tests ▸ List.forall_mem_singleton.2 rfl
  | .all (first :: rest), code, tests => by
    rw [Tests] at tests
    obtain ⟨test, others, head, tail, rfl⟩ := tests
    exact List.forall_mem_append.2 ⟨Tests.plain first head, Combines.plain rfl rest tail⟩
  | .any (first :: rest), code, tests => by
    rw [Tests] at tests
    obtain ⟨test, others, head, tail, rfl⟩ := tests
    exact List.forall_mem_append.2 ⟨Tests.plain first head, Combines.plain rfl rest tail⟩

theorem Combines.plain {combine : Instruction Target} (stands : combine.isPlain = true) :
    (conditions : List Condition) -> {code : List (Instruction Target)} ->
    references.Combines combine conditions code -> Plain code
  | [], code, combines => by
    rw [Combines] at combines
    exact combines ▸ List.forall_mem_nil _
  | condition :: rest, code, combines => by
    rw [Combines] at combines
    obtain ⟨test, others, head, tail, rfl⟩ := combines
    exact List.forall_mem_append.2 ⟨Tests.plain condition head,
      List.forall_mem_cons.2 ⟨stands, Combines.plain stands rest tail⟩⟩

end

theorem Onward.plain (onward : references.Onward verified key code) : Plain code := by
  cases onward
  exact List.forall_mem_singleton.2 rfl

theorem Branch.plain {place : Flow × Nat} (branch : references.Branch key place code) :
    Plain code := by
  cases branch with
  | always => exact List.forall_mem_singleton.2 rfl
  | tested conditional tests =>
    exact List.forall_mem_append.2 ⟨Tests.plain _ tests, List.forall_mem_singleton.2 rfl⟩

theorem Choice.plain {place : Flow × Nat} (choice : references.Choice place code) :
    Plain code := by
  cases choice with
  | always => exact List.forall_mem_singleton.2 rfl
  | tested conditional tests => exact Tests.plain _ tests

theorem Correlates.plain {register : Nat} {flag : Option String} {source : CorrelationSource}
    (correlates : references.Correlates register flag source code) : Plain code := by
  cases correlates with
  | ofInstance => exact List.forall_mem_nil _
  | ofFlag => simp [Plain, isPlain]

theorem Guarded.plain {wait : List (Instruction Target)} (plain : Plain wait)
    (guarded : references.Guarded verified key wait code) : Plain code := by
  cases guarded with
  | alone => exact plain
  | watched =>
    exact List.forall_mem_cons.2 ⟨rfl,
      List.forall_mem_append.2 ⟨plain, List.forall_mem_singleton.2 rfl⟩⟩

theorem Arms.plain {register : Nat} {arms : List RaceArm} {codes : List (ArmCode Target)}
    (each : references.Arms verified key register arms code codes) : Plain code := by
  induction each with
  | none => exact List.forall_mem_nil _
  | timer _ _ _ _ ih => exact ih
  | message _ _ _ _ correlates _ ih => exact List.forall_mem_append.2 ⟨correlates.plain, ih⟩

/-- Arms lead along flows to their targets. -/
theorem Arms.leads {register : Nat} {arms : List RaceArm} {codes : List (ArmCode Target)}
    (each : references.Arms verified key register arms code codes) :
    List.Forall₂ (fun arm code => ∃ place ∈ Lowering.flowsOf verified key,
      place.1.target = arm.target ∧ references.Leads key place code.target) arms codes := by
  induction each with
  | none => exact .nil
  | timer placed along leads _ ih => exact .cons ⟨_, placed, along, leads⟩ ih
  | message placed along leads _ _ _ ih => exact .cons ⟨_, placed, along, leads⟩ ih

/-- How the code of a node ends that is not plain: it begins a race, or it may have no route for a
fiber. -/
inductive Terminal (references : References Target) (verified : VerifiedGraph) (key : NodeKey) :
    NodeKind -> List (Instruction Target) -> Instruction Target -> Prop where
  | race {arms symbol load codes}
    (each : references.Arms verified key 0 (sortOn RaceArm.target arms) load codes) :
    Terminal references verified key (.raceWait arms) load (.race symbol codes)
  | noRoute {symbol load} (named : references.NamesNode symbol key) :
    Terminal references verified key .exclusiveGateway load (.fault (.noRoute symbol))
  | noBranch {declared symbol targets gateway load} (named : references.NamesNode gateway key) :
    Terminal references verified key (.gateway .inclusive .diverging declared) load
      (.forkInclusive symbol targets none gateway)

/-- The code of a node is plain, or all of it is but its end. -/
theorem NodeCode.plain_or_terminal {kind : NodeKind}
    (shaped : references.NodeCode verified key kind code) :
    Plain code ∨ ∃ load last, code = load ++ [last] ∧ Plain load ∧
      references.Terminal verified key kind load last := by
  have flat {codes : List (List (Instruction Target))} (each : ∀ code ∈ codes, Plain code) :
      Plain codes.flatten := by
    intro instruction listed
    obtain ⟨code, among, within⟩ := List.mem_flatten.1 listed
    exact each code among instruction within
  have followed {former : List (Instruction Target)} (plain : Plain former)
      {last : Instruction Target} (stands : last.isPlain = true) : Plain (former ++ [last]) :=
    List.forall_mem_append.2 ⟨plain, List.forall_mem_singleton.2 stands⟩
  have single {only : Instruction Target} (stands : only.isPlain = true) : Plain [only] :=
    List.forall_mem_singleton.2 stands
  cases shaped with
  | start onward => exact .inl onward.plain
  | boundaryTimer onward => exact .inl onward.plain
  | finish => exact .inl (single rfl)
  | terminate => exact .inl (single rfl)
  | serviceTask _ _ _ guarded onward =>
    exact .inl (List.forall_mem_append.2 ⟨guarded.plain (single rfl), onward.plain⟩)
  | exclusive each _ =>
    exact .inl (followed (flat (forall_of_forall₂ each (fun _ _ _ => Branch.plain))) rfl)
  | exclusiveOrFault each _ named =>
    exact .inr ⟨_, _, rfl, flat (forall_of_forall₂ each (fun _ _ _ => Branch.plain)),
      .noRoute named⟩
  | parallel => exact .inl (single rfl)
  | @inclusive _ _ _ _ _ _ fallback _ _ self chosen _ _ =>
    have choices := flat (forall_of_forall₂ chosen (fun _ _ _ => Choice.plain))
    cases fallback with
    | none => exact .inr ⟨_, _, rfl, choices, .noBranch self⟩
    | some target => exact .inl (followed choices rfl)
  | join _ onward => exact .inl (List.forall_mem_cons.2 ⟨rfl, onward.plain⟩)
  | timerWait onward => exact .inl (List.forall_mem_cons.2 ⟨rfl, onward.plain⟩)
  | messageWait _ correlates guarded onward =>
    exact .inl (List.forall_mem_append.2
      ⟨guarded.plain (followed correlates.plain rfl), onward.plain⟩)
  | humanWait _ guarded onward =>
    exact .inl (List.forall_mem_append.2 ⟨guarded.plain (single rfl), onward.plain⟩)
  | race _ each => exact .inr ⟨_, _, rfl, each.plain, .race each⟩

/-- The code of a node does not begin by counting. -/
theorem NodeCode.head_ne_incrementCounter {kind : NodeKind} {first : Instruction Target}
    {rest : List (Instruction Target)}
    (shaped : references.NodeCode verified key kind (first :: rest)) (counter : Nat) :
    first ≠ .incrementCounter counter := by
  rintro rfl
  rcases shaped.plain_or_terminal with plain | ⟨load, last, split, plain, terminal⟩
  · cases plain _ List.mem_cons_self
  · cases load with
    | nil =>
      cases split
      cases terminal
    | cons second load =>
      cases split
      cases plain _ List.mem_cons_self

end References

/-! ## Addresses -/

/-- Two pieces of code that follow the same amount of code are the same piece. -/
theorem eq_of_length_flatMap {Key Code : Type} {pieces former former' latter latter' :
    List (Key × List Code)} {piece piece' : Key × List Code}
    (full : ∀ piece ∈ pieces, piece.2 ≠ []) (split : pieces = former ++ piece :: latter)
    (split' : pieces = former' ++ piece' :: latter')
    (same : (former.flatMap Prod.snd).length = (former'.flatMap Prod.snd).length) :
    piece = piece' := by
  have ahead : ∀ {former rest latter latter' : List (Key × List Code)}
      {piece piece' : Key × List Code}, piece.2 ≠ [] ->
      piece :: latter = rest ++ piece' :: latter' ->
      (former.flatMap Prod.snd).length = ((former ++ rest).flatMap Prod.snd).length ->
      piece = piece' := by
    intro former rest latter latter' piece piece' some tail same
    cases rest with
    | nil => exact (List.cons.inj tail).1
    | cons first rest =>
      obtain ⟨rfl, -⟩ := List.cons.inj tail
      have := List.length_pos_iff.2 some
      simp only [List.flatMap_append, List.flatMap_cons, List.length_append] at same
      omega
  have some : piece.2 ≠ [] := full _ (by simp [split])
  have some' : piece'.2 ≠ [] := full _ (by simp [split'])
  rcases List.append_eq_append_iff.1 (split.symm.trans split') with
    ⟨rest, rfl, tail⟩ | ⟨rest, rfl, tail⟩
  · exact ahead some tail same
  · exact (ahead some' tail same.symm).symm

/-- Images of different elements are different if no two of them are images of the same. -/
theorem nodup_map_of_forall₂ {α β γ δ : Type} {Related : α -> β -> Prop} {left : List α}
    {right : List β} {key : α -> γ} {image : β -> δ} (related : List.Forall₂ Related left right)
    (apart : ∀ {first second first' second'}, Related first first' -> Related second second' ->
      image first' = image second' -> key first = key second)
    (different : (left.map key).Nodup) : (right.map image).Nodup := by
  induction related with
  | nil => exact List.nodup_nil
  | @cons first first' left right head rest ih =>
    obtain ⟨absent, different⟩ := List.nodup_cons.1 different
    refine List.nodup_cons.2 ⟨fun listed => absent ?_, ih different⟩
    obtain ⟨second', among, same⟩ := List.mem_map.1 listed
    have each := @References.forall_of_forall₂ _ _ _
      (fun image => ∃ element ∈ left, Related element image) _ _ rest
      (fun element listed _ tied => ⟨element, listed, tied⟩)
    obtain ⟨second, among, tied⟩ := each second' among
    exact List.mem_map.2 ⟨second, among, (apart head tied same.symm).symm⟩

/-- Verification finds that no two arms of a race have the same target. -/
theorem VerifiedGraph.nodup_targets {verified : VerifiedGraph} {key : NodeKey} {node : Node}
    {arms : List RaceArm} (found : verified.graph.node? key = some node)
    (race : node.kind = .raceWait arms) :
    ((sortOn RaceArm.target arms).map RaceArm.target).Nodup := by
  obtain ⟨own, kind⟩ := node
  cases race
  have sound := kindProblems_eq_nil found
  simp only [ProcessGraph.kindProblems, List.append_eq_nil_iff,
    ProcessGraph.armProblems_eq_nil_iff] at sound
  exact (((sortBy_perm _ _).map RaceArm.target).nodup_iff).2 sound.1.2.1

namespace Program

variable (program : Program)

/-- No two arms of a race lead to the same address. -/
def RacesApart : Prop :=
  ∀ pc race arms, program.instruction? pc = some (.race race arms) ->
    (arms.map ArmCode.target).Nodup

namespace Carries

variable {program : Program} {verified : VerifiedGraph}
  {blocks : List (NodeKey × List (Instruction Address))} {stubs : List (List (Instruction Address))}
  (carries : program.Carries verified blocks stubs)

include carries

/-- No two nodes have code that begins at the same address. -/
theorem entry_inj {key key' : NodeKey} {entry : Address} (found : program.entry? key = some entry)
    (found' : program.entry? key' = some entry) : key = key' := by
  have split {key : NodeKey} (found : program.entry? key = some entry) :
      ∃ former code latter, blocks = former ++ (key, code) :: latter ∧
        (former.flatMap Prod.snd).length = entry := by
    have inside := (carries.entries key).1 (Option.isSome_iff_exists.2 ⟨entry, found⟩)
    obtain ⟨node, present⟩ := ProcessGraph.exists_node inside
    obtain ⟨former, code, latter, split, -⟩ := carries.split_of_node present
    exact ⟨former, code, latter, split,
      Option.some.inj ((carries.placed former _ latter split).symm.trans found)⟩
  have full : ∀ block ∈ blocks, block.2 ≠ [] := by
    intro block listed
    obtain ⟨node, -, shaped⟩ := carries.shaped block listed
    exact shaped.ne_nil
  obtain ⟨former, code, latter, split₁, here⟩ := split found
  obtain ⟨former', code', latter', split₂, there⟩ := split found'
  exact congrArg Prod.fst (eq_of_length_flatMap full split₁ split₂ (here.trans there.symm))

/-- What counts a turn is not the code of a node. -/
theorem not_countsBack {key target : NodeKey} {entry : Address}
    (found : program.entry? key = some entry) : ¬ program.CountsBack entry target := by
  rintro ⟨counter, address, -, -, counts⟩
  have inside := (carries.entries key).1 (Option.isSome_iff_exists.2 ⟨entry, found⟩)
  obtain ⟨node, present⟩ := ProcessGraph.exists_node inside
  obtain ⟨entry', code, found', stands, shaped⟩ := carries.block_of_node present
  cases found.symm.trans found'
  cases code with
  | nil => exact shaped.ne_nil rfl
  | cons first rest =>
    exact shaped.head_ne_incrementCounter counter
      (Option.some.inj (stands.head.symm.trans counts.head))

/-- Flows that lead to the same address have the same target. -/
theorem target_eq_of_leads {key : NodeKey} {place place' : Flow × Nat} {address : Address}
    (leads : (program.references verified.layout).Leads key place address)
    (leads' : (program.references verified.layout).Leads key place' address) :
    place.1.target = place'.1.target := by
  simp only [references] at leads leads'
  split at leads
  · split at leads'
    · obtain ⟨_, entry, -, found, counts⟩ := leads
      obtain ⟨_, entry', -, found', counts'⟩ := leads'
      cases counts.tail.head.symm.trans counts'.tail.head
      exact carries.entry_inj found found'
    · exact absurd leads (carries.not_countsBack leads')
  · split at leads'
    · exact absurd leads' (carries.not_countsBack leads)
    · exact carries.entry_inj leads leads'

/-- The arms of every race lead to different addresses. -/
theorem racesApart : program.RacesApart := by
  intro pc race codes reached
  have listed := List.mem_of_getElem? reached
  rw [carries.instructions] at listed
  rcases List.mem_append.1 listed with inBlock | inStub
  · obtain ⟨⟨key, code⟩, among, within⟩ := List.mem_flatMap.1 inBlock
    obtain ⟨node, found, shaped⟩ := carries.shaped _ among
    obtain ⟨own, kind⟩ := node
    rcases shaped.plain_or_terminal with plain | ⟨load, last, rfl, plain, terminal⟩
    · cases plain _ within
    · rcases List.mem_append.1 within with early | last
      · cases plain _ early
      · cases List.mem_singleton.1 last
        obtain ⟨each⟩ := terminal
        have different := VerifiedGraph.nodup_targets found rfl
        refine nodup_map_of_forall₂ each.leads ?_ different
        rintro first second first' second' ⟨place, -, along, leads⟩ ⟨place', -, along', leads'⟩ same
        rw [same] at leads
        exact along.symm.trans ((carries.target_eq_of_leads leads leads').trans along')
  · obtain ⟨stub, among, within⟩ := List.mem_flatten.1 inStub
    obtain ⟨target, counter, entry, -, -, -, rfl⟩ := carries.counted stub among
    simp at within

end Carries

end Program

/-- No two arms of a race of a compiled program lead to the same address. -/
theorem ProcessGraph.racesApart_of_compile {graph : ProcessGraph} {program : Program}
    (compiled : graph.compile = .ok program) : program.RacesApart := by
  obtain ⟨verified, -, blocks, stubs, carries⟩ := VerifiedGraph.carries_of_compile compiled
  exact carries.racesApart

end ProcessEngine
