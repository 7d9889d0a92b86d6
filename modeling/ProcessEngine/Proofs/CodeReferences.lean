import ProcessEngine.Proofs.NodeCode

/-!
# What code refers to

The code of a node refers to names that are known and to targets that follow from its flows and
its timer (`References.NodeCode.refers`). It keeps its shape when its targets are replaced by
others that stand for the same (`References.NodeCode.map`).
-/

namespace ProcessEngine

/-- The number of the join where the branches of an instruction meet, if it splits. -/
def Instruction.splitsTo? {Target : Type} : Instruction Target -> Option Nat
  | .fork index _ => some index
  | .forkInclusive index _ _ _ => some index
  | _ => none

namespace References

variable {Target : Type}

/-! ## Everything that code refers to exists -/

section Refers

variable {references : References Target} {Known : Target -> Prop} {Joined : Nat -> Prop}

/-- An instruction refers to known targets and to names that exist, and splits only for some
joins. -/
def Refers (references : References Target) (Known : Target -> Prop) (Joined : Nat -> Prop)
    (instruction : Instruction Target) : Prop :=
  (∀ target ∈ instruction.targets, Known target) ∧
    (∀ reference ∈ instruction.symbols, (references.symbols.name? reference).isSome = true) ∧
      ∀ index, instruction.splitsTo? = some index -> Joined index

theorem Names.known {kind : SymbolKind} {index : Nat} {name : String}
    (named : references.Names kind index name) :
    (references.symbols.name? ⟨kind, index⟩).isSome = true :=
  Option.isSome_iff_exists.2 ⟨name, named⟩

theorem NamesNode.known {index : Nat} {key : NodeKey} (named : references.NamesNode index key) :
    (references.symbols.name? ⟨.node, index⟩).isSome = true := by
  have found : references.symbols.nodes[index]? = some key := named
  simp [SymbolTable.name?, SymbolTable.names, found]

mutual

theorem Tests.refers : (condition : Condition) -> {code : List (Instruction Target)} ->
    references.Tests condition code ->
    ∀ instruction ∈ code, references.Refers Known Joined instruction
  | .flag name, code, tests => by
    rw [Tests] at tests
    obtain ⟨flag, named, rfl⟩ := tests
    simp [Refers, Instruction.targets, Instruction.symbols, Instruction.splitsTo?, named.known]
  | .equals name value, code, tests => by
    rw [Tests] at tests
    obtain ⟨flag, named, rfl⟩ := tests
    simp [Refers, Instruction.targets, Instruction.symbols, Instruction.splitsTo?, named.known]
  | .counterBelow name limit, code, tests => by
    rw [Tests] at tests
    obtain ⟨counter, named, rfl⟩ := tests
    simp [Refers, Instruction.targets, Instruction.symbols, Instruction.splitsTo?, named.known]
  | .negation condition, code, tests => by
    rw [Tests] at tests
    obtain ⟨test, tests, rfl⟩ := tests
    simp only [List.forall_mem_append, List.forall_mem_singleton]
    exact ⟨Tests.refers condition tests, by simp [Refers, Instruction.targets, Instruction.symbols,
      Instruction.splitsTo?]⟩
  | .all [], code, tests => by
    rw [Tests] at tests
    subst tests
    simp [Refers, Instruction.targets, Instruction.symbols, Instruction.splitsTo?]
  | .any [], code, tests => by
    rw [Tests] at tests
    subst tests
    simp [Refers, Instruction.targets, Instruction.symbols, Instruction.splitsTo?]
  | .all (first :: rest), code, tests => by
    rw [Tests] at tests
    obtain ⟨test, tests, holds, folds, rfl⟩ := tests
    exact List.forall_mem_append.2 ⟨Tests.refers first holds, Combines.refers
      (by simp [Refers, Instruction.targets, Instruction.symbols,
        Instruction.splitsTo?]) rest folds⟩
  | .any (first :: rest), code, tests => by
    rw [Tests] at tests
    obtain ⟨test, tests, holds, folds, rfl⟩ := tests
    exact List.forall_mem_append.2 ⟨Tests.refers first holds, Combines.refers
      (by simp [Refers, Instruction.targets, Instruction.symbols,
        Instruction.splitsTo?]) rest folds⟩

theorem Combines.refers {combine : Instruction Target}
    (refers : references.Refers Known Joined combine) :
    (conditions : List Condition) -> {code : List (Instruction Target)} ->
    references.Combines combine conditions code ->
    ∀ instruction ∈ code, references.Refers Known Joined instruction
  | [], code, folds => by
    rw [Combines] at folds
    subst folds
    simp
  | condition :: rest, code, folds => by
    rw [Combines] at folds
    obtain ⟨test, tests, holds, folds, rfl⟩ := folds
    exact List.forall_mem_append.2 ⟨Tests.refers condition holds,
      List.forall_mem_cons.2 ⟨refers, Combines.refers refers rest folds⟩⟩

end

variable {verified : VerifiedGraph} {key : NodeKey} {code : List (Instruction Target)}

/-- The targets that follow from the flows and the timer of a node are known, and so is the join
of its branches. -/
structure KnowsTargets (references : References Target) (Known : Target -> Prop)
    (Joined : Nat -> Prop) (verified : VerifiedGraph) (key : NodeKey) : Prop where
  begins : ∀ boundary ∈ verified.graph.boundariesOf key, ∀ target,
    references.Begins boundary.key target -> Known target
  leads : ∀ place ∈ Lowering.flowsOf verified key, ∀ target,
    references.Leads key place target -> Known target
  joins : ∀ pair, verified.pair? key = some pair -> ∀ index,
    references.NamesNode index pair.join -> Joined index

theorem Correlates.refers {register : Nat} {flag : Option String} {source : CorrelationSource}
    (correlates : references.Correlates register flag source code) :
    ∀ instruction ∈ code, references.Refers Known Joined instruction := by
  cases correlates with
  | ofInstance => simp
  | ofFlag named free => simp [Refers, Instruction.targets, Instruction.symbols,
    Instruction.splitsTo?, named.known]

theorem mem_of_filter_eq_singleton {α : Type} {list : List α} {test : α -> Bool} {element : α}
    (only : list.filter test = [element]) : element ∈ list :=
  (List.mem_filter.1 (only ▸ List.mem_singleton_self element)).1

variable (known : references.KnowsTargets Known Joined verified key)

include known

theorem Onward.refers (onward : references.Onward verified key code) :
    ∀ instruction ∈ code, references.Refers Known Joined instruction := by
  cases onward with
  | jump only leads =>
    have := known.leads _ (mem_of_filter_eq_singleton only) _ leads
    simpa [Refers, Instruction.targets, Instruction.symbols, Instruction.splitsTo?] using this

theorem Fallback.refers {target : Target}
    (fallback : references.Fallback verified key (some target)) :
    Known target := by
  cases fallback with
  | present only leads => exact known.leads _ (mem_of_filter_eq_singleton only) _ leads

theorem Guarded.refers {wait : List (Instruction Target)}
    (refers : ∀ instruction ∈ wait, references.Refers Known Joined instruction)
    (guarded : references.Guarded verified key wait code) :
    ∀ instruction ∈ code, references.Refers Known Joined instruction := by
  cases guarded with
  | alone => exact refers
  | @watched boundary duration interrupting symbol target only named begins =>
    have := known.begins ⟨boundary, .boundaryTimer key duration interrupting⟩
      (only ▸ List.mem_singleton_self _) target begins
    simp only [List.cons_append, List.forall_mem_cons, List.forall_mem_append]
    exact ⟨by simpa [Refers, Instruction.targets, Instruction.symbols,
      Instruction.splitsTo?, named.known] using this,
      refers, by simp [Refers, Instruction.targets, Instruction.symbols,
        Instruction.splitsTo?, named.known]⟩

theorem Branch.refers {place : Flow × Nat} (listed : place ∈ Lowering.flowsOf verified key)
    (branch : references.Branch key place code) :
    ∀ instruction ∈ code, references.Refers Known Joined instruction := by
  cases branch with
  | always plain leads =>
    have := known.leads _ listed _ leads
    simpa [Refers, Instruction.targets, Instruction.symbols, Instruction.splitsTo?] using this
  | @tested condition test target conditional tests leads =>
    have := known.leads _ listed _ leads
    refine List.forall_mem_append.2 ⟨Tests.refers condition tests, ?_⟩
    simpa [Refers, Instruction.targets, Instruction.symbols, Instruction.splitsTo?] using this

omit known in
theorem Choice.refers {place : Flow × Nat} (choice : references.Choice place code) :
    ∀ instruction ∈ code, references.Refers Known Joined instruction := by
  cases choice with
  | always => simp [Refers, Instruction.targets, Instruction.symbols, Instruction.splitsTo?]
  | @tested condition test conditional tests => exact Tests.refers condition tests

theorem Arms.refers {register : Nat} {arms : List RaceArm} {codes : List (ArmCode Target)}
    (each : references.Arms verified key register arms code codes) :
    (∀ instruction ∈ code, references.Refers Known Joined instruction) ∧
      (∀ arm ∈ codes, Known arm.target) ∧
      ∀ arm ∈ codes, ∀ name source, arm.trigger = .message name source ->
        (references.symbols.name? ⟨.message, name⟩).isSome = true := by
  induction each with
  | none => simp
  | timer placed along leads others ih =>
    obtain ⟨load, targets, names⟩ := ih
    exact ⟨load, List.forall_mem_cons.2 ⟨known.leads _ placed _ leads, targets⟩,
      List.forall_mem_cons.2 ⟨by simp, names⟩⟩
  | message placed along leads named correlates others ih =>
    obtain ⟨load, targets, names⟩ := ih
    refine ⟨List.forall_mem_append.2 ⟨correlates.refers, load⟩,
      List.forall_mem_cons.2 ⟨known.leads _ placed _ leads, targets⟩,
      List.forall_mem_cons.2 ⟨?_, names⟩⟩
    rintro name source ⟨⟩
    exact named.known

omit known in
/-- What holds of all that corresponds to elements of a list holds of a list that corresponds to
it. -/
theorem forall_of_forall₂ {α β : Type} {Related : α -> β -> Prop} {Holds : β -> Prop}
    {left : List α} {right : List β} (related : List.Forall₂ Related left right)
    (each : ∀ element ∈ left, ∀ image, Related element image -> Holds image) :
    ∀ image ∈ right, Holds image := by
  induction related with
  | nil => simp
  | cons first _ ih =>
    exact List.forall_mem_cons.2 ⟨each _ List.mem_cons_self _ first,
      ih (fun element listed => each element (List.mem_cons_of_mem _ listed))⟩

/-- All instructions of a node refer to what is known. -/
theorem NodeCode.refers {kind : NodeKind} (shaped : references.NodeCode verified key kind code) :
    ∀ instruction ∈ code, references.Refers Known Joined instruction := by
  have flat {codes : List (List (Instruction Target))}
      (each : ∀ code ∈ codes, ∀ instruction ∈ code, references.Refers Known Joined instruction) :
      ∀ instruction ∈ codes.flatten, references.Refers Known Joined instruction := by
    intro instruction listed
    obtain ⟨code, among, within⟩ := List.mem_flatten.1 listed
    exact each code among instruction within
  have leads {places : List (Flow × Nat)} {targets : List Target}
      (within : ∀ place ∈ places, place ∈ Lowering.flowsOf verified key)
      (each : List.Forall₂ (references.Leads key) places targets) :
      ∀ target ∈ targets, Known target :=
    forall_of_forall₂ each (fun place listed => known.leads place (within place listed))
  have filtered {test : Flow × Nat -> Bool} :
      ∀ place ∈ (Lowering.flowsOf verified key).filter test,
        place ∈ Lowering.flowsOf verified key := fun place listed => (List.mem_filter.1 listed).1
  cases shaped with
  | start onward => exact onward.refers known
  | boundaryTimer onward => exact onward.refers known
  | finish => simp [Refers, Instruction.targets, Instruction.symbols, Instruction.splitsTo?]
  | terminate => simp [Refers, Instruction.targets, Instruction.symbols, Instruction.splitsTo?]
  | serviceTask typed named routed guarded onward =>
    refine List.forall_mem_append.2 ⟨guarded.refers known ?_, onward.refers known⟩
    have routes := @forall_of_forall₂ _ _ _ (fun route => Known route.target) _ _ routed
      (fun place listed route leads => known.leads place (filtered place listed) _ leads.2)
    simpa [Refers, Instruction.targets, Instruction.symbols,
      Instruction.splitsTo?, typed.known, named.known] using routes
  | exclusive each fallback =>
    refine List.forall_mem_append.2 ⟨flat (forall_of_forall₂ each (fun place listed code branch =>
      branch.refers known (filtered place listed))), ?_⟩
    simpa [Refers, Instruction.targets, Instruction.symbols,
      Instruction.splitsTo?] using fallback.refers known
  | exclusiveOrFault each fallback named =>
    refine List.forall_mem_append.2 ⟨flat (forall_of_forall₂ each (fun place listed code branch =>
      branch.refers known (filtered place listed))), ?_⟩
    simp [Refers, Instruction.targets, Instruction.symbols,
      Instruction.splitsTo?, RoutingFault.gateway, named.known]
  | parallel paired named each =>
    have joined := known.joins _ paired _ named
    simpa [Refers, Instruction.targets, Instruction.symbols, Instruction.splitsTo?, named.known,
      joined] using leads (fun _ => id) each
  | @inclusive _ _ _ _ _ _ fallback paired named self chosen each otherwise =>
    refine List.forall_mem_append.2
      ⟨flat (forall_of_forall₂ chosen (fun place _ code choice => choice.refers)), ?_⟩
    have byDefault : ∀ target ∈ fallback, Known target := by
      rintro target ⟨⟩
      exact otherwise.refers known
    have each := leads filtered each
    have joined := known.joins _ paired _ named
    simp only [List.forall_mem_singleton, Refers, Instruction.targets, Instruction.symbols,
      Instruction.splitsTo?, List.forall_mem_append, List.forall_mem_cons, named.known, self.known]
    exact ⟨⟨each, by simpa using byDefault⟩, by simp, by simpa using joined⟩
  | join named onward =>
    refine List.forall_mem_cons.2 ⟨?_, onward.refers known⟩
    simp [Refers, Instruction.targets, Instruction.symbols, Instruction.splitsTo?, named.known]
  | timerWait onward =>
    refine List.forall_mem_cons.2 ⟨?_, onward.refers known⟩
    simp [Refers, Instruction.targets, Instruction.symbols, Instruction.splitsTo?]
  | messageWait named correlates guarded onward =>
    refine List.forall_mem_append.2 ⟨guarded.refers known ?_, onward.refers known⟩
    refine List.forall_mem_append.2 ⟨correlates.refers, ?_⟩
    simp [Refers, Instruction.targets, Instruction.symbols, Instruction.splitsTo?, named.known]
  | humanWait named guarded onward =>
    refine List.forall_mem_append.2 ⟨guarded.refers known ?_, onward.refers known⟩
    simp [Refers, Instruction.targets, Instruction.symbols, Instruction.splitsTo?, named.known]
  | @race arms symbol load codes named each =>
    obtain ⟨load, targets, names⟩ := each.refers known
    refine List.forall_mem_append.2 ⟨load, ?_⟩
    simp only [List.forall_mem_singleton, Refers, Instruction.targets, Instruction.symbols,
      Instruction.splitsTo?,
      List.forall_mem_map, List.forall_mem_cons, named.known]
    refine ⟨targets, ⟨trivial, fun reference listed => ?_⟩, nofun⟩
    obtain ⟨arm, among, refers⟩ := List.mem_filterMap.1 listed
    split at refers
    · cases refers
    · rename_i name source trigger
      cases refers
      exact names arm among name source trigger

end Refers

/-! ## Targets can be replaced -/

section Maps

variable {Image : Type}

/-- Numbers that stand for names stand for the same names. -/
def Renames (references : References Target) (images : References Image) : Prop :=
  ∀ {kind index name}, references.Names kind index name -> images.Names kind index name

/-- The images of targets stand for what the targets stand for. -/
structure Maps (references : References Target) (images : References Image)
    (verified : VerifiedGraph) (key : NodeKey) (change : Target -> Image) : Prop where
  names : ∀ reference, references.symbols.name? reference = images.symbols.name? reference
  nodes : ∀ index, references.symbols.node? index = images.symbols.node? index
  begins : ∀ boundary ∈ verified.graph.boundariesOf key, ∀ target,
    references.Begins boundary.key target -> images.Begins boundary.key (change target)
  leads : ∀ place ∈ Lowering.flowsOf verified key, ∀ target,
    references.Leads key place target -> images.Leads key place (change target)

variable {references : References Target} {images : References Image} {verified : VerifiedGraph}
  {key : NodeKey} {change : Target -> Image} {code : List (Instruction Target)}
  (maps : references.Maps images verified key change)

include maps in
theorem Maps.named : references.Renames images :=
  fun named => (maps.names _).symm.trans named

include maps in
theorem Maps.namedNode {index : Nat} {node : NodeKey}
    (named : references.NamesNode index node) : images.NamesNode index node :=
  (maps.nodes _).symm.trans named

mutual

/-- The code of a condition depends on names only. -/
theorem Tests.map (renames : references.Renames images) (change : Target -> Image) :
    (condition : Condition) -> {code : List (Instruction Target)} ->
    references.Tests condition code ->
    images.Tests condition (code.map (Instruction.mapTargets change))
  | .flag name, code, tests => by
    rw [Tests] at tests ⊢
    obtain ⟨flag, named, rfl⟩ := tests
    exact ⟨flag, renames named, rfl⟩
  | .equals name value, code, tests => by
    rw [Tests] at tests ⊢
    obtain ⟨flag, named, rfl⟩ := tests
    exact ⟨flag, renames named, rfl⟩
  | .counterBelow name limit, code, tests => by
    rw [Tests] at tests ⊢
    obtain ⟨counter, named, rfl⟩ := tests
    exact ⟨counter, renames named, rfl⟩
  | .negation condition, code, tests => by
    rw [Tests] at tests ⊢
    obtain ⟨test, tests, rfl⟩ := tests
    exact ⟨_, Tests.map renames change condition tests, List.map_append⟩
  | .all [], code, tests => by
    rw [Tests] at tests ⊢
    rw [tests]
    rfl
  | .any [], code, tests => by
    rw [Tests] at tests ⊢
    rw [tests]
    rfl
  | .all (first :: rest), code, tests => by
    rw [Tests] at tests ⊢
    obtain ⟨test, tests, holds, folds, rfl⟩ := tests
    exact ⟨_, _, Tests.map renames change first holds,
      Combines.map renames change .conjoin rest folds, List.map_append⟩
  | .any (first :: rest), code, tests => by
    rw [Tests] at tests ⊢
    obtain ⟨test, tests, holds, folds, rfl⟩ := tests
    exact ⟨_, _, Tests.map renames change first holds,
      Combines.map renames change .disjoin rest folds, List.map_append⟩

theorem Combines.map (renames : references.Renames images) (change : Target -> Image)
    (combine : Instruction Target) : (conditions : List Condition) ->
    {code : List (Instruction Target)} -> references.Combines combine conditions code ->
    images.Combines (combine.mapTargets change) conditions
      (code.map (Instruction.mapTargets change))
  | [], code, folds => by
    rw [Combines] at folds ⊢
    rw [folds]
    rfl
  | condition :: rest, code, folds => by
    rw [Combines] at folds ⊢
    obtain ⟨test, tests, holds, folds, rfl⟩ := folds
    exact ⟨_, _, Tests.map renames change condition holds,
      Combines.map renames change combine rest folds, by rw [List.map_append, List.map_cons]⟩

end

include maps

theorem Correlates.map {register : Nat} {flag : Option String} {source : CorrelationSource}
    (correlates : references.Correlates register flag source code) :
    images.Correlates register flag source (code.map (Instruction.mapTargets change)) := by
  cases correlates with
  | ofInstance => exact .ofInstance
  | ofFlag named free => exact .ofFlag (maps.named named) free

theorem Onward.map (onward : references.Onward verified key code) :
    images.Onward verified key (code.map (Instruction.mapTargets change)) := by
  cases onward with
  | jump only leads =>
    exact .jump only (maps.leads _ (mem_of_filter_eq_singleton only) _ leads)

theorem Fallback.map {fallback : Option Target}
    (falls : references.Fallback verified key fallback) :
    images.Fallback verified key (fallback.map change) := by
  cases falls with
  | missing only => exact .missing only
  | present only leads =>
    exact .present only (maps.leads _ (mem_of_filter_eq_singleton only) _ leads)

theorem Guarded.map {wait : List (Instruction Target)}
    (guarded : references.Guarded verified key wait code) :
    images.Guarded verified key (wait.map (Instruction.mapTargets change))
      (code.map (Instruction.mapTargets change)) := by
  cases guarded with
  | alone unwatched => exact .alone unwatched
  | watched only named begins =>
    rw [List.map_append, List.map_cons]
    exact .watched only (maps.namedNode named)
      (maps.begins _ (only ▸ List.mem_singleton_self _) _ begins)

theorem Branch.map {place : Flow × Nat} (listed : place ∈ Lowering.flowsOf verified key)
    (branch : references.Branch key place code) :
    images.Branch key place (code.map (Instruction.mapTargets change)) := by
  cases branch with
  | always plain leads => exact .always plain (maps.leads _ listed _ leads)
  | tested conditional tests leads =>
    rw [List.map_append]
    exact .tested conditional (Tests.map maps.named change _ tests) (maps.leads _ listed _ leads)

theorem Choice.map {place : Flow × Nat} (choice : references.Choice place code) :
    images.Choice place (code.map (Instruction.mapTargets change)) := by
  cases choice with
  | always plain => exact .always plain
  | tested conditional tests => exact .tested conditional (Tests.map maps.named change _ tests)

theorem Arms.map {register : Nat} {arms : List RaceArm} {codes : List (ArmCode Target)}
    (each : references.Arms verified key register arms code codes) :
    images.Arms verified key register arms (code.map (Instruction.mapTargets change))
      (codes.map (fun arm => ⟨arm.trigger, change arm.target⟩)) := by
  induction each with
  | none => exact .none
  | timer placed along leads others ih =>
    exact .timer placed along (maps.leads _ placed _ leads) ih
  | message placed along leads named correlates others ih =>
    rw [List.map_append]
    exact .message placed along (maps.leads _ placed _ leads) (maps.named named)
      (correlates.map maps) ih

omit maps in
theorem forall₂_map {α β β' : Type} {Related : α -> β -> Prop} {Related' : α -> β' -> Prop}
    {change : β -> β'} {left : List α} {right : List β} (related : List.Forall₂ Related left right)
    (each : ∀ element ∈ left, ∀ image, Related element image -> Related' element (change image)) :
    List.Forall₂ Related' left (right.map change) := by
  induction related with
  | nil => exact .nil
  | cons first _ ih =>
    exact .cons (each _ List.mem_cons_self _ first)
      (ih (fun element listed => each element (List.mem_cons_of_mem _ listed)))

/-- The code of a node has the same shape with the images of its targets. -/
theorem NodeCode.map {kind : NodeKind} (shaped : references.NodeCode verified key kind code) :
    images.NodeCode verified key kind (code.map (Instruction.mapTargets change)) := by
  have filtered {test : Flow × Nat -> Bool} :
      ∀ place ∈ (Lowering.flowsOf verified key).filter test,
        place ∈ Lowering.flowsOf verified key := fun place listed => (List.mem_filter.1 listed).1
  cases shaped with
  | start onward => exact .start (onward.map maps)
  | boundaryTimer onward => exact .boundaryTimer (onward.map maps)
  | finish => exact .finish
  | terminate => exact .terminate
  | serviceTask typed named routed guarded onward =>
    rw [List.map_append]
    refine .serviceTask (maps.named typed) (maps.namedNode named)
      (forall₂_map routed (fun place listed route leads => ?_)) (guarded.map maps) (onward.map maps)
    exact ⟨leads.1, maps.leads _ (filtered place listed) _ leads.2⟩
  | exclusive each fallback =>
    rw [List.map_append, List.map_flatten]
    exact .exclusive (forall₂_map each (fun place listed code branch =>
      branch.map maps (filtered place listed))) (fallback.map maps)
  | exclusiveOrFault each fallback named =>
    rw [List.map_append, List.map_flatten]
    exact .exclusiveOrFault (forall₂_map each (fun place listed code branch =>
      branch.map maps (filtered place listed))) (fallback.map maps) (maps.namedNode named)
  | parallel paired named each =>
    exact .parallel paired (maps.namedNode named)
      (forall₂_map each (fun place listed => maps.leads place listed))
  | inclusive paired named self chosen each otherwise =>
    rw [List.map_append, List.map_flatten]
    exact .inclusive paired (maps.namedNode named) (maps.namedNode self)
      (forall₂_map chosen (fun place _ code choice => choice.map maps))
      (forall₂_map each (fun place listed => maps.leads place (filtered place listed)))
      (otherwise.map maps)
  | join named onward => exact .join (maps.namedNode named) (onward.map maps)
  | timerWait onward => exact .timerWait (onward.map maps)
  | messageWait named correlates guarded onward =>
    have guarded := guarded.map maps
    rw [List.map_append] at guarded ⊢
    exact .messageWait (maps.named named) (correlates.map maps) guarded (onward.map maps)
  | humanWait named guarded onward =>
    rw [List.map_append]
    exact .humanWait (maps.named named) (guarded.map maps) (onward.map maps)
  | race named each =>
    rw [List.map_append]
    exact .race (maps.namedNode named) (each.map maps)

end Maps

end References

end ProcessEngine
