import ProcessEngine.Proofs.Gathering
import ProcessEngine.Proofs.VerifiedGraphs

/-!
# Lowering of nodes

One specification for each step of lowering. Together they say that the lowering of a node of a
verified graph gives the code of this node (`Lowering.nodeCode_meets`) unless it is a race that
waits for too many messages, or one of whose arms has no flow.
-/

namespace ProcessEngine

namespace Lowering

/-- What the labels in code stand for, among all that is gathered. -/
def labelReferences (layout : Layout) (final : Gathered) : References Label where
  symbols := final.symbols
  Begins key label := label = .node key
  Leads := LeadsTo layout final

/-- Whether the correlation of an arm is taken from a flag. -/
def isKeyed (arm : RaceArm) : Bool :=
  match arm.trigger with
  | .message _ flag => flag.isSome
  | .timer _ => false

/-- Why a verified graph may not be lowered. -/
inductive Refused (verified : VerifiedGraph) : LoweringError -> Prop where
  /-- No flow leads to the target of an arm. -/
  | strayArm {race arms arm} (found : verified.graph.node? race = some ⟨race, .raceWait arms⟩)
    (listed : arm ∈ arms)
    (stray : ∀ flow ∈ verified.graph.outgoing race, flow.target ≠ arm.target) :
    Refused verified (.missingFlow race)
  /-- A race waits for more messages with correlations of their own than there are registers. -/
  | tooManyArms {race arms} (found : verified.graph.node? race = some ⟨race, .raceWait arms⟩)
    (many : registerCount < arms.countP isKeyed) :
    Refused verified (.tooManyArms race (registerCount + 1) registerCount)

section Conditions

variable {graph : ProcessGraph} {layout : Layout} {Amiss : LoweringError -> Prop}

mutual

theorem conditionCode_meets : (condition : Condition) ->
    (conditionCode condition).Meets graph Amiss
      (fun final code => (labelReferences layout final).Tests condition code)
  | .flag name => by
    simp only [conditionCode, References.Tests]
    exact .bind (flagSymbol_meets name) (fun flag => .pure (fun _ named => ⟨flag, named, rfl⟩))
  | .equals name value => by
    simp only [conditionCode, References.Tests]
    exact .bind (flagSymbol_meets name) (fun flag => .pure (fun _ named => ⟨flag, named, rfl⟩))
  | .counterBelow name limit => by
    simp only [conditionCode, References.Tests]
    exact .bind (counterSymbol_meets name)
      (fun counter => .pure (fun _ named => ⟨counter, named, rfl⟩))
  | .negation condition => by
    simp only [conditionCode, References.Tests]
    exact .bind (conditionCode_meets condition)
      (fun test => .pure (fun _ tests => ⟨test, tests, rfl⟩))
  | .all [] => by
    simp only [conditionCode, References.Tests]
    exact .pure (fun _ => rfl)
  | .any [] => by
    simp only [conditionCode, References.Tests]
    exact .pure (fun _ => rfl)
  | .all (first :: rest) => by
    simp only [conditionCode, References.Tests]
    exact .bind (conditionCode_meets first) (fun test => .bind (foldCode_meets .conjoin rest)
      (fun tests => .pure (fun _ folds holds => ⟨test, tests, holds, folds, rfl⟩)))
  | .any (first :: rest) => by
    simp only [conditionCode, References.Tests]
    exact .bind (conditionCode_meets first) (fun test => .bind (foldCode_meets .disjoin rest)
      (fun tests => .pure (fun _ folds holds => ⟨test, tests, holds, folds, rfl⟩)))

theorem foldCode_meets (combine : Instruction Label) : (conditions : List Condition) ->
    (foldCode combine conditions).Meets graph Amiss
      (fun final code => (labelReferences layout final).Combines combine conditions code)
  | [] => by
    simp only [foldCode, References.Combines]
    exact .pure (fun _ => rfl)
  | condition :: rest => by
    simp only [foldCode, References.Combines]
    exact .bind (conditionCode_meets condition) (fun test => .bind (foldCode_meets combine rest)
      (fun tests => .pure (fun _ folds holds => ⟨test, tests, holds, folds, rfl⟩)))

end

variable (layout) in
theorem correlationCode_meets (flag : Option String) (register : Nat)
    (free : flag.isSome = true -> register < registerCount) :
    (correlationCode flag register).Meets graph Amiss
      (fun final (source, code) =>
        (labelReferences layout final).Correlates register flag source code) := by
  cases flag with
  | none => exact .pure (fun _ => .ofInstance)
  | some name =>
    exact .bind (flagSymbol_meets name)
      (fun flag => .pure (fun _ named => .ofFlag named (free rfl)))

end Conditions

section Nodes

variable {verified : VerifiedGraph} {layout : Layout} {Amiss : LoweringError -> Prop}
  {key : NodeKey} {node : Node}

/-- Every flow leads to a node of the graph. -/
theorem contains_of_place {place : Flow × Nat} (placed : place ∈ flowsOf verified key) :
    verified.graph.contains place.1.target = true :=
  (verified.graph.connected place.1
    (List.mem_filter.1 (List.fst_mem_of_mem_zipIdx placed)).1).2.1

theorem allLabels_meets :
    (allLabels verified layout key).Meets verified.graph Amiss (fun final labels =>
      List.Forall₂ ((labelReferences layout final).Leads key) (flowsOf verified key) labels) :=
  .mapM (fun place placed => flowLabel_meets layout key place.2 place.1 (contains_of_place placed))

theorem onward_meets {place : Flow × Nat} (only : References.plainFlows verified key = [place]) :
    (onward verified layout key).Meets verified.graph Amiss
      (fun final code => (labelReferences layout final).Onward verified key code) := by
  have found : (flowsOf verified key).find? (fun place => !place.1.isErrorRoute) = some place := by
    rw [← List.head?_filter]
    exact congrArg List.head? only
  rw [onward, found]
  exact .bind (flowLabel_meets layout key place.2 place.1
      (contains_of_place (List.mem_of_find?_eq_some found)))
    (fun label => .pure (fun _ leads => .jump only leads))

variable (layout) in
theorem errorRoutes_meets :
    (errorRoutes verified layout key).Meets verified.graph Amiss (fun final routes =>
      List.Forall₂ (fun place (route : ErrorRoute Label) =>
        place.1.errorCode = some route.code ∧
          (labelReferences layout final).Leads key place route.target)
        (References.errorFlows verified key) routes) := by
  rw [errorRoutes, References.errorFlows]
  have inside : ∀ place ∈ flowsOf verified key,
      verified.graph.contains place.1.target = true := fun _ => contains_of_place
  generalize flowsOf verified key = places at inside
  induction places with
  | nil =>
    rw [List.filterMapM_nil]
    exact .pure (fun _ => .nil)
  | cons place rest ih =>
    obtain ⟨flow, index⟩ := place
    obtain ⟨present, inside⟩ := List.forall_mem_cons.1 inside
    have ih := ih inside
    rw [List.filterMapM_cons, List.filter_cons]
    cases code : flow.errorCode with
    | none =>
      simp only [Flow.isErrorRoute, code, pure_bind, Option.isSome_none, Bool.false_eq_true,
        ↓reduceIte]
      exact ih
    | some code' =>
      simp only [Flow.isErrorRoute, code, bind_assoc, pure_bind, Option.isSome_some, ↓reduceIte]
      exact .bind (flowLabel_meets layout key index flow present) (fun label => .bind ih
        (fun routes => .pure (fun _ others leads => .cons ⟨code, leads⟩ others)))

variable (layout) in
theorem guarded_meets {wait : Lowered LabelledCode} {Result : Gathered -> LabelledCode -> Prop}
    (found : verified.graph.node? key = some node) (hosts : node.kind.Hosts)
    (meets : wait.Meets verified.graph Amiss Result) :
    (guarded verified key wait).Meets verified.graph Amiss (fun final code =>
      ∃ inner, Result final inner ∧
        (labelReferences layout final).Guarded verified key inner code) := by
  rcases VerifiedGraph.boundaries_cases found hosts with
    alone | ⟨boundary, duration, interrupting, only⟩
  · rw [guarded, alone]
    exact meets.mono (fun final inner holds => ⟨inner, holds, .alone alone⟩)
  · rw [guarded, only]
    exact .bind (nodeSymbol_meets boundary) (fun symbol => .bind meets
      (fun inner => .pure (fun final holds named => ⟨inner, holds, .watched only named rfl⟩)))

/-- The label of the default flow among some flows, or else the one that was known before. -/
def FallsBack (layout : Layout) (final : Gathered) (key : NodeKey) (places : List (Flow × Nat))
    (former fallback : Option Label) : Prop :=
  ∃ labels, List.Forall₂ ((labelReferences layout final).Leads key)
    (places.filter (fun place => place.1.isDefault)) labels ∧
    fallback = labels.getLast?.or former

theorem FallsBack.cons_default {final : Gathered} {flow : Flow} {index : Nat}
    {rest : List (Flow × Nat)} {former fallback : Option Label} {label : Label}
    (byDefault : flow.isDefault = true)
    (leads : (labelReferences layout final).Leads key (flow, index) label)
    (others : FallsBack layout final key rest (some label) fallback) :
    FallsBack layout final key ((flow, index) :: rest) former fallback := by
  obtain ⟨labels, each, same⟩ := others
  refine ⟨label :: labels, ?_, ?_⟩
  · rw [List.filter_cons_of_pos (p := fun place : Flow × Nat => place.1.isDefault) byDefault]
    exact .cons leads each
  · rw [same, List.getLast?_cons]
    cases labels.getLast? <;> rfl

theorem FallsBack.cons_ordinary {final : Gathered} {flow : Flow} {index : Nat}
    {rest : List (Flow × Nat)} {former fallback : Option Label}
    (ordinary : ¬ flow.isDefault = true)
    (others : FallsBack layout final key rest former fallback) :
    FallsBack layout final key ((flow, index) :: rest) former fallback := by
  obtain ⟨labels, each, same⟩ := others
  refine ⟨labels, ?_, same⟩
  rw [List.filter_cons_of_neg (p := fun place : Flow × Nat => place.1.isDefault) ordinary]
  exact each

/-- The flows of a gateway have one default flow at most. -/
theorem FallsBack.fallback {final : Gathered} {fallback : Option Label}
    (few : (References.defaultFlows verified key).length ≤ 1)
    (falls : FallsBack layout final key (flowsOf verified key) none fallback) :
    (labelReferences layout final).Fallback verified key fallback := by
  obtain ⟨labels, each, same⟩ := falls
  change List.Forall₂ _ (References.defaultFlows verified key) labels at each
  cases defaults : References.defaultFlows verified key with
  | nil =>
    rw [defaults] at each
    cases each
    cases same
    exact .missing defaults
  | cons place rest =>
    rw [defaults, List.length_cons] at few
    cases List.length_eq_zero_iff.1 (Nat.le_zero.1 (Nat.le_of_succ_le_succ few))
    rw [defaults] at each
    cases each with
    | cons leads none =>
      cases none
      cases same
      exact .present defaults leads

theorem routeCode_meets (places : List (Flow × Nat)) (former : Option Label)
    (inside : ∀ place ∈ places, verified.graph.contains place.1.target = true) :
    (routeCode layout key places former).Meets verified.graph Amiss (fun final (code, fallback) =>
      (∃ branches, List.Forall₂ ((labelReferences layout final).Branch key)
        (places.filter (fun place => !place.1.isDefault)) branches ∧ code = branches.flatten) ∧
      FallsBack layout final key places former fallback) := by
  induction places generalizing former with
  | nil => exact .pure (fun _ => ⟨⟨[], .nil, rfl⟩, [], .nil, rfl⟩)
  | cons place rest ih =>
    obtain ⟨flow, index⟩ := place
    obtain ⟨present, inside⟩ := List.forall_mem_cons.1 inside
    rw [routeCode]
    refine .bind (flowLabel_meets layout key index flow present) (fun label => ?_)
    split
    · rename_i byDefault
      refine (ih (some label) inside).mono ?_
      rintro final ⟨code, fallback⟩ ⟨⟨branches, each, same⟩, falls⟩ leads
      refine ⟨⟨branches, ?_, same⟩, falls.cons_default byDefault leads⟩
      rw [List.filter_cons_of_neg (by simp [byDefault])]
      exact each
    · rename_i ordinary
      have goesOn (code : LabelledCode) : Lowered.Meets verified.graph (do
            let (others, fallback) <- routeCode layout key rest former
            return (code ++ others, fallback)) Amiss (fun final (result, fallback) =>
          (labelReferences layout final).Branch key (flow, index) code ->
          (∃ branches, List.Forall₂ ((labelReferences layout final).Branch key)
            (((flow, index) :: rest).filter (fun place => !place.1.isDefault)) branches ∧
              result = branches.flatten) ∧
          FallsBack layout final key ((flow, index) :: rest) former fallback) := by
        refine .bind (ih former inside) (fun _ => .pure ?_)
        rintro final ⟨⟨branches, each, same⟩, falls⟩ branch
        refine ⟨⟨code :: branches, ?_, by rw [same]; rfl⟩, falls.cons_ordinary ordinary⟩
        rw [List.filter_cons_of_pos (by simp [ordinary])]
        exact .cons branch each
      cases conditional : flow.condition with
      | none =>
        simp only [pure_bind]
        exact (goesOn [.jump label]).mono
          (fun final _ holds leads => holds (.always conditional leads))
      | some condition =>
        simp only [pure_bind]
        exact .bind (conditionCode_meets condition) (fun test =>
          (goesOn (test ++ [.branchIf label])).mono
            (fun final _ holds tests leads => holds (.tested conditional tests leads)))

theorem exclusiveBlock_meets (few : (References.defaultFlows verified key).length ≤ 1) :
    (exclusiveBlock verified layout key).Meets verified.graph Amiss (fun final code =>
      (labelReferences layout final).NodeCode verified key .exclusiveGateway code) := by
  refine .bind (routeCode_meets (flowsOf verified key) none (fun _ => contains_of_place))
    (fun (code, fallback) => ?_)
  cases fallback with
  | some label =>
    refine .pure ?_
    rintro final ⟨⟨branches, each, rfl⟩, falls⟩
    exact .exclusive each (falls.fallback few)
  | none =>
    refine .bind (nodeSymbol_meets key) (fun symbol => .pure ?_)
    rintro final named ⟨⟨branches, each, rfl⟩, falls⟩
    exact .exclusiveOrFault each (falls.fallback few) named

theorem branchCode_meets (places : List (Flow × Nat)) (former : Option Label)
    (inside : ∀ place ∈ places, verified.graph.contains place.1.target = true) :
    (branchCode layout key places former).Meets verified.graph Amiss
      (fun final (code, labels, fallback) =>
        (∃ choices, List.Forall₂ (labelReferences layout final).Choice
          (places.filter (fun place => !place.1.isDefault)) choices ∧ code = choices.flatten) ∧
        List.Forall₂ ((labelReferences layout final).Leads key)
          (places.filter (fun place => !place.1.isDefault)) labels ∧
        FallsBack layout final key places former fallback) := by
  induction places generalizing former with
  | nil => exact .pure (fun _ => ⟨⟨[], .nil, rfl⟩, .nil, [], .nil, rfl⟩)
  | cons place rest ih =>
    obtain ⟨flow, index⟩ := place
    obtain ⟨present, inside⟩ := List.forall_mem_cons.1 inside
    rw [branchCode]
    refine .bind (flowLabel_meets layout key index flow present) (fun label => ?_)
    split
    · rename_i byDefault
      refine (ih (some label) inside).mono ?_
      rintro final ⟨code, labels, fallback⟩ ⟨⟨choices, each, same⟩, leads', falls⟩ leads
      rw [List.filter_cons_of_neg (by simp [byDefault])]
      exact ⟨⟨choices, each, same⟩, leads', falls.cons_default byDefault leads⟩
    · rename_i ordinary
      have goesOn (code : LabelledCode) : Lowered.Meets verified.graph (do
            let (others, labels, fallback) <- branchCode layout key rest former
            return (code ++ others, label :: labels, fallback)) Amiss
          (fun final (result, labels, fallback) =>
          (labelReferences layout final).Choice (flow, index) code ->
          (labelReferences layout final).Leads key (flow, index) label ->
          (∃ choices, List.Forall₂ (labelReferences layout final).Choice
            (((flow, index) :: rest).filter (fun place => !place.1.isDefault)) choices ∧
              result = choices.flatten) ∧
          List.Forall₂ ((labelReferences layout final).Leads key)
            (((flow, index) :: rest).filter (fun place => !place.1.isDefault)) labels ∧
          FallsBack layout final key ((flow, index) :: rest) former fallback) := by
        refine .bind (ih former inside) (fun _ => .pure ?_)
        rintro final ⟨⟨choices, each, same⟩, leads', falls⟩ choice leads
        rw [List.filter_cons_of_pos (by simp [ordinary])]
        exact ⟨⟨code :: choices, .cons choice each, by rw [same]; rfl⟩, .cons leads leads',
          falls.cons_ordinary ordinary⟩
      cases conditional : flow.condition with
      | none =>
        simp only [pure_bind]
        exact (goesOn [.push (.bool true)]).mono
          (fun final _ holds leads => holds (.always conditional) leads)
      | some condition =>
        exact .bind (conditionCode_meets condition) (fun test =>
          (goesOn test).mono
            (fun final _ holds tests leads => holds (.tested conditional tests) leads))

variable (layout) in
theorem joinSymbol_meets {pair : GatewayPair} (paired : verified.pair? key = some pair) :
    (joinSymbol verified key).Meets verified.graph Amiss
      (fun final index => (labelReferences layout final).NamesNode index pair.join) := by
  rw [joinSymbol, paired]
  exact nodeSymbol_meets pair.join

theorem inclusiveBlock_meets {pair : GatewayPair} (declared : Option NodeKey)
    (paired : verified.pair? key = some pair)
    (few : (References.defaultFlows verified key).length ≤ 1) :
    (inclusiveBlock verified layout key).Meets verified.graph Amiss (fun final code =>
      (labelReferences layout final).NodeCode verified key (.gateway .inclusive .diverging declared)
        code) := by
  refine .bind (joinSymbol_meets layout paired) (fun symbol => ?_)
  refine .bind (nodeSymbol_meets key) (fun gateway => ?_)
  refine .bind (branchCode_meets (flowsOf verified key) none (fun _ => contains_of_place))
    (fun (code, labels, fallback) => ?_)
  refine .pure ?_
  rintro final ⟨⟨choices, chosen, rfl⟩, each, falls⟩ self named
  exact .inclusive paired named self chosen each (falls.fallback few)

theorem parallelBlock_meets {pair : GatewayPair} (declared : Option NodeKey)
    (paired : verified.pair? key = some pair) :
    (parallelBlock verified layout key).Meets verified.graph Amiss (fun final code =>
      (labelReferences layout final).NodeCode verified key (.gateway .parallel .diverging declared)
        code) :=
  .bind (joinSymbol_meets layout paired) (fun _ => .bind allLabels_meets
    (fun _ => .pure (fun _ each named => .parallel paired named each)))

/-- The arms of a race are lowered unless one of them has no flow or there are too many with
correlations of their own. -/
theorem armCode_meets (arms : List RaceArm) (register : Nat) (few : register ≤ registerCount) :
    (armCode verified layout key arms register).Meets verified.graph
      (fun error => (error = .missingFlow key ∧ ∃ arm ∈ arms,
          ∀ flow ∈ verified.graph.outgoing key, flow.target ≠ arm.target) ∨
        error = .tooManyArms key (registerCount + 1) registerCount ∧
          registerCount < register + arms.countP isKeyed)
      (fun final (load, codes) =>
        register + arms.countP isKeyed ≤ registerCount ∧
        (labelReferences layout final).Arms verified key register arms load codes) := by
  induction arms generalizing register with
  | nil => exact .pure (fun _ => ⟨few, .none⟩)
  | cons arm rest ih =>
    obtain ⟨trigger, node⟩ := arm
    rw [armCode]
    split
    · rename_i missing
      refine .throw (.inl ⟨rfl, ⟨trigger, node⟩, List.mem_cons_self, fun flow leaves same => ?_⟩)
      obtain ⟨index, placed⟩ := List.mem_iff_getElem?.1 leaves
      have absent := List.find?_eq_none.1 missing (flow, index)
        (List.mem_zipIdx_iff_getElem?.2 placed)
      exact absent (by simpa using same)
    · rename_i flow index found
      have placed := List.mem_of_find?_eq_some found
      have along : flow.target = node := by simpa using List.find?_some found
      refine .bind (flowLabel_meets layout key index flow (contains_of_place placed))
        (fun label => ?_)
      have others (next : Nat) (few : next ≤ registerCount)
          (counted : next + rest.countP isKeyed = register +
            (⟨trigger, node⟩ :: rest : List RaceArm).countP isKeyed) :=
        (ih next few).amiss (fun error => (error = .missingFlow key ∧
            ∃ arm ∈ (⟨trigger, node⟩ :: rest : List RaceArm),
              ∀ flow ∈ verified.graph.outgoing key, flow.target ≠ arm.target) ∨
          error = .tooManyArms key (registerCount + 1) registerCount ∧
            registerCount < register + (⟨trigger, node⟩ :: rest : List RaceArm).countP isKeyed) (by
          rintro error (⟨rfl, arm, listed, stray⟩ | ⟨rfl, many⟩)
          · exact .inl ⟨rfl, arm, List.mem_cons_of_mem _ listed, stray⟩
          · exact .inr ⟨rfl, counted ▸ many⟩)
      cases trigger with
      | timer duration =>
        rw [List.countP_cons_of_neg (by simp [isKeyed])] at others
        refine .bind (others register few rfl) (fun _ => .pure ?_)
        rintro final ⟨enough, others⟩ leads
        rw [List.countP_cons_of_neg (by simp [isKeyed])]
        exact ⟨enough, .timer placed along leads others⟩
      | message name flag =>
        refine .bind (messageSymbol_meets name) (fun message => ?_)
        by_cases full : flag.isSome = true ∧ registerCount ≤ register
        · simp only [if_pos full]
          refine .throw_bind (.inr ⟨?_, ?_⟩)
          · rw [Nat.le_antisymm few full.2]
          · rw [List.countP_cons_of_pos (by simp [isKeyed, full.1])]
            omega
        · simp only [if_neg full]
          have free : flag.isSome = true -> register < registerCount := fun keyed =>
            Nat.lt_of_not_le (fun none => full ⟨keyed, none⟩)
          have counted : (if flag.isSome then register + 1 else register) + rest.countP isKeyed =
              register + (⟨.message name flag, node⟩ :: rest : List RaceArm).countP isKeyed := by
            rw [List.countP_cons, isKeyed]
            split <;> omega
          have few : (if flag.isSome then register + 1 else register) ≤ registerCount := by
            split
            · exact free ‹_›
            · exact few
          refine .bind (correlationCode_meets layout flag register free)
            (fun (source, own) => ?_)
          refine .bind (others _ few counted) (fun _ => .pure ?_)
          rintro final ⟨enough, others⟩ correlates named leads
          exact ⟨counted ▸ enough, .message placed along leads named correlates others⟩

theorem raceBlock_meets {arms : List RaceArm}
    (found : verified.graph.node? key = some ⟨key, .raceWait arms⟩) :
    (raceBlock verified layout key arms).Meets verified.graph (Refused verified) (fun final code =>
      arms.countP isKeyed ≤ registerCount ∧
      (labelReferences layout final).NodeCode verified key (.raceWait arms) code) := by
  have sorted : (sortOn RaceArm.target arms).Perm arms := sortBy_perm _ _
  have arms_meet := (@armCode_meets verified layout key (sortOn RaceArm.target arms) 0
    (Nat.zero_le _)).amiss (Refused verified) (by
      rw [sorted.countP_eq, Nat.zero_add]
      rintro error (⟨rfl, arm, listed, stray⟩ | ⟨rfl, many⟩)
      · exact .strayArm found (sorted.mem_iff.1 listed) stray
      · exact .tooManyArms found many)
  rw [sorted.countP_eq, Nat.zero_add] at arms_meet
  refine .bind arms_meet (fun _ => .bind (nodeSymbol_meets key) (fun _ => .pure ?_))
  rintro final named ⟨enough, each⟩
  exact ⟨enough, .race named each⟩

/-- The code of a node of a verified graph. -/
theorem nodeCode_meets (found : verified.graph.node? key = some node) :
    (nodeCode verified layout node).Meets verified.graph (Refused verified) (fun final code =>
      (∀ arms, node.kind = .raceWait arms -> arms.countP isKeyed ≤ registerCount) ∧
      (labelReferences layout final).NodeCode verified key node.kind code) := by
  have same := verified.graph.keyed key node found
  have goesOn : node.kind.GoesOn ->
      (onward verified layout key).Meets verified.graph (Refused verified)
        (fun final code => (labelReferences layout final).Onward verified key code) := by
    intro goesOn
    obtain ⟨place, only⟩ := VerifiedGraph.exists_plainFlow found goesOn
    exact onward_meets only
  obtain ⟨name, kind⟩ := node
  cases same
  have plain {work : Lowered LabelledCode} (noRace : ∀ arms, kind ≠ .raceWait arms)
      (meets : work.Meets verified.graph (Refused verified) (fun final code =>
        (labelReferences layout final).NodeCode verified name kind code)) :
      work.Meets verified.graph (Refused verified) (fun final code =>
        (∀ arms, kind = .raceWait arms -> arms.countP isKeyed ≤ registerCount) ∧
        (labelReferences layout final).NodeCode verified name kind code) :=
    meets.mono (fun _ _ shaped => ⟨fun arms same => absurd same (noRace arms), shaped⟩)
  cases kind with
  | start =>
    exact plain (by simp) ((goesOn trivial).mono (fun _ _ onward => .start onward))
  | boundaryTimer host duration interrupting =>
    exact plain (by simp) ((goesOn trivial).mono (fun _ _ onward => .boundaryTimer onward))
  | finish terminate =>
    cases terminate
    · exact plain (by simp) (.pure (fun _ => .finish))
    · exact plain (by simp) (.pure (fun _ => .terminate))
  | serviceTask taskType retries =>
    refine plain (by simp) (.bind (taskTypeSymbol_meets taskType) (fun task =>
      .bind (nodeSymbol_meets name) (fun symbol => .bind (errorRoutes_meets layout)
        (fun routes => ?_))))
    have wait : Lowered.Meets verified.graph
        (return ([.dispatch task symbol retries routes] : LabelledCode)) (Refused verified)
        (fun _ code => code = [.dispatch task symbol retries routes]) := .pure (fun _ => rfl)
    refine .bind (guarded_meets layout found trivial wait)
      (fun _ => .bind (goesOn trivial) (fun _ => .pure ?_))
    rintro final onward ⟨_, rfl, guarded⟩ routed named typed
    exact .serviceTask typed named routed guarded onward
  | exclusiveGateway =>
    exact plain (by simp) (exclusiveBlock_meets (VerifiedGraph.chooses found trivial).2)
  | gateway kind direction declared =>
    cases direction with
    | converging =>
      have meets : Lowered.Meets verified.graph (do
            let join <- nodeSymbol name
            return .join join :: (<- onward verified layout name)) (Refused verified)
          (fun final code => (labelReferences layout final).NodeCode verified name
            (.gateway kind .converging declared) code) :=
        .bind (nodeSymbol_meets name) (fun _ => .bind (goesOn trivial)
          (fun _ => .pure (fun _ onward named => .join named onward)))
      cases kind <;> exact plain (by simp) meets
    | diverging =>
      obtain ⟨pair, paired⟩ := VerifiedGraph.exists_pair found rfl
      cases kind with
      | parallel => exact plain (by simp) (parallelBlock_meets declared paired)
      | inclusive =>
        exact plain (by simp)
          (inclusiveBlock_meets declared paired (VerifiedGraph.chooses found trivial).2)
  | timerWait duration =>
    exact plain (by simp)
      (.bind (goesOn trivial) (fun _ => .pure (fun _ onward => .timerWait onward)))
  | messageWait message flag =>
    refine plain (by simp) (.bind (messageSymbol_meets message) (fun symbol => ?_))
    have wait : Lowered.Meets verified.graph (do
          let (source, load) <- correlationCode flag 0
          return load ++ [.waitMessage symbol source]) (Refused verified)
        (fun final code => ∃ source load,
          (labelReferences layout final).Correlates 0 flag source load ∧
            code = load ++ [.waitMessage symbol source]) :=
      .bind (correlationCode_meets layout flag 0 (fun _ => by decide))
        (fun _ => .pure (fun _ correlates => ⟨_, _, correlates, rfl⟩))
    refine .bind (guarded_meets layout found trivial wait)
      (fun _ => .bind (goesOn trivial) (fun _ => .pure ?_))
    rintro final onward ⟨_, ⟨source, load, correlates, rfl⟩, guarded⟩ named
    exact .messageWait named correlates guarded onward
  | humanWait task =>
    refine plain (by simp) (.bind (humanTaskSymbol_meets task) (fun symbol => ?_))
    have wait : Lowered.Meets verified.graph (return ([.waitHuman symbol] : LabelledCode))
        (Refused verified) (fun _ code => code = [.waitHuman symbol]) := .pure (fun _ => rfl)
    refine .bind (guarded_meets layout found trivial wait)
      (fun _ => .bind (goesOn trivial) (fun _ => .pure ?_))
    rintro final onward ⟨_, rfl, guarded⟩ named
    exact .humanWait named guarded onward
  | raceWait arms =>
    refine (raceBlock_meets found).mono ?_
    rintro final code ⟨enough, shaped⟩
    exact ⟨fun _ same => by cases same; exact enough, shaped⟩

end Nodes

end Lowering

end ProcessEngine
