import Mathlib
import ProcessEngine.Proofs.Tables
import ProcessEngine.Proofs.VerifiedGraphs

/-!
# The values that stand for all others

Conditions tell the values of a flag apart by whether they count as true and by the constants that
the flag is compared with, and the values of a counter by its limits. The values that are tried
stand for all values of a counter, but not for all values of a flag: a value that is no constant is
overlooked if each of the three values that every flag is tried with either is such a constant or
counts differently (`Routing.Overlooked`). Apart from these, an exclusive gateway is reported exactly
if two of its flows can be taken at once (`ProcessGraph.ambiguousRouting_iff`).
-/

namespace ProcessEngine

namespace Condition

variable {flags flags' : Flags} {counters counters' : Counters}

/-- Where a flag is used as given, two values make no difference. -/
def Alike : Option Value -> Value -> Value -> Prop
  | none, value, value' => value.isTruthy = value'.isTruthy
  | some constant, value, value' => value = constant ↔ value' = constant

theorem Alike.symm {use : Option Value} {value value' : Value} (alike : Alike use value value') :
    Alike use value' value := by
  cases use with
  | none => exact Eq.symm alike
  | some constant => exact Iff.symm alike

/-- Where flags and counters are used as given, two assignments make no difference. -/
structure Indistinct (flagUses : List (String × Option Value)) (counterUses : List (String × Int64))
    (flags flags' : Flags) (counters counters' : Counters) : Prop where
  flags : ∀ use ∈ flagUses, Alike use.2 (flags.getD use.1 default) (flags'.getD use.1 default)
  counters : ∀ use ∈ counterUses, counters.getD use.1 0 < use.2 ↔ counters'.getD use.1 0 < use.2

section

variable {first rest : List (String × Option Value)} {first' rest' : List (String × Int64)}

theorem Indistinct.left
    (same : Indistinct (first ++ rest) (first' ++ rest') flags flags' counters counters') :
    Indistinct first first' flags flags' counters counters' :=
  ⟨fun use listed => same.flags use (List.mem_append_left _ listed),
    fun use listed => same.counters use (List.mem_append_left _ listed)⟩

theorem Indistinct.right
    (same : Indistinct (first ++ rest) (first' ++ rest') flags flags' counters counters') :
    Indistinct rest rest' flags flags' counters counters' :=
  ⟨fun use listed => same.flags use (List.mem_append_right _ listed),
    fun use listed => same.counters use (List.mem_append_right _ listed)⟩

end

mutual

/-- A condition has one truth value under assignments that make no difference where it uses them. -/
theorem evaluate_congr : (condition : Condition) ->
    Indistinct (flagUses condition) (counterUses condition) flags flags' counters counters' ->
      evaluate flags counters condition = evaluate flags' counters' condition
  | .flag name, same => by
    rw [evaluate, evaluate]
    exact same.flags (name, none) List.mem_cons_self
  | .equals name value, same => by
    have alike := same.flags (name, some value) List.mem_cons_self
    rw [evaluate, evaluate, Bool.eq_iff_iff, beq_iff_eq, beq_iff_eq]
    exact alike
  | .counterBelow counter limit, same => by
    have alike := same.counters (counter, limit) List.mem_cons_self
    simpa only [evaluate, decide_eq_decide] using alike
  | .negation condition, same => by
    rw [evaluate, evaluate, evaluate_congr condition same]
  | .all conditions, same => by
    rw [evaluate, evaluate, evaluateAll_congr conditions same]
  | .any conditions, same => by
    rw [evaluate, evaluate, evaluateAny_congr conditions same]

theorem evaluateAll_congr : (conditions : List Condition) ->
    Indistinct (flagUsesList conditions) (counterUsesList conditions) flags flags' counters
      counters' ->
      evaluateAll flags counters conditions = evaluateAll flags' counters' conditions
  | [], _ => by rw [evaluateAll, evaluateAll]
  | condition :: rest, same => by
    rw [evaluateAll, evaluateAll, evaluate_congr condition same.left,
      evaluateAll_congr rest same.right]

theorem evaluateAny_congr : (conditions : List Condition) ->
    Indistinct (flagUsesList conditions) (counterUsesList conditions) flags flags' counters
      counters' ->
      evaluateAny flags counters conditions = evaluateAny flags' counters' conditions
  | [], _ => by rw [evaluateAny, evaluateAny]
  | condition :: rest, same => by
    rw [evaluateAny, evaluateAny, evaluate_congr condition same.left,
      evaluateAny_congr rest same.right]

end

/-- What a listed condition uses is used by the list. -/
theorem Indistinct.of_mem {conditions : List Condition} {condition : Condition}
    (same : Indistinct (flagUsesList conditions) (counterUsesList conditions) flags flags' counters
      counters') (listed : condition ∈ conditions) :
    Indistinct (flagUses condition) (counterUses condition) flags flags' counters counters' := by
  induction conditions with
  | nil => cases listed
  | cons head rest ih =>
    rcases List.mem_cons.1 listed with rfl | later
    · exact same.left
    · exact ih same.right later

end Condition

namespace Flow

/-- The flow has a condition, and the condition holds. -/
def Holds (flow : Flow) (flags : Flags) (counters : Counters) : Prop :=
  ∃ condition, flow.condition = some condition ∧ condition.evaluate flags counters = true

end Flow

namespace Routing

open Condition

variable {flows : List Flow} {conditions : List Condition} {flags : Flags} {counters : Counters}
variable {name : String} {value : Value}

/-- The conditions of two of the flows hold. -/
def Clash (flows : List Flow) (flags : Flags) (counters : Counters) : Prop :=
  ∃ first second, [first, second].Sublist flows ∧ first.Holds flags counters ∧
    second.Holds flags counters

/-- Some condition compares the flag with the value. -/
def Compared (conditions : List Condition) (name : String) (value : Value) : Prop :=
  (name, some value) ∈ flagUsesList conditions

/-- Some condition depends on whether the flag counts as true. -/
def Tested (conditions : List Condition) (name : String) : Prop :=
  (name, none) ∈ flagUsesList conditions

/-- The flag is not compared with the value, and none of the values that every flag is tried with can
stand for it: each of them is compared with the flag or, in some condition, counts differently. Zero
is overlooked where a flag is tested and compared with `false`. -/
def Overlooked (conditions : List Condition) (name : String) (value : Value) : Prop :=
  ¬ Compared conditions name value ∧
    ∀ tried ∈ [.bool false, .bool true, otherText], ¬ Compared conditions name tried ->
      Tested conditions name ∧ tried.isTruthy ≠ value.isTruthy

/-- Falsehood stands for what counts as false, and truth or the other text for what counts as
true. -/
theorem not_overlooked (falsehood : ¬ Compared conditions name (.bool false))
    (truth : ¬ (Compared conditions name (.bool true) ∧ Compared conditions name otherText)) :
    ¬ Overlooked conditions name value := by
  rintro ⟨-, none⟩
  have counts : value.isTruthy = true :=
    Bool.eq_true_of_not_eq_false (fun untrue => (none _ (by simp) falsehood).2 untrue.symm)
  refine truth ⟨Classical.byContradiction (fun uncompared => ?_),
    Classical.byContradiction (fun uncompared => ?_)⟩
  · exact (none (.bool true) (by simp) uncompared).2 counts.symm
  · exact (none otherText (by simp) uncompared).2 counts.symm

/-! ## Some value that is tried stands for each value -/

/-- A value that is not overlooked makes no difference to some value that is tried. -/
theorem exists_tried (seen : ¬ Overlooked conditions name value) :
    ∃ tried, (tried ∈ [.bool false, .bool true, otherText] ∨ Compared conditions name tried) ∧
      ∀ use, (name, use) ∈ flagUsesList conditions -> Alike use tried value := by
  by_cases compared : Compared conditions name value
  · refine ⟨value, .inr compared, fun use _ => ?_⟩
    cases use with
    | none => exact rfl
    | some constant => exact Iff.rfl
  · simp only [Overlooked, compared, not_false_iff, true_and, not_forall] at seen
    obtain ⟨tried, among, uncompared, stands⟩ := seen
    refine ⟨tried, .inl among, fun use listed => ?_⟩
    cases use with
    | none => exact Classical.byContradiction (fun differs => stands ⟨listed, differs⟩)
    | some constant =>
      exact iff_of_false (fun same => uncompared (same ▸ listed))
        (fun same => compared (same ▸ listed))

theorem toInt_numberBefore {number least : Int64} (above : least < number) :
    (numberBefore number).toInt = number.toInt - 1 := by
  have order := Int64.lt_iff_toInt_lt.1 above
  have low := least.le_toInt
  have high := number.toInt_lt
  have room : number ≠ Int64.minValue := by
    rintro rfl
    rw [Int64.toInt_minValue] at order
    omega
  rw [numberBefore, if_neg room, Int64.toInt_sub, show (1 : Int64).toInt = 1 by decide]
  exact Int.bmod_eq_of_le (by omega) (by omega)

/-- No limit tells a number below all limits from the number before the least limit. -/
theorem exists_triedNumber_of_below {limits : List Int64} {number : Int64}
    (below : ∀ limit ∈ limits, number < limit) :
    ∃ tried, (tried = 0 ∨ ∃ limit ∈ limits, tried = numberBefore limit) ∧
      ∀ limit ∈ limits, tried < limit := by
  by_cases some : limits.toFinset.Nonempty
  · obtain ⟨least, among, lower⟩ := Finset.exists_min_image _ Int64.toInt some
    rw [List.mem_toFinset] at among
    refine ⟨numberBefore least, .inr ⟨least, among, rfl⟩, fun limit listed => ?_⟩
    have before := toInt_numberBefore (below least among)
    have order := lower limit (List.mem_toFinset.2 listed)
    rw [Int64.lt_iff_toInt_lt]
    omega
  · exact ⟨0, .inl rfl, fun limit listed => absurd ⟨limit, List.mem_toFinset.2 listed⟩ some⟩

/-- No limit tells a number from the greatest limit up to it, or from the number before the least
limit if it is below every limit. -/
theorem exists_triedNumber (limits : List Int64) (number : Int64) :
    ∃ tried, (tried = 0 ∨ ∃ limit ∈ limits, tried = numberBefore limit ∨ tried = limit) ∧
      ∀ limit ∈ limits, tried < limit ↔ number < limit := by
  by_cases reached : (limits.toFinset.filter (fun limit => limit ≤ number)).Nonempty
  · obtain ⟨tried, among, greatest⟩ := Finset.exists_max_image _ Int64.toInt reached
    simp only [Finset.mem_filter, List.mem_toFinset] at among greatest
    refine ⟨tried, .inr ⟨tried, among.1, .inr rfl⟩, fun limit listed => ?_⟩
    have upTo := Int64.le_iff_toInt_le.1 among.2
    have below := greatest limit
    rw [Int64.le_iff_toInt_le] at below
    rw [Int64.lt_iff_toInt_lt, Int64.lt_iff_toInt_lt]
    constructor
    · intro under
      by_contra least
      exact absurd (below ⟨listed, by omega⟩) (by omega)
    · omega
  · have below : ∀ limit ∈ limits, number < limit := by
      intro limit listed
      rw [Int64.lt_iff_toInt_lt]
      by_contra least
      exact reached ⟨limit, Finset.mem_filter.2 ⟨List.mem_toFinset.2 listed,
        Int64.le_iff_toInt_le.2 (by omega)⟩⟩
    obtain ⟨tried, among, under⟩ := exists_triedNumber_of_below below
    refine ⟨tried, among.imp_right (fun ⟨limit, listed, before⟩ => ⟨limit, listed, .inl before⟩),
      fun limit listed => iff_of_true (under limit listed) (below limit listed)⟩

/-! ## What is tried -/

/-- What is read of the uses of one name. -/
theorem mem_readUses {α β : Type} {uses : List (String × α)} {read : α -> Option β} {result : β} :
    result ∈ uses.filterMap (fun use => if use.1 == name then read use.2 else none) ↔
      ∃ use, (name, use) ∈ uses ∧ read use = some result := by
  rw [List.mem_filterMap]
  constructor
  · rintro ⟨⟨name', use⟩, used, kept⟩
    rw [Option.ite_none_right_eq_some, beq_iff_eq] at kept
    obtain ⟨rfl, kept⟩ := kept
    exact ⟨use, used, kept⟩
  · rintro ⟨use, used, kept⟩
    exact ⟨(name, use), used, by rw [beq_self_eq_true, if_pos rfl, kept]⟩

/-- Every flag that is used is tried with the three values and the constants it is compared with. -/
theorem exists_flagChoice {use : Option Value} (used : (name, use) ∈ flagUsesList conditions) :
    ∃ choice ∈ flagChoices conditions, choice.1 = name :=
  ⟨_, List.mem_map.2 ⟨name, mem_sortedDistinct.2 (List.mem_map.2 ⟨_, used, rfl⟩), rfl⟩, rfl⟩

theorem mem_flagChoice {choice : String × List Value} (listed : choice ∈ flagChoices conditions) :
    value ∈ choice.2 ↔
      value ∈ [.bool false, .bool true, otherText] ∨ Compared conditions choice.1 value := by
  obtain ⟨name, -, rfl⟩ := List.mem_map.1 listed
  have constants := @mem_readUses name _ _ (flagUsesList conditions) id value
  simp only [id_eq, exists_eq_right] at constants
  rw [mem_sortedDistinct, List.mem_append, constants]
  rfl

/-- Every counter that is used is tried with its limits and the numbers before them. -/
theorem exists_counterChoice {limit : Int64}
    (used : (name, limit) ∈ counterUsesList conditions) :
    ∃ choice ∈ counterChoices conditions, choice.1 = name :=
  ⟨_, List.mem_map.2 ⟨name, mem_sortedDistinct.2 (List.mem_map.2 ⟨_, used, rfl⟩), rfl⟩, rfl⟩

/-- The limits that a counter is compared with. -/
def limitsOf (conditions : List Condition) (name : String) : List Int64 :=
  (counterUsesList conditions).filterMap (fun use => if use.1 == name then some use.2 else none)

theorem mem_limitsOf {limit : Int64} :
    limit ∈ limitsOf conditions name ↔ (name, limit) ∈ counterUsesList conditions := by
  have limits := @mem_readUses name _ _ (counterUsesList conditions) some limit
  simpa only [limitsOf, Option.some.injEq, exists_eq_right] using limits

theorem mem_counterChoice {choice : String × List Int64} {number : Int64}
    (listed : choice ∈ counterChoices conditions) :
    number ∈ choice.2 ↔ number = 0 ∨ ∃ limit ∈ limitsOf conditions choice.1,
      number = numberBefore limit ∨ number = limit := by
  obtain ⟨name, -, rfl⟩ := List.mem_map.1 listed
  rw [mem_sortedDistinct, List.mem_cons, List.mem_flatMap]
  simp only [List.mem_cons, List.not_mem_nil, or_false]
  rfl

section Assignments

variable {α : Type} {choices : Choices α}

/-- An assignment chooses a value that is to be tried for each of its names. -/
theorem exists_choice {chosen : List (String × α)} (listed : chosen ∈ assignments choices)
    {entry : String × α} (among : entry ∈ chosen) :
    ∃ choice ∈ choices, choice.1 = entry.1 ∧ entry.2 ∈ choice.2 := by
  induction choices generalizing chosen with
  | nil =>
    cases List.mem_singleton.1 listed
    cases among
  | cons choice rest ih =>
    obtain ⟨others, assigned, tried⟩ := List.mem_flatMap.1 listed
    obtain ⟨value, valued, rfl⟩ := List.mem_map.1 tried
    rcases List.mem_cons.1 among with rfl | later
    · exact ⟨choice, List.mem_cons_self, rfl, valued⟩
    · obtain ⟨other, inRest, chosen⟩ := ih assigned later
      exact ⟨other, List.mem_cons_of_mem _ inRest, chosen⟩

/-- Every choice of values that are to be tried is an assignment. -/
theorem map_mem_assignments {pick : String -> α}
    (tried : ∀ choice ∈ choices, pick choice.1 ∈ choice.2) :
    choices.map (fun choice => (choice.1, pick choice.1)) ∈ assignments choices := by
  induction choices with
  | nil => exact List.mem_singleton.2 rfl
  | cons choice rest ih =>
    obtain ⟨first, others⟩ := List.forall_mem_cons.1 tried
    exact List.mem_flatMap.2 ⟨_, ih others, List.mem_map.2 ⟨_, first, rfl⟩⟩

/-- A name has the value that is chosen for it. -/
theorem getD_ofList_map {pick : String -> α} {choice : String × List α} (listed : choice ∈ choices)
    (fallback : α) : (OrderedMap.ofList
      (choices.map (fun choice => (choice.1, pick choice.1)))).getD choice.1 fallback =
        pick choice.1 := by
  rw [OrderedMap.getD, OrderedMap.ofList]
  rcases OrderedMap.get?_foldl_insert_cases Prod.fst Prod.snd
    (choices.map (fun choice => (choice.1, pick choice.1))) .empty choice.1 with
    ⟨entry, among, same, found⟩ | ⟨absent, -⟩
  · obtain ⟨other, -, rfl⟩ := List.mem_map.1 among
    rw [found, Option.getD_some]
    exact congrArg pick same
  · exact absurd rfl (absent _ (List.mem_map.2 ⟨choice, listed, rfl⟩))

/-- A name has a value that is to be tried for it, or none was chosen. -/
theorem getD_ofList_cases {chosen : List (String × α)} (listed : chosen ∈ assignments choices)
    (name : String) (fallback : α) :
    (∃ choice ∈ choices, choice.1 = name ∧
        (OrderedMap.ofList chosen).getD name fallback ∈ choice.2) ∨
      (OrderedMap.ofList chosen).getD name fallback = fallback := by
  rw [OrderedMap.getD, OrderedMap.ofList]
  rcases OrderedMap.get?_foldl_insert_cases Prod.fst Prod.snd chosen .empty name with
    ⟨entry, among, rfl, found⟩ | ⟨-, found⟩
  · obtain ⟨choice, present, same, tried⟩ := exists_choice listed among
    exact .inl ⟨choice, present, same, by rwa [found]⟩
  · exact .inr (by rw [found]; rfl)

end Assignments

/-! ## Conflicts -/

/-- Two elements pass a test if and only if two are left. -/
theorem exists_sublist_pair_iff {α : Type} {test : α -> Bool} {elements : List α} :
    (∃ first second, [first, second].Sublist elements ∧ test first = true ∧ test second = true) ↔
      2 ≤ (elements.filter test).length := by
  constructor
  · rintro ⟨first, second, within, passes, passes'⟩
    have kept := within.filter test
    rw [List.filter_cons_of_pos passes, List.filter_cons_of_pos passes', List.filter_nil] at kept
    exact kept.length_le
  · intro several
    match left : elements.filter test with
    | [] => simp [left] at several
    | [_] => simp [left] at several
    | first :: second :: rest =>
      have within : [first, second].Sublist (elements.filter test) := by
        rw [left]
        exact ((List.nil_sublist rest).cons_cons second).cons_cons first
      have passes : ∀ element ∈ [first, second], test element = true :=
        fun element listed => (List.mem_filter.1 (within.subset listed)).2
      exact ⟨first, second, within.trans List.filter_sublist,
        passes first List.mem_cons_self, passes second (by simp)⟩

theorem taken_eq : taken flows flags counters = (flows.filter (fun flow =>
    flow.condition.any (fun condition => condition.evaluate flags counters))).map Flow.target := by
  rw [taken]
  refine congrArg (List.map Flow.target) (List.filter_congr (fun flow _ => ?_))
  cases flow.condition <;> rfl

theorem clash_iff : Clash flows flags counters ↔ 2 ≤ (taken flows flags counters).length := by
  rw [taken_eq, List.length_map, ← exists_sublist_pair_iff]
  simp only [Clash, Flow.Holds, Option.any_eq_true]

/-- No conflict is found if and only if no assignment that is tried makes flows clash. -/
theorem conflict?_eq_none_iff {flagOptions : Choices Value} {counterOptions : Choices Int64} :
    conflict? flows flagOptions counterOptions = none ↔
      ∀ chosenCounters ∈ assignments counterOptions, ∀ chosenFlags ∈ assignments flagOptions,
        ¬ Clash flows (.ofList chosenFlags) (.ofList chosenCounters) := by
  simp only [conflict?, List.findSome?_eq_none_iff, clash_iff]
  refine forall₄_congr (fun chosenCounters _ chosenFlags _ => ?_)
  match taken flows (.ofList chosenFlags) (.ofList chosenCounters) with
  | [] => simp
  | [_] => simp
  | _ :: _ :: _ => simp

/-- Assignments that make no difference to the conditions of some flows let the same flows clash. -/
theorem Clash.congr {flags' : Flags} {counters' : Counters} (clash : Clash flows flags counters)
    (same : Indistinct (flagUsesList (flows.filterMap Flow.condition))
      (counterUsesList (flows.filterMap Flow.condition)) flags flags' counters counters') :
    Clash flows flags' counters' := by
  have kept {flow : Flow} (listed : flow ∈ flows) (holds : flow.Holds flags counters) :
      flow.Holds flags' counters' := by
    obtain ⟨condition, given, holds⟩ := holds
    refine ⟨condition, given, ?_⟩
    rw [← evaluate_congr condition (same.of_mem (List.mem_filterMap.2 ⟨flow, listed, given⟩)), holds]
  obtain ⟨first, second, within, holds, holds'⟩ := clash
  exact ⟨first, second, within, kept (within.subset List.mem_cons_self) holds,
    kept (within.subset (by simp)) holds'⟩

/-- A conflict is found if and only if flows clash for flags none of which is overlooked. -/
theorem conflict?_eq_none_iff_overlooked (conditional : flows.filterMap Flow.condition = conditions) :
    conflict? flows (flagChoices conditions) (counterChoices conditions) = none ↔
      ¬ ∃ flags counters, (∀ name, ¬ Overlooked conditions name (flags.getD name default)) ∧
        Clash flows flags counters := by
  rw [conflict?_eq_none_iff]
  constructor
  · rintro none ⟨flags, counters, seen, clash⟩
    choose pick picked alike using fun name => exists_tried (seen name)
    choose pick' picked' alike' using fun name =>
      exists_triedNumber (limitsOf conditions name) (counters.getD name 0)
    have tried : ∀ choice ∈ flagChoices conditions, pick choice.1 ∈ choice.2 :=
      fun choice listed => (mem_flagChoice listed).2 (picked choice.1)
    have tried' : ∀ choice ∈ counterChoices conditions, pick' choice.1 ∈ choice.2 :=
      fun choice listed => (mem_counterChoice listed).2 (picked' choice.1)
    refine none _ (map_mem_assignments tried') _ (map_mem_assignments tried) (clash.congr ?_)
    rw [conditional]
    constructor
    · rintro ⟨name, use⟩ used
      obtain ⟨choice, listed, rfl⟩ := exists_flagChoice used
      rw [getD_ofList_map listed]
      exact (alike choice.1 use used).symm
    · rintro ⟨name, limit⟩ used
      obtain ⟨choice, listed, rfl⟩ := exists_counterChoice used
      rw [getD_ofList_map listed]
      exact (alike' choice.1 limit (mem_limitsOf.2 used)).symm
  · rintro none chosenCounters tried' chosenFlags tried clash
    refine none ⟨_, _, fun name overlooked => ?_, clash⟩
    have tried : (OrderedMap.ofList chosenFlags).getD name default ∈
          [.bool false, .bool true, otherText] ∨
        Compared conditions name ((OrderedMap.ofList chosenFlags).getD name default) := by
      rcases getD_ofList_cases tried name default with ⟨choice, listed, rfl, among⟩ | unset
      · exact (mem_flagChoice listed).1 among
      · rw [unset]
        exact .inl List.mem_cons_self
    rcases tried with among | compared
    · exact (overlooked.2 _ among overlooked.1).2 rfl
    · exact overlooked.1 compared

end Routing

namespace ProcessGraph

open Routing

variable {graph : ProcessGraph} {gateway : NodeKey} {problem : StructuralProblem}

/-! ## Reports -/

/-- Verification refuses the graph, and gives the problem as one of the reasons. -/
def Reports (graph : ProcessGraph) (problem : StructuralProblem) : Prop :=
  ∃ problems, VerifiedGraph.ofGraph graph = .error problems ∧ problem ∈ problems

theorem reports_iff : graph.Reports problem ↔ problem ∈ graph.problems := by
  constructor
  · rintro ⟨problems, refused, listed⟩
    rwa [(VerifiedGraph.ofGraph_eq_error_iff.1 refused).1]
  · exact fun listed => ⟨graph.problems,
      VerifiedGraph.ofGraph_eq_error_iff.2 ⟨rfl, List.ne_nil_of_mem listed⟩, listed⟩

@[simp] theorem mem_reportIf {amiss : Bool} {other : StructuralProblem} :
    problem ∈ reportIf amiss other ↔ amiss = true ∧ problem = other := by
  cases amiss <;> simp [reportIf]

variable {witness : RoutingWitness}

theorem ambiguousRouting_notMem_armProblems (race : NodeKey) (known targets : List NodeKey) :
    .ambiguousRouting gateway witness ∉ graph.armProblems race known targets := by
  induction targets generalizing known with
  | nil => exact List.not_mem_nil
  | cons target rest ih => simp [armProblems, ih]

/-- Only an exclusive gateway is said to route ambiguously. -/
theorem ambiguousRouting_mem_kindProblems_iff {node : Node} :
    .ambiguousRouting gateway witness ∈ graph.kindProblems node ↔
      node = ⟨gateway, .exclusiveGateway⟩ ∧ defaultCount (graph.outgoing gateway) = 0 ∧
        1 < (graph.outgoing gateway).length ∧ witness? (graph.outgoing gateway) = some witness := by
  obtain ⟨key, kind⟩ := node
  cases kind with
  | exclusiveGateway =>
    simp only [kindProblems, atLeastOne, List.mem_append, mem_reportIf, reduceCtorEq, and_false,
      false_or, Node.mk.injEq, and_true]
    split
    · rename_i several
      simp only [List.mem_map, Option.mem_toList, StructuralProblem.ambiguousRouting.injEq]
      constructor
      · rintro ⟨found, reason, rfl, rfl⟩
        exact ⟨rfl, several.1, several.2, reason⟩
      · rintro ⟨rfl, -, -, reason⟩
        exact ⟨witness, reason, rfl, rfl⟩
    · rename_i few
      refine iff_of_false List.not_mem_nil ?_
      rintro ⟨rfl, undefaulted, several, -⟩
      exact few ⟨undefaulted, several⟩
  | gateway kind direction declared =>
    cases direction <;> simp [kindProblems, exactlyOne, atLeastOne]
  | raceWait arms => simp [kindProblems, ambiguousRouting_notMem_armProblems]
  | boundaryTimer host duration interrupting =>
    have hosted : .ambiguousRouting gateway witness ∉ graph.hostProblems key host := by
      rw [hostProblems]
      split <;> simp
    simp [kindProblems, hosted, noneIncoming, exactlyOne]
  | _ => simp [kindProblems, exactlyOne, noneIncoming, oneBoundary]

theorem ambiguousRouting_mem_problems_iff :
    .ambiguousRouting gateway witness ∈ graph.problems ↔
      ∃ node ∈ graph.nodes, .ambiguousRouting gateway witness ∈ graph.kindProblems node := by
  have started : .ambiguousRouting gateway witness ∉ graph.startProblems := by
    rw [startProblems]
    split <;> simp
  have reached : .ambiguousRouting gateway witness ∉ graph.reachabilityProblems := by
    simp [reachabilityProblems]
  have parted (kind : GatewayKind) (node : Node) :
      .ambiguousRouting gateway witness ∉ graph.splitProblems kind node := by
    simp only [splitProblems, List.mem_append, List.mem_map, reduceCtorEq, and_false, exists_false,
      false_or]
    split
    · split <;> simp
    · split
      · split <;> simp
      · simp
    · simp
  have paired (kind : GatewayKind) :
      .ambiguousRouting gateway witness ∉ graph.pairingProblems kind := by
    simp [pairingProblems, joinProblems, parted]
  have flowing (node : Node) (flow : Flow) :
      .ambiguousRouting gateway witness ∉ flowProblems node flow := by
    simp [flowProblems]
  simp [problems, nodeProblems, started, reached, paired, flowing]

/-- The conditions of the flows that leave a node. -/
def guards (graph : ProcessGraph) (key : NodeKey) : List Condition :=
  (graph.outgoing key).filterMap Flow.condition

/-- An exclusive gateway takes one of several flows by their conditions alone, and there are few
enough combinations of values to try. -/
structure Guarded (graph : ProcessGraph) (gateway : NodeKey) : Prop where
  found : graph.node? gateway = some ⟨gateway, .exclusiveGateway⟩
  several : 2 ≤ (graph.outgoing gateway).length
  undefaulted : ∀ flow ∈ graph.outgoing gateway, flow.isDefault = false
  conditional : ∀ flow ∈ graph.outgoing gateway, flow.condition.isSome = true
  few : choiceCount (flagChoices (graph.guards gateway)) *
    choiceCount (counterChoices (graph.guards gateway)) ≤ 4096

/-- Such a gateway is reported with the first conflict that is found. -/
theorem Guarded.reports_iff_conflict? (guarded : graph.Guarded gateway) :
    graph.Reports (.ambiguousRouting gateway witness) ↔
      conflict? (graph.outgoing gateway) (flagChoices (graph.guards gateway))
        (counterChoices (graph.guards gateway)) = some witness := by
  have listed : ⟨gateway, .exclusiveGateway⟩ ∈ graph.nodes :=
    (OrderedMap.mem_values_iff _ _).2 ⟨gateway, guarded.found⟩
  have undefaulted : defaultCount (graph.outgoing gateway) = 0 := by
    rw [defaultCount, List.length_eq_zero_iff, List.filter_eq_nil_iff]
    exact fun flow leaves => by simp [guarded.undefaulted flow leaves]
  have conditional : (graph.outgoing gateway).find? (fun flow => flow.condition.isNone) = none := by
    rw [List.find?_eq_none]
    intro flow leaves
    rw [← Option.not_isSome, guarded.conditional flow leaves]
    decide
  have tried : witness? (graph.outgoing gateway) = conflict? (graph.outgoing gateway)
      (flagChoices (graph.guards gateway)) (counterChoices (graph.guards gateway)) := by
    rw [witness?, conditional]
    exact if_pos guarded.few
  rw [reports_iff, ambiguousRouting_mem_problems_iff]
  simp only [ambiguousRouting_mem_kindProblems_iff, tried]
  constructor
  · rintro ⟨node, -, -, -, -, reason⟩
    exact reason
  · exact fun reason => ⟨_, listed, rfl, undefaulted, guarded.several, reason⟩

/-- An exclusive gateway is reported if and only if two of its flows can be taken at once, apart
from flags that have a value which is overlooked. No value is overlooked if no flag is compared with
`false`, or with both `true` and the other text that it is tried with. -/
theorem ambiguousRouting_iff (guarded : graph.Guarded gateway) :
    ((∃ witness, graph.Reports (.ambiguousRouting gateway witness)) ↔
      ∃ flags counters,
        (∀ name, ¬ Overlooked (graph.guards gateway) name (flags.getD name default)) ∧
          Clash (graph.outgoing gateway) flags counters) ∧
    ((∀ name, ¬ Compared (graph.guards gateway) name (.bool false) ∧
        ¬ (Compared (graph.guards gateway) name (.bool true) ∧
          Compared (graph.guards gateway) name otherText)) ->
      ((∃ witness, graph.Reports (.ambiguousRouting gateway witness)) ↔
        ∃ flags counters, Clash (graph.outgoing gateway) flags counters)) := by
  have exact : (∃ witness, graph.Reports (.ambiguousRouting gateway witness)) ↔
      ∃ flags counters,
        (∀ name, ¬ Overlooked (graph.guards gateway) name (flags.getD name default)) ∧
          Clash (graph.outgoing gateway) flags counters := by
    simp only [guarded.reports_iff_conflict?, ← Option.isSome_iff_exists, ← Option.ne_none_iff_isSome]
    rw [← not_iff_not, not_not]
    exact conflict?_eq_none_iff_overlooked rfl
  refine ⟨exact, fun free => exact.trans ?_⟩
  have seen (name : String) (value : Value) : ¬ Overlooked (graph.guards gateway) name value :=
    not_overlooked (free name).1 (free name).2
  exact ⟨fun ⟨flags, counters, _, clash⟩ => ⟨flags, counters, clash⟩,
    fun ⟨flags, counters, clash⟩ => ⟨flags, counters, fun name => seen name _, clash⟩⟩

end ProcessGraph

namespace MissedZero

def start : NodeKey := ⟨"s", Eq.refl true⟩
def gateway : NodeKey := ⟨"g", Eq.refl true⟩
def first : NodeKey := ⟨"a", Eq.refl true⟩
def second : NodeKey := ⟨"b", Eq.refl true⟩

/-- A process that chooses between two ends. -/
def nodes : List Node := [⟨start, .start⟩, ⟨gateway, .exclusiveGateway⟩, ⟨first, .finish false⟩,
  ⟨second, .finish false⟩]

/-- One flow is for what does not count as true, and the other for what is no truth value. -/
def flows : List Flow := [
  { source := start, target := gateway },
  { source := gateway, target := first, condition := some (.negation (.flag "x")) },
  { source := gateway, target := second, condition := some (.all
    [.negation (.equals "x" (.bool true)), .negation (.equals "x" (.bool false))]) }]

theorem made : (ProcessGraph.ofParts nodes flows).toOption.isSome := by decide +kernel

def graph : ProcessGraph := (ProcessGraph.ofParts nodes flows).toOption.get made

/-- There is nothing wrong with it. -/
theorem sound : graph.problems = [] := by decide_cbv

theorem outgoing_gateway : graph.outgoing gateway = flows.drop 1 := by decide +kernel

theorem guarded : graph.Guarded gateway where
  found := by decide +kernel
  several := by decide +kernel
  undefaulted := by rw [outgoing_gateway]; decide
  conditional := by rw [outgoing_gateway]; decide
  few := by rw [ProcessGraph.guards, outgoing_gateway]; decide_cbv

/-- Zero is no truth value and does not count as true. -/
theorem clash : Routing.Clash (graph.outgoing gateway)
    (OrderedMap.empty.insert "x" (.int 0)) .empty := by
  rw [Routing.clash_iff]
  decide_cbv

end MissedZero

/-- Nothing is reported, and flows clash only if the flag has a value that is overlooked, such as
zero. -/
theorem ProcessGraph.ambiguousRouting_iff_of_missedZero :
    (¬ ∃ flags counters, (∀ name, ¬ Routing.Overlooked (MissedZero.graph.guards MissedZero.gateway)
        name (flags.getD name default)) ∧
      Routing.Clash (MissedZero.graph.outgoing MissedZero.gateway) flags counters) ∧
    ∃ flags counters, Routing.Clash (MissedZero.graph.outgoing MissedZero.gateway) flags counters := by
  refine ⟨fun clash => ?_, ⟨_, _, MissedZero.clash⟩⟩
  obtain ⟨witness, reported⟩ := (ambiguousRouting_iff MissedZero.guarded).1.2 clash
  rw [reports_iff, MissedZero.sound] at reported
  cases reported

end ProcessEngine
