import Mathlib.Data.List.Forall2
import ProcessEngine.Lowering.Basic

/-!
# Steps of lowering

A step of lowering adds names and stubs to those that were gathered before it and changes none,
so what it says about the numbers it returns still holds of all that is gathered in the end. The
specification of a step (`Lowered.Meets`) is about that end: it tells which errors there can be
and what holds of the result whatever is gathered later.
-/

namespace ProcessEngine

namespace Lowering

/-- More was gathered for a graph, and what had been gathered is still there. -/
structure Gathered.Within (graph : ProcessGraph) (former latter : Gathered) : Prop where
  nodes : former.symbols.nodes <+: latter.symbols.nodes
  names : ∀ kind, former.symbols.names kind <+: latter.symbols.names kind
  stubs : former.stubs <+: latter.stubs
  /-- Further stubs go back to nodes of the graph. -/
  targets : ∀ target ∈ latter.stubs, target ∈ former.stubs ∨ graph.contains target = true

namespace Gathered.Within

variable {graph : ProcessGraph} {former latter last : Gathered}

theorem refl (gathered : Gathered) : gathered.Within graph gathered :=
  ⟨List.prefix_rfl, fun _ => List.prefix_rfl, List.prefix_rfl, fun _ => .inl⟩

theorem trans (first : former.Within graph latter) (second : latter.Within graph last) :
    former.Within graph last where
  nodes := first.nodes.trans second.nodes
  names kind := (first.names kind).trans (second.names kind)
  stubs := first.stubs.trans second.stubs
  targets target listed := (second.targets target listed).elim (first.targets target) .inr

/-- Names alone are added. -/
theorem of_names (nodes : former.symbols.nodes <+: latter.symbols.nodes)
    (names : ∀ kind, former.symbols.names kind <+: latter.symbols.names kind)
    (stubs : latter.stubs = former.stubs) : former.Within graph latter :=
  ⟨nodes, names, stubs ▸ List.prefix_rfl, fun _ listed => .inl (stubs ▸ listed)⟩

end Gathered.Within

/-- An element of a list has the same place in a list that continues it. -/
theorem getElem?_of_prefix {α : Type} {former latter : List α} (continued : former <+: latter)
    {index : Nat} {element : α} (found : former[index]? = some element) :
    latter[index]? = some element := by
  obtain ⟨rest, rfl⟩ := continued
  rw [List.getElem?_append_left (List.getElem?_eq_some_iff.1 found).1]
  exact found

/-- Steps in sequence that end well do so one after the other. -/
theorem Lowered.bind_ok {α β : Type} {work : Lowered α} {next : α -> Lowered β}
    {gathered later : Gathered} {image : β}
    (done : (work >>= next) gathered = .ok (image, later)) :
    ∃ value middle, work gathered = .ok (value, middle) ∧
      next value middle = .ok (image, later) := by
  change Except.bind (work gathered) (fun (value, later) => next value later) = _ at done
  cases first : work gathered with
  | error error =>
    rw [first] at done
    cases done
  | ok pair =>
    rw [first] at done
    exact ⟨pair.1, pair.2, rfl, done⟩

/-- A step of lowering has some results, or fails for some reasons only. -/
def Lowered.Meets {α : Type} (graph : ProcessGraph) (work : Lowered α)
    (Amiss : LoweringError -> Prop) (Result : Gathered -> α -> Prop) : Prop :=
  ∀ gathered, match work gathered with
    | .error error => Amiss error
    | .ok (result, later) =>
      gathered.Within graph later ∧ ∀ final, later.Within graph final -> Result final result

namespace Lowered.Meets

variable {graph : ProcessGraph} {α β : Type} {work : Lowered α} {next : α -> Lowered β}
  {Amiss : LoweringError -> Prop} {Result : Gathered -> α -> Prop} {Image : Gathered -> β -> Prop}

theorem pure {value : α} (holds : ∀ final, Result final value) :
    Lowered.Meets graph (Pure.pure value) Amiss Result :=
  fun gathered => ⟨.refl gathered, fun final _ => holds final⟩

theorem throw {error : LoweringError} (amiss : Amiss error) :
    Lowered.Meets graph (throw error : Lowered α) Amiss Result :=
  fun _ => amiss

/-- Nothing follows a failure. -/
theorem throw_bind {error : LoweringError} (amiss : Amiss error) :
    ((MonadExcept.throw error : Lowered α) >>= next).Meets graph Amiss Image :=
  fun _ => amiss

/-- What a step has found holds still when all else is done. -/
theorem bind (first : work.Meets graph Amiss Result)
    (second : ∀ value, (next value).Meets graph Amiss
      (fun final image => Result final value -> Image final image)) :
    (work >>= next).Meets graph Amiss Image := by
  intro gathered
  have first := first gathered
  change match Except.bind (work gathered) (fun (value, later) => next value later) with
    | .error error => Amiss error
    | .ok (result, later) =>
      gathered.Within graph later ∧ ∀ final, later.Within graph final -> Image final result
  cases done : work gathered with
  | error error =>
    simp only [done] at first
    exact first
  | ok pair =>
    obtain ⟨value, middle⟩ := pair
    simp only [done] at first
    have second := second value middle
    simp only [Except.bind]
    cases done' : next value middle with
    | error error => simpa only [done'] using second
    | ok pair' =>
      obtain ⟨image, later⟩ := pair'
      simp only [done'] at second
      exact ⟨first.1.trans second.1, fun final within =>
        second.2 final within (first.2 final (second.1.trans within))⟩

theorem mono {Weaker : Gathered -> α -> Prop} (meets : work.Meets graph Amiss Result)
    (weaker : ∀ final value, Result final value -> Weaker final value) :
    work.Meets graph Amiss Weaker := by
  intro gathered
  have meets := meets gathered
  cases done : work gathered with
  | error error => simpa only [done] using meets
  | ok pair =>
    simp only [done] at meets ⊢
    exact ⟨meets.1, fun final within => weaker final _ (meets.2 final within)⟩

theorem amiss (meets : work.Meets graph Amiss Result) (Weaker : LoweringError -> Prop)
    (weaker : ∀ error, Amiss error -> Weaker error) : work.Meets graph Weaker Result := by
  intro gathered
  have meets := meets gathered
  cases done : work gathered with
  | error error =>
    simp only [done] at meets
    exact weaker error meets
  | ok pair => simpa only [done] using meets

/-- What is done for each element in turn has a result for each. -/
theorem mapM {work : α -> Lowered β} {Result : Gathered -> α -> β -> Prop} {list : List α}
    (each : ∀ element ∈ list,
      (work element).Meets graph Amiss (fun final image => Result final element image)) :
    (list.mapM work).Meets graph Amiss (fun final images =>
      List.Forall₂ (fun element image => Result final element image) list images) := by
  induction list with
  | nil =>
    rw [List.mapM_nil]
    exact pure (fun _ => .nil)
  | cons head rest ih =>
    rw [List.mapM_cons]
    refine bind (each head List.mem_cons_self) (fun image => ?_)
    refine bind (ih (fun element listed => each element (List.mem_cons_of_mem _ listed)))
      (fun images => pure (fun final rest first => .cons first rest))

/-- A step that ends well does so with one of its results. -/
theorem result (meets : work.Meets graph Amiss Result) {gathered later : Gathered} {value : α}
    (done : work.run gathered = .ok (value, later)) :
    gathered.Within graph later ∧ ∀ final, later.Within graph final -> Result final value := by
  have meets := meets gathered
  rwa [show work gathered = .ok (value, later) from done] at meets

end Lowered.Meets

/-! ## Numbers and labels -/

/-- A name has its number in the list that it was added to. -/
theorem intern_spec {Name : Type} [BEq Name] [LawfulBEq Name] (names : List Name) (name : Name) :
    names <+: (SymbolTable.intern names name).2 ∧
      (SymbolTable.intern names name).2[(SymbolTable.intern names name).1]? = some name := by
  unfold SymbolTable.intern
  split
  · rename_i index found
    obtain ⟨bounded, same, -⟩ := List.idxOf?_eq_some_iff.1 found
    exact ⟨List.prefix_rfl, List.getElem?_eq_some_iff.2 ⟨bounded, same⟩⟩
  · exact ⟨List.prefix_append _ _, by simp⟩

section Numbers

variable {graph : ProcessGraph} {Amiss : LoweringError -> Prop}

theorem nodeSymbol_meets (key : NodeKey) :
    (nodeSymbol key).Meets graph Amiss
      (fun final index => final.symbols.node? index = some key) := by
  intro gathered
  obtain ⟨grown, found⟩ := intern_spec gathered.symbols.nodes key
  refine ⟨.of_names grown (fun kind => ?_) rfl, fun final within => ?_⟩
  · cases kind
    case node => exact grown.map NodeKey.text
    all_goals exact List.prefix_rfl
  · exact getElem?_of_prefix within.nodes found

/-- Numbering a name of some kind other than a node. -/
theorem intern_meets {number : SymbolTable -> Nat × SymbolTable} (kind : SymbolKind) (name : String)
    (nodes : ∀ symbols, (number symbols).2.nodes = symbols.nodes)
    (others : ∀ symbols other, other ≠ kind -> (number symbols).2.names other = symbols.names other)
    (own : ∀ symbols, ((number symbols).1, (number symbols).2.names kind) =
      SymbolTable.intern (symbols.names kind) name) :
    (intern number).Meets graph Amiss
      (fun final index => final.symbols.name? ⟨kind, index⟩ = some name) := by
  intro gathered
  have own := own gathered.symbols
  obtain ⟨grown, found⟩ := intern_spec (gathered.symbols.names kind) name
  rw [← own] at grown found
  refine ⟨.of_names ((nodes gathered.symbols) ▸ List.prefix_rfl) (fun other => ?_) rfl,
    fun final within => getElem?_of_prefix (within.names kind) found⟩
  by_cases same : other = kind
  · exact same ▸ grown
  · exact (others gathered.symbols other same) ▸ List.prefix_rfl

theorem flagSymbol_meets (name : String) :
    (flagSymbol name).Meets graph Amiss
      (fun final index => final.symbols.name? ⟨.flag, index⟩ = some name) :=
  intern_meets .flag name (fun _ => rfl)
    (fun _ other _ => by cases other <;> first | rfl | contradiction) (fun _ => rfl)

theorem counterSymbol_meets (name : String) :
    (counterSymbol name).Meets graph Amiss
      (fun final index => final.symbols.name? ⟨.counter, index⟩ = some name) :=
  intern_meets .counter name (fun _ => rfl)
    (fun _ other _ => by cases other <;> first | rfl | contradiction) (fun _ => rfl)

theorem taskTypeSymbol_meets (name : String) :
    (intern (·.internTaskType name)).Meets graph Amiss
      (fun final index => final.symbols.name? ⟨.taskType, index⟩ = some name) :=
  intern_meets .taskType name (fun _ => rfl)
    (fun _ other _ => by cases other <;> first | rfl | contradiction) (fun _ => rfl)

theorem messageSymbol_meets (name : String) :
    (intern (·.internMessage name)).Meets graph Amiss
      (fun final index => final.symbols.name? ⟨.message, index⟩ = some name) :=
  intern_meets .message name (fun _ => rfl)
    (fun _ other _ => by cases other <;> first | rfl | contradiction) (fun _ => rfl)

theorem humanTaskSymbol_meets (name : String) :
    (intern (·.internHumanTask name)).Meets graph Amiss
      (fun final index => final.symbols.name? ⟨.humanTask, index⟩ = some name) :=
  intern_meets .humanTask name (fun _ => rfl)
    (fun _ other _ => by cases other <;> first | rfl | contradiction) (fun _ => rfl)

/-- Where control goes along a flow, among all that is gathered: to the code of its target, or to
the stub for its target if the flow closes a loop. -/
def LeadsTo (layout : Layout) (final : Gathered) (source : NodeKey) (place : Flow × Nat)
    (label : Label) : Prop :=
  if ⟨source, place.2⟩ ∈ layout.loops then
    ∃ number, label = .stub number ∧ final.stubs[number]? = some place.1.target
  else label = .node place.1.target

theorem flowLabel_meets (layout : Layout) (source : NodeKey) (index : Nat) (flow : Flow)
    (inside : graph.contains flow.target = true) :
    (flowLabel layout source index flow).Meets graph Amiss
      (fun final label => LeadsTo layout final source (flow, index) label) := by
  unfold flowLabel
  split
  · rename_i closes
    rw [List.contains_iff_mem] at closes
    intro gathered
    refine ⟨⟨List.prefix_rfl, fun _ => List.prefix_rfl, List.prefix_append _ _,
      fun target listed => ?_⟩, fun final within => ?_⟩
    · rcases List.mem_append.1 listed with former | new
      · exact .inl former
      · exact .inr (List.mem_singleton.1 new ▸ inside)
    simp only [LeadsTo, if_pos closes]
    exact ⟨_, rfl, getElem?_of_prefix within.stubs (by simp)⟩
  · rename_i onward
    rw [List.contains_iff_mem] at onward
    exact Lowered.Meets.pure (fun final => by rw [LeadsTo, if_neg onward])

end Numbers

end Lowering

end ProcessEngine
