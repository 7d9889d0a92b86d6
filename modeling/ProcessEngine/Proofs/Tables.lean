import ProcessEngine.Data.OrderedMap
import ProcessEngine.Data.Sorting

/-!
# Tables

What an ordered map answers after the remaining operations that a store performs on its
tables. A transition is a list of insertions and deletions, so the laws of single operations
are extended to lists of them.
-/

namespace ProcessEngine

universe u v w

namespace OrderedMap

variable {Key : Type u} {Value : Type v} [Ord Key]

section Equality

variable [Std.LawfulEqOrd Key]

theorem lookup_map {Image : Type w} (change : Key -> Value -> Image) (asked : Key)
    (entries : List (Key × Value)) :
    lookup asked (entries.map (fun entry => (entry.1, change entry.1 entry.2))) =
      (lookup asked entries).map (change asked) := by
  induction entries with
  | nil => rfl
  | cons head rest ih =>
    obtain ⟨present, value⟩ := head
    simp only [List.map_cons, lookup]
    by_cases same : asked = present
    · subst same
      simp
    · simp [same, ih]

/-- A changed map answers with what the change makes of the former answer. -/
theorem get?_map {Image : Type w} (change : Key -> Value -> Image) (map : OrderedMap Key Value)
    (asked : Key) : (map.map change).get? asked = (map.get? asked).map (change asked) :=
  lookup_map change asked map.entries

/-- Changing one key leaves the others as they are. -/
theorem get?_modify [DecidableEq Key] (map : OrderedMap Key Value) (key : Key)
    (change : Value -> Value) (asked : Key) :
    (map.modify key change).get? asked =
      if asked = key then (map.get? asked).map change else map.get? asked := by
  rw [modify, get?_map]
  by_cases same : asked = key
  · subst same
    simp
  · have other : ¬ compare key asked = .eq := by simpa using Ne.symm same
    simp [same, other]

/-- Filtering keeps exactly the answers that pass the test. -/
theorem get?_filter [Std.TransOrd Key] (keep : Key -> Value -> Bool) (map : OrderedMap Key Value)
    (asked : Key) : (map.filter keep).get? asked = (map.get? asked).filter (keep asked) := by
  apply Option.ext
  intro value
  rw [← mem_toList_iff, Option.filter_eq_some_iff, ← mem_toList_iff]
  simp [toList, filter]

/-- The values of a map are its answers. -/
theorem mem_values_iff [Std.TransOrd Key] (map : OrderedMap Key Value) (value : Value) :
    value ∈ map.values ↔ ∃ key, map.get? key = some value := by
  constructor
  · intro listed
    obtain ⟨⟨key, _⟩, entry, rfl⟩ := List.mem_map.1 listed
    exact ⟨key, (mem_toList_iff map key _).1 entry⟩
  · rintro ⟨key, found⟩
    exact List.mem_map.2 ⟨(key, value), (mem_toList_iff map key value).2 found, rfl⟩

/-- If values are found under their names, no two values have the same name. -/
theorem pairwise_values [Std.TransOrd Key] (map : OrderedMap Key Value) (name : Value -> Key)
    (named : ∀ key value, map.get? key = some value -> name value = key) :
    map.values.Pairwise (fun left right => name left ≠ name right) := by
  have keyed : ∀ entry ∈ map.entries, name entry.2 = entry.1 :=
    fun entry listed => named entry.1 entry.2 ((mem_toList_iff map entry.1 entry.2).1 listed)
  rw [values, List.pairwise_map]
  refine map.ascending.imp_of_mem (fun {left right} listed listed' below same => ?_)
  rw [keyed left listed, keyed right listed'] at same
  rw [same] at below
  simp at below

/-- A map is empty exactly when it has no answer for any key. -/
theorem isEmpty_iff [Std.TransOrd Key] (map : OrderedMap Key Value) :
    map.isEmpty = true ↔ ∀ key, map.get? key = none := by
  constructor
  · intro empty key
    have none : map.entries = [] := List.isEmpty_iff.1 empty
    rw [get?, none]
    rfl
  · intro absent
    apply List.isEmpty_iff.2
    apply List.eq_nil_iff_forall_not_mem.2
    rintro ⟨key, value⟩ listed
    have found := (mem_toList_iff map key value).1 listed
    rw [absent key] at found
    cases found

end Equality

section Ordered

variable [Std.TransOrd Key] [Std.LawfulEqOrd Key] [DecidableEq Key]

/-- An insertion that may not replace anything keeps the former answers. -/
theorem get?_insertNew (map : OrderedMap Key Value) (key : Key) (value : Value) (asked : Key) :
    (map.insertNew key value).get? asked =
      (map.get? asked).or (if asked = key then some value else none) := by
  rw [insertNew]
  split
  · rename_i present
    rw [contains_eq_isSome] at present
    by_cases same : asked = key
    · subst same
      obtain ⟨old, found⟩ := Option.isSome_iff_exists.1 present
      simp [found]
    · simp [same]
  · rename_i absent
    rw [contains_eq_isSome, Bool.not_eq_true, Option.isSome_eq_false_iff,
      Option.isNone_iff_eq_none] at absent
    rw [get?_insert]
    by_cases same : asked = key
    · subst same
      simp [absent]
    · simp [same]

/-! ## Lists of insertions and deletions -/

variable {Item : Type w} (key : Item -> Key) (value : Item -> Value)

/-- Keys of which no item is inserted keep their answers. -/
theorem get?_foldl_insert_of_notMem {items : List Item} {asked : Key}
    (absent : ∀ item ∈ items, key item ≠ asked) (map : OrderedMap Key Value) :
    (items.foldl (fun map item => map.insert (key item) (value item)) map).get? asked =
      map.get? asked := by
  induction items generalizing map with
  | nil => rfl
  | cons head rest ih =>
    have other : asked ≠ key head := Ne.symm (absent head List.mem_cons_self)
    rw [List.foldl_cons, ih (fun item listed => absent item (List.mem_cons_of_mem _ listed)),
      get?_insert, if_neg other]

/-- If no two items have the same key, the key of an inserted item answers with its value. -/
theorem get?_foldl_insert_of_mem {items : List Item}
    (distinct : items.Pairwise (fun left right => key left ≠ key right)) {item : Item}
    (listed : item ∈ items) (map : OrderedMap Key Value) :
    (items.foldl (fun map item => map.insert (key item) (value item)) map).get? (key item) =
      some (value item) := by
  induction items generalizing map with
  | nil => cases listed
  | cons head rest ih =>
    rw [List.pairwise_cons] at distinct
    rw [List.foldl_cons]
    rcases List.mem_cons.1 listed with rfl | later
    · rw [get?_foldl_insert_of_notMem key value
        (fun other below => Ne.symm (distinct.1 other below)), get?_insert, if_pos rfl]
    · exact ih distinct.2 later _

/-- A key has the value of one of the inserted items, or none of them and its former answer. -/
theorem get?_foldl_insert_cases (items : List Item) (map : OrderedMap Key Value) (asked : Key) :
    (∃ item ∈ items, key item = asked ∧
        (items.foldl (fun map item => map.insert (key item) (value item)) map).get? asked =
          some (value item)) ∨
      (∀ item ∈ items, key item ≠ asked) ∧
        (items.foldl (fun map item => map.insert (key item) (value item)) map).get? asked =
          map.get? asked := by
  induction items generalizing map with
  | nil => exact .inr ⟨by simp, rfl⟩
  | cons head rest ih =>
    rw [List.foldl_cons]
    rcases ih (map.insert (key head) (value head)) with
      ⟨item, listed, same, found⟩ | ⟨absent, found⟩
    · exact .inl ⟨item, List.mem_cons_of_mem _ listed, same, found⟩
    · rw [get?_insert] at found
      by_cases same : asked = key head
      · rw [if_pos same] at found
        exact .inl ⟨head, List.mem_cons_self, same.symm, found⟩
      · rw [if_neg same] at found
        refine .inr ⟨fun item listed => ?_, found⟩
        rcases List.mem_cons.1 listed with rfl | later
        · exact Ne.symm same
        · exact absent item later

omit [Std.TransOrd Key] in
/-- Deleting keys leaves the others as they are. -/
theorem get?_foldl_erase (keys : List Key) (map : OrderedMap Key Value) (asked : Key) :
    (keys.foldl erase map).get? asked = if asked ∈ keys then none else map.get? asked := by
  induction keys generalizing map with
  | nil => simp
  | cons head rest ih =>
    rw [List.foldl_cons, ih, get?_erase]
    by_cases same : asked = head
    · simp [same]
    · simp [same]

/-- Of several items that may replace nothing, the first one of a key is inserted. -/
theorem get?_foldl_insertNew (items : List Item) (map : OrderedMap Key Value) (asked : Key) :
    (items.foldl (fun map item => map.insertNew (key item) (value item)) map).get? asked =
      (map.get? asked).or ((items.find? (fun item => key item = asked)).map value) := by
  induction items generalizing map with
  | nil => simp
  | cons head rest ih =>
    rw [List.foldl_cons, ih, get?_insertNew, List.find?_cons]
    by_cases same : key head = asked
    · subst same
      cases map.get? (key head) <;> simp
    · have other : ¬ asked = key head := Ne.symm same
      simp [same, other]

end Ordered

end OrderedMap

/-- Listing each element once keeps the elements of a list. -/
theorem mem_sortedDistinct {Key : Type u} [Ord Key] [Std.TransOrd Key] [Std.LawfulEqOrd Key]
    {elements : List Key} {element : Key} :
    element ∈ sortedDistinct elements ↔ element ∈ elements := by
  have : DecidableEq Key := fun left right => decidable_of_iff (compare left right = .eq) (by simp)
  have listed : element ∈ sortedDistinct elements ↔
      (OrderedMap.ofList (elements.map (fun element => (element, ())))).get? element = some () := by
    rw [sortedDistinct, OrderedMap.keys, ← OrderedMap.mem_toList_iff, List.mem_map]
    exact ⟨fun ⟨entry, present, same⟩ => same ▸ present, fun present => ⟨_, present, rfl⟩⟩
  rw [listed, OrderedMap.ofList]
  rcases OrderedMap.get?_foldl_insert_cases Prod.fst Prod.snd
    (elements.map (fun element => (element, ()))) .empty element with
    ⟨item, present, same, found⟩ | ⟨absent, found⟩
  · obtain ⟨given, among, rfl⟩ := List.mem_map.1 present
    exact iff_of_true found (same ▸ among)
  · refine iff_of_false (fun present => ?_)
      (fun among => absent _ (List.mem_map.2 ⟨element, among, rfl⟩) rfl)
    cases found.symm.trans present

/-- Sorting keeps the elements of a list. -/
theorem mem_sortOn {α Key : Type u} [Ord Key] {key : α -> Key} {list : List α} {element : α} :
    element ∈ sortOn key list ↔ element ∈ list :=
  (sortBy_perm _ list).mem_iff

end ProcessEngine
