/-!
# Ordered maps

Finite maps kept as lists of entries in strictly ascending key order. The order
is part of the type, so two maps with the same lookups are equal
(`OrderedMap.ext_get?`) and every traversal visits the keys in one fixed order.
Each operation is described by what it does to `get?`.
-/

namespace ProcessEngine

universe u v w

/-- A finite map whose entries are listed in strictly ascending key order. -/
structure OrderedMap (Key : Type u) (Value : Type v) [Ord Key] where
  /-- The entries, smallest key first. -/
  entries : List (Key × Value)
  /-- No key is listed twice, and a smaller key comes first. -/
  ascending : entries.Pairwise (fun left right => compare left.1 right.1 = .lt)

namespace OrderedMap

variable {Key : Type u} {Value : Type v} [Ord Key]

/-- The value listed under a key. -/
def lookup (key : Key) : List (Key × Value) -> Option Value
  | [] => none
  | (present, value) :: rest =>
    if compare key present = .eq then some value else lookup key rest

/-- Lists an entry at its place, replacing the one that had its key. -/
def place (key : Key) (value : Value) : List (Key × Value) -> List (Key × Value)
  | [] => [(key, value)]
  | (present, old) :: rest =>
    match compare key present with
    | .lt => (key, value) :: (present, old) :: rest
    | .eq => (key, value) :: rest
    | .gt => (present, old) :: place key value rest

/-- Every key of the list after an insertion is the new key or was there before. -/
theorem mem_place {key : Key} {value : Value} {entry : Key × Value}
    {entries : List (Key × Value)} (listed : entry ∈ place key value entries) :
    entry = (key, value) ∨ entry ∈ entries := by
  induction entries with
  | nil => simpa [place] using listed
  | cons head rest ih =>
    obtain ⟨present, old⟩ := head
    simp only [place] at listed
    split at listed
    · simpa using listed
    · rcases List.mem_cons.1 listed with same | below
      · exact .inl same
      · exact .inr (List.mem_cons_of_mem _ below)
    · rcases List.mem_cons.1 listed with same | below
      · exact .inr (same ▸ List.mem_cons_self)
      · exact (ih below).imp_right (List.mem_cons_of_mem _)

/-- Placing an entry keeps the keys in ascending order. -/
theorem ascending_place [Std.TransOrd Key] [Std.LawfulEqOrd Key] (key : Key) (value : Value)
    {entries : List (Key × Value)}
    (ascending : entries.Pairwise (fun left right => compare left.1 right.1 = .lt)) :
    (place key value entries).Pairwise (fun left right => compare left.1 right.1 = .lt) := by
  induction entries with
  | nil => simp [place]
  | cons head rest ih =>
    obtain ⟨present, old⟩ := head
    rw [List.pairwise_cons] at ascending
    obtain ⟨above, sorted⟩ := ascending
    simp only [place]
    split
    · rename_i before
      refine List.pairwise_cons.2 ⟨fun entry listed => ?_, List.pairwise_cons.2 ⟨above, sorted⟩⟩
      rcases List.mem_cons.1 listed with same | below
      · exact same ▸ before
      · exact Std.TransCmp.lt_trans before (above entry below)
    · rename_i same
      refine List.pairwise_cons.2 ⟨fun entry listed => ?_, sorted⟩
      rw [Std.LawfulEqCmp.eq_of_compare same]
      exact above entry listed
    · rename_i after
      refine List.pairwise_cons.2 ⟨fun entry listed => ?_, ih sorted⟩
      rcases mem_place listed with same | below
      · exact same ▸ Std.OrientedCmp.lt_of_gt after
      · exact above entry below

/-- The map without entries. -/
def empty : OrderedMap Key Value := ⟨[], List.Pairwise.nil⟩

instance : EmptyCollection (OrderedMap Key Value) := ⟨empty⟩
instance : Inhabited (OrderedMap Key Value) := ⟨empty⟩

instance [DecidableEq Key] [DecidableEq Value] : DecidableEq (OrderedMap Key Value) :=
  fun left right =>
    if same : left.entries = right.entries then
      isTrue (by cases left; cases right; cases same; rfl)
    else isFalse (fun equal => same (congrArg entries equal))

/-- The value of a key. -/
def get? (map : OrderedMap Key Value) (key : Key) : Option Value := lookup key map.entries

/-- The value of a key, or the given one for an absent key. -/
def getD (map : OrderedMap Key Value) (key : Key) (fallback : Value) : Value :=
  (map.get? key).getD fallback

/-- Whether a key has a value. -/
def contains (map : OrderedMap Key Value) (key : Key) : Bool := (map.get? key).isSome

/-- The number of keys. -/
def size (map : OrderedMap Key Value) : Nat := map.entries.length

/-- Whether no key has a value. -/
def isEmpty (map : OrderedMap Key Value) : Bool := map.entries.isEmpty

/-- The entries in ascending key order. -/
def toList (map : OrderedMap Key Value) : List (Key × Value) := map.entries

/-- The keys in ascending order. -/
def keys (map : OrderedMap Key Value) : List Key := map.entries.map Prod.fst

/-- The values in the order of their keys. -/
def values (map : OrderedMap Key Value) : List Value := map.entries.map Prod.snd

/-- Keeps the entries that pass a test. -/
def filter (keep : Key -> Value -> Bool) (map : OrderedMap Key Value) : OrderedMap Key Value :=
  ⟨map.entries.filter (fun entry => keep entry.1 entry.2), map.ascending.filter _⟩

/-- Drops a key. -/
def erase (map : OrderedMap Key Value) (key : Key) : OrderedMap Key Value :=
  map.filter (fun present _ => compare key present != .eq)

/-- Changes every value. -/
def map {Image : Type w} (change : Key -> Value -> Image) (map : OrderedMap Key Value) :
    OrderedMap Key Image :=
  ⟨map.entries.map (fun entry => (entry.1, change entry.1 entry.2)),
    List.pairwise_map.2 map.ascending⟩

/-- Changes the value of a key, if it has one. -/
def modify (map : OrderedMap Key Value) (key : Key) (change : Value -> Value) :
    OrderedMap Key Value :=
  map.map (fun present value => if compare key present = .eq then change value else value)

section Ordered

variable [Std.TransOrd Key] [Std.LawfulEqOrd Key]

/-- Gives a key a value, replacing the one it had. -/
def insert (map : OrderedMap Key Value) (key : Key) (value : Value) : OrderedMap Key Value :=
  ⟨place key value map.entries, ascending_place key value map.ascending⟩

/-- Gives a key a value unless it has one. -/
def insertNew (map : OrderedMap Key Value) (key : Key) (value : Value) : OrderedMap Key Value :=
  if map.contains key then map else map.insert key value

/-- The map of a list of entries, in which a later entry replaces an earlier one. -/
def ofList (entries : List (Key × Value)) : OrderedMap Key Value :=
  entries.foldl (fun map entry => map.insert entry.1 entry.2) empty

/-- Adds the entries of the second map, which win over those of the first. -/
def union (first second : OrderedMap Key Value) : OrderedMap Key Value :=
  second.entries.foldl (fun map entry => map.insert entry.1 entry.2) first

end Ordered

/-! ## What each operation does to lookups -/

@[simp] theorem get?_empty (key : Key) : (empty : OrderedMap Key Value).get? key = none := rfl

@[simp] theorem contains_eq_isSome (map : OrderedMap Key Value) (key : Key) :
    map.contains key = (map.get? key).isSome := rfl

/-- A key that is below every listed key has no value. -/
theorem lookup_eq_none_of_below [Std.TransOrd Key] {key : Key} {entries : List (Key × Value)}
    (below : ∀ entry ∈ entries, compare key entry.1 = .lt) : lookup key entries = none := by
  induction entries with
  | nil => rfl
  | cons head rest ih =>
    simp only [lookup]
    rw [if_neg (by rw [below head List.mem_cons_self]; decide)]
    exact ih (fun entry listed => below entry (List.mem_cons_of_mem _ listed))

section Laws

variable [Std.TransOrd Key] [Std.LawfulEqOrd Key]

omit [Std.TransOrd Key] in
theorem lookup_place [DecidableEq Key] (key : Key) (value : Value) (asked : Key)
    (entries : List (Key × Value)) :
    lookup asked (place key value entries) =
      if asked = key then some value else lookup asked entries := by
  induction entries with
  | nil => simp [place, lookup]
  | cons head rest ih =>
    obtain ⟨present, old⟩ := head
    simp only [place]
    split
    · simp [lookup]
    · rename_i same
      have equal := Std.LawfulEqCmp.eq_of_compare same
      subst equal
      by_cases h : asked = key <;> simp [lookup, h]
    · rename_i after
      by_cases h : asked = key
      · subst h
        simp [lookup, after, ih]
      · simp only [lookup, ih]
        by_cases h' : compare asked present = .eq <;> simp [h, h']

/-- After an insertion the key has the new value and the other keys are as before. -/
theorem get?_insert [DecidableEq Key] (map : OrderedMap Key Value) (key : Key) (value : Value)
    (asked : Key) :
    (map.insert key value).get? asked = if asked = key then some value else map.get? asked :=
  lookup_place key value asked map.entries

@[simp] theorem get?_insert_self (map : OrderedMap Key Value) (key : Key) (value : Value) :
    (map.insert key value).get? key = some value := by
  have : DecidableEq Key := fun left right => decidable_of_iff (compare left right = .eq) (by simp)
  simp [get?_insert]

theorem get?_insert_of_ne (map : OrderedMap Key Value) {key asked : Key} (value : Value)
    (other : asked ≠ key) : (map.insert key value).get? asked = map.get? asked := by
  have : DecidableEq Key := fun left right => decidable_of_iff (compare left right = .eq) (by simp)
  simp [get?_insert, other]

omit [Std.TransOrd Key] in
theorem lookup_filter_ne (key asked : Key) [DecidableEq Key] (entries : List (Key × Value)) :
    lookup asked (entries.filter (fun entry => compare key entry.1 != .eq)) =
      if asked = key then none else lookup asked entries := by
  induction entries with
  | nil => simp [lookup]
  | cons head rest ih =>
    obtain ⟨present, value⟩ := head
    by_cases same : key = present
    · subst same
      by_cases h : asked = key
      · subst h
        simpa [lookup] using ih
      · simp [lookup, ih, h]
    · by_cases h : asked = key
      · subst h
        simp [lookup, ih, same]
      · simp [lookup, ih, same, h]

omit [Std.TransOrd Key] in
/-- Erasing a key leaves every other key as it was. -/
theorem get?_erase [DecidableEq Key] (map : OrderedMap Key Value) (key asked : Key) :
    (map.erase key).get? asked = if asked = key then none else map.get? asked :=
  lookup_filter_ne key asked map.entries

omit [Std.TransOrd Key] in
@[simp] theorem get?_erase_self (map : OrderedMap Key Value) (key : Key) :
    (map.erase key).get? key = none := by
  have : DecidableEq Key := fun left right => decidable_of_iff (compare left right = .eq) (by simp)
  simp [get?_erase]

omit [Std.TransOrd Key] in
/-- An entry is listed exactly when its key has its value. -/
theorem mem_toList_iff (map : OrderedMap Key Value) (key : Key) (value : Value) :
    (key, value) ∈ map.toList ↔ map.get? key = some value := by
  obtain ⟨entries, ascending⟩ := map
  simp only [toList, get?]
  induction entries with
  | nil => simp [lookup]
  | cons head rest ih =>
    obtain ⟨present, old⟩ := head
    rw [List.pairwise_cons] at ascending
    obtain ⟨above, sorted⟩ := ascending
    simp only [List.mem_cons, lookup]
    by_cases same : key = present
    · subst same
      have absent : ∀ other : Value, (key, other) ∉ rest := by
        intro other listed
        have := above _ listed
        simp at this
      simp [absent, eq_comm]
    · simp [same, ih sorted]

/-- Maps that answer every lookup alike are equal. -/
theorem ext_get? {left right : OrderedMap Key Value}
    (agree : ∀ key, left.get? key = right.get? key) : left = right := by
  obtain ⟨first, ascending⟩ := left
  obtain ⟨second, ascending'⟩ := right
  suffices first = second by subst this; rfl
  simp only [get?] at agree
  induction first generalizing second with
  | nil =>
    cases second with
    | nil => rfl
    | cons head rest =>
      have := agree head.1
      simp [lookup] at this
  | cons head rest ih =>
    cases second with
    | nil =>
      have := agree head.1
      simp [lookup] at this
    | cons head' rest' =>
      obtain ⟨key, value⟩ := head
      obtain ⟨key', value'⟩ := head'
      rw [List.pairwise_cons] at ascending ascending'
      have atKey := agree key
      have atKey' := agree key'
      have same : key = key' := by
        cases order : compare key key' with
        | eq => exact Std.LawfulEqCmp.eq_of_compare order
        | lt =>
          have : lookup key ((key', value') :: rest') = none :=
            lookup_eq_none_of_below (fun entry listed => by
              rcases List.mem_cons.1 listed with same | below
              · exact same ▸ order
              · exact Std.TransCmp.lt_trans order (ascending'.1 _ below))
          rw [this] at atKey
          simp [lookup] at atKey
        | gt =>
          have before := Std.OrientedCmp.lt_of_gt order
          have : lookup key' ((key, value) :: rest) = none :=
            lookup_eq_none_of_below (fun entry listed => by
              rcases List.mem_cons.1 listed with same | below
              · exact same ▸ before
              · exact Std.TransCmp.lt_trans before (ascending.1 _ below))
          rw [this] at atKey'
          simp [lookup] at atKey'
      subst same
      have equalValue : value = value' := by simpa [lookup] using atKey
      subst equalValue
      congr 1
      refine ih ascending.2 rest' ascending'.2 (fun asked => ?_)
      have := agree asked
      simp only [lookup] at this
      by_cases h : asked = key
      · subst h
        rw [lookup_eq_none_of_below ascending.1, lookup_eq_none_of_below ascending'.1]
      · simpa [h] using this

end Laws

end OrderedMap

/-- The elements of a list in ascending order, each once. -/
def sortedDistinct {Key : Type u} [Ord Key] [Std.TransOrd Key] [Std.LawfulEqOrd Key]
    (elements : List Key) : List Key :=
  (OrderedMap.ofList (elements.map (fun element => (element, ())))).keys

end ProcessEngine
