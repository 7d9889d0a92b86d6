import ProcessEngine.Proofs.Deployments
import ProcessEngine.Proofs.WrittenJson

/-!
# Stored programs are read back

A value of a domain type has a written form that is read back as the value wherever it stands, and
that is written exactly as text (`Decode.Stores`). Lists, records and variants have such forms if
their parts have. The fields of a record are read one after another by name, so what is left to read
never changes (`Decode.Yields`).

The text of a program is read as the same program, and a text that is read as a program is read as
one that its parts make (`Program.toText_round_trip`). The operands of instructions are numbers of a
fixed width, which the text does not say: an address and the number of a name have 32 bits, a
register has 8, and a duration has 64.
-/

namespace ProcessEngine

/-! ## Written forms and their readers -/

namespace Decode

open Json

variable {α β Key Value : Type} {levels more : Nat} {json : Json} {members : List (String × Json)}
  {name tag : String}

/-- The JSON value stands for the value. -/
structure Stores (reader : Reader α) (levels : Nat) (json : Json) (value : α) : Prop where
  exact : Exact levels json
  reads : ∀ place, reader place json = some value

theorem Stores.mono {reader : Reader α} {value : α} (stores : Stores reader levels json value)
    (le : levels ≤ more) : Stores reader more json value := ⟨stores.exact.mono le, stores.reads⟩

/-! ## Plain values -/

theorem stores_bool (value : Bool) : Stores reader levels (.bool value) value :=
  ⟨.bool value, fun _ => rfl⟩

theorem stores_text (value : String) : Stores reader levels (.text value) value :=
  ⟨.text value, fun _ => rfl⟩

/-- A value that is written as a text. -/
theorem stores_named {ofText? : String -> Option α} {text : String} {value : α}
    (named : ofText? text = some value) :
    Stores (Decode.text ofText?) levels (.text text) value :=
  ⟨.text text, fun _ => named⟩

/-- A number below a bound that fits 64 bits. -/
theorem stores_nat {bound value : Nat} (below : value < bound) (fits : bound ≤ significandBound) :
    Stores (natBelow bound) levels (Encode.nat value) value := by
  constructor
  case exact =>
    have small : value < significandBound := Nat.lt_of_lt_of_le below fits
    exact .int (Int.le_trans (by decide) (Int.natCast_nonneg value)) (Int.ofNat_lt.2 small)
  case reads =>
    intro place
    exact if_pos below

theorem stores_nat32 {value : Nat} (below : value < UInt32.size) :
    Stores nat32 levels (Encode.nat value) value := stores_nat below (by decide)

theorem stores_nat64 {value : Nat} (below : value < UInt64.size) :
    Stores nat64 levels (Encode.nat value) value := stores_nat below (Nat.le_refl _)

/-! ## Lists and maps -/

/-- Items are read one by one. -/
theorem mapM_map_eq_some {items : List α} {write : α -> β} {read : β -> Option α}
    (back : ∀ item ∈ items, read (write item) = some item) :
    (items.map write).mapM read = some items := by
  induction items with
  | nil => rfl
  | cons item rest ih =>
    obtain ⟨first, others⟩ := List.forall_mem_cons.1 back
    rw [List.map_cons, List.mapM_cons, first, ih others]
    rfl

theorem stores_list {item : Reader α} {write : α -> Json} {items : List α}
    (each : ∀ value ∈ items, Stores item levels (write value) value) :
    Stores (list item) (levels + 1) (Encode.list write items) items := by
  constructor
  case exact =>
    refine .list (fun json listed => ?_)
    obtain ⟨value, present, rfl⟩ := List.mem_map.1 listed
    exact (each value present).exact
  case reads =>
    intro place
    exact mapM_map_eq_some (fun value listed => (each value listed).reads place)

end Decode

namespace OrderedMap

variable {Key Value : Type} [Ord Key]

theorem ext_entries {left right : OrderedMap Key Value} (same : left.entries = right.entries) :
    left = right := by
  obtain ⟨entries, ascending⟩ := left
  obtain ⟨entries', ascending'⟩ := right
  cases same
  rfl

/-- An entry above all others is listed last. -/
theorem place_of_above [Std.TransOrd Key] {key : Key} {value : Value}
    {entries : List (Key × Value)} (above : ∀ entry ∈ entries, compare entry.1 key = .lt) :
    place key value entries = entries ++ [(key, value)] := by
  induction entries with
  | nil => rfl
  | cons first rest ih =>
    obtain ⟨present, old⟩ := first
    obtain ⟨below, others⟩ := List.forall_mem_cons.1 above
    have after : compare key present = .gt := Std.OrientedCmp.gt_of_lt below
    rw [place, after]
    exact congrArg _ (ih others)

variable [Std.TransOrd Key] [Std.LawfulEqOrd Key]

/-- Entries in ascending order are added at the end. -/
theorem entries_foldl_insert {rest : List (Key × Value)} {made : OrderedMap Key Value}
    (ascending : (made.entries ++ rest).Pairwise
      (fun left right => compare left.1 right.1 = .lt)) :
    (rest.foldl (fun map entry => map.insert entry.1 entry.2) made).entries =
      made.entries ++ rest := by
  induction rest generalizing made with
  | nil => exact (List.append_nil _).symm
  | cons entry rest ih =>
    have above := (List.pairwise_append.1 ascending).2.2
    have placed : (made.insert entry.1 entry.2).entries = made.entries ++ [entry] :=
      place_of_above (fun former listed => above former listed entry List.mem_cons_self)
    have split : (made.entries ++ [entry]) ++ rest = made.entries ++ entry :: rest := by simp
    rw [List.foldl_cons, ih (by rw [placed, split]; exact ascending), placed, split]

/-- A map is made of its own entries. -/
theorem ofList_toList (map : OrderedMap Key Value) : ofList map.toList = map := by
  have same : (ofList map.toList).entries = map.entries :=
    @entries_foldl_insert _ _ _ _ _ map.entries empty map.ascending
  exact ext_entries same

end OrderedMap

namespace Decode

open Json

variable {α β : Type} {levels : Nat} {json : Json} {members : List (String × Json)}
  {name tag : String} {place : Place}

/-- A map is read if its keys and values are. -/
theorem stores_map {Key Value : Type} [Ord Key] [Std.TransOrd Key] [Std.LawfulEqOrd Key]
    {key : String -> Option Key} {text : Key -> String} {value : Reader Value}
    {write : Value -> Json} {entries : OrderedMap Key Value}
    (named : ∀ one, key (text one) = some one)
    (each : ∀ entry ∈ entries.toList, Stores value levels (write entry.2) entry.2) :
    Stores (map key value) (levels + 1) (Encode.map text write entries) entries := by
  constructor
  case exact =>
    refine .object (fun member listed => ?_)
    obtain ⟨entry, present, rfl⟩ := List.mem_map.1 listed
    exact (each entry present).exact
  case reads =>
    intro place
    rw [Encode.map, map, mapM_map_eq_some]
    · exact congrArg some entries.ofList_toList
    · intro entry listed
      simp only [named, (each entry listed).reads place]
      rfl

/-! ## Records -/

/-- The fields of a record yield a value and are all left as they are. -/
def Yields (reader : RecordReader α) (place : Place) (members : List (String × Json))
    (value : α) : Prop :=
  reader place (.named members) = some (value, .named members)

theorem Yields.pure (value : α) : Yields (pure value) place members value := rfl

theorem Yields.bind {first : RecordReader α} {next : α -> RecordReader β} {value : α} {result : β}
    (yields : Yields first place members value)
    (yields' : Yields (next value) place members result) :
    Yields (first >>= next) place members result := by
  change (first place (.named members)).bind _ = _
  rw [yields]
  exact yields'

/-- A field that is given once. -/
theorem yields_fieldWith {byName byPosition : Option α} {reader : Reader α} {value : α}
    (only : membersOf name members = [json]) (stores : Stores reader levels json value) :
    Yields (fieldWith name byName byPosition reader) place members value := by
  rw [Yields, fieldWith]
  simp only [only, stores.reads place]
  rfl

theorem stores_record {reader : RecordReader α} {value : α}
    (each : ∀ member ∈ members, Exact levels member.2)
    (yields : ∀ place, Yields reader place members value) :
    Stores (record reader) (levels + 1) (.object members) value := by
  constructor
  case exact => exact .object each
  case reads =>
    intro place
    rw [record, complete, yields]
    rfl

/-! ## Variants -/

/-- A variant is read by the record that its tag names. -/
theorem stores_tagged {variants : List (String × RecordReader α)} {reader : RecordReader α}
    {value : α} (named : variants.lookup name = some reader)
    (untagged : ∀ member ∈ members, member.1 ≠ tag)
    (each : ∀ member ∈ members, Exact levels member.2)
    (yields : Yields reader .inside members value) :
    Stores (tagged tag variants) (levels + 1) (Encode.tagged tag name members) value := by
  constructor
  case exact => exact .object (List.forall_mem_cons.2 ⟨.text name, each⟩)
  case reads =>
    intro place
    have none : members.filter (fun member => member.1 == tag) = [] :=
      List.filter_eq_nil_iff.2 (fun member listed => by simpa using untagged member listed)
    have all : members.filter (fun member => member.1 != tag) = members :=
      List.filter_eq_self.2 (fun member listed => by simpa using untagged member listed)
    have tags : membersOf tag ((tag, .text name) :: members) = [.text name] := by
      rw [membersOf, List.filter_cons_of_pos (by simp), none]
      rfl
    have rest : ((tag, .text name) :: members).filter (fun member => member.1 != tag) =
        members := by
      rw [List.filter_cons_of_neg (by simp), all]
    rw [Encode.tagged, tagged]
    simp only [tags, rest, variant?, named]
    change complete reader .inside (.named members) = some value
    rw [complete, yields]
    rfl

end Decode

open Decode Json

/-! ## Numbers of a fixed width -/

def CorrelationSource.Fits : CorrelationSource -> Prop
  | .processInstance => True
  | .register index => index < 256

def ArmTrigger.Fits : ArmTrigger -> Prop
  | .timer duration => duration < UInt64.size
  | .message name correlation => name < UInt32.size ∧ correlation.Fits

/-- The operands of an instruction have the width that they are stored with. -/
def Instruction.Fits : Instruction Address -> Prop
  | .loadFlag number | .storeFlag number | .loadCounter number | .incrementCounter number |
    .waitHuman number | .unwatch number | .join number => number < UInt32.size
  | .jump target | .branchIf target | .branchIfNot target => target < UInt32.size
  | .loadRegister index | .storeRegister index => index < 256
  | .dispatch taskType node retries routes => taskType < UInt32.size ∧ node < UInt32.size ∧
    retries < UInt32.size ∧ ∀ route ∈ routes, route.target < UInt32.size
  | .waitTimer duration => duration < UInt64.size
  | .waitMessage name correlation => name < UInt32.size ∧ correlation.Fits
  | .race node arms =>
    node < UInt32.size ∧ ∀ arm ∈ arms, arm.trigger.Fits ∧ arm.target < UInt32.size
  | .watch boundary duration _ target =>
    boundary < UInt32.size ∧ duration < UInt64.size ∧ target < UInt32.size
  | .fork partner targets => partner < UInt32.size ∧ ∀ target ∈ targets, target < UInt32.size
  | .forkInclusive partner targets fallback gateway => partner < UInt32.size ∧
    (∀ target ∈ targets, target < UInt32.size) ∧ (∀ target ∈ fallback, target < UInt32.size) ∧
    gateway < UInt32.size
  | .fault reason => reason.gateway < UInt32.size
  | .push _ | .pop | .equal | .less | .negate | .conjoin | .disjoin | .finish | .terminate => True

/-- Addresses in a symbol table have 32 bits. -/
def SymbolTable.Fits (symbols : SymbolTable) : Prop :=
  ∀ entry ∈ symbols.entries.toList, entry.2 < UInt32.size

/-! ## Operands -/

theorem stores_value (value : Value) : Stores reader 0 (encode value) value := by
  cases value with
  | bool value => exact ⟨.bool value, fun _ => rfl⟩
  | text value => exact ⟨.text value, fun _ => rfl⟩
  | int value =>
    have least := value.le_toInt
    have most := value.toInt_lt
    constructor
    case exact => exact .int least (Int.lt_trans most (by decide))
    case reads =>
      intro place
      have held : reader place (encode value) = some value := by
        change (if _ then _ else _) = _
        rw [if_pos ⟨value.minValue_le_toInt, value.toInt_le⟩, value.ofInt_toInt]
      exact congrArg (Option.map Value.int) held

/-- A variant without fields. -/
theorem stores_bare {α : Type} {tag name : String} {variants : List (String × RecordReader α)}
    {value : α} (named : variants.lookup name = some (pure value)) :
    Stores (tagged tag variants) 1 (Encode.tagged tag name []) value :=
  stores_tagged named nofun nofun (.pure value)

/-- A variant with one field. -/
theorem stores_single {α β : Type} {tag name field : String} {levels : Nat} {json : Json}
    {variants : List (String × RecordReader α)} {held : Reader β} {make : β -> α} {value : β}
    (stores : Stores held levels json value) (untagged : field ≠ tag)
    (named : variants.lookup name = some (do return make (<- Decode.field field held))) :
    Stores (tagged tag variants) (levels + 1) (Encode.tagged tag name [(field, json)])
      (make value) :=
  stores_tagged named (List.forall_mem_singleton.2 untagged)
    (List.forall_mem_singleton.2 stores.exact)
    (.bind (yields_fieldWith (by simp [membersOf]) stores) (.pure _))

theorem stores_correlation {source : CorrelationSource} (fits : source.Fits) :
    Stores reader 1 (encode source) source := by
  cases source with
  | processInstance => exact stores_bare rfl
  | register index => exact stores_single (stores_nat fits (by decide)) (by decide) rfl

theorem stores_route {route : ErrorRoute Address} (fits : route.target < UInt32.size) :
    Stores reader 1 (encode route) route := by
  have code : Stores reader 0 (.text route.code) route.code := stores_text route.code
  have target := @stores_nat32 0 _ fits
  refine stores_record ?_ (fun place => ?_)
  · exact List.forall_mem_cons.2 ⟨code.exact, List.forall_mem_singleton.2 target.exact⟩
  · exact .bind (yields_fieldWith rfl code) (.bind (yields_fieldWith rfl target) (.pure _))

theorem stores_trigger {trigger : ArmTrigger} (fits : trigger.Fits) :
    Stores reader 2 (encode trigger) trigger := by
  cases trigger with
  | timer duration => exact stores_single (stores_nat64 fits) (by decide) rfl
  | message name correlation =>
    have number := @stores_nat32 1 _ fits.1
    have source := stores_correlation fits.2
    refine stores_tagged rfl (by simp) ?_ ?_
    · exact List.forall_mem_cons.2 ⟨number.exact, List.forall_mem_singleton.2 source.exact⟩
    · exact .bind (yields_fieldWith rfl number) (.bind (yields_fieldWith rfl source) (.pure _))

theorem stores_arm {arm : ArmCode Address}
    (fits : arm.trigger.Fits ∧ arm.target < UInt32.size) : Stores reader 3 (encode arm) arm := by
  have trigger := stores_trigger fits.1
  have target := @stores_nat32 2 _ fits.2
  refine stores_record ?_ (fun place => ?_)
  · exact List.forall_mem_cons.2 ⟨trigger.exact, List.forall_mem_singleton.2 target.exact⟩
  · exact .bind (yields_fieldWith rfl trigger) (.bind (yields_fieldWith rfl target) (.pure _))

theorem stores_routingFault {reason : RoutingFault} (fits : reason.gateway < UInt32.size) :
    Stores reader 1 (encode reason) reason := by
  cases reason with
  | noRoute gateway => exact stores_single (stores_nat32 fits) (by decide) rfl
  | noBranch gateway => exact stores_single (stores_nat32 fits) (by decide) rfl

/-! ## Instructions -/

/-- No operand is called like the name of the instruction. -/
theorem Instruction.untagged (instruction : Instruction Address) :
    ∀ operand ∈ instruction.operands, operand.1 ≠ "op" := by
  cases instruction <;> simp [operands]

theorem stores_instruction {instruction : Instruction Address} (fits : instruction.Fits) :
    Stores reader 5 (encode instruction) instruction := by
  -- Most instructions have one operand or none.
  have bare {instruction : Instruction Address} {name : String}
      (named : Instruction.variants.lookup name = some (pure instruction)) :
      Stores (tagged "op" Instruction.variants) 5 (Encode.tagged "op" name []) instruction :=
    (stores_bare named).mono (by decide)
  have number {make : Nat -> Instruction Address} {name field : String} {operand : Nat}
      (fits : operand < UInt32.size) (untagged : field ≠ "op")
      (named : Instruction.variants.lookup name =
        some (do return make (<- Instruction.readNumber field))) :
      Stores (tagged "op" Instruction.variants) 5
        (Encode.tagged "op" name [(field, Encode.nat operand)]) (make operand) :=
    stores_single (stores_nat32 fits) untagged named
  cases instruction with
  | push value => exact (stores_single (stores_value value) (by decide) rfl).mono (by decide)
  | pop => exact bare rfl
  | loadFlag flag => exact number fits (by decide) rfl
  | storeFlag flag => exact number fits (by decide) rfl
  | loadRegister index =>
    exact (stores_single (stores_nat fits (by decide)) (by decide) rfl)
  | storeRegister index =>
    exact (stores_single (stores_nat fits (by decide)) (by decide) rfl)
  | loadCounter counter => exact number fits (by decide) rfl
  | incrementCounter counter => exact number fits (by decide) rfl
  | equal => exact bare rfl
  | less => exact bare rfl
  | negate => exact bare rfl
  | conjoin => exact bare rfl
  | disjoin => exact bare rfl
  | jump target => exact number fits (by decide) rfl
  | branchIf target => exact number fits (by decide) rfl
  | branchIfNot target => exact number fits (by decide) rfl
  | waitTimer duration => exact stores_single (stores_nat64 fits) (by decide) rfl
  | waitHuman task => exact number fits (by decide) rfl
  | unwatch boundary => exact number fits (by decide) rfl
  | join node => exact number fits (by decide) rfl
  | finish => exact bare rfl
  | terminate => exact bare rfl
  | fault reason =>
    exact (stores_single (stores_routingFault fits) (by decide) rfl).mono (by decide)
  | dispatch taskType node retries routes =>
    have taskType := @stores_nat32 4 _ fits.1
    have node := @stores_nat32 4 _ fits.2.1
    have retries := @stores_nat32 4 _ fits.2.2.1
    have routes := (stores_list (fun route listed =>
      stores_route (fits.2.2.2 route listed))).mono (by decide : 2 ≤ 4)
    refine stores_tagged rfl (Instruction.untagged _) ?_ ?_
    · exact List.forall_mem_cons.2 ⟨taskType.exact, List.forall_mem_cons.2 ⟨node.exact,
        List.forall_mem_cons.2 ⟨retries.exact, List.forall_mem_singleton.2 routes.exact⟩⟩⟩
    · exact .bind (yields_fieldWith rfl taskType) (.bind (yields_fieldWith rfl node)
        (.bind (yields_fieldWith rfl retries) (.bind (yields_fieldWith rfl routes) (.pure _))))
  | waitMessage name correlation =>
    have number := @stores_nat32 4 _ fits.1
    have source := (stores_correlation fits.2).mono (by decide : 1 ≤ 4)
    refine stores_tagged rfl (Instruction.untagged _) ?_ ?_
    · exact List.forall_mem_cons.2 ⟨number.exact, List.forall_mem_singleton.2 source.exact⟩
    · exact .bind (yields_fieldWith rfl number) (.bind (yields_fieldWith rfl source) (.pure _))
  | race node arms =>
    have node := @stores_nat32 4 _ fits.1
    have arms := stores_list (fun arm listed => stores_arm (fits.2 arm listed))
    refine stores_tagged rfl (Instruction.untagged _) ?_ ?_
    · exact List.forall_mem_cons.2 ⟨node.exact, List.forall_mem_singleton.2 arms.exact⟩
    · exact .bind (yields_fieldWith rfl node) (.bind (yields_fieldWith rfl arms) (.pure _))
  | watch boundary duration interrupting target =>
    have boundary := @stores_nat32 4 _ fits.1
    have duration := @stores_nat64 4 _ fits.2.1
    have interrupting : Stores reader 4 (.bool interrupting) interrupting := stores_bool _
    have target := @stores_nat32 4 _ fits.2.2
    refine stores_tagged rfl (Instruction.untagged _) ?_ ?_
    · exact List.forall_mem_cons.2 ⟨boundary.exact, List.forall_mem_cons.2 ⟨duration.exact,
        List.forall_mem_cons.2 ⟨interrupting.exact, List.forall_mem_singleton.2 target.exact⟩⟩⟩
    · exact .bind (yields_fieldWith rfl boundary) (.bind (yields_fieldWith rfl duration)
        (.bind (yields_fieldWith rfl interrupting) (.bind (yields_fieldWith rfl target) (.pure _))))
  | fork partner targets =>
    have partner := @stores_nat32 4 _ fits.1
    have targets := stores_list (fun target listed => @stores_nat32 3 _ (fits.2 target listed))
    refine stores_tagged rfl (Instruction.untagged _) ?_ ?_
    · exact List.forall_mem_cons.2 ⟨partner.exact, List.forall_mem_singleton.2 targets.exact⟩
    · exact .bind (yields_fieldWith rfl partner) (.bind (yields_fieldWith rfl targets) (.pure _))
  | forkInclusive partner targets fallback gateway =>
    have partner := @stores_nat32 4 _ fits.1
    have targets := stores_list (fun target listed => @stores_nat32 3 _ (fits.2.1 target listed))
    have fallback : Stores (nullable nat32) 4 (Encode.nullable Encode.nat fallback) fallback := by
      cases fallback with
      | none => exact ⟨.null, fun _ => rfl⟩
      | some target =>
        have held := @stores_nat32 4 _ (fits.2.2.1 target rfl)
        exact ⟨held.exact, fun place => congrArg (Option.map some) (held.reads place)⟩
    have gateway := @stores_nat32 4 _ fits.2.2.2
    refine stores_tagged rfl (Instruction.untagged _) ?_ ?_
    · exact List.forall_mem_cons.2 ⟨partner.exact, List.forall_mem_cons.2 ⟨targets.exact,
        List.forall_mem_cons.2 ⟨fallback.exact, List.forall_mem_singleton.2 gateway.exact⟩⟩⟩
    · exact .bind (yields_fieldWith rfl partner) (.bind (yields_fieldWith rfl targets)
        (.bind (yields_fieldWith rfl fallback) (.bind (yields_fieldWith rfl gateway) (.pure _))))

/-! ## Programs -/

/-- Without blanks there is nothing to drop. -/
theorem Text.trimList_eq_self {characters : List Char}
    (plain : ∀ character ∈ characters, Text.isBlank character = false) :
    Text.trimList characters = characters := by
  have keeps {characters : List Char}
      (plain : ∀ character ∈ characters, Text.isBlank character = false) :
      characters.dropWhile Text.isBlank = characters := by
    cases characters with
    | nil => rfl
    | cons first rest => rw [List.dropWhile_cons_of_neg (by simp [plain first])]
  rw [Text.trimList, keeps plain, keeps (fun character listed =>
    plain character (List.mem_reverse.1 listed)), List.reverse_reverse]

/-- The characters of keys are ASCII characters above the blanks. -/
theorem NodeKey.isBlank_of_isAllowed {character : Char}
    (allowed : NodeKey.isAllowed character = true) : Text.isBlank character = false := by
  have within {least most : UInt32} (above : 45 ≤ least.toNat) (below : most.toNat ≤ 122)
      (inside : least ≤ character.val ∧ character.val ≤ most) :
      45 ≤ character.toNat ∧ character.toNat ≤ 122 :=
    ⟨Nat.le_trans above (UInt32.le_iff_toNat_le.1 inside.1),
      Nat.le_trans (UInt32.le_iff_toNat_le.1 inside.2) below⟩
  have range : 45 ≤ character.toNat ∧ character.toNat ≤ 122 := by
    have parts : (((character.isAlpha = true ∨ character.isDigit = true) ∨ character = '_') ∨
        character = '-') ∨ character = '.' := by
      simpa [NodeKey.isAllowed, Char.isAlphanum] using allowed
    rcases parts with (((letter | digit) | rfl) | rfl) | rfl
    · rcases Bool.or_eq_true_iff.1 letter with upper | lower
      · exact within (by decide) (by decide) (of_decide_eq_true upper)
      · have ⟨above, below⟩ := Bool.and_eq_true_iff.1 lower
        exact within (by decide) (by decide) ⟨of_decide_eq_true above, of_decide_eq_true below⟩
    · have ⟨above, below⟩ := Bool.and_eq_true_iff.1 digit
      exact within (by decide) (by decide) ⟨of_decide_eq_true above, of_decide_eq_true below⟩
    · decide
    · decide
    · decide
  cases blank : Text.isBlank character with
  | false => rfl
  | true =>
    simp only [Text.isBlank, Bool.or_eq_true, Bool.and_eq_true, decide_eq_true_eq,
      beq_iff_eq] at blank
    omega

/-- The text of a node key names the key. -/
theorem NodeKey.ofText?_text (key : NodeKey) : NodeKey.ofText? key.text = some key := by
  have valid := key.valid
  rw [NodeKey.isKey, Bool.and_eq_true, Bool.and_eq_true] at valid
  have plain : ∀ character ∈ key.text.toList, Text.isBlank character = false :=
    fun character listed => isBlank_of_isAllowed (List.all_eq_true.1 valid.1.2 character listed)
  have same : Text.trim key.text = key.text := by
    rw [Text.trim, Text.trimList_eq_self plain, String.ofList_toList]
  rw [NodeKey.ofText?, NodeKey.ofText]
  simp only [same, dif_pos key.valid]
  rfl

theorem stores_node (key : NodeKey) : Stores reader 0 (encode key) key :=
  stores_named key.ofText?_text

theorem stores_symbols {symbols : SymbolTable} (fits : symbols.Fits) :
    Stores reader 2 (encode symbols) symbols := by
  have names (names : List String) :
      Stores (Decode.list reader) 1 (Encode.list encode names) names :=
    stores_list (fun name _ => stores_text name)
  have entries : Stores (Decode.map NodeKey.ofText? nat32) 1
      (Encode.map NodeKey.text Encode.nat symbols.entries) symbols.entries :=
    stores_map NodeKey.ofText?_text (fun entry listed => stores_nat32 (fits entry listed))
  have nodes : Stores (Decode.list reader) 1 (Encode.list encode symbols.nodes) symbols.nodes :=
    stores_list (fun key _ => stores_node key)
  refine stores_record ?_ (fun place => ?_)
  · exact List.forall_mem_cons.2 ⟨entries.exact, List.forall_mem_cons.2 ⟨nodes.exact,
      List.forall_mem_cons.2 ⟨(names symbols.flags).exact,
        List.forall_mem_cons.2 ⟨(names symbols.counters).exact,
          List.forall_mem_cons.2 ⟨(names symbols.taskTypes).exact,
            List.forall_mem_cons.2 ⟨(names symbols.messages).exact,
              List.forall_mem_singleton.2 (names symbols.humanTasks).exact⟩⟩⟩⟩⟩⟩
  · exact .bind (yields_fieldWith rfl entries) (.bind (yields_fieldWith rfl nodes)
      (.bind (yields_fieldWith rfl (names symbols.flags))
        (.bind (yields_fieldWith rfl (names symbols.counters))
          (.bind (yields_fieldWith rfl (names symbols.taskTypes))
            (.bind (yields_fieldWith rfl (names symbols.messages))
              (.bind (yields_fieldWith rfl (names symbols.humanTasks)) (.pure _)))))))

theorem stores_hash (hash : ProgramHash) : Stores reader 0 (encode hash) hash := by
  have named : ProgramHash.ofText hash.text = .ok hash := dif_pos hash.valid
  exact stores_named (congrArg Except.toOption named)

theorem stores_program {program : Program}
    (fits : ∀ instruction ∈ program.instructions, instruction.Fits)
    (fits' : program.symbols.Fits) : Stores reader 7 (encode program) program := by
  have instructions : Stores (Decode.list reader) 6 (Encode.list encode program.instructions)
      program.instructions :=
    stores_list (fun instruction listed => stores_instruction (fits instruction listed))
  have symbols := (stores_symbols fits').mono (by decide : 2 ≤ 6)
  have hash := (stores_hash program.hash).mono (by decide : 0 ≤ 6)
  refine stores_record ?_ (fun place => ?_)
  · exact List.forall_mem_cons.2 ⟨instructions.exact, List.forall_mem_cons.2 ⟨symbols.exact,
      List.forall_mem_singleton.2 hash.exact⟩⟩
  · exact .bind (yields_fieldWith rfl instructions) (.bind (yields_fieldWith rfl symbols)
      (.bind (yields_fieldWith rfl hash) (.pure _)))

namespace Program

/-- Without checks, the text of a program is read as the program. -/
theorem decode_parse?_toText {program : Program}
    (fits : ∀ instruction ∈ program.instructions, instruction.Fits)
    (fits' : program.symbols.Fits) :
    (parse? program.toText >>= decode) = some program := by
  have stores := stores_program fits fits'
  rw [toText, parse?_render (stores.exact.mono (by decide))]
  exact stores.reads .outside

/-- A program that passes its checks is what its parts make. -/
theorem ofParts_of_checked {program : Program} (checked : program.check = .ok ())
    (hashed : program.checkHash = .ok ()) :
    ofParts program.instructions program.symbols = .ok program := by
  rw [checkHash] at hashed
  cases computed : computeHash program.instructions program.symbols with
  | error error =>
    rw [computed] at hashed
    cases hashed
  | ok hash =>
    rw [computed] at hashed
    simp only [bind, Except.bind] at hashed
    split at hashed
    · rename_i same
      rw [ofParts, computed, same]
      simp only [bind, Except.bind]
      rw [show (Program.mk program.instructions program.symbols program.hash).check = .ok ()
        from checked]
      rfl
    · cases hashed

/-- A program that is read from a text is what its parts make. -/
theorem ofParts_of_ofText {text : String} {program : Program} (read : ofText text = .ok program) :
    ofParts program.instructions program.symbols = .ok program := by
  rw [ofText] at read
  split at read
  · cases read
  · rename_i stored given
    cases checked : stored.check with
    | error error =>
      rw [checked] at read
      cases read
    | ok =>
      cases hashed : stored.checkHash with
      | error error =>
        rw [checked, hashed] at read
        cases read
      | ok =>
        rw [checked, hashed] at read
        cases read
        exact ofParts_of_checked checked hashed

/-- What parts make is read back from its text, and what is read from a text is what its parts
make. -/
theorem toText_round_trip :
    (∀ instructions symbols program, (∀ instruction ∈ instructions, Instruction.Fits instruction) ->
      symbols.Fits -> ofParts instructions symbols = .ok program ->
      ofText program.toText = .ok program) ∧
    ∀ text program, ofText text = .ok program ->
      ofParts program.instructions program.symbols = .ok program := by
  constructor
  · intro instructions symbols program fits fits' made
    obtain ⟨rfl, rfl, -, sound⟩ := ofParts_eq_ok_iff.1 made
    have hashed := checkHash_of_ofParts made
    rw [ofText, decode_parse?_toText fits fits']
    simp only [check, sound, hashed]
    rfl
  · exact fun text program read => ofParts_of_ofText read

end Program

/-! ## A program that is stored -/

namespace AnswerRace

/-- A fiber holds a text that has to be escaped, and waits for an answer that may never come. -/
def instructions : List (Instruction Address) :=
  [.push (.text "\"\n"), .race 0 [⟨.timer 5000, 2⟩, ⟨.message 0 (.register 2), 2⟩], .finish]

def symbols : SymbolTable where
  nodes := [⟨"reply", rfl⟩]
  messages := ["answer"]

theorem fits : ∀ instruction ∈ instructions, Instruction.Fits instruction := by
  simp [instructions, Instruction.Fits, ArmTrigger.Fits, CorrelationSource.Fits, UInt32.size,
    UInt64.size]

theorem fits_symbols : symbols.Fits := fun _ listed => absurd listed List.not_mem_nil

def program : Program where
  instructions := instructions
  symbols := symbols
  hash := ⟨Sha256.hex (Program.hashInput instructions symbols), Sha256.isHashText_hex _⟩

end AnswerRace

theorem Program.toText_round_trip_race :
    ofText AnswerRace.program.toText = .ok AnswerRace.program ∧
      ofParts AnswerRace.program.instructions AnswerRace.program.symbols =
        .ok AnswerRace.program := by
  have sound : AnswerRace.program.problem? = none := by decide
  have made := (@ofParts_eq_ok_iff _ _ AnswerRace.program).2 ⟨rfl, rfl, rfl, sound⟩
  have back := toText_round_trip.1 _ _ _ AnswerRace.fits AnswerRace.fits_symbols made
  exact ⟨back, toText_round_trip.2 _ _ back⟩

end ProcessEngine
