import ProcessEngine.Proofs.JobKeys
import ProcessEngine.Proofs.WrittenPrograms

/-!
# Hashes pin programs

Different programs are hashed from different texts, so programs of one hash are the same unless the
digest of two texts collides (`Program.hash_pins_content`). Two values without fractions have
different texts (`Json.render_inj`): a text tells its kind by its first character, and a value ends
before a comma or a closing bracket. And different instructions, or different symbol tables, are
written as different values (`Encode.Faithful`).
-/

namespace ProcessEngine

namespace Json

variable {left right : Json} {following following' : List Char}

/-! ## Numbers and texts -/

theorem toDigits_append_inj {number number' : Nat} (ends : Ends following)
    (ends' : Ends following')
    (same : Nat.toDigits 10 number ++ following = Nat.toDigits 10 number' ++ following') :
    number = number' ∧ following = following' := by
  obtain ⟨digits, spelled⟩ := exists_digits number
  obtain ⟨digits', spelled'⟩ := exists_digits number'
  have taken := takeDigits_append spelled.small ends
  have taken' := takeDigits_append spelled'.small ends'
  rw [← spelled.written, same, spelled'.written, taken'] at taken
  obtain ⟨rfl, rfl⟩ := Prod.mk.inj taken
  have gathered := spelled.gathered (Nat.lt_succ_of_le (Nat.le_max_left number number'))
  have gathered' := spelled'.gathered (Nat.lt_succ_of_le (Nat.le_max_right number number'))
  exact ⟨(Prod.mk.inj (gathered.symm.trans gathered')).1, rfl⟩

theorem writeInt_append_inj {value value' : Int} (ends : Ends following) (ends' : Ends following')
    (same : writeInt value ++ following = writeInt value' ++ following') :
    value = value' ∧ following = following' := by
  -- The digits of a number do not begin with a sign.
  have unsigned {magnitude below : Nat} {rest rest' : List Char}
      (same : Nat.toDigits 10 magnitude ++ rest = '-' :: (Nat.toDigits 10 below ++ rest')) :
      False := by
    obtain ⟨first, others, spelled, isDigit⟩ := exists_toDigits magnitude
    rw [spelled, List.cons_append, List.cons.injEq] at same
    rw [same.1] at isDigit
    cases isDigit
  cases value with
  | ofNat magnitude =>
    cases value' with
    | ofNat magnitude' =>
      obtain ⟨rfl, rfl⟩ := toDigits_append_inj ends ends' same
      exact ⟨rfl, rfl⟩
    | negSucc below' => cases unsigned same
  | negSucc below =>
    cases value' with
    | ofNat magnitude' => cases unsigned same.symm
    | negSucc below' =>
      obtain ⟨equal, rfl⟩ := toDigits_append_inj ends ends' (List.cons.inj same).2
      exact ⟨by rw [Nat.succ.inj equal], rfl⟩

theorem writeText_inj {text text' : String}
    (same : writeText text following = writeText text' following') :
    text = text' ∧ following = following' := by
  have read := @readText_writeCharacters (max text.toList.length text'.toList.length + 1) text
    following (Nat.lt_succ_of_le (Nat.le_max_left _ _))
  have read' := @readText_writeCharacters (max text.toList.length text'.toList.length + 1) text'
    following' (Nat.lt_succ_of_le (Nat.le_max_right _ _))
  rw [(List.cons.inj same).2, read'] at read
  obtain ⟨rfl, rfl⟩ := Prod.mk.inj (Option.some.inj read)
  exact ⟨rfl, rfl⟩

/-! ## The kind of a value -/

/-- Truth values, numbers, texts, lists and objects are of different kinds. -/
def kind : Json -> Nat
  | .null => 0
  | .bool _ => 1
  | .int _ => 2
  | .float _ => 2
  | .text _ => 3
  | .list _ => 4
  | .object _ => 5

/-- The kind of the values whose text begins with a character. -/
def kindOf : Char -> Nat
  | 'n' => 0
  | 't' => 1
  | 'f' => 1
  | '"' => 3
  | '[' => 4
  | '\x7b' => 5
  | _ => 2

theorem kindOf_of_isDigit {first : Char} (isDigit : first.isDigit = true) : kindOf first = 2 := by
  unfold kindOf
  split
  case h_7 => rfl
  all_goals cases isDigit

theorem Plain.kindOf_first (plain : Plain left) (following : List Char) :
    ∃ first rest, write left following = first :: rest ∧ kindOf first = left.kind := by
  cases plain with
  | null => exact ⟨_, _, rfl, rfl⟩
  | bool value => cases value <;> exact ⟨_, _, rfl, rfl⟩
  | int value =>
    cases value with
    | ofNat magnitude =>
      obtain ⟨first, rest, same, isDigit⟩ := exists_toDigits magnitude
      exact ⟨first, rest ++ following, by rw [write, writeInt, same]; rfl, kindOf_of_isDigit isDigit⟩
    | negSucc below => exact ⟨_, _, rfl, rfl⟩
  | text value => exact ⟨_, _, rfl, rfl⟩
  | @list items => cases items <;> exact ⟨_, _, rfl, rfl⟩
  | @object members => cases members <;> exact ⟨_, _, rfl, rfl⟩

theorem Plain.kind_eq (plain : Plain left) (plain' : Plain right)
    (same : write left following = write right following') : left.kind = right.kind := by
  obtain ⟨first, rest, begins, known⟩ := plain.kindOf_first following
  obtain ⟨first', rest', begins', known'⟩ := plain'.kindOf_first following'
  rw [begins, begins'] at same
  rw [← known, ← known', (List.cons.inj same).1]

/-! ## Values -/

/-- The text of the value tells it from the others, and tells where it ends. -/
def Recognized (json : Json) : Prop :=
  ∀ ⦃other following following'⦄, Plain other -> Ends following -> Ends following' ->
    write json following = write other following' -> json = other ∧ following = following'

theorem writeItems_inj {items others : List Json} (known : ∀ item ∈ items, Recognized item)
    (plain : ∀ other ∈ others, Plain other)
    (same : writeItems items following = writeItems others following') :
    items = others ∧ following = following' := by
  induction items generalizing others with
  | nil =>
    cases others with
    | nil => exact ⟨rfl, (List.cons.inj same).2⟩
    | cons other rest => cases (List.cons.inj same).1
  | cons item rest ih =>
    cases others with
    | nil => cases (List.cons.inj same).1
    | cons other rest' =>
      obtain ⟨first, known⟩ := List.forall_mem_cons.1 known
      obtain ⟨plain, plain'⟩ := List.forall_mem_cons.1 plain
      obtain ⟨rfl, onward⟩ := first plain (ends_writeItems _ _) (ends_writeItems _ _)
        (List.cons.inj same).2
      obtain ⟨rfl, rfl⟩ := ih known plain' onward
      exact ⟨rfl, rfl⟩

theorem ends_writeMembers (members : List (String × Json)) (following : List Char) :
    Ends (writeMembers members following) := by
  cases members with
  | nil => exact ends_cons _ (by decide)
  | cons member rest => exact ends_cons _ (by decide)

/-- The name of a member and its value end where those of another member do. -/
theorem writeMember_inj {name name' : String} (known : Recognized left) (plain : Plain right)
    (ends : Ends following) (ends' : Ends following')
    (same : writeText name (':' :: write left following) =
      writeText name' (':' :: write right following')) :
    name = name' ∧ left = right ∧ following = following' := by
  obtain ⟨rfl, onward⟩ := writeText_inj same
  exact ⟨rfl, known plain ends ends' (List.cons.inj onward).2⟩

theorem writeMembers_inj {members others : List (String × Json)}
    (known : ∀ member ∈ members, Recognized member.2) (plain : ∀ other ∈ others, Plain other.2)
    (same : writeMembers members following = writeMembers others following') :
    members = others ∧ following = following' := by
  induction members generalizing others with
  | nil =>
    cases others with
    | nil => exact ⟨rfl, (List.cons.inj same).2⟩
    | cons other rest => cases (List.cons.inj same).1
  | cons member rest ih =>
    cases others with
    | nil => cases (List.cons.inj same).1
    | cons other rest' =>
      obtain ⟨first, known⟩ := List.forall_mem_cons.1 known
      obtain ⟨plain, plain'⟩ := List.forall_mem_cons.1 plain
      obtain ⟨named, valued, onward⟩ := writeMember_inj first plain (ends_writeMembers _ _)
        (ends_writeMembers _ _) (List.cons.inj same).2
      obtain ⟨rfl, rfl⟩ := ih known plain' onward
      exact ⟨by rw [Prod.ext named valued], rfl⟩

theorem recognized_list {items : List Json} (known : ∀ item ∈ items, Recognized item)
    (plain : ∀ item ∈ items, Plain item) : Recognized (.list items) := by
  intro other following following' plain' ends ends' same
  cases plain' with
  | @list others plain' =>
    -- What follows the bracket begins an item or closes the list, but not both.
    have closing {item : Json} (plain : Plain item) {rest : List Char} (others : List Json)
        (tail : List Char) : ']' :: rest ≠ write item (writeItems others tail) := by
      obtain ⟨first, rest', begun, begins⟩ := plain.begins (writeItems others tail)
      rw [begun]
      exact fun same => begins.bare.2.1 (List.cons.inj same).1.symm
    cases items with
    | nil =>
      cases others with
      | nil => exact ⟨rfl, (List.cons.inj (List.cons.inj same).2).2⟩
      | cons other rest =>
        exact absurd (List.cons.inj same).2 (closing (plain' other List.mem_cons_self) _ _)
    | cons item rest =>
      cases others with
      | nil =>
        exact absurd (List.cons.inj same).2.symm (closing (plain item List.mem_cons_self) _ _)
      | cons other rest' =>
        have items : writeItems (item :: rest) following = writeItems (other :: rest') following' :=
          congrArg (',' :: ·) (List.cons.inj same).2
        obtain ⟨equal, rfl⟩ := writeItems_inj known plain' items
        exact ⟨by rw [equal], rfl⟩
  | _ => cases (Plain.list plain).kind_eq (by constructor <;> assumption) same

theorem recognized_object {members : List (String × Json)}
    (known : ∀ member ∈ members, Recognized member.2)
    (plain : ∀ member ∈ members, Plain member.2) : Recognized (.object members) := by
  intro other following following' plain' ends ends' same
  cases plain' with
  | @object others plain' =>
    cases members with
    | nil =>
      cases others with
      | nil => exact ⟨rfl, (List.cons.inj (List.cons.inj same).2).2⟩
      | cons other rest => cases (List.cons.inj (List.cons.inj same).2).1
    | cons member rest =>
      cases others with
      | nil => cases (List.cons.inj (List.cons.inj same).2).1
      | cons other rest' =>
        have members : writeMembers (member :: rest) following =
            writeMembers (other :: rest') following' := congrArg (',' :: ·) (List.cons.inj same).2
        obtain ⟨equal, rfl⟩ := writeMembers_inj known plain' members
        exact ⟨by rw [equal], rfl⟩
  | _ => cases (Plain.object plain).kind_eq (by constructor <;> assumption) same

theorem Plain.recognized (plain : Plain left) : Recognized left := by
  induction plain with
  | list each ih => exact recognized_list ih each
  | object each ih => exact recognized_object ih each
  | null =>
    intro other following following' plain' ends ends' same
    cases plain' with
    | null => exact ⟨rfl, by simpa [write] using same⟩
    | _ => cases Plain.null.kind_eq (by constructor <;> assumption) same
  | bool value =>
    intro other following following' plain' ends ends' same
    cases plain' with
    | bool value' => cases value <;> cases value' <;> simp_all [write]
    | _ => cases (Plain.bool value).kind_eq (by constructor <;> assumption) same
  | int value =>
    intro other following following' plain' ends ends' same
    cases plain' with
    | int value' =>
      obtain ⟨rfl, rfl⟩ := writeInt_append_inj ends ends' same
      exact ⟨rfl, rfl⟩
    | _ => cases (Plain.int value).kind_eq (by constructor <;> assumption) same
  | text value =>
    intro other following following' plain' ends ends' same
    cases plain' with
    | text value' =>
      obtain ⟨rfl, rfl⟩ := writeText_inj same
      exact ⟨rfl, rfl⟩
    | _ => cases (Plain.text value).kind_eq (by constructor <;> assumption) same

/-- Values without fractions are the same if their texts are. -/
theorem render_inj (plain : Plain left) (plain' : Plain right)
    (same : left.render = right.render) : left = right :=
  (plain.recognized plain' ends_nil ends_nil (String.ofList_injective same)).1

/-! ## Written forms -/

@[simp] theorem plain_bool (value : Bool) : Plain (.bool value) := .bool value
@[simp] theorem plain_text (value : String) : Plain (.text value) := .text value
@[simp] theorem plain_null : Plain .null := .null

@[simp] theorem plain_object {members : List (String × Json)} :
    Plain (.object members) ↔ ∀ member ∈ members, Plain member.2 := by
  constructor
  · rintro ⟨⟩
    assumption
  · exact .object

end Json

namespace Encode

open Json

variable {α Key : Type}

/-- A way of writing values without fractions that writes different values differently. -/
structure Faithful (write : α -> Json) : Prop where
  plain : ∀ value, Plain (write value)
  inj : ∀ {left right}, write left = write right -> left = right

theorem Faithful.eq_iff {write : α -> Json} (faithful : Faithful write) {left right : α} :
    write left = write right ↔ left = right := ⟨faithful.inj, congrArg write⟩

theorem faithful_text : Faithful Json.text := ⟨.text, Json.text.inj⟩

theorem faithful_nat : Faithful nat :=
  ⟨fun value => .int value, fun same => Int.ofNat.inj (Json.int.inj same)⟩

theorem faithful_list {write : α -> Json} (faithful : Faithful write) :
    Faithful (list write) := by
  constructor
  case plain =>
    intro items
    refine .list (fun json listed => ?_)
    obtain ⟨item, -, rfl⟩ := List.mem_map.1 listed
    exact faithful.plain item
  case inj =>
    intro left right same
    exact List.map_injective_iff.2 (fun _ _ => faithful.inj) (Json.list.inj same)

/-- An absent value is told from a present one if no value is written as null. -/
theorem faithful_nullable {write : α -> Json} (faithful : Faithful write)
    (present : ∀ value, write value ≠ .null) : Faithful (nullable write) := by
  constructor
  case plain =>
    intro value
    cases value with
    | none => exact .null
    | some value => exact faithful.plain value
  case inj =>
    intro left right same
    cases left with
    | none =>
      cases right with
      | none => rfl
      | some value => exact absurd same.symm (present value)
    | some value =>
      cases right with
      | none => exact absurd same (present value)
      | some other => rw [faithful.inj same]

theorem faithful_map [Ord Key] {text : Key -> String} {write : α -> Json}
    (named : Function.Injective text) (faithful : Faithful write) :
    Faithful (map text write) := by
  constructor
  case plain =>
    intro entries
    refine .object (fun member listed => ?_)
    obtain ⟨entry, -, rfl⟩ := List.mem_map.1 listed
    exact faithful.plain entry.2
  case inj =>
    intro left right same
    refine OrderedMap.ext_entries (List.map_injective_iff.2 ?_ (Json.object.inj same))
    intro entry other equal
    obtain ⟨key, value⟩ := Prod.mk.inj equal
    exact Prod.ext (named key) (faithful.inj value)

@[simp] theorem tagged_inj {tag name name' : String} {fields fields' : List (String × Json)} :
    tagged tag name fields = tagged tag name' fields' ↔ name = name' ∧ fields = fields' := by
  simp [tagged]

/-! ## Operands -/

theorem faithful_value : Faithful (encode : Value -> Json) := by
  constructor
  case plain =>
    intro value
    cases value with
    | bool value => exact .bool value
    | int value => exact .int value.toInt
    | text value => exact .text value
  case inj =>
    intro left right same
    cases left with
    | bool value => cases right <;> cases same; rfl
    | text value => cases right <;> cases same; rfl
    | int value =>
      cases right with
      | int other => rw [Int64.toInt_inj.1 (Json.int.inj same)]
      | _ => cases same

theorem faithful_correlation : Faithful (encode : CorrelationSource -> Json) := by
  constructor
  case plain =>
    intro source
    cases source <;> exact plain_object.2 (by simp [faithful_nat.plain])
  case inj =>
    intro left right same
    cases left <;> cases right <;> have parts := tagged_inj.1 same <;>
      simp_all [faithful_nat.eq_iff]

theorem faithful_route : Faithful (encode : ErrorRoute Address -> Json) := by
  constructor
  case plain => exact fun route => plain_object.2 (by simp [faithful_nat.plain])
  case inj =>
    rintro ⟨code, target⟩ ⟨code', target'⟩ same
    simpa [faithful_nat.eq_iff] using Json.object.inj same

theorem faithful_trigger : Faithful (encode : ArmTrigger -> Json) := by
  constructor
  case plain =>
    intro trigger
    cases trigger <;>
      exact plain_object.2 (by simp [faithful_nat.plain, faithful_correlation.plain])
  case inj =>
    intro left right same
    cases left <;> cases right <;>
      simpa [faithful_nat.eq_iff, faithful_correlation.eq_iff] using tagged_inj.1 same

theorem faithful_arm : Faithful (encode : ArmCode Address -> Json) := by
  constructor
  case plain =>
    exact fun arm => plain_object.2 (by simp [faithful_nat.plain, faithful_trigger.plain])
  case inj =>
    rintro ⟨trigger, target⟩ ⟨trigger', target'⟩ same
    simpa [faithful_nat.eq_iff, faithful_trigger.eq_iff] using Json.object.inj same

theorem faithful_routingFault : Faithful (encode : RoutingFault -> Json) := by
  constructor
  case plain =>
    intro reason
    cases reason <;> exact plain_object.2 (by simp [faithful_nat.plain])
  case inj =>
    intro left right same
    cases left <;> cases right <;> simpa [faithful_nat.eq_iff] using tagged_inj.1 same

/-! ## Instructions -/

theorem faithful_fallback : Faithful (nullable nat) := faithful_nullable faithful_nat (by simp [nat])

theorem plain_operands (instruction : Instruction Address) :
    ∀ operand ∈ instruction.operands, Plain operand.2 := by
  cases instruction <;>
    simp [Instruction.operands, faithful_nat.plain, faithful_value.plain, faithful_fallback.plain,
      faithful_correlation.plain, faithful_routingFault.plain, (faithful_list faithful_nat).plain,
      (faithful_list faithful_route).plain, (faithful_list faithful_arm).plain]

/-- Instructions of one name and with the same written operands are the same. -/
theorem operands_inj {left right : Instruction Address} (named : left.mnemonic = right.mnemonic)
    (same : left.operands = right.operands) : left = right := by
  -- Instructions of different kinds have different names.
  cases left <;> cases right <;> simp only [Instruction.mnemonic, String.reduceEq] at named
  all_goals simp_all [Instruction.operands, faithful_nat.eq_iff, faithful_value.eq_iff,
    faithful_fallback.eq_iff, faithful_correlation.eq_iff, faithful_routingFault.eq_iff,
    (faithful_list faithful_nat).eq_iff, (faithful_list faithful_route).eq_iff,
    (faithful_list faithful_arm).eq_iff]

theorem faithful_instruction : Faithful (encode : Instruction Address -> Json) := by
  constructor
  case plain =>
    exact fun instruction => .object (List.forall_mem_cons.2 ⟨.text _, plain_operands instruction⟩)
  case inj =>
    intro left right same
    obtain ⟨named, equal⟩ := tagged_inj.1 same
    exact operands_inj named equal

/-! ## Symbol tables -/

theorem text_injective : Function.Injective NodeKey.text := by
  rintro ⟨text, valid⟩ ⟨text', valid'⟩ same
  cases same
  rfl

theorem faithful_node : Faithful (encode : NodeKey -> Json) :=
  ⟨fun key => .text key.text, fun same => text_injective (Json.text.inj same)⟩

theorem faithful_symbols : Faithful (encode : SymbolTable -> Json) := by
  have entries : Faithful (map NodeKey.text nat) :=
    faithful_map text_injective faithful_nat
  have nodes : Faithful (list (encode : NodeKey -> Json)) := faithful_list faithful_node
  have names : Faithful (list (encode : String -> Json)) := faithful_list faithful_text
  constructor
  case plain =>
    exact fun symbols => plain_object.2 (by simp [entries.plain, nodes.plain, names.plain])
  case inj =>
    rintro ⟨⟩ ⟨⟩ same
    simpa [entries.eq_iff, nodes.eq_iff, names.eq_iff] using Json.object.inj same

end Encode

/-! ## Digests -/

namespace Sha256

/-- Among two texts in bytes, the digest tells one from the other. -/
def Separates (first second : ByteArray) : Prop :=
  digest first.toList = digest second.toList -> first = second

theorem Separates.refl (text : ByteArray) : Separates text text := fun _ => rfl

/-- Eight digits tell a word. -/
theorem hexadecimal_word_inj {word word' : UInt32}
    (same : Text.hexadecimal 8 word.toNat = Text.hexadecimal 8 word'.toNat) : word = word' := by
  have equal := Text.hexadecimal_inj same
  rw [show 16 ^ 8 = 2 ^ 32 by decide, Nat.mod_eq_of_lt word.toNat_lt,
    Nat.mod_eq_of_lt word'.toNat_lt] at equal
  exact UInt32.toNat_inj.1 equal

theorem flatMap_hexadecimal_inj {words words' : List UInt32}
    (size : words.length = words'.length)
    (same : words.flatMap (fun word => Text.hexadecimal 8 word.toNat) =
      words'.flatMap (fun word => Text.hexadecimal 8 word.toNat)) : words = words' := by
  induction words generalizing words' with
  | nil => exact (List.length_eq_zero_iff.1 size.symm).symm
  | cons word rest ih =>
    cases words' with
    | nil => cases size
    | cons word' rest' =>
      obtain ⟨first, others⟩ := List.append_inj same (by simp [Text.length_hexadecimal])
      rw [hexadecimal_word_inj first, ih (Nat.succ.inj size) others]

theorem State.toList_injective : Function.Injective State.toList := by
  rintro ⟨⟩ ⟨⟩ same
  simpa [State.toList] using same

/-- Digests of the same hexadecimal text are the same. -/
theorem digest_eq_of_hex {first second : String} (same : hex first = hex second) :
    digest first.toUTF8.toList = digest second.toUTF8.toList := by
  rw [hex, hex] at same
  exact State.toList_injective (flatMap_hexadecimal_inj rfl (String.ofList_injective same))

end Sha256

namespace Program

/-- The bytes that are hashed. -/
def hashedBytes (program : Program) : ByteArray :=
  (hashInput program.instructions program.symbols).toUTF8

/-- The program passed its checks, when it was made of its parts or when it was read from a text. -/
inductive Validated : Program -> Prop where
  | made {instructions symbols program} (made : ofParts instructions symbols = .ok program) :
    Validated program
  | read {text program} (read : ofText text = .ok program) : Validated program

variable {instructions instructions' : List (Instruction Address)} {symbols symbols' : SymbolTable}

theorem hashInput_inj (same : hashInput instructions symbols = hashInput instructions' symbols') :
    instructions = instructions' ∧ symbols = symbols' := by
  have code : Encode.Faithful (Encode.list (encode : Instruction Address -> Json)) :=
    Encode.faithful_list Encode.faithful_instruction
  have plain (instructions : List (Instruction Address)) (symbols : SymbolTable) :
      Json.Plain (.object [("format", Encode.nat formatVersion),
        ("instructions", Encode.list encode instructions), ("symbols", encode symbols)]) := by
    simp [Encode.faithful_nat.plain, code.plain, Encode.faithful_symbols.plain]
  have equal := Json.render_inj (plain _ _) (plain _ _) same
  simpa [code.eq_iff, Encode.faithful_symbols.eq_iff] using equal

/-- A program that passed its checks is stored under the hash of its parts. -/
theorem Validated.hash_eq {program : Program} (validated : program.Validated) :
    program.hash.text = Sha256.hex (hashInput program.instructions program.symbols) := by
  have own {program : Program}
      (made : ofParts program.instructions program.symbols = .ok program) :
      program.hash.text = Sha256.hex (hashInput program.instructions program.symbols) :=
    (ofParts_eq_ok_iff.1 made).2.2.1
  cases validated with
  | made made =>
    obtain ⟨rfl, rfl, -⟩ := ofParts_eq_ok_iff.1 made
    exact own made
  | read read => exact own (ofParts_of_ofText read)

/-- The text that is hashed determines the instructions and the symbols. So do the hashes of programs
that passed their checks, if the digest tells the two byte strings apart. -/
theorem hash_pins_content :
    (∀ instructions instructions' symbols symbols',
      hashInput instructions symbols = hashInput instructions' symbols' ->
        instructions = instructions' ∧ symbols = symbols') ∧
    ∀ program other : Program, program.Validated -> other.Validated -> program.hash = other.hash ->
      Sha256.Separates program.hashedBytes other.hashedBytes ->
        program.instructions = other.instructions ∧ program.symbols = other.symbols := by
  refine ⟨fun _ _ _ _ => hashInput_inj, fun program other valid valid' same separates => ?_⟩
  have hex : Sha256.hex (hashInput program.instructions program.symbols) =
      Sha256.hex (hashInput other.instructions other.symbols) := by
    rw [← valid.hash_eq, ← valid'.hash_eq, same]
  exact hashInput_inj (String.toByteArray_inj.1 (separates (Sha256.digest_eq_of_hex hex)))

end Program

/-- A program with a text that has to be escaped, as it was made and as it is read back. -/
theorem Program.hash_pins_content_of_answerRace :
    ∃ other : Program, other.Validated ∧ AnswerRace.program.Validated ∧
      AnswerRace.program.hash = other.hash ∧
      Sha256.Separates AnswerRace.program.hashedBytes other.hashedBytes ∧
      AnswerRace.program.instructions = other.instructions ∧
      AnswerRace.program.symbols = other.symbols := by
  have sound : AnswerRace.program.problem? = none := by decide
  have made := (@ofParts_eq_ok_iff _ _ AnswerRace.program).2 ⟨rfl, rfl, rfl, sound⟩
  have back : ofText AnswerRace.program.toText = .ok AnswerRace.program := by
    rw [ofText, decode_parse?_toText AnswerRace.fits AnswerRace.fits_symbols]
    simp only [check, sound, checkHash_of_ofParts made]
    rfl
  have separates : Sha256.Separates AnswerRace.program.hashedBytes
      AnswerRace.program.hashedBytes := .refl _
  exact ⟨AnswerRace.program, .read back, .made made, rfl, separates,
    hash_pins_content.2 _ _ (.made made) (.read back) rfl separates⟩

end ProcessEngine
