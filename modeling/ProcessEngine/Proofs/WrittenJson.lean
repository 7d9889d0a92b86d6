import ProcessEngine.Json.Parser
import ProcessEngine.Json.Printer

/-!
# Written values are read back

The compact text of a value without fractions is read as just this value (`Json.parse?_render`), if
its whole numbers fit 64 bits and its lists and objects are not nested too deep. Every part of the
writer puts its text before what follows, so each reader is shown to leave exactly that.
-/

namespace ProcessEngine

namespace Json

/-! ## Values that are written exactly -/

/-- The value holds no fractions, its numbers fit 64 bits, and its lists and objects have at most so
many levels. -/
inductive Exact : Nat -> Json -> Prop where
  | null {levels} : Exact levels .null
  | bool {levels} (value : Bool) : Exact levels (.bool value)
  | int {levels} {value : Int} (least : -9223372036854775808 ≤ value)
      (bounded : value < significandBound) : Exact levels (.int value)
  | text {levels} (value : String) : Exact levels (.text value)
  | list {levels items} (each : ∀ item ∈ items, Exact levels item) :
    Exact (levels + 1) (.list items)
  | object {levels members} (each : ∀ member ∈ members, Exact levels (Prod.snd member)) :
    Exact (levels + 1) (.object members)

/-- More levels may be allowed. -/
theorem Exact.mono {levels more : Nat} {json : Json} (exact : Exact levels json)
    (le : levels ≤ more) : Exact more json := by
  induction exact generalizing more with
  | null => exact .null
  | bool value => exact .bool value
  | int least bounded => exact .int least bounded
  | text value => exact .text value
  | list each ih =>
    obtain ⟨more, rfl⟩ := Nat.exists_eq_add_of_lt le
    exact .list (fun item listed => ih item listed (by omega))
  | object each ih =>
    obtain ⟨more, rfl⟩ := Nat.exists_eq_add_of_lt le
    exact .object (fun member listed => ih member listed (by omega))

/-- The value holds no fractions. -/
inductive Plain : Json -> Prop where
  | null : Plain .null
  | bool (value : Bool) : Plain (.bool value)
  | int (value : Int) : Plain (.int value)
  | text (value : String) : Plain (.text value)
  | list {items} (each : ∀ item ∈ items, Plain item) : Plain (.list items)
  | object {members} (each : ∀ member ∈ members, Plain (Prod.snd member)) :
    Plain (.object members)

theorem Exact.plain {levels : Nat} {json : Json} (exact : Exact levels json) : Plain json := by
  induction exact with
  | null => exact .null
  | bool value => exact .bool value
  | int => exact .int _
  | text value => exact .text value
  | list each ih => exact .list ih
  | object each ih => exact .object ih

/-! ## Whole numbers -/

/-- The digits of a number, most significant first. -/
structure Digits (number : Nat) (digits : List Nat) : Prop where
  written : Nat.toDigits 10 number = digits.map Nat.digitChar
  small : ∀ digit ∈ digits, digit < 10
  nonempty : digits ≠ []
  /-- There is no leading zero. -/
  leading : ∀ rest, digits = 0 :: rest -> rest = []
  gathered : ∀ {bound}, number < bound -> gather bound 0 digits = (number, [])

/-- One more digit is gathered if the number stays below the bound. -/
theorem gather_append {bound significand number digit : Nat} {digits : List Nat}
    (gathered : gather bound significand digits = (number, []))
    (fits : number * 10 + digit < bound) :
    gather bound significand (digits ++ [digit]) = (number * 10 + digit, []) := by
  induction digits generalizing significand with
  | nil =>
    rw [gather] at gathered
    cases gathered
    rw [List.nil_append, gather, if_pos fits, gather]
  | cons first rest ih =>
    rw [gather] at gathered
    rw [List.cons_append, gather]
    split at gathered
    · rename_i below
      rw [if_pos below]
      exact ih gathered
    · cases gathered

theorem exists_digits (number : Nat) : ∃ digits, Digits number digits := by
  induction number using Nat.strongRecOn with
  | _ number ih =>
    by_cases single : number < 10
    · refine ⟨[number], ?_⟩
      constructor
      case written => rw [Nat.toDigits_of_lt_base single, List.map_singleton]
      case small => simpa using single
      case nonempty => simp
      case leading => simp
      case gathered =>
        intro bound below
        rw [gather, Nat.zero_mul, Nat.zero_add, if_pos below, gather]
    · obtain ⟨digits, spelled⟩ := ih (number / 10) (by omega)
      refine ⟨digits ++ [number % 10], ?_⟩
      constructor
      case written =>
        rw [Nat.toDigits_of_base_le (by decide) (by omega), spelled.written, List.map_append,
          List.map_singleton]
      case small =>
        intro digit listed
        rcases List.mem_append.1 listed with before | last
        · exact spelled.small digit before
        · rw [List.mem_singleton.1 last]
          exact Nat.mod_lt _ (by decide)
      case nonempty => simp
      case leading =>
        intro rest same
        obtain ⟨first, others, rfl⟩ := List.exists_cons_of_ne_nil spelled.nonempty
        obtain ⟨rfl, -⟩ := List.cons.inj same
        -- A number of one digit is below ten, so the number that remains is zero.
        obtain rfl := spelled.leading others rfl
        have zero := spelled.gathered (Nat.lt_succ_self _)
        rw [gather, if_pos (by omega), gather] at zero
        have none : number / 10 = 0 := (congrArg Prod.fst zero).symm
        omega
      case gathered =>
        intro bound below
        have split : number / 10 * 10 + number % 10 = number := by omega
        have before : gather bound 0 digits = (number / 10, []) := spelled.gathered (by omega)
        rw [gather_append before (by omega), split]

theorem digitValue?_digitChar {digit : Nat} (small : digit < 10) :
    Text.digitValue? digit.digitChar = some digit := by
  have each : ∀ digit < 10, Text.digitValue? digit.digitChar = some digit := by decide
  exact each digit small

/-- What comes after a value: the end, or a mark that no value goes on with. -/
def Ends (following : List Char) : Prop :=
  ∀ ⦃mark rest⦄, following = mark :: rest -> mark = ',' ∨ mark = ']' ∨ mark = '\x7d'

theorem ends_nil : Ends [] := nofun

theorem ends_cons {mark : Char} (rest : List Char)
    (marks : mark = ',' ∨ mark = ']' ∨ mark = '\x7d') : Ends (mark :: rest) := by
  rintro _ _ ⟨⟩
  exact marks

/-- The digits of a number are split off as they were written. -/
theorem takeDigits_append {digits : List Nat} {following : List Char}
    (small : ∀ digit ∈ digits, digit < 10) (ends : Ends following) :
    takeDigits (digits.map Nat.digitChar ++ following) = (digits, following) := by
  induction digits with
  | nil =>
    cases following with
    | nil => rfl
    | cons mark rest =>
      have none : Text.digitValue? mark = none := by
        rcases ends rfl with rfl | rfl | rfl <;> rfl
      rw [List.map_nil, List.nil_append, takeDigits, none]
  | cons digit rest ih =>
    obtain ⟨first, others⟩ := List.forall_mem_cons.1 small
    rw [List.map_cons, List.cons_append, takeDigits, digitValue?_digitChar first, ih others]

/-- A magnitude is read back with its sign. -/
theorem readMagnitude_toDigits (negative : Bool) {number : Nat} {following : List Char}
    (bounded : number < significandBound) (ends : Ends following) :
    readMagnitude negative (Nat.toDigits 10 number ++ following) =
      some (wholeNumber negative number, following) := by
  obtain ⟨digits, spelled⟩ := exists_digits number
  have taken := takeDigits_append spelled.small ends
  rw [← spelled.written] at taken
  have gathered := spelled.gathered bounded
  have leading := spelled.leading
  rw [readMagnitude, taken]
  dsimp only
  split
  · exact absurd rfl spelled.nonempty
  · cases leading _ rfl
  · rw [gathered]
    cases following with
    | nil => rfl
    | cons mark rest => rcases ends rfl with rfl | rfl | rfl <;> rfl

theorem exists_toDigits (number : Nat) :
    ∃ first rest, Nat.toDigits 10 number = first :: rest ∧ first.isDigit = true := by
  obtain ⟨first, rest, same⟩ := List.exists_cons_of_ne_nil (@Nat.toDigits_ne_nil number 10)
  refine ⟨first, rest, same, ?_⟩
  exact Nat.isDigit_of_mem_toDigits (by decide) (by decide) (same ▸ List.mem_cons_self)

/-- A whole number is read back. -/
theorem readNumber_writeInt {value : Int} {following : List Char}
    (least : -9223372036854775808 ≤ value) (bounded : value < significandBound)
    (ends : Ends following) :
    readNumber (writeInt value ++ following) = some (.int value, following) := by
  cases value with
  | ofNat magnitude =>
    obtain ⟨first, rest, same, isDigit⟩ := exists_toDigits magnitude
    have unsigned : readNumber (Nat.toDigits 10 magnitude ++ following) =
        readMagnitude false (Nat.toDigits 10 magnitude ++ following) := by
      rw [same, List.cons_append, readNumber]
      rintro rest ⟨⟩
      cases isDigit
    rw [writeInt, unsigned, readMagnitude_toDigits false (Int.ofNat_lt.1 bounded) ends]
    rfl
  | negSucc below =>
    have small : below + 1 ≤ 9223372036854775808 := by omega
    have fits : below + 1 < significandBound := by
      rw [significandBound]
      exact Nat.lt_of_le_of_lt small (by decide)
    rw [writeInt, List.cons_append, readNumber, readMagnitude_toDigits true fits ends, wholeNumber,
      if_pos rfl, if_pos ⟨Nat.succ_pos below, small⟩]
    rfl

/-! ## Texts -/

theorem hexadecimalValue?_hexDigit (value : Nat) :
    Text.hexadecimalValue? (hexDigit value) = some (value % 16) := by
  have each : ∀ digit < 16, Text.hexadecimalValue? digit.digitChar = some digit := by decide
  exact each (value % 16) (Nat.mod_lt value (by decide))

/-- The unit of a character below the space is read back. -/
theorem readEscapedUnits_control {character : Char} (control : character.toNat < 32)
    (rest : List Char) :
    readEscapedUnits ('0' :: '0' :: hexDigit (character.toNat / 16) ::
      hexDigit character.toNat :: rest) = some (character, rest) := by
  have zero : Text.hexadecimalValue? '0' = some 0 := rfl
  have unit : readUnit ('0' :: '0' :: hexDigit (character.toNat / 16) ::
      hexDigit character.toNat :: rest) = some (character.toNat, rest) := by
    simp only [readUnit, zero, hexadecimalValue?_hexDigit, Option.bind_eq_bind, Option.bind_some,
      Option.pure_def, Option.some.injEq, Prod.mk.injEq, and_true]
    omega
  simp only [readEscapedUnits, unit, Option.bind_eq_bind, Option.bind_some]
  rw [if_neg (by omega), if_neg (by omega), Char.ofNat_toNat]
  rfl

/-- A character is written as it is, or as an escape that is read back. -/
theorem escape_cases (character : Char) :
    (escape character = [character] ∧ character ≠ '"' ∧ character ≠ '\\' ∧
      32 ≤ character.toNat) ∨
    ∃ marks, escape character = '\\' :: marks ∧
      ∀ rest, readEscape (marks ++ rest) = some (character, rest) := by
  have named {code : Nat} (is : character.toNat = code) : character = Char.ofNat code := by
    rw [← is, Char.ofNat_toNat]
  rw [escape]
  split
  case isTrue is =>
    subst is
    exact .inr ⟨['"'], rfl, fun _ => rfl⟩
  split
  case isTrue is =>
    subst is
    exact .inr ⟨['\\'], rfl, fun _ => rfl⟩
  split
  case isTrue is =>
    subst is
    exact .inr ⟨['n'], rfl, fun _ => rfl⟩
  split
  case isTrue is =>
    subst is
    exact .inr ⟨['r'], rfl, fun _ => rfl⟩
  split
  case isTrue is =>
    subst is
    exact .inr ⟨['t'], rfl, fun _ => rfl⟩
  split
  case isTrue is =>
    cases named is
    exact .inr ⟨['b'], rfl, fun _ => rfl⟩
  split
  case isTrue is =>
    cases named is
    exact .inr ⟨['f'], rfl, fun _ => rfl⟩
  split
  case isTrue control => exact .inr ⟨_, rfl, fun rest => readEscapedUnits_control control rest⟩
  case isFalse quote slash _ _ _ _ _ plain => exact .inl ⟨rfl, quote, slash, Nat.not_lt.1 plain⟩

/-- A character is read back from its written form. -/
theorem readCharacters_escape (fuel : Nat) (read : List Char) (character : Char)
    (rest : List Char) : readCharacters (fuel + 1) read (escape character ++ rest) =
      readCharacters fuel (character :: read) rest := by
  rcases escape_cases character with ⟨same, quote, slash, plain⟩ | ⟨marks, same, back⟩
  · rw [same, List.singleton_append, readCharacters, if_neg (Nat.not_lt.2 plain)]
    · exact quote
    · exact slash
  · rw [same, List.cons_append, readCharacters, back]

/-- The characters of a text are read up to its closing quote. -/
theorem readCharacters_writeCharacters {fuel : Nat} {characters : List Char}
    (enough : characters.length < fuel) (read following : List Char) :
    readCharacters fuel read (writeCharacters following characters) =
      some (String.ofList (read.reverse ++ characters), following) := by
  induction characters generalizing fuel read with
  | nil =>
    obtain ⟨fuel, rfl⟩ : ∃ more, fuel = more + 1 := ⟨fuel - 1, by omega⟩
    rw [writeCharacters, List.append_nil, readCharacters]
    exact nofun
  | cons character rest ih =>
    obtain ⟨fuel, rfl⟩ : ∃ more, fuel = more + 1 := ⟨fuel - 1, by omega⟩
    rw [writeCharacters, readCharacters_escape, ih (Nat.lt_of_succ_lt_succ enough),
      List.reverse_cons, List.append_assoc]
    rfl

/-- A text is read back after its opening quote. -/
theorem readText_writeCharacters {fuel : Nat} {text : String} (following : List Char)
    (enough : text.toList.length < fuel) :
    readText fuel (writeCharacters following text.toList) = some (text, following) := by
  rw [readText, readCharacters_writeCharacters enough, List.reverse_nil, List.nil_append,
    String.ofList_toList]

theorem length_writeCharacters (following characters : List Char) :
    characters.length + following.length < (writeCharacters following characters).length := by
  induction characters with
  | nil => simp [writeCharacters]
  | cons character rest ih =>
    have some : 0 < (escape character).length := by
      rcases escape_cases character with ⟨same, -⟩ | ⟨marks, same, -⟩ <;> simp [same]
    rw [writeCharacters, List.length_append, List.length_cons]
    omega

/-! ## Values -/

/-- The text of a value begins with such a character: no blank and no closing mark. -/
def Begins (first : Char) : Prop :=
  first.isDigit = true ∨ first ∈ ['n', 't', 'f', '-', '"', '[', '\x7b']

theorem Plain.begins {json : Json} (plain : Plain json) (following : List Char) :
    ∃ first rest, write json following = first :: rest ∧ Begins first := by
  cases plain with
  | null => exact ⟨_, _, rfl, .inr (by decide)⟩
  | bool value => cases value <;> exact ⟨_, _, rfl, .inr (by decide)⟩
  | int value =>
    cases value with
    | ofNat magnitude =>
      obtain ⟨first, rest, same, isDigit⟩ := exists_toDigits magnitude
      exact ⟨first, rest ++ following, by rw [write, writeInt, same]; rfl, .inl isDigit⟩
    | negSucc below => exact ⟨_, _, rfl, .inr (by decide)⟩
  | text value => exact ⟨_, _, rfl, .inr (by decide)⟩
  | @list items => cases items <;> exact ⟨_, _, rfl, .inr (by decide)⟩
  | @object members =>
    cases members with
    | nil => exact ⟨_, _, rfl, .inr (by decide)⟩
    | cons member rest => exact ⟨_, _, rfl, .inr (by decide)⟩

theorem skipBlanks_cons {first : Char} (bare : first ∉ [' ', '\n', '\t', '\r'])
    (rest : List Char) : skipBlanks (first :: rest) = first :: rest := by
  simp only [List.mem_cons, List.not_mem_nil, or_false, not_or] at bare
  obtain ⟨space, line, tab, back⟩ := bare
  rw [skipBlanks] <;> rintro _ ⟨⟩ <;> contradiction

theorem Begins.bare {first : Char} (begins : Begins first) :
    first ∉ [' ', '\n', '\t', '\r'] ∧ first ≠ ']' ∧ first ≠ '\x7d' := by
  refine ⟨fun blank => ?_, ?_, ?_⟩
  · simp only [List.mem_cons, List.not_mem_nil, or_false] at blank
    rcases blank with rfl | rfl | rfl | rfl <;> revert begins <;> simp [Begins]
  · rintro rfl
    simp [Begins] at begins
  · rintro rfl
    simp [Begins] at begins

theorem Ends.skipBlanks {following : List Char} (ends : Ends following) :
    skipBlanks following = following := by
  cases following with
  | nil => rfl
  | cons mark rest => rcases ends rfl with rfl | rfl | rfl <;> rfl

/-- What begins with a sign or a digit is read as a number. -/
theorem readValue_number {fuel depth : Nat} {first : Char} {rest : List Char}
    (begins : first = '-' ∨ first.isDigit = true) :
    readValue (fuel + 1) depth (first :: rest) = readNumber (first :: rest) := by
  have bare : first ∉ [' ', '\n', '\t', '\r'] := by
    refine (Begins.bare ?_).1
    rcases begins with rfl | isDigit
    · exact .inr (by decide)
    · exact .inl isDigit
  rw [readValue, skipBlanks_cons bare]
  split
  all_goals first
    | rfl
    | (rename_i same; obtain ⟨rfl, -⟩ := List.cons.inj same; simp at begins)

/-- The value is read back from its text, whatever comes after it. A reader is given two steps for
every character. -/
structure ReadBack (depth : Nat) (json : Json) : Prop where
  longer : ∀ following, following.length < (write json following).length
  reads : ∀ {fuel following}, Ends following -> 2 * (write json following).length < fuel ->
    readValue fuel depth (write json following) = some (json, following)

section

variable {fuel depth : Nat} {item : Json} {items : List Json} {name : String} {value : Json}
  {members : List (String × Json)} {following : List Char}

theorem ends_writeItems (items : List Json) (following : List Char) :
    Ends (writeItems items following) := by
  cases items with
  | nil => exact ends_cons _ (by decide)
  | cons item rest => exact ends_cons _ (by decide)

theorem length_writeItems (back : ∀ item ∈ items, ReadBack depth item) :
    following.length < (writeItems items following).length := by
  induction items with
  | nil => simp [writeItems]
  | cons item rest ih =>
    obtain ⟨first, others⟩ := List.forall_mem_cons.1 back
    have longer := first.longer (writeItems rest following)
    have more := ih others
    rw [writeItems, List.length_cons]
    omega

theorem length_writeMembers (back : ∀ member ∈ members, ReadBack depth member.2) :
    following.length < (writeMembers members following).length := by
  induction members with
  | nil => simp [writeMembers]
  | cons member rest ih =>
    obtain ⟨first, others⟩ := List.forall_mem_cons.1 back
    have longer := first.longer (writeMembers rest following)
    have named := length_writeCharacters
      (':' :: write member.2 (writeMembers rest following)) member.1.toList
    have more := ih others
    rw [List.length_cons] at named
    rw [writeMembers, writeText, List.length_cons, List.length_cons]
    omega

/-- Items are read up to the closing bracket. -/
theorem readItems_writeItems (back : ∀ other ∈ item :: items, ReadBack depth other)
    (enough : 2 * (write item (writeItems items following)).length + 1 < fuel)
    (read : List Json) :
    readItems fuel depth read (write item (writeItems items following)) =
      some (read.reverse ++ item :: items, following) := by
  induction items generalizing item fuel read with
  | nil =>
    obtain ⟨fuel, rfl⟩ : ∃ more, fuel = more + 1 := ⟨fuel - 1, by omega⟩
    have first := back item List.mem_cons_self
    rw [readItems, first.reads (ends_writeItems [] following) (by omega)]
    change some ((item :: read).reverse, following) = _
    rw [List.reverse_cons]
  | cons second rest ih =>
    obtain ⟨fuel, rfl⟩ : ∃ more, fuel = more + 1 := ⟨fuel - 1, by omega⟩
    obtain ⟨first, others⟩ := List.forall_mem_cons.1 back
    have longer := first.longer (writeItems (second :: rest) following)
    rw [writeItems, List.length_cons, ← writeItems] at longer
    rw [readItems, first.reads (ends_writeItems (second :: rest) following) (by omega)]
    change readItems fuel depth (item :: read) (write second (writeItems rest following)) = _
    rw [ih others (by omega), List.reverse_cons, List.append_assoc]
    rfl

/-- A member is read, and then a comma and more of them or the closing brace. -/
theorem readMembers_member {mark : Char} {rest : List Char} (back : ReadBack depth value)
    (marks : mark = ',' ∨ mark = '\x7d')
    (enough : 2 * (writeText name (':' :: write value (mark :: rest))).length < fuel)
    (read : List (String × Json)) :
    readMembers (fuel + 1) depth read (writeText name (':' :: write value (mark :: rest))) =
      if mark = ',' then readMembers fuel depth ((name, value) :: read) rest
      else some (((name, value) :: read).reverse, rest) := by
  have ends : Ends (mark :: rest) := ends_cons rest (marks.imp_right .inr)
  have named := length_writeCharacters (':' :: write value (mark :: rest)) name.toList
  rw [List.length_cons] at named
  rw [writeText, List.length_cons] at enough
  have quote : skipBlanks (writeText name (':' :: write value (mark :: rest))) =
      '"' :: writeCharacters (':' :: write value (mark :: rest)) name.toList := rfl
  have colon : skipBlanks (':' :: write value (mark :: rest)) =
      ':' :: write value (mark :: rest) := rfl
  simp only [readMembers, quote]
  rw [readText_writeCharacters _ (by omega)]
  simp only [colon]
  rw [back.reads ends (by omega)]
  rcases marks with rfl | rfl
  · rw [if_pos rfl]
    rfl
  · rw [if_neg (by decide)]
    rfl

/-- Members are read up to the closing brace. -/
theorem readMembers_writeMembers
    (back : ∀ other ∈ (name, value) :: members, ReadBack depth other.2)
    (enough : 2 * (writeText name (':' :: write value (writeMembers members following))).length + 1 <
      fuel) (read : List (String × Json)) :
    readMembers fuel depth read
        (writeText name (':' :: write value (writeMembers members following))) =
      some (read.reverse ++ (name, value) :: members, following) := by
  induction members generalizing name value fuel read with
  | nil =>
    obtain ⟨fuel, rfl⟩ : ∃ more, fuel = more + 1 := ⟨fuel - 1, by omega⟩
    have first : ReadBack depth value := back _ List.mem_cons_self
    rw [writeMembers, readMembers_member first (.inr rfl) (by rw [← writeMembers]; omega),
      if_neg (by decide), List.reverse_cons]
  | cons second rest ih =>
    obtain ⟨name', value'⟩ := second
    obtain ⟨fuel, rfl⟩ : ∃ more, fuel = more + 1 := ⟨fuel - 1, by omega⟩
    obtain ⟨(first : ReadBack depth value), others⟩ := List.forall_mem_cons.1 back
    have named := length_writeCharacters
      (':' :: write value (writeMembers ((name', value') :: rest) following)) name.toList
    have longer := first.longer (writeMembers ((name', value') :: rest) following)
    have shorter : (writeText name' (':' :: write value' (writeMembers rest following))).length <
        (writeMembers ((name', value') :: rest) following).length := Nat.lt_succ_self _
    rw [List.length_cons] at named
    rw [writeText, List.length_cons] at enough
    rw [writeMembers, readMembers_member first (.inl rfl)
      (by rw [← writeMembers, writeText, List.length_cons]; omega), if_pos rfl,
      ih others (by omega), List.reverse_cons, List.append_assoc]
    rfl

theorem readBack_literal {json : Json} {text : List Char} (some : text ≠ [])
    (written : ∀ following, write json following = text ++ following)
    (reads : ∀ fuel following,
      readValue (fuel + 1) depth (text ++ following) = .some (json, following)) :
    ReadBack depth json := by
  constructor
  case longer =>
    intro following
    rw [written, List.length_append]
    exact Nat.lt_add_of_pos_left (List.length_pos_iff.2 some)
  case reads =>
    intro fuel following ends enough
    obtain ⟨fuel, rfl⟩ : ∃ more, fuel = more + 1 := ⟨fuel - 1, by omega⟩
    rw [written]
    exact reads fuel following

theorem readBack_int {number : Int} (least : -9223372036854775808 ≤ number)
    (bounded : number < significandBound) : ReadBack depth (.int number) := by
  obtain ⟨first, rest, same, begins⟩ : ∃ first rest, writeInt number = first :: rest ∧
      (first = '-' ∨ first.isDigit = true) := by
    cases number with
    | ofNat magnitude =>
      obtain ⟨first, rest, same, isDigit⟩ := exists_toDigits magnitude
      exact ⟨first, rest, same, .inr isDigit⟩
    | negSucc below => exact ⟨_, _, rfl, .inl rfl⟩
  constructor
  case longer =>
    intro following
    rw [write, same, List.length_append, List.length_cons]
    omega
  case reads =>
    intro fuel following ends enough
    obtain ⟨fuel, rfl⟩ : ∃ more, fuel = more + 1 := ⟨fuel - 1, by omega⟩
    rw [write, same, List.cons_append, readValue_number begins, ← List.cons_append, ← same]
    exact readNumber_writeInt least bounded ends

theorem readBack_text (text : String) : ReadBack depth (.text text) := by
  have longer (following : List Char) := length_writeCharacters following text.toList
  constructor
  case longer =>
    intro following
    rw [write, writeText, List.length_cons]
    have := longer following
    omega
  case reads =>
    intro fuel following ends enough
    rw [write, writeText, List.length_cons] at enough
    have := longer following
    obtain ⟨fuel, rfl⟩ : ∃ more, fuel = more + 1 := ⟨fuel - 1, by omega⟩
    change (readText fuel (writeCharacters following text.toList)).map _ = _
    rw [readText_writeCharacters following (by omega)]
    rfl

/-- A list is read back if its items are. What follows the bracket does not close it. -/
theorem readBack_list (back : ∀ item ∈ items, ReadBack depth item)
    (begins : ∀ item ∈ items, ∀ following, ∃ first rest,
      write item following = first :: rest ∧ Begins first) :
    ReadBack (depth + 1) (.list items) := by
  cases items with
  | nil => exact readBack_literal (List.cons_ne_nil '[' [']']) (fun _ => rfl) (fun _ _ => rfl)
  | cons item rest =>
    obtain ⟨first, others⟩ := List.forall_mem_cons.1 back
    constructor
    case longer =>
      intro following
      have longer := first.longer (writeItems rest following)
      have more : following.length < (writeItems rest following).length := length_writeItems others
      rw [write, List.length_cons]
      omega
    case reads =>
      intro fuel following ends enough
      rw [write, List.length_cons] at enough
      obtain ⟨fuel, rfl⟩ : ∃ more, fuel = more + 1 := ⟨fuel - 1, by omega⟩
      obtain ⟨mark, tail, same, starts⟩ :=
        begins item List.mem_cons_self (writeItems rest following)
      have read : readItems fuel depth [] (write item (writeItems rest following)) = _ :=
        readItems_writeItems back (by omega) []
      rw [same] at read
      have opening : skipBlanks ('[' :: mark :: tail) = '[' :: mark :: tail := rfl
      rw [write, same]
      simp only [readValue, opening, skipBlanks_cons starts.bare.1]
      split
      · rename_i closing
        exact absurd (List.cons.inj closing).1 starts.bare.2.1
      · rw [read]
        rfl

/-- An object is read back if the values of its members are. -/
theorem readBack_object (back : ∀ member ∈ members, ReadBack depth member.2) :
    ReadBack (depth + 1) (.object members) := by
  cases members with
  | nil =>
    exact readBack_literal (List.cons_ne_nil '\x7b' ['\x7d']) (fun _ => rfl) (fun _ _ => rfl)
  | cons member rest =>
    obtain ⟨name, value⟩ := member
    obtain ⟨(first : ReadBack depth value), others⟩ := List.forall_mem_cons.1 back
    constructor
    case longer =>
      intro following
      have longer := first.longer (writeMembers rest following)
      have named := length_writeCharacters (':' :: write value (writeMembers rest following))
        name.toList
      have more : following.length < (writeMembers rest following).length :=
        length_writeMembers others
      rw [List.length_cons] at named
      rw [write, writeText, List.length_cons, List.length_cons]
      omega
    case reads =>
      intro fuel following ends enough
      rw [write, List.length_cons] at enough
      obtain ⟨fuel, rfl⟩ : ∃ more, fuel = more + 1 := ⟨fuel - 1, by omega⟩
      have read : readMembers fuel depth []
          (writeText name (':' :: write value (writeMembers rest following))) = _ :=
        readMembers_writeMembers back (by omega) []
      rw [writeText] at read
      change (readMembers fuel depth [] _).map _ = _
      rw [read]
      rfl

end

/-- A value that is written exactly is read back. -/
theorem Exact.readBack {levels depth : Nat} {json : Json} (exact : Exact levels json)
    (le : levels ≤ depth) : ReadBack depth json := by
  induction exact generalizing depth with
  | null =>
    exact readBack_literal (List.cons_ne_nil 'n' ['u', 'l', 'l']) (fun _ => rfl) (fun _ _ => rfl)
  | bool value =>
    cases value
    · exact readBack_literal (List.cons_ne_nil 'f' ['a', 'l', 's', 'e']) (fun _ => rfl)
        (fun _ _ => rfl)
    · exact readBack_literal (List.cons_ne_nil 't' ['r', 'u', 'e']) (fun _ => rfl)
        (fun _ _ => rfl)
  | int least bounded => exact readBack_int least bounded
  | text value => exact readBack_text value
  | list each ih =>
    obtain ⟨depth, rfl⟩ : ∃ less, depth = less + 1 := ⟨depth - 1, by omega⟩
    exact readBack_list (fun item listed => ih item listed (Nat.le_of_succ_le_succ le))
      (fun item listed => (each item listed).plain.begins)
  | object each ih =>
    obtain ⟨depth, rfl⟩ : ∃ less, depth = less + 1 := ⟨depth - 1, by omega⟩
    exact readBack_object (fun member listed => ih member listed (Nat.le_of_succ_le_succ le))

/-- The text of a value that is written exactly is read as the value. -/
theorem parse?_render {json : Json} (exact : Exact (nestingLimit - 1) json) :
    parse? json.render = some json := by
  have back := exact.readBack (Nat.le_refl _)
  rw [parse?, render, String.toList_ofList, back.reads ends_nil (by omega)]
  rfl

end Json

end ProcessEngine
