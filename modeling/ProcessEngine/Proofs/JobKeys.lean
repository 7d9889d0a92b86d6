import Mathlib.Algebra.Group.Nat.Defs
import Mathlib.Data.List.Basic
import ProcessEngine.Job.Key

/-!
# Job keys tell dispatches apart

The parts of a job key are separated by colons, which occur in none of them, so the text of a
key determines its instance, its node and the number and epoch of the fiber that handed the job
out (`JobKey.generate_inj`). The digest of the input is not needed for this.
-/

namespace ProcessEngine

namespace Text

/-- The digits determine a number up to the places that are shown. -/
theorem hexadecimal_inj {places number other : Nat}
    (same : hexadecimal places number = hexadecimal places other) :
    number % 16 ^ places = other % 16 ^ places := by
  induction places generalizing number other with
  | zero => simp [Nat.mod_one]
  | succ places ih =>
    have digits : ∀ first second : Fin 16,
        Nat.digitChar first = Nat.digitChar second -> first = second := by decide
    rw [hexadecimal, hexadecimal] at same
    obtain ⟨front, last⟩ := List.append_inj' same rfl
    have digit : number % 16 = other % 16 := congrArg Fin.val
      (digits ⟨number % 16, Nat.mod_lt _ (by decide)⟩ ⟨other % 16, Nat.mod_lt _ (by decide)⟩
        (List.cons.inj last).1)
    rw [Nat.pow_succ', Nat.mod_mul, Nat.mod_mul, digit, ih front]

theorem length_hexadecimal (places number : Nat) : (hexadecimal places number).length = places := by
  induction places generalizing number with
  | zero => rfl
  | succ places ih => simp [hexadecimal, ih]

/-- Neither dashes nor colons are digits. -/
theorem hexadecimal_plain {places number : Nat} {character : Char}
    (listed : character ∈ hexadecimal places number) : character ≠ '-' ∧ character ≠ ':' := by
  induction places generalizing number with
  | zero => cases listed
  | succ places ih =>
    have plain : ∀ digit : Fin 16,
        Nat.digitChar digit ≠ '-' ∧ Nat.digitChar digit ≠ ':' := by decide
    rw [hexadecimal, List.mem_append, List.mem_singleton] at listed
    rcases listed with front | rfl
    · exact ih front
    · exact plain ⟨number % 16, Nat.mod_lt _ (by decide)⟩

end Text

namespace Identifier

variable {kind : IdentifierKind}

/-- The text of an identifier without its dashes holds the digits. -/
theorem filter_render (identifier : Identifier kind) :
    identifier.render.toList.filter (· != '-') = Text.hexadecimal 32 identifier.number := by
  have plain : ∀ start length, (((Text.hexadecimal 32 identifier.number).drop start).take
      length).filter (· != '-') = ((Text.hexadecimal 32 identifier.number).drop start).take
        length := by
    intro start length
    refine List.filter_eq_self.2 (fun character listed => ?_)
    simpa using (Text.hexadecimal_plain (List.mem_of_mem_drop (List.mem_of_mem_take listed))).1
  have size := Text.length_hexadecimal 32 identifier.number
  have last : ((Text.hexadecimal 32 identifier.number).drop 20).take 12 =
      (Text.hexadecimal 32 identifier.number).drop 20 := List.take_of_length_le (by simp [size])
  have split : ∀ start length, ((Text.hexadecimal 32 identifier.number).drop start).take length ++
      (Text.hexadecimal 32 identifier.number).drop (start + length) =
        (Text.hexadecimal 32 identifier.number).drop start := by
    intro start length
    rw [← List.drop_drop, List.take_append_drop]
  rw [render]
  simp only [String.toList_ofList, List.filter_append, List.filter_cons, plain]
  simp only [bne_self_eq_false, Bool.false_eq_true, if_false, List.append_assoc]
  rw [last, split 16 4, split 12 4, split 8 4, split 0 8, List.drop_zero]

/-- Identifiers of 128 bits have different texts. -/
theorem render_inj {identifier other : Identifier kind} (bounded : identifier.number < 2 ^ 128)
    (bounded' : other.number < 2 ^ 128) (same : identifier.render = other.render) :
    identifier = other := by
  have digits : Text.hexadecimal 32 identifier.number = Text.hexadecimal 32 other.number := by
    rw [← filter_render, same, filter_render]
  have equal := Text.hexadecimal_inj digits
  rw [show 16 ^ 32 = 2 ^ 128 by decide, Nat.mod_eq_of_lt bounded,
    Nat.mod_eq_of_lt bounded'] at equal
  cases identifier
  cases other
  cases equal
  rfl

/-- No colon is part of the text of an identifier. -/
theorem colon_notMem_render (identifier : Identifier kind) : ':' ∉ identifier.render.toList := by
  intro listed
  have kept : ':' ∈ identifier.render.toList.filter (· != '-') :=
    List.mem_filter.2 ⟨listed, by decide⟩
  rw [filter_render] at kept
  exact (Text.hexadecimal_plain kept).2 rfl

end Identifier

namespace JobKey

theorem colon_notMem_node (node : NodeKey) : ':' ∉ node.text.toList := by
  intro listed
  have valid := node.valid
  rw [NodeKey.isKey, Bool.and_eq_true, Bool.and_eq_true] at valid
  have allowed := List.all_eq_true.1 valid.1.2 ':' listed
  exact absurd allowed (by decide)

theorem colon_notMem_number (number : Nat) : ':' ∉ (toString number).toList := by
  intro listed
  have digit : ':'.isDigit = true := by
    refine Nat.isDigit_of_mem_toDigits (b := 10) (by decide) (by decide) (n := number) ?_
    simpa using listed
  exact absurd digit (by decide)

theorem number_inj {number other : Nat}
    (same : (toString number).toList = (toString other).toList) : number = other := by
  have digits : Nat.toDigits 10 number = Nat.toDigits 10 other := by simpa using same
  rw [← Nat.ofDigitChars_ten_toDigits (n := number), digits, Nat.ofDigitChars_ten_toDigits]

/-- The part of a text before its first colon, and the rest. -/
theorem split_inj {first second rest rest' : List Char} (plain : ':' ∉ first)
    (plain' : ':' ∉ second) (same : first ++ ':' :: rest = second ++ ':' :: rest') :
    first = second ∧ rest = rest' := by
  induction first generalizing second with
  | nil =>
    cases second with
    | nil => exact ⟨rfl, (List.cons.inj same).2⟩
    | cons head tail =>
      obtain ⟨rfl, -⟩ := List.cons.inj same
      exact absurd List.mem_cons_self plain'
  | cons head tail ih =>
    cases second with
    | nil =>
      obtain ⟨rfl, -⟩ := List.cons.inj same
      exact absurd List.mem_cons_self plain
    | cons head' tail' =>
      obtain ⟨rfl, later⟩ := List.cons.inj same
      obtain ⟨rfl, rest⟩ := ih (fun listed => plain (List.mem_cons_of_mem _ listed))
        (fun listed => plain' (List.mem_cons_of_mem _ listed)) later
      exact ⟨rfl, rest⟩

/-- Dispatches with the same key belong to the same fiber of the same instance in the same
epoch. -/
theorem generate_inj {id id' : InstanceId} {node node' : NodeKey} {sequence sequence' : Nat}
    {epoch epoch' : Nat} {input input' : Json} (bounded : id.number < 2 ^ 128)
    (bounded' : id'.number < 2 ^ 128)
    (same : generate id node sequence epoch input = generate id' node' sequence' epoch' input') :
    id = id' ∧ node = node' ∧ sequence = sequence' ∧ epoch = epoch' := by
  have parts : ∀ (id : InstanceId) (node : NodeKey) (sequence epoch : Nat) (input : Json),
      ∃ digest, (generate id node sequence epoch input).text.toList =
        id.render.toList ++ ':' :: (node.text.toList ++ ':' :: ((toString sequence).toList ++
          ':' :: ((toString epoch).toList ++ ':' :: digest))) := by
    intro id node sequence epoch input
    exact ⟨input.digest.toList.take digestLength, by simp [generate]⟩
  obtain ⟨digest, text⟩ := parts id node sequence epoch input
  obtain ⟨digest', text'⟩ := parts id' node' sequence' epoch' input'
  rw [same, text'] at text
  obtain ⟨ids, text⟩ := split_inj id'.colon_notMem_render id.colon_notMem_render text
  obtain ⟨nodes, text⟩ := split_inj (colon_notMem_node node') (colon_notMem_node node) text
  obtain ⟨sequences, text⟩ :=
    split_inj (colon_notMem_number sequence') (colon_notMem_number sequence) text
  obtain ⟨epochs, -⟩ := split_inj (colon_notMem_number epoch') (colon_notMem_number epoch) text
  refine ⟨(Identifier.render_inj bounded' bounded (String.toList_inj.1 ids)).symm, ?_,
    (number_inj sequences).symm, (number_inj epochs).symm⟩
  have texts : node.text = node'.text := (String.toList_inj.1 nodes).symm
  cases node
  cases node'
  cases texts
  rfl

end JobKey

end ProcessEngine
