import ProcessEngine.Program.Basic
import ProcessEngine.Proofs.JobKeys
import ProcessEngine.Proofs.Tables

/-!
# Parts of programs

Parts make a program exactly if there are instructions and everything they refer to exists
(`Program.ofParts_eq_ok_iff`): a digest is always the text of a hash, so naming a program never
fails. Code stands at an address of a program if its instructions follow one another there
(`Program.HasCode`).
-/

namespace ProcessEngine

namespace Sha256

theorem isHashDigit_digitChar (digit : Nat) (bounded : digit < 16) :
    (digit.digitChar.isDigit ||
      ('a' ≤ digit.digitChar && digit.digitChar ≤ 'f')) = true := by
  revert digit
  decide

/-- Hexadecimal digits may stand in a hash. -/
theorem isHashDigit_hexadecimal {places number : Nat} {character : Char}
    (listed : character ∈ Text.hexadecimal places number) :
    (character.isDigit || ('a' ≤ character && character ≤ 'f')) = true := by
  induction places generalizing number with
  | zero => cases listed
  | succ places ih =>
    rw [Text.hexadecimal, List.mem_append, List.mem_singleton] at listed
    rcases listed with earlier | rfl
    · exact ih earlier
    · exact isHashDigit_digitChar _ (Nat.mod_lt _ (by decide))

/-- A digest is the text of a hash. -/
theorem isHashText_hex (text : String) : isHashText (hex text) = true := by
  rw [isHashText, hex, String.toList_ofList, Bool.and_eq_true, beq_iff_eq, List.all_eq_true]
  constructor
  · simp [State.toList, Text.length_hexadecimal]
  · intro character listed
    obtain ⟨word, -, digit⟩ := List.mem_flatMap.1 listed
    exact isHashDigit_hexadecimal digit

end Sha256

namespace Program

variable {instructions : List (Instruction Address)} {symbols : SymbolTable} {length : Nat}

theorem instructionProblem?_eq_none_iff {address : Address} {instruction : Instruction Address} :
    instructionProblem? symbols length address instruction = none ↔
      (∀ target ∈ instruction.targets, target < length) ∧
        ∀ reference ∈ instruction.symbols, (symbols.name? reference).isSome = true := by
  rw [instructionProblem?]
  split
  · rename_i target found
    refine ⟨by rintro ⟨⟩, fun ⟨within, _⟩ => ?_⟩
    have beyond := List.find?_some found
    exact absurd (of_decide_eq_true beyond)
      (Nat.not_le.2 (within target (List.mem_of_find?_eq_some found)))
  · rename_i within
    rw [List.find?_eq_none] at within
    simp only [Option.map_eq_none_iff, List.find?_eq_none]
    constructor
    · intro known
      refine ⟨fun target listed => ?_, fun reference listed => ?_⟩
      · simpa using within target listed
      · simpa [Option.isSome_iff_ne_none] using known reference listed
    · rintro ⟨-, known⟩ reference listed
      simpa [Option.isSome_iff_ne_none] using known reference listed

theorem codeProblem?_eq_none_iff {address : Address} :
    codeProblem? symbols length address instructions = none ↔
      ∀ instruction ∈ instructions, (∀ target ∈ instruction.targets, target < length) ∧
        ∀ reference ∈ instruction.symbols, (symbols.name? reference).isSome = true := by
  induction instructions generalizing address with
  | nil => simp [codeProblem?]
  | cons instruction rest ih =>
    rw [codeProblem?, List.forall_mem_cons, ← @instructionProblem?_eq_none_iff _ _ address]
    split
    · rename_i problem amiss
      simp [amiss]
    · rename_i sound
      rw [ih]
      simp [sound]

/-- Nothing is amiss with a program if it has instructions and they refer to what exists. -/
theorem problem?_eq_none_iff {program : Program} :
    program.problem? = none ↔ program.instructions ≠ [] ∧
      (∀ instruction ∈ program.instructions,
        (∀ target ∈ instruction.targets, target < program.length) ∧
          ∀ reference ∈ instruction.symbols,
            (program.symbols.name? reference).isSome = true) ∧
      ∀ key entry, program.entry? key = some entry -> entry < program.length := by
  rw [problem?]
  split
  · rename_i empty
    simp [List.isEmpty_iff.1 empty]
  · rename_i filled
    rw [List.isEmpty_iff] at filled
    rw [← @codeProblem?_eq_none_iff _ _ _ 0]
    split
    · rename_i problem amiss
      simp [show codeProblem? program.symbols program.length 0 program.instructions =
        some problem from amiss]
    · rename_i sound
      simp only [show codeProblem? program.symbols program.length 0 program.instructions = none
        from sound, ne_eq, filled, not_false_eq_true, true_and, Option.map_eq_none_iff,
        List.find?_eq_none, decide_eq_true_eq, Nat.not_le, OrderedMap.mem_values_iff]
      exact ⟨fun within key entry found => within entry ⟨key, found⟩,
        fun within entry ⟨key, found⟩ => within key entry found⟩

/-- Parts make a program if nothing is amiss with them. -/
theorem ofParts_eq_ok_iff {program : Program} :
    ofParts instructions symbols = .ok program ↔
      program.instructions = instructions ∧ program.symbols = symbols ∧
        program.hash.text = Sha256.hex (hashInput instructions symbols) ∧
        program.problem? = none := by
  have named : computeHash instructions symbols =
      .ok ⟨Sha256.hex (hashInput instructions symbols), Sha256.isHashText_hex _⟩ := by
    rw [computeHash, ProgramHash.ofText, dif_pos (Sha256.isHashText_hex _)]
  rw [ofParts, named]
  simp only [bind, Except.bind, check]
  constructor
  · split
    · rintro ⟨⟩
    · rename_i sound
      rintro ⟨⟩
      split at sound
      · cases sound
      · exact ⟨rfl, rfl, rfl, ‹_›⟩
  · obtain ⟨instructions', symbols', ⟨text, valid⟩⟩ := program
    simp only
    rintro ⟨rfl, rfl, rfl, sound⟩
    simp only [sound]
    rfl

variable (program : Program)

/-- Code stands at an address of a program. -/
def HasCode (address : Address) (code : List (Instruction Address)) : Prop :=
  code <+: program.instructions.drop address

variable {program} {address : Address} {code rest : List (Instruction Address)}
  {instruction : Instruction Address}

theorem HasCode.head (stands : program.HasCode address (instruction :: rest)) :
    program.instruction? address = some instruction := by
  obtain ⟨after, same⟩ := stands
  rw [Program.instruction?, ← Nat.add_zero address, ← List.getElem?_drop, ← same]
  rfl

theorem HasCode.tail (stands : program.HasCode address (instruction :: rest)) :
    program.HasCode (address + 1) rest := by
  obtain ⟨after, same⟩ := stands
  refine ⟨after, ?_⟩
  rw [← List.drop_drop, ← same]
  rfl

theorem HasCode.lt (stands : program.HasCode address code) (some : code ≠ []) :
    address < program.length := by
  cases code with
  | nil => contradiction
  | cons instruction rest => exact (List.getElem?_eq_some_iff.1 stands.head).1

theorem HasCode.left (stands : program.HasCode address (code ++ rest)) :
    program.HasCode address code :=
  (List.prefix_append code rest).trans stands

/-- What stands behind other code. -/
theorem HasCode.right (stands : program.HasCode address (code ++ rest)) :
    program.HasCode (address + code.length) rest := by
  obtain ⟨after, same⟩ := stands
  refine ⟨after, ?_⟩
  rw [← List.drop_drop, ← same, List.append_assoc, List.drop_left]

/-- What stands before and after other code. -/
theorem hasCode_append (before after : List (Instruction Address))
    (split : program.instructions = before ++ code ++ after) :
    program.HasCode before.length code := by
  rw [HasCode, split, List.append_assoc, List.drop_left]
  exact List.prefix_append _ _

end Program

end ProcessEngine
