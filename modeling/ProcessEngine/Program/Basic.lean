import ProcessEngine.Digest.Sha256
import ProcessEngine.Json.Parser
import ProcessEngine.Json.Printer
import ProcessEngine.Program.Codec
import ProcessEngine.Program.Error

/-!
# Programs

A program is a list of instructions with their symbol tables and is named by the
hash of both, so equal programs have equal names wherever they are stored. A
program made from its parts is checked: its instructions refer to addresses and
names that exist. A program that is read back is checked in the same way and must
have the hash that is stored with it.
-/

namespace ProcessEngine

/-- Whether a text consists of 64 lower-case hexadecimal digits. -/
def isHashText (text : String) : Bool :=
  text.toList.length == 64 && text.toList.all (fun character =>
    character.isDigit || ('a' ≤ character && character ≤ 'f'))

/-- The name of a program, computed from its content. -/
structure ProgramHash where
  text : String
  valid : isHashText text = true
deriving DecidableEq

namespace ProgramHash

instance : Ord ProgramHash := ⟨compareOn ProgramHash.text⟩
instance : Std.TransOrd ProgramHash := inferInstanceAs (Std.TransCmp (compareOn ProgramHash.text))
instance : Std.LawfulEqOrd ProgramHash :=
  lawfulEqCmp_compareOn ProgramHash.text (fun left right same => by
    cases left; cases right; cases same; rfl)

/-- Reads a hash. -/
def ofText (text : String) : Except ProgramError ProgramHash :=
  if valid : isHashText text = true then .ok ⟨text, valid⟩ else .error (.invalidHash text)

/-- The first twelve digits. -/
def short (hash : ProgramHash) : String := String.ofList (hash.text.toList.take 12)

instance : JsonCodec ProgramHash where
  encode hash := .text hash.text
  reader := Decode.text (fun text => (ofText text).toOption)

end ProgramHash

/-- Code that can be executed, named by its content. -/
structure Program where
  instructions : List (Instruction Address)
  symbols : SymbolTable
  /-- The name under which the program is stored. -/
  hash : ProgramHash
deriving DecidableEq

namespace Program

/-- The version of the written form, which is part of what is hashed. -/
def formatVersion : Nat := 1

/-- The text that is hashed. -/
def hashInput (instructions : List (Instruction Address)) (symbols : SymbolTable) : String :=
  (Json.object [("format", Encode.nat formatVersion),
    ("instructions", Encode.list encode instructions), ("symbols", encode symbols)]).render

/-- The hash of a program's content. -/
def computeHash (instructions : List (Instruction Address)) (symbols : SymbolTable) :
    Except ProgramError ProgramHash :=
  ProgramHash.ofText (Sha256.hex (hashInput instructions symbols))

/-- The first thing amiss with an instruction at an address of a program of some length. -/
def instructionProblem? (symbols : SymbolTable) (length : Nat) (address : Address)
    (instruction : Instruction Address) : Option ProgramError :=
  match instruction.targets.find? (fun target => length ≤ target) with
  | some target => some (.targetOutOfRange address target length)
  | none =>
    (instruction.symbols.find? (fun reference => (symbols.name? reference).isNone)).map
      .unknownSymbol

/-- The first thing amiss with the instructions from an address on. -/
def codeProblem? (symbols : SymbolTable) (length : Nat) :
    Address -> List (Instruction Address) -> Option ProgramError
  | _, [] => none
  | address, instruction :: rest =>
    match instructionProblem? symbols length address instruction with
    | some problem => some problem
    | none => codeProblem? symbols length (address + 1) rest

/-- The first thing amiss with a program. -/
def problem? (program : Program) : Option ProgramError :=
  let length := program.instructions.length
  if program.instructions.isEmpty then some .empty
  else match codeProblem? program.symbols length 0 program.instructions with
    | some problem => some problem
    | none =>
      (program.symbols.entries.values.find? (fun entry => length ≤ entry)).map
        (fun entry => .targetOutOfRange entry entry length)

/-- Checks every target and every name that a program refers to. -/
def check (program : Program) : Except ProgramError Unit :=
  match program.problem? with
  | some problem => .error problem
  | none => .ok ()

/-- The program of some instructions and names. -/
def ofParts (instructions : List (Instruction Address)) (symbols : SymbolTable) :
    Except ProgramError Program := do
  let program : Program := ⟨instructions, symbols, <- computeHash instructions symbols⟩
  program.check
  return program

/-- Checks that a program is stored under its own hash. -/
def checkHash (program : Program) : Except ProgramError Unit := do
  let computed <- computeHash program.instructions program.symbols
  if computed = program.hash then .ok ()
  else .error (.hashMismatch program.hash.text computed.text)

instance : JsonCodec Program where
  encode program := .object [("instructions", Encode.list encode program.instructions),
    ("symbols", encode program.symbols), ("hash", encode program.hash)]
  reader := Decode.record do
    return ⟨<- Decode.field "instructions" (Decode.list reader), <- Decode.field "symbols" reader,
      <- Decode.field "hash" reader⟩

/-- The text of a program. -/
def toText (program : Program) : String := (encode program).render

/-- Reads a program back and checks it. -/
def ofText (text : String) : Except ProgramError Program :=
  match Json.parse? text >>= decode with
  | none => .error .unreadable
  | some program => do
    program.check
    program.checkHash
    return program

variable (program : Program)

/-- The instruction at an address. -/
def instruction? (address : Address) : Option (Instruction Address) :=
  program.instructions[address]?

/-- The number of instructions. -/
def length : Nat := program.instructions.length

/-- Where the code of a node begins. -/
def entry? (node : NodeKey) : Option Address := program.symbols.entries.get? node

end Program

end ProcessEngine
