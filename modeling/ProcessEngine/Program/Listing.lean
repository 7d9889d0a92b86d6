import ProcessEngine.Program.Basic

/-!
# Listings

A program as text for people: a line for each instruction after its address, and
above the code of each node the key of the node.
-/

namespace ProcessEngine

namespace Program

/-- An address with at least four digits. -/
def addressText (address : Address) : String := Text.padded 4 address

/-- Addresses between square brackets. -/
def addressList (addresses : List Address) : String :=
  "[" ++ ", ".intercalate (addresses.map addressText) ++ "]"

/-- Where a correlation is taken from. -/
def correlationText : CorrelationSource -> String
  | .processInstance => "instance"
  | .register index => "r" ++ toString index

/-- The name that a number stands for, or the number with a question mark. -/
def symbolText (symbols : SymbolTable) (kind : SymbolKind) (index : Nat) : String :=
  (symbols.name? ⟨kind, index⟩).getD ("#" ++ toString index ++ "?")

/-- One arm of a race between square brackets. -/
def armText (symbols : SymbolTable) (arm : ArmCode Address) : String :=
  match arm.trigger with
  | .timer duration =>
    " [timer " ++ toString duration ++ "ms->" ++ addressText arm.target ++ "]"
  | .message name correlation =>
    " [message " ++ symbolText symbols .message name ++ " corr=" ++ correlationText correlation ++
      "->" ++ addressText arm.target ++ "]"

/-- The operands of an instruction as text. -/
def operandText (symbols : SymbolTable) : Instruction Address -> String
  | .push value => " " ++ value.quoted
  | .loadFlag flag => " " ++ symbolText symbols .flag flag
  | .storeFlag flag => " " ++ symbolText symbols .flag flag
  | .loadRegister index => " r" ++ toString index
  | .storeRegister index => " r" ++ toString index
  | .loadCounter counter => " " ++ symbolText symbols .counter counter
  | .incrementCounter counter => " " ++ symbolText symbols .counter counter
  | .jump target => " " ++ addressText target
  | .branchIf target => " " ++ addressText target
  | .branchIfNot target => " " ++ addressText target
  | .dispatch taskType node retries routes =>
    " " ++ symbolText symbols .node node ++ " type=" ++ symbolText symbols .taskType taskType ++
      " retries=" ++ toString retries ++ String.join (routes.map (fun route =>
        " on " ++ route.code ++ "->" ++ addressText route.target))
  | .waitTimer duration => " " ++ toString duration ++ "ms"
  | .waitMessage name correlation =>
    " " ++ symbolText symbols .message name ++ " corr=" ++ correlationText correlation
  | .waitHuman task => " " ++ symbolText symbols .humanTask task
  | .race node arms =>
    " " ++ symbolText symbols .node node ++ String.join (arms.map (armText symbols))
  | .watch boundary duration interrupting target =>
    " " ++ symbolText symbols .node boundary ++ " " ++ toString duration ++ "ms " ++
      (if interrupting then "interrupting" else "non-interrupting") ++ " ->" ++ addressText target
  | .unwatch boundary => " " ++ symbolText symbols .node boundary
  | .fork partner targets =>
    " join=" ++ symbolText symbols .node partner ++ " " ++ addressList targets
  | .forkInclusive partner targets fallback _ =>
    " join=" ++ symbolText symbols .node partner ++ " " ++ addressList targets ++
      (match fallback with
        | some target => " default=" ++ addressText target
        | none => "")
  | .join node => " " ++ symbolText symbols .node node
  | .fault (.noRoute gateway) => " no_route " ++ symbolText symbols .node gateway
  | .fault (.noBranch gateway) => " no_branch " ++ symbolText symbols .node gateway
  | _ => ""

/-- The line of an instruction after the keys of the nodes whose code begins there. -/
def instructionLines (symbols : SymbolTable) (address : Address)
    (instruction : Instruction Address) : List String :=
  (symbols.entries.toList.filter (fun entry => entry.2 == address)).map
      (fun entry => entry.1.text ++ ":") ++
    ["  " ++ addressText address ++ "  " ++ instruction.mnemonic ++
      operandText symbols instruction]

/-- The lines of the instructions from an address on. -/
def codeLines (symbols : SymbolTable) : Address -> List (Instruction Address) -> List String
  | _, [] => []
  | address, instruction :: rest =>
    instructionLines symbols address instruction ++ codeLines symbols (address + 1) rest

/-- The listing of a program. -/
def listing (program : Program) : String :=
  let title := "; program " ++ program.hash.text ++ " (" ++ toString program.length ++
    " instructions)"
  String.join ((title :: codeLines program.symbols 0 program.instructions).map (· ++ "\n"))

end Program

end ProcessEngine
