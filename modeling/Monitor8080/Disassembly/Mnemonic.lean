import Monitor8080.Processor.Instruction
namespace Monitor8080

/-!
# Mnemonics

Instructions are shown in one of two dialects: the processor's own mnemonics, or
those of its 16-bit successor, where all moves share one name and conditions
are spelled as on that processor.
-/

/-- A dialect of mnemonics and operands. -/
inductive Dialect where
  | intel8080
  | intel8086
  deriving Repr, DecidableEq, Inhabited

def Dialect.name : Dialect → String
  | .intel8080 => "8080"
  | .intel8086 => "8086"

/-- A condition as the ending of a mnemonic. -/
def Condition.ending (dialect : Dialect) : Condition → String
  | .notZero => "NZ"
  | .zero => "Z"
  | .notCarry => "NC"
  | .carry => "C"
  | .parityOdd => match dialect with | .intel8080 => "PO" | .intel8086 => "NP"
  | .parityEven => match dialect with | .intel8080 => "PE" | .intel8086 => "P"
  | .plus => match dialect with | .intel8080 => "P" | .intel8086 => "NS"
  | .minus => match dialect with | .intel8080 => "M" | .intel8086 => "S"

namespace AluOp

/-- The mnemonic of an operation with a register or with memory. -/
def mnemonic (dialect : Dialect) : AluOp → String
  | .add => "ADD"
  | .adc => "ADC"
  | .sub => "SUB"
  | .sbb => "SBB"
  | .ana => match dialect with | .intel8080 => "ANA" | .intel8086 => "AND"
  | .xra => match dialect with | .intel8080 => "XRA" | .intel8086 => "XOR"
  | .ora => match dialect with | .intel8080 => "ORA" | .intel8086 => "OR"
  | .cmp => "CMP"

/-- The mnemonic of an operation with an immediate byte. -/
def immediateMnemonic (dialect : Dialect) (op : AluOp) : String :=
  match dialect with
  | .intel8086 => op.mnemonic dialect
  | .intel8080 =>
      match op with
      | .add => "ADI"
      | .adc => "ACI"
      | .sub => "SUI"
      | .sbb => "SBI"
      | .ana => "ANI"
      | .xra => "XRI"
      | .ora => "ORI"
      | .cmp => "CPI"

end AluOp

namespace Instruction

/-- The mnemonic in the processor's own dialect. -/
def mnemonic8080 : Instruction → String
  | .nop => "NOP"
  | .hlt => "HLT"
  | .loadWordImmediate _ => "LXI"
  | .storeIndirect _ => "STAX"
  | .loadIndirect _ => "LDAX"
  | .storeHLDirect => "SHLD"
  | .loadHLDirect => "LHLD"
  | .storeDirect => "STA"
  | .loadDirect => "LDA"
  | .incrementWord _ => "INX"
  | .decrementWord _ => "DCX"
  | .addToHL _ => "DAD"
  | .increment _ => "INR"
  | .decrement _ => "DCR"
  | .loadImmediate _ => "MVI"
  | .move _ _ => "MOV"
  | .rotateLeft => "RLC"
  | .rotateRight => "RRC"
  | .rotateLeftThroughCarry => "RAL"
  | .rotateRightThroughCarry => "RAR"
  | .decimalAdjust => "DAA"
  | .complementAccumulator => "CMA"
  | .setCarry => "STC"
  | .complementCarry => "CMC"
  | .arithmetic op _ => op.mnemonic .intel8080
  | .arithmeticImmediate op => op.immediateMnemonic .intel8080
  | .jump => "JMP"
  | .jumpIf condition => "J" ++ condition.ending .intel8080
  | .call => "CALL"
  | .callIf condition => "C" ++ condition.ending .intel8080
  | .ret => "RET"
  | .returnIf condition => "R" ++ condition.ending .intel8080
  | .restart _ => "RST"
  | .push _ => "PUSH"
  | .pop _ => "POP"
  | .exchangeStackTop => "XTHL"
  | .exchangePairs => "XCHG"
  | .jumpToHL => "PCHL"
  | .stackPointerFromHL => "SPHL"
  | .readPort => "IN"
  | .writePort => "OUT"
  | .disableInterrupts => "DI"
  | .enableInterrupts => "EI"

/-- The mnemonic in the dialect of the 16-bit successor. -/
def mnemonic8086 : Instruction → String
  | .nop => "NOP"
  | .hlt => "HLT"
  | .loadWordImmediate _ | .storeIndirect _ | .loadIndirect _ | .storeHLDirect
  | .loadHLDirect | .storeDirect | .loadDirect | .loadImmediate _ | .move _ _
  | .stackPointerFromHL => "MOV"
  | .incrementWord _ | .increment _ => "INC"
  | .decrementWord _ | .decrement _ => "DEC"
  | .addToHL _ => "ADD"
  | .rotateLeft => "ROL"
  | .rotateRight => "ROR"
  | .rotateLeftThroughCarry => "RCL"
  | .rotateRightThroughCarry => "RCR"
  | .decimalAdjust => "DAA"
  | .complementAccumulator => "NOT"
  | .setCarry => "STC"
  | .complementCarry => "CMC"
  | .arithmetic op _ => op.mnemonic .intel8086
  | .arithmeticImmediate op => op.immediateMnemonic .intel8086
  | .jump | .jumpToHL => "JMP"
  | .jumpIf condition => "J" ++ condition.ending .intel8086
  | .call => "CALL"
  | .callIf condition => "CALL" ++ condition.ending .intel8086
  | .ret => "RET"
  | .returnIf condition => "RET" ++ condition.ending .intel8086
  | .restart _ => "INT"
  | .push _ => "PUSH"
  | .pop _ => "POP"
  | .exchangeStackTop | .exchangePairs => "XCHG"
  | .readPort => "IN"
  | .writePort => "OUT"
  | .disableInterrupts => "CLI"
  | .enableInterrupts => "STI"

def mnemonic (instruction : Instruction) : Dialect → String
  | .intel8080 => instruction.mnemonic8080
  | .intel8086 => instruction.mnemonic8086

end Instruction

end Monitor8080
