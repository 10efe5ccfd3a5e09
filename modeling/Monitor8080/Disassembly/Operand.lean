import Monitor8080.Disassembly.Mnemonic
namespace Monitor8080

/-!
# Operands as they are written

Every instruction has up to two operands, the destination first. An operand
says how wide it is, where it is found and whether the terse dialect leaves it
out because the mnemonic implies it. The bytes that follow an opcode are the
immediate values and direct addresses among its operands.
-/

/-- A register as operands name it; `m` is the byte that `HL` points to. -/
inductive OperandRegister where
  | a | b | c | d | e | h | l | m | bc | de | hl | sp | psw
  deriving Repr, DecidableEq

/-- The name of a register in a dialect; the terse dialect names a pair by its high half. -/
def OperandRegister.name (dialect : Dialect) : OperandRegister → String :=
  match dialect with
  | .intel8080 => fun
      | .a => "A"
      | .b | .bc => "B"
      | .c => "C"
      | .d | .de => "D"
      | .e => "E"
      | .h | .hl => "H"
      | .l => "L"
      | .m => "M"
      | .sp => "SP"
      | .psw => "PSW"
  | .intel8086 => fun
      | .a => "AL"
      | .b => "CH"
      | .c => "CL"
      | .d => "DH"
      | .e => "DL"
      | .h => "BH"
      | .l => "BL"
      | .m | .hl => "BX"
      | .bc => "CX"
      | .de => "DX"
      | .sp => "SP"
      | .psw => "AX"

/-- The width of an operand. -/
inductive Width where
  | byte
  | word
  deriving Repr, DecidableEq, Inhabited

def Width.bytes : Width → Nat
  | .byte => 1
  | .word => 2

/-- Where the value of an operand is found. -/
inductive OperandPlace where
  | register
  | immediate
  | interruptNumber
  | memory
  deriving Repr, DecidableEq

/--
An operand of an instruction.

An operand in memory is found through its register, or at a direct address if
it has none. An operand without a width is as wide as the one before it.
-/
structure Operand where
  width? : Option Width
  place : OperandPlace
  register? : Option OperandRegister
  isImplied : Bool
  deriving Repr, DecidableEq

namespace Operand

def byteRegister (register : OperandRegister) : Operand :=
  ⟨some .byte, .register, some register, false⟩

def wordRegister (register : OperandRegister) : Operand :=
  ⟨some .word, .register, some register, false⟩

/-- A byte that a register points to. -/
def byteThrough (register : OperandRegister) : Operand :=
  ⟨some .byte, .memory, some register, false⟩

/-- A value of some width in memory at the address that follows the opcode. -/
def direct (width : Width) : Operand :=
  ⟨some width, .memory, none, false⟩

/-- A value of some width that follows the opcode. -/
def immediate (width : Width) : Operand :=
  ⟨some width, .immediate, none, false⟩

/-- A value that follows the opcode, as wide as the operand before it. -/
def immediateAlike : Operand :=
  ⟨none, .immediate, none, false⟩

/-- The number of a restart, which is part of the opcode. -/
def interruptNumber : Operand :=
  ⟨none, .interruptNumber, none, false⟩

/-- The operand as one that the terse dialect leaves out. -/
def implied (operand : Operand) : Operand :=
  { operand with isImplied := true }

/-- How many bytes after the opcode the operand takes, for its width. -/
def extraBytes (operand : Operand) (width : Width) : Nat :=
  match operand.place, operand.register? with
  | .immediate, _ => width.bytes
  | .memory, none => 2
  | _, _ => 0

end Operand

/-- A byte operand as written. -/
def ByteOperand.asOperand : ByteOperand → Operand
  | .b => .byteRegister .b
  | .c => .byteRegister .c
  | .d => .byteRegister .d
  | .e => .byteRegister .e
  | .h => .byteRegister .h
  | .l => .byteRegister .l
  | .m => .byteThrough .m
  | .a => .byteRegister .a

/-- A word register as written. -/
def WordRegister.asOperand : WordRegister → Operand
  | .bc => .wordRegister .bc
  | .de => .wordRegister .de
  | .hl => .wordRegister .hl
  | .sp => .wordRegister .sp

/-- A pushable word as written. -/
def StackRegister.asOperand : StackRegister → Operand
  | .bc => .wordRegister .bc
  | .de => .wordRegister .de
  | .hl => .wordRegister .hl
  | .psw => .wordRegister .psw

/-- The byte behind a pointer register as written. -/
def PointerRegister.asOperand : PointerRegister → Operand
  | .bc => .byteThrough .bc
  | .de => .byteThrough .de

namespace Instruction

/-- The accumulator where the mnemonic implies it. -/
private def impliedA : Operand :=
  (Operand.byteRegister .a).implied

/-- The pair `HL` where the mnemonic implies it. -/
private def impliedHL : Operand :=
  (Operand.wordRegister .hl).implied

/-- The operands of an instruction, the destination first. -/
def operands : Instruction → List Operand
  | .nop | .hlt | .decimalAdjust | .setCarry | .complementCarry => []
  | .ret | .returnIf _ | .disableInterrupts | .enableInterrupts => []
  | .loadWordImmediate register => [register.asOperand, .immediateAlike]
  | .storeIndirect pointer => [pointer.asOperand, impliedA]
  | .loadIndirect pointer => [impliedA, pointer.asOperand]
  | .storeHLDirect => [.direct .word, impliedHL]
  | .loadHLDirect => [impliedHL, .direct .word]
  | .storeDirect => [.direct .byte, impliedA]
  | .loadDirect => [impliedA, .direct .byte]
  | .incrementWord register | .decrementWord register => [register.asOperand]
  | .addToHL register => [impliedHL, register.asOperand]
  | .increment operand | .decrement operand => [operand.asOperand]
  | .loadImmediate operand => [operand.asOperand, .immediateAlike]
  | .move destination source => [destination.asOperand, source.asOperand]
  | .rotateLeft | .rotateRight | .rotateLeftThroughCarry | .rotateRightThroughCarry
  | .complementAccumulator => [impliedA]
  | .arithmetic _ source => [impliedA, source.asOperand]
  | .arithmeticImmediate _ => [impliedA, .immediateAlike]
  | .jump | .jumpIf _ | .call | .callIf _ => [.immediate .word]
  | .restart _ => [.interruptNumber]
  | .push register | .pop register => [register.asOperand]
  | .exchangeStackTop =>
      [Operand.implied ⟨some .word, .memory, some .sp, false⟩, impliedHL]
  | .exchangePairs => [(Operand.wordRegister .de).implied, impliedHL]
  | .jumpToHL => [impliedHL]
  | .stackPointerFromHL => [(Operand.wordRegister .sp).implied, impliedHL]
  | .readPort => [impliedA, .immediate .byte]
  | .writePort => [.immediate .byte, impliedA]

end Instruction

/-- The bytes after the opcode that operands take, after an operand of some width. -/
def operandBytes (width : Width) : List Operand → Nat
  | [] => 0
  | operand :: operands =>
      let width := operand.width?.getD width
      operand.extraBytes width + operandBytes width operands

def Instruction.length (instruction : Instruction) : Nat :=
  1 + operandBytes .byte instruction.operands

end Monitor8080
