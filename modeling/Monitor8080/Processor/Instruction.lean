import Monitor8080.Processor.Alu
namespace Monitor8080

/-!
# Instructions

An opcode byte falls into three bit fields, two bits, three bits and three
bits wide, which select the instruction and its registers. Twelve bytes have
no meaning of their own and act as another instruction; they are undocumented.
-/

/-- A byte register, or the byte in memory that `HL` points to, in the order of their codes. -/
inductive ByteOperand where
  | b | c | d | e | h | l | m | a
  deriving Repr, DecidableEq, Inhabited

/-- A word register, in the order of their codes. -/
inductive WordRegister where
  | bc | de | hl | sp
  deriving Repr, DecidableEq, Inhabited

/-- A word that can be pushed, in the order of their codes. -/
inductive StackRegister where
  | bc | de | hl | psw
  deriving Repr, DecidableEq, Inhabited

/-- A pair that can point to a byte for the accumulator. -/
inductive PointerRegister where
  | bc | de
  deriving Repr, DecidableEq, Inhabited

/-- A condition on the flags, in the order of their codes. -/
inductive Condition where
  | notZero | zero | notCarry | carry | parityOdd | parityEven | plus | minus
  deriving Repr, DecidableEq, Inhabited

/-- An instruction without its immediate operand. -/
inductive Instruction where
  | nop
  | hlt
  | loadWordImmediate (register : WordRegister)
  | storeIndirect (pointer : PointerRegister)
  | loadIndirect (pointer : PointerRegister)
  | storeHLDirect
  | loadHLDirect
  | storeDirect
  | loadDirect
  | incrementWord (register : WordRegister)
  | decrementWord (register : WordRegister)
  | addToHL (register : WordRegister)
  | increment (operand : ByteOperand)
  | decrement (operand : ByteOperand)
  | loadImmediate (operand : ByteOperand)
  | move (destination source : ByteOperand)
  | rotateLeft
  | rotateRight
  | rotateLeftThroughCarry
  | rotateRightThroughCarry
  | decimalAdjust
  | complementAccumulator
  | setCarry
  | complementCarry
  | arithmetic (op : AluOp) (source : ByteOperand)
  | arithmeticImmediate (op : AluOp)
  | jump
  | jumpIf (condition : Condition)
  | call
  | callIf (condition : Condition)
  | ret
  | returnIf (condition : Condition)
  | restart (vector : Fin 8)
  | push (register : StackRegister)
  | pop (register : StackRegister)
  | exchangeStackTop
  | exchangePairs
  | jumpToHL
  | stackPointerFromHL
  | readPort
  | writePort
  | disableInterrupts
  | enableInterrupts
  deriving Repr, DecidableEq, Inhabited

namespace ByteOperand

/-- The operand of a three-bit code. -/
def ofCode : Nat → ByteOperand
  | 0 => .b
  | 1 => .c
  | 2 => .d
  | 3 => .e
  | 4 => .h
  | 5 => .l
  | 6 => .m
  | _ => .a

end ByteOperand

/-- The word register of a two-bit code. -/
def WordRegister.ofCode : Nat → WordRegister
  | 0 => .bc
  | 1 => .de
  | 2 => .hl
  | _ => .sp

/-- The pushable word of a two-bit code. -/
def StackRegister.ofCode : Nat → StackRegister
  | 0 => .bc
  | 1 => .de
  | 2 => .hl
  | _ => .psw

/-- The operation of a three-bit code. -/
def AluOp.ofCode : Nat → AluOp
  | 0 => .add
  | 1 => .adc
  | 2 => .sub
  | 3 => .sbb
  | 4 => .ana
  | 5 => .xra
  | 6 => .ora
  | _ => .cmp

namespace Condition

/-- The condition of a three-bit code. -/
def ofCode : Nat → Condition
  | 0 => .notZero
  | 1 => .zero
  | 2 => .notCarry
  | 3 => .carry
  | 4 => .parityOdd
  | 5 => .parityEven
  | 6 => .plus
  | _ => .minus

/-- Whether the flags meet a condition. -/
def holds (condition : Condition) (flags : Flags) : Bool :=
  match condition with
  | .notZero => !flags.zero
  | .zero => flags.zero
  | .notCarry => !flags.carry
  | .carry => flags.carry
  | .parityOdd => !flags.parity
  | .parityEven => flags.parity
  | .plus => !flags.sign
  | .minus => flags.sign

end Condition

namespace Instruction

/-- The instructions whose top two bits are zero, by their other fields. -/
def ofLowFields (y z : Nat) : Instruction :=
  match z with
  | 0 => .nop
  | 1 =>
      if y % 2 = 0 then .loadWordImmediate (.ofCode (y / 2))
      else .addToHL (.ofCode (y / 2))
  | 2 =>
      match y with
      | 0 => .storeIndirect .bc
      | 1 => .loadIndirect .bc
      | 2 => .storeIndirect .de
      | 3 => .loadIndirect .de
      | 4 => .storeHLDirect
      | 5 => .loadHLDirect
      | 6 => .storeDirect
      | _ => .loadDirect
  | 3 =>
      if y % 2 = 0 then .incrementWord (.ofCode (y / 2))
      else .decrementWord (.ofCode (y / 2))
  | 4 => .increment (.ofCode y)
  | 5 => .decrement (.ofCode y)
  | 6 => .loadImmediate (.ofCode y)
  | _ =>
      match y with
      | 0 => .rotateLeft
      | 1 => .rotateRight
      | 2 => .rotateLeftThroughCarry
      | 3 => .rotateRightThroughCarry
      | 4 => .decimalAdjust
      | 5 => .complementAccumulator
      | 6 => .setCarry
      | _ => .complementCarry

/-- The instructions whose top two bits are set, by their other fields. -/
def ofHighFields (y z : Nat) : Instruction :=
  match z with
  | 0 => .returnIf (.ofCode y)
  | 1 =>
      match y with
      | 1 | 3 => .ret
      | 5 => .jumpToHL
      | 7 => .stackPointerFromHL
      | _ => .pop (.ofCode (y / 2))
  | 2 => .jumpIf (.ofCode y)
  | 3 =>
      match y with
      | 0 | 1 => .jump
      | 2 => .writePort
      | 3 => .readPort
      | 4 => .exchangeStackTop
      | 5 => .exchangePairs
      | 6 => .disableInterrupts
      | _ => .enableInterrupts
  | 4 => .callIf (.ofCode y)
  | 5 => if y % 2 = 0 then .push (.ofCode (y / 2)) else .call
  | 6 => .arithmeticImmediate (.ofCode y)
  | _ => .restart ⟨y % 8, Nat.mod_lt y (by decide)⟩

/-- The instruction of an opcode byte. -/
def ofOpcode (opcode : UInt8) : Instruction :=
  let y := opcode.toNat / 8 % 8
  let z := opcode.toNat % 8
  match opcode.toNat / 64 with
  | 0 => ofLowFields y z
  | 1 => if y = 6 ∧ z = 6 then .hlt else .move (.ofCode y) (.ofCode z)
  | 2 => .arithmetic (.ofCode y) (.ofCode z)
  | _ => ofHighFields y z

/-- Whether the instruction is a call or a restart. -/
def isCall : Instruction → Bool
  | .call | .callIf _ | .restart _ => true
  | _ => false

def isReturn : Instruction → Bool
  | .ret | .returnIf _ => true
  | _ => false

/-- The clock cycles of the instruction where no condition is met. -/
def cycles : Instruction → Nat
  | .nop => 4
  | .hlt => 7
  | .loadWordImmediate _ => 10
  | .storeIndirect _ | .loadIndirect _ => 7
  | .storeHLDirect | .loadHLDirect => 16
  | .storeDirect | .loadDirect => 13
  | .incrementWord _ | .decrementWord _ => 5
  | .addToHL _ => 10
  | .increment .m | .decrement .m | .loadImmediate .m => 10
  | .increment _ | .decrement _ => 5
  | .loadImmediate _ => 7
  | .move .m _ | .move _ .m => 7
  | .move _ _ => 5
  | .rotateLeft | .rotateRight | .rotateLeftThroughCarry | .rotateRightThroughCarry => 4
  | .decimalAdjust | .complementAccumulator | .setCarry | .complementCarry => 4
  | .arithmetic _ .m => 7
  | .arithmetic _ _ => 4
  | .arithmeticImmediate _ => 7
  | .jump | .jumpIf _ => 10
  | .call => 17
  | .callIf _ => 11
  | .ret => 10
  | .returnIf _ => 5
  | .restart _ => 11
  | .push _ => 11
  | .pop _ => 10
  | .exchangeStackTop => 18
  | .exchangePairs => 4
  | .jumpToHL | .stackPointerFromHL => 5
  | .readPort | .writePort => 10
  | .disableInterrupts | .enableInterrupts => 4

end Instruction

/-- Whether a byte has no meaning of its own and acts as another instruction. -/
def isUndocumented (opcode : UInt8) : Bool :=
  [0x08, 0x10, 0x18, 0x20, 0x28, 0x30, 0x38, 0xCB, 0xD9, 0xDD, 0xED, 0xFD].contains opcode

end Monitor8080
