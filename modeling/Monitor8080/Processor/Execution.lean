import Monitor8080.Processor.Bus
import Monitor8080.Processor.Instruction
import Monitor8080.Processor.Registers
namespace Monitor8080

/-!
# Execution

An instruction acts on a processor and a bus. Words cross the bus low byte
first, and an instruction's accesses happen in the order in which the
processor makes them: operand bytes, then data, then results.
-/

/-- A processor and the bus that it is connected to. -/
structure Core (σ : Type) where
  cpu : Cpu
  bus : σ

/-- An action of the processor. -/
abbrev Exec (σ : Type) := StateM (Core σ)

namespace Exec

variable {σ : Type} [Bus σ]

/-- Something read off the processor. -/
@[inline] def ofCpu (view : Cpu → α) : Exec σ α := fun core =>
  (view core.cpu, core)

/-- A change of the processor that makes no access. -/
@[inline] def modifyCpu (change : Cpu → Cpu) : Exec σ Unit := fun core =>
  match core with
  | ⟨cpu, bus⟩ => ((), ⟨change cpu, bus⟩)

@[inline] def readByte (address : UInt16) : Exec σ UInt8 := fun core =>
  match core with
  | ⟨cpu, bus⟩ =>
      match Bus.read bus address with
      | (byte, bus) => (byte, ⟨cpu, bus⟩)

@[inline] def writeByte (address : UInt16) (byte : UInt8) : Exec σ Unit := fun core =>
  match core with
  | ⟨cpu, bus⟩ => ((), ⟨cpu, Bus.write bus address byte⟩)

@[inline] def inputByte (port : UInt8) : Exec σ UInt8 := fun core =>
  match core with
  | ⟨cpu, bus⟩ =>
      match Bus.input bus port with
      | (byte, bus) => (byte, ⟨cpu, bus⟩)

@[inline] def outputByte (port : UInt8) (byte : UInt8) : Exec σ Unit := fun core =>
  match core with
  | ⟨cpu, bus⟩ => ((), ⟨cpu, Bus.output bus port byte⟩)

@[specialize] def readWord (address : UInt16) : Exec σ UInt16 := do
  let low ← readByte address
  let high ← readByte (address + 1)
  return wordOfBytes low high

@[specialize] def writeWord (address : UInt16) (word : UInt16) : Exec σ Unit := do
  writeByte address (lowByte word)
  writeByte (address + 1) (highByte word)

/-- The byte after the opcode or the operand bytes read so far. -/
@[specialize] def nextByte : Exec σ UInt8 := do
  let byte ← readByte (← ofCpu Cpu.pc)
  modifyCpu fun cpu => { cpu with pc := cpu.pc + 1 }
  return byte

/-- The word after the opcode. -/
@[specialize] def nextWord : Exec σ UInt16 := do
  let word ← readWord (← ofCpu Cpu.pc)
  modifyCpu fun cpu => { cpu with pc := cpu.pc + 2 }
  return word

/-- A word put on the stack. -/
@[specialize] def pushWord (word : UInt16) : Exec σ Unit := do
  modifyCpu fun cpu => { cpu with sp := cpu.sp - 2 }
  writeWord (← ofCpu Cpu.sp) word

/-- The word taken off the stack. -/
@[specialize] def popWord : Exec σ UInt16 := do
  let word ← readWord (← ofCpu Cpu.sp)
  modifyCpu fun cpu => { cpu with sp := cpu.sp + 2 }
  return word

@[inline] def jumpTo (address : UInt16) : Exec σ Unit :=
  modifyCpu fun cpu => { cpu with pc := address }

@[specialize] def operand (source : ByteOperand) : Exec σ UInt8 :=
  match source with
  | .b => ofCpu Cpu.b
  | .c => ofCpu Cpu.c
  | .d => ofCpu Cpu.d
  | .e => ofCpu Cpu.e
  | .h => ofCpu Cpu.h
  | .l => ofCpu Cpu.l
  | .m => do readByte (← ofCpu Cpu.hl)
  | .a => ofCpu Cpu.a

@[specialize] def setOperand (destination : ByteOperand) (value : UInt8) : Exec σ Unit :=
  match destination with
  | .b => modifyCpu fun cpu => { cpu with b := value }
  | .c => modifyCpu fun cpu => { cpu with c := value }
  | .d => modifyCpu fun cpu => { cpu with d := value }
  | .e => modifyCpu fun cpu => { cpu with e := value }
  | .h => modifyCpu fun cpu => { cpu with h := value }
  | .l => modifyCpu fun cpu => { cpu with l := value }
  | .m => do writeByte (← ofCpu Cpu.hl) value
  | .a => modifyCpu fun cpu => { cpu with a := value }

end Exec

namespace Cpu

def word (cpu : Cpu) : WordRegister → UInt16
  | .bc => cpu.bc
  | .de => cpu.de
  | .hl => cpu.hl
  | .sp => cpu.sp

def setWord (cpu : Cpu) (register : WordRegister) (value : UInt16) : Cpu :=
  match register with
  | .bc => cpu.setBC value
  | .de => cpu.setDE value
  | .hl => cpu.setHL value
  | .sp => { cpu with sp := value }

/-- The value of a pushable word. -/
def stackWord (cpu : Cpu) : StackRegister → UInt16
  | .bc => cpu.bc
  | .de => cpu.de
  | .hl => cpu.hl
  | .psw => cpu.psw

/-- The processor with another value in a pushable word. -/
def setStackWord (cpu : Cpu) (register : StackRegister) (value : UInt16) : Cpu :=
  match register with
  | .bc => cpu.setBC value
  | .de => cpu.setDE value
  | .hl => cpu.setHL value
  | .psw => cpu.setPSW value

def pointer (cpu : Cpu) : PointerRegister → UInt16
  | .bc => cpu.bc
  | .de => cpu.de

/-- The processor after an operation on the accumulator. -/
def applyAlu (cpu : Cpu) (op : AluOp) (value : UInt8) : Cpu :=
  let (a, flags) := Alu.apply op cpu.a value cpu.flags
  { cpu with a := a, flags := flags }

/-- The processor after adding a word to `HL`, which sets only the carry. -/
def addHL (cpu : Cpu) (value : UInt16) : Cpu :=
  let total := cpu.hl.toNat + value.toNat
  { cpu.setHL (UInt16.ofNat total) with
    flags := { cpu.flags with carry := 0xFFFF < total } }

/-- The processor after turning the accumulator left, with a bit put in at the right. -/
def turnLeft (cpu : Cpu) (entering : Bool) : Cpu :=
  { cpu with
    a := (cpu.a <<< 1) ||| entering.toUInt8
    flags := { cpu.flags with carry := cpu.a &&& 0x80 != 0 } }

/-- The processor after turning the accumulator right, with a bit put in at the left. -/
def turnRight (cpu : Cpu) (entering : Bool) : Cpu :=
  { cpu with
    a := (cpu.a >>> 1) ||| (entering.toUInt8 <<< 7)
    flags := { cpu.flags with carry := cpu.a &&& 1 != 0 } }

/-- The processor after exchanging `DE` and `HL`. -/
def exchangePairs (cpu : Cpu) : Cpu :=
  { cpu with d := cpu.h, e := cpu.l, h := cpu.d, l := cpu.e }

/-- The processor after adjusting the accumulator to decimal digits. -/
def adjustDecimal (cpu : Cpu) : Cpu :=
  let (a, flags) := Alu.decimalAdjust cpu.a cpu.flags
  { cpu with a := a, flags := flags }

end Cpu

/-- The additional cycles of a conditional call or return whose condition is met. -/
def takenCycles : Nat := 6

namespace Instruction

open Exec

variable {σ : Type} [Bus σ]

/-- Executes an instruction whose opcode was fetched, and tells the cycles beyond its usual ones. -/
@[specialize] def execute (instruction : Instruction) : Exec σ Nat :=
  match instruction with
  | .nop => return 0
  | .hlt => do
      modifyCpu fun cpu => { cpu with halted := true }
      return 0
  | .loadWordImmediate register => do
      let word ← nextWord
      modifyCpu fun cpu => cpu.setWord register word
      return 0
  | .storeIndirect pointer => do
      writeByte (← ofCpu fun cpu => cpu.pointer pointer) (← ofCpu Cpu.a)
      return 0
  | .loadIndirect pointer => do
      let byte ← readByte (← ofCpu fun cpu => cpu.pointer pointer)
      modifyCpu fun cpu => { cpu with a := byte }
      return 0
  | .storeHLDirect => do
      let address ← nextWord
      writeWord address (← ofCpu Cpu.hl)
      return 0
  | .loadHLDirect => do
      let address ← nextWord
      let word ← readWord address
      modifyCpu fun cpu => cpu.setHL word
      return 0
  | .storeDirect => do
      let address ← nextWord
      writeByte address (← ofCpu Cpu.a)
      return 0
  | .loadDirect => do
      let address ← nextWord
      let byte ← readByte address
      modifyCpu fun cpu => { cpu with a := byte }
      return 0
  | .incrementWord register => do
      modifyCpu fun cpu => cpu.setWord register (cpu.word register + 1)
      return 0
  | .decrementWord register => do
      modifyCpu fun cpu => cpu.setWord register (cpu.word register - 1)
      return 0
  | .addToHL register => do
      modifyCpu fun cpu => cpu.addHL (cpu.word register)
      return 0
  | .increment destination => do
      let (value, flags) := Alu.increment (← operand destination) (← ofCpu Cpu.flags)
      modifyCpu fun cpu => { cpu with flags := flags }
      setOperand destination value
      return 0
  | .decrement destination => do
      let (value, flags) := Alu.decrement (← operand destination) (← ofCpu Cpu.flags)
      modifyCpu fun cpu => { cpu with flags := flags }
      setOperand destination value
      return 0
  | .loadImmediate destination => do
      let byte ← nextByte
      setOperand destination byte
      return 0
  | .move destination source => do
      let byte ← operand source
      setOperand destination byte
      return 0
  | .rotateLeft => do
      modifyCpu fun cpu => cpu.turnLeft (cpu.a &&& 0x80 != 0)
      return 0
  | .rotateRight => do
      modifyCpu fun cpu => cpu.turnRight (cpu.a &&& 1 != 0)
      return 0
  | .rotateLeftThroughCarry => do
      modifyCpu fun cpu => cpu.turnLeft cpu.flags.carry
      return 0
  | .rotateRightThroughCarry => do
      modifyCpu fun cpu => cpu.turnRight cpu.flags.carry
      return 0
  | .decimalAdjust => do
      modifyCpu Cpu.adjustDecimal
      return 0
  | .complementAccumulator => do
      modifyCpu fun cpu => { cpu with a := ~~~cpu.a }
      return 0
  | .setCarry => do
      modifyCpu fun cpu => { cpu with flags := { cpu.flags with carry := true } }
      return 0
  | .complementCarry => do
      modifyCpu fun cpu => { cpu with flags := { cpu.flags with carry := !cpu.flags.carry } }
      return 0
  | .arithmetic op source => do
      let byte ← operand source
      modifyCpu fun cpu => cpu.applyAlu op byte
      return 0
  | .arithmeticImmediate op => do
      let byte ← nextByte
      modifyCpu fun cpu => cpu.applyAlu op byte
      return 0
  | .jump => do
      jumpTo (← nextWord)
      return 0
  | .jumpIf condition => do
      let address ← nextWord
      if condition.holds (← ofCpu Cpu.flags) then jumpTo address
      return 0
  | .call => do
      let address ← nextWord
      pushWord (← ofCpu Cpu.pc)
      jumpTo address
      return 0
  | .callIf condition => do
      let address ← nextWord
      if condition.holds (← ofCpu Cpu.flags) then
        pushWord (← ofCpu Cpu.pc)
        jumpTo address
        return takenCycles
      else
        return 0
  | .ret => do
      jumpTo (← popWord)
      return 0
  | .returnIf condition => do
      if condition.holds (← ofCpu Cpu.flags) then
        jumpTo (← popWord)
        return takenCycles
      else
        return 0
  | .restart vector => do
      pushWord (← ofCpu Cpu.pc)
      jumpTo (UInt16.ofNat (8 * vector.val))
      return 0
  | .push register => do
      pushWord (← ofCpu fun cpu => cpu.stackWord register)
      return 0
  | .pop register => do
      let word ← popWord
      modifyCpu fun cpu => cpu.setStackWord register word
      return 0
  | .exchangeStackTop => do
      let word ← readWord (← ofCpu Cpu.sp)
      writeWord (← ofCpu Cpu.sp) (← ofCpu Cpu.hl)
      modifyCpu fun cpu => cpu.setHL word
      return 0
  | .exchangePairs => do
      modifyCpu Cpu.exchangePairs
      return 0
  | .jumpToHL => do
      jumpTo (← ofCpu Cpu.hl)
      return 0
  | .stackPointerFromHL => do
      modifyCpu fun cpu => { cpu with sp := cpu.hl }
      return 0
  | .readPort => do
      let port ← nextByte
      let byte ← inputByte port
      modifyCpu fun cpu => { cpu with a := byte }
      return 0
  | .writePort => do
      let port ← nextByte
      outputByte port (← ofCpu Cpu.a)
      return 0
  | .disableInterrupts => do
      modifyCpu fun cpu => { cpu with interruptsEnabled := false }
      return 0
  | .enableInterrupts => do
      modifyCpu fun cpu => { cpu with interruptsEnabled := true }
      return 0

end Instruction

end Monitor8080
