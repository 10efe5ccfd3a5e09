import Monitor8080.Disassembly.Operand
import Monitor8080.Proofs.AccessLogs
namespace Monitor8080

/-!
# Transfers of control

Executing an instruction takes control past its bytes, or elsewhere if it is a
jump, a call or a return that is made. What becomes of the program counter, of
the stack pointer and of a word that is pushed can be read off the core before
the opcode is fetched.
-/

/-! ## Words in memory -/

namespace Memory

/-- Memory after the processor has written a word, low byte first. -/
def writeWord (memory : Memory) (address word : UInt16) : Memory :=
  (memory.write address (lowByte word)).write (address + 1) (highByte word)

theorem byte_setByte
    (memory : Memory)
    (address : UInt16)
    (value : UInt8)
    (other : UInt16) :
    (memory.setByte address value).byte other =
      if address = other then value else memory.byte other := by
  have inside : other.toNat < 65536 := other.toNat_lt
  change (memory.bytes.set address.toNat value address.toNat_lt)[other.toNat] =
    if address = other then value else memory.bytes[other.toNat]
  simp only [Vector.getElem_set, UInt16.toNat_inj]

/-- A word that is written can be read back where memory can be written. -/
theorem byte_writeWord
    {memory : Memory}
    {address : UInt16}
    (writable : (memory.blockKind address).isWritable)
    (word : UInt16) :
    (memory.writeWord address word).byte address = lowByte word := by
  have apart : address + 1 ≠ address := by grind
  rw [writeWord, write, write, if_pos writable]
  split
  · rw [byte_setByte, if_neg apart, byte_setByte, if_pos rfl]
  · rw [byte_setByte, if_pos rfl]

theorem byte_empty (address : UInt16) : empty.byte address = 0 := by
  have inside : address.toNat < 65536 := address.toNat_lt
  change (Vector.replicate 65536 (0 : UInt8))[address.toNat] = 0
  exact Vector.getElem_replicate _

theorem blockKind_empty (address : UInt16) : empty.blockKind address = .ram := by
  change (Vector.replicate 64 BlockKind.ram)[(blockIndex address).val] = .ram
  exact Vector.getElem_replicate _

end Memory

namespace Instruction

/-! ## Instructions that transfer control -/

def isJump : Instruction → Bool
  | .jump | .jumpIf _ | .jumpToHL => true
  | _ => false

def condition? : Instruction → Option Condition
  | .jumpIf condition | .callIf condition | .returnIf condition => some condition
  | _ => none

/-- Whether control is transferred, which a condition may prevent. -/
def isTaken (instruction : Instruction) (flags : Flags) : Bool :=
  (instruction.isJump || instruction.isCall || instruction.isReturn)
    && instruction.condition?.all (·.holds flags)

/-- Where control goes if it is transferred, read off the core before the opcode is fetched. -/
def target (instruction : Instruction) (core : Core Memory) : UInt16 :=
  match instruction with
  | .ret | .returnIf _ => core.bus.readWord core.cpu.sp
  | .restart vector => UInt16.ofNat (8 * vector.val)
  | .jumpToHL => core.cpu.hl
  | _ => core.bus.readWord (core.cpu.pc + 1)

/-! ## What executing an instruction does -/

section Execution

open Exec

variable (instruction : Instruction) (cpu : Cpu) (memory : Memory)

/-- The core after the instruction was fetched at the program counter and executed. -/
def executed : Core Memory :=
  (instruction.execute ⟨{ cpu with pc := cpu.pc + 1 }, memory⟩).2

/-! A conditional instruction does what the unconditional one does, or goes past its bytes. -/

theorem executed_jumpIf (condition : Condition) :
    (jumpIf condition).executed cpu memory =
      if condition.holds cpu.flags then
        jump.executed cpu memory
      else
        ⟨{ cpu with pc := cpu.pc + 1 + 2 }, memory⟩ := by
  change
    ((if condition.holds cpu.flags then do
        jumpTo (memory.readWord (cpu.pc + 1))
        return 0
      else
        return 0 : Exec Memory Nat) ⟨{ cpu with pc := cpu.pc + 1 + 2 }, memory⟩).2 = _
  split <;> rfl

theorem executed_callIf (condition : Condition) :
    (callIf condition).executed cpu memory =
      if condition.holds cpu.flags then
        call.executed cpu memory
      else
        ⟨{ cpu with pc := cpu.pc + 1 + 2 }, memory⟩ := by
  change
    ((if condition.holds cpu.flags then do
        pushWord (← ofCpu Cpu.pc)
        jumpTo (memory.readWord (cpu.pc + 1))
        return takenCycles
      else
        return 0 : Exec Memory Nat) ⟨{ cpu with pc := cpu.pc + 1 + 2 }, memory⟩).2 = _
  split <;> rfl

theorem executed_returnIf (condition : Condition) :
    (returnIf condition).executed cpu memory =
      if condition.holds cpu.flags then
        ret.executed cpu memory
      else
        ⟨{ cpu with pc := cpu.pc + 1 }, memory⟩ := by
  change
    ((if condition.holds cpu.flags then do
        jumpTo (← popWord)
        return takenCycles
      else
        return 0 : Exec Memory Nat) ⟨{ cpu with pc := cpu.pc + 1 }, memory⟩).2 = _
  split <;> rfl

/-- Control goes to the target if it is transferred, and past the instruction if not. -/
theorem executed_pc :
    (instruction.executed cpu memory).cpu.pc =
      if instruction.isTaken cpu.flags then
        instruction.target ⟨cpu, memory⟩
      else
        cpu.pc + UInt16.ofNat instruction.length := by
  have pastByte : cpu.pc + 1 + 1 = cpu.pc + 2 := UInt16.add_assoc cpu.pc 1 1
  have pastWord : cpu.pc + 1 + 2 = cpu.pc + 3 := UInt16.add_assoc cpu.pc 1 2
  cases instruction with
  | loadWordImmediate register =>
      cases register <;> exact pastWord
  | storeHLDirect | loadHLDirect | storeDirect | loadDirect =>
      exact pastWord
  | loadImmediate operand =>
      cases operand <;> exact pastByte
  | arithmeticImmediate op =>
      exact pastByte
  | readPort | writePort =>
      exact pastByte
  | incrementWord register | decrementWord register | addToHL register =>
      cases register <;> rfl
  | push register | pop register =>
      cases register <;> rfl
  | increment operand | decrement operand | arithmetic op operand =>
      cases operand <;> rfl
  | move destination source =>
      cases destination <;> cases source <;> rfl
  | storeIndirect pointer | loadIndirect pointer =>
      cases pointer <;> rfl
  | jumpIf condition =>
      rw [executed_jumpIf]
      change _ = if condition.holds cpu.flags then memory.readWord (cpu.pc + 1) else cpu.pc + 3
      split
      · rfl
      · exact pastWord
  | callIf condition =>
      rw [executed_callIf]
      change _ = if condition.holds cpu.flags then memory.readWord (cpu.pc + 1) else cpu.pc + 3
      split
      · rfl
      · exact pastWord
  | returnIf condition =>
      rw [executed_returnIf]
      change _ = if condition.holds cpu.flags then memory.readWord cpu.sp else cpu.pc + 1
      split <;> rfl
  | _ =>
      rfl

/-- The stack pointer after the instruction, read off the core before the opcode is fetched. -/
def stackPointer : UInt16 :=
  match instruction with
  | .loadWordImmediate .sp => memory.readWord (cpu.pc + 1)
  | .incrementWord .sp => cpu.sp + 1
  | .decrementWord .sp => cpu.sp - 1
  | .stackPointerFromHL => cpu.hl
  | .push _ | .call | .restart _ => cpu.sp - 2
  | .pop _ | .ret => cpu.sp + 2
  | .callIf condition => if condition.holds cpu.flags then cpu.sp - 2 else cpu.sp
  | .returnIf condition => if condition.holds cpu.flags then cpu.sp + 2 else cpu.sp
  | _ => cpu.sp

theorem executed_sp :
    (instruction.executed cpu memory).cpu.sp = instruction.stackPointer cpu memory := by
  cases instruction with
  | loadWordImmediate register | incrementWord register | decrementWord register
  | addToHL register =>
      cases register <;> rfl
  | push register | pop register =>
      cases register <;> rfl
  | increment operand | decrement operand | arithmetic op operand | loadImmediate operand =>
      cases operand <;> rfl
  | move destination source =>
      cases destination <;> cases source <;> rfl
  | storeIndirect pointer | loadIndirect pointer =>
      cases pointer <;> rfl
  | jumpIf condition =>
      rw [executed_jumpIf]
      split <;> rfl
  | callIf condition =>
      rw [executed_callIf]
      change _ = if condition.holds cpu.flags then cpu.sp - 2 else cpu.sp
      split <;> rfl
  | returnIf condition =>
      rw [executed_returnIf]
      change _ = if condition.holds cpu.flags then cpu.sp + 2 else cpu.sp
      split <;> rfl
  | _ =>
      rfl

theorem executed_bus_of_push (register : StackRegister) :
    ((push register).executed cpu memory).bus =
      memory.writeWord (cpu.sp - 2) (cpu.stackWord register) := by
  cases register <;> rfl

variable {instruction cpu}

/-- A call that is made pushes the address after its bytes. -/
theorem executed_of_isCall
    (calls : instruction.isCall)
    (taken : instruction.isTaken cpu.flags) :
    (instruction.executed cpu memory).cpu.sp = cpu.sp - 2 ∧
      (instruction.executed cpu memory).bus =
        memory.writeWord (cpu.sp - 2) (cpu.pc + UInt16.ofNat instruction.length) := by
  have pastWord : cpu.pc + 1 + 2 = cpu.pc + 3 := UInt16.add_assoc cpu.pc 1 2
  have called :
      (call.executed cpu memory).bus = memory.writeWord (cpu.sp - 2) (cpu.pc + 3) :=
    congrArg (memory.writeWord (cpu.sp - 2)) pastWord
  cases instruction with
  | call =>
      exact ⟨rfl, called⟩
  | callIf condition =>
      have holds : condition.holds cpu.flags := taken
      rw [executed_callIf, if_pos holds]
      exact ⟨rfl, called⟩
  | restart vector =>
      exact ⟨rfl, rfl⟩
  | _ =>
      cases calls

/-- A return that is made pops the program counter. -/
theorem executed_of_isReturn
    (returns : instruction.isReturn)
    (taken : instruction.isTaken cpu.flags) :
    (instruction.executed cpu memory).cpu.pc = memory.readWord cpu.sp ∧
      (instruction.executed cpu memory).cpu.sp = cpu.sp + 2 := by
  cases instruction with
  | ret =>
      exact ⟨rfl, rfl⟩
  | returnIf condition =>
      have holds : condition.holds cpu.flags := taken
      rw [executed_returnIf, if_pos holds]
      exact ⟨rfl, rfl⟩
  | _ =>
      cases returns

/--
An instruction loads the stack pointer with another word, moves it by one at
most, or moves it by two: down if a word is pushed, up if one is popped.
-/
theorem stackPointer_cases :
    instruction.stackPointer cpu memory ∈
        [cpu.hl, memory.readWord (cpu.pc + 1), cpu.sp, cpu.sp + 1, cpu.sp - 1] ∨
      (instruction.stackPointer cpu memory = cpu.sp - 2 ∧
        (instruction.isCall ∧ instruction.isTaken cpu.flags ∨
          ∃ register, instruction = push register)) ∨
      (instruction.stackPointer cpu memory = cpu.sp + 2 ∧
        (instruction.isReturn ∧ instruction.isTaken cpu.flags ∨
          ∃ register, instruction = pop register)) := by
  have stays :
      cpu.sp ∈ [cpu.hl, memory.readWord (cpu.pc + 1), cpu.sp, cpu.sp + 1, cpu.sp - 1] := by
    simp
  cases instruction with
  | push register =>
      exact .inr (.inl ⟨rfl, .inr ⟨register, rfl⟩⟩)
  | pop register =>
      exact .inr (.inr ⟨rfl, .inr ⟨register, rfl⟩⟩)
  | call | restart vector =>
      exact .inr (.inl ⟨rfl, .inl ⟨rfl, rfl⟩⟩)
  | ret =>
      exact .inr (.inr ⟨rfl, .inl ⟨rfl, rfl⟩⟩)
  | callIf condition =>
      by_cases holds : condition.holds cpu.flags
      · exact .inr (.inl ⟨if_pos holds, .inl ⟨rfl, holds⟩⟩)
      · exact .inl (by rw [stackPointer, if_neg holds]; exact stays)
  | returnIf condition =>
      by_cases holds : condition.holds cpu.flags
      · exact .inr (.inr ⟨if_pos holds, .inl ⟨rfl, holds⟩⟩)
      · exact .inl (by rw [stackPointer, if_neg holds]; exact stays)
  | loadWordImmediate register | incrementWord register | decrementWord register =>
      left
      cases register <;> simp [stackPointer]
  | stackPointerFromHL =>
      exact .inl List.mem_cons_self
  | _ =>
      exact .inl stays

end Execution

end Instruction

end Monitor8080
