import Monitor8080.Proofs.Transparency
namespace Monitor8080

/-!
# The accesses of a step

All that a step does to memory and to ports goes through its bus. A bus that
writes the accesses down therefore tells which ones a step makes and in which
order, and they can be read off the instruction beforehand.
-/

/-- An access of the processor to an address, or to a port with the byte that it carries. -/
inductive BusAccess where
  | memory (kind : Access) (address : UInt16)
  | port (direction : PortDirection) (number byte : UInt8)
  deriving Repr, DecidableEq

/-- Memory that writes down every access to it but the fetch of an opcode. -/
structure Logged where
  memory : Memory
  log : List BusAccess

namespace Logged

/-- Logged memory with one more access written down. -/
def note (logged : Logged) (access : BusAccess) : Logged :=
  { logged with log := logged.log ++ [access] }

instance : Bus Logged where
  read logged address :=
    (logged.memory.read address, logged.note (.memory .read address))
  write logged address value :=
    { logged.note (.memory .write address) with memory := logged.memory.write address value }
  fetch logged address :=
    ((Bus.fetch logged.memory address).1,
      { logged with memory := (Bus.fetch logged.memory address).2 })
  input logged port :=
    (logged.memory.input port, logged.note (.port .input port (logged.memory.input port)))
  output logged port value :=
    { logged.note (.port .output port value) with memory := logged.memory.output port value }

end Logged

/-- The accesses that a step makes, in the order in which it makes them. -/
def Core.accesses (core : Core Memory) : List BusAccess :=
  (step (⟨core.cpu, ⟨core.bus, []⟩⟩ : Core Logged)).2.bus.log

/-! ## What is read off the instruction -/

/-- The word at an address as the processor reads it. -/
def Memory.readWord (memory : Memory) (address : UInt16) : UInt16 :=
  wordOfBytes (memory.read address) (memory.read (address + 1))

/-- The two accesses to a word, which begin with its low byte. -/
def wordAccesses (kind : Access) (address : UInt16) : List BusAccess :=
  [.memory kind address, .memory kind (address + 1)]

/-- The access to a byte operand, if it is in memory. -/
def ByteOperand.accesses (operand : ByteOperand) (cpu : Cpu) (kind : Access) : List BusAccess :=
  match operand with
  | .m => [.memory kind cpu.hl]
  | _ => []

/-- The accesses that an instruction makes after its opcode was fetched. -/
def Instruction.accesses (instruction : Instruction) (cpu : Cpu) (memory : Memory) :
    List BusAccess :=
  let operandByte := [.memory .read cpu.pc]
  let operandWord := wordAccesses .read cpu.pc
  let push := wordAccesses .write (cpu.sp - 2)
  let pop := wordAccesses .read cpu.sp
  match instruction with
  | .loadWordImmediate _ | .jump | .jumpIf _ => operandWord
  | .storeIndirect pointer => [.memory .write (cpu.pointer pointer)]
  | .loadIndirect pointer => [.memory .read (cpu.pointer pointer)]
  | .storeHLDirect => operandWord ++ wordAccesses .write (memory.readWord cpu.pc)
  | .loadHLDirect => operandWord ++ wordAccesses .read (memory.readWord cpu.pc)
  | .storeDirect => operandWord ++ [.memory .write (memory.readWord cpu.pc)]
  | .loadDirect => operandWord ++ [.memory .read (memory.readWord cpu.pc)]
  | .increment operand | .decrement operand =>
      operand.accesses cpu .read ++ operand.accesses cpu .write
  | .loadImmediate destination => operandByte ++ destination.accesses cpu .write
  | .move destination source => source.accesses cpu .read ++ destination.accesses cpu .write
  | .arithmetic _ source => source.accesses cpu .read
  | .arithmeticImmediate _ => operandByte
  | .call => operandWord ++ push
  | .callIf condition => operandWord ++ if condition.holds cpu.flags then push else []
  | .ret | .pop _ => pop
  | .returnIf condition => if condition.holds cpu.flags then pop else []
  | .restart _ | .push _ => push
  | .exchangeStackTop => pop ++ wordAccesses .write cpu.sp
  | .readPort =>
      let number := memory.read cpu.pc
      operandByte ++ [.port .input number (memory.input number)]
  | .writePort => operandByte ++ [.port .output (memory.read cpu.pc) cpu.a]
  | _ => []

/--
The accesses that a step is to make: an interrupt pushes the program counter,
and an instruction whose opcode can be fetched makes its own.
-/
def Core.prescribedAccesses (core : Core Memory) : List BusAccess :=
  if core.cpu.phase = .poweredOff then
    []
  else if core.cpu.deliverable?.isSome then
    wordAccesses .write (core.cpu.sp - 2)
  else if core.cpu.halted then
    []
  else
    match core.bus.fetch? core.cpu.pc with
    | some opcode =>
        (Instruction.ofOpcode opcode).accesses { core.cpu with pc := core.cpu.pc + 1 } core.bus
    | none => []


/-! ## The two agree -/

open Exec in
/-- An instruction makes the accesses that are read off it. -/
theorem Instruction.execute_log
    (instruction : Instruction)
    (cpu : Cpu)
    (memory : Memory) :
    (instruction.execute ⟨cpu, Logged.mk memory []⟩).2.bus.log =
      instruction.accesses cpu memory := by
  let next : Cpu := { cpu with pc := cpu.pc + 2 }
  let target := memory.readWord cpu.pc
  cases instruction with
  | increment operand | decrement operand | loadImmediate operand | arithmetic op operand =>
      cases operand <;> rfl
  | move destination source =>
      cases source <;> cases destination <;> rfl
  | jumpIf condition =>
      change
        ((if condition.holds cpu.flags then do
            jumpTo target
            return 0
          else
            return 0 : Exec Logged Nat) ⟨next, ⟨memory, wordAccesses .read cpu.pc⟩⟩).2.bus.log =
          wordAccesses .read cpu.pc
      split <;> rfl
  | callIf condition =>
      change
        ((if condition.holds cpu.flags then do
            pushWord (← ofCpu Cpu.pc)
            jumpTo target
            return takenCycles
          else
            return 0 : Exec Logged Nat) ⟨next, ⟨memory, wordAccesses .read cpu.pc⟩⟩).2.bus.log =
          wordAccesses .read cpu.pc ++
            if condition.holds cpu.flags then wordAccesses .write (cpu.sp - 2) else []
      split <;> rfl
  | returnIf condition =>
      change
        ((if condition.holds cpu.flags then do
            jumpTo (← popWord)
            return takenCycles
          else
            return 0 : Exec Logged Nat) ⟨cpu, ⟨memory, []⟩⟩).2.bus.log =
          if condition.holds cpu.flags then wordAccesses .read cpu.sp else []
      split <;> rfl
  | _ =>
      rfl

/-- A step makes the accesses that are read off the processor and its memory. -/
theorem Core.accesses_eq (core : Core Memory) :
    core.accesses = core.prescribedAccesses := by
  obtain ⟨cpu, memory⟩ := core
  unfold accesses prescribedAccesses
  by_cases poweredOff : cpu.phase = .poweredOff
  · rw [step_of_poweredOff poweredOff, if_pos poweredOff]
  · rw [if_neg poweredOff]
    cases delivered : cpu.deliverable? with
    | some vector =>
        rw [step_of_deliverable poweredOff delivered]
        rfl
    | none =>
        cases halted : cpu.halted with
        | true =>
            rw [step_of_halted poweredOff delivered halted]
            rfl
        | false =>
            have fetching : cpu.isFetching :=
              Cpu.isFetching_iff.mpr ⟨poweredOff, delivered, halted⟩
            rw [step_of_isFetching fetching]
            cases mapped : memory.fetch? cpu.pc with
            | none =>
                simp only [Bus.fetch, mapped]
                rfl
            | some opcode =>
                simp only [Bus.fetch, mapped]
                exact (Instruction.ofOpcode opcode).execute_log _ memory

/-- A step that cannot be made makes no access. -/
theorem Core.accesses_of_error
    {core : Core Memory}
    {error : StepError}
    (failed : (step core).1 = .error error) :
    core.accesses = [] := by
  rw [accesses_eq, prescribedAccesses]
  rcases step_error_cases failed with ⟨poweredOff, -⟩ | ⟨fetching, unmapped, -⟩
  · rw [if_pos poweredOff]
  · obtain ⟨powered, undisturbed, awake⟩ := Cpu.isFetching_iff.mp fetching
    simp [powered, undisturbed, awake, unmapped]

end Monitor8080
