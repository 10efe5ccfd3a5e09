import Monitor8080.Processor.Execution
namespace Monitor8080

/-!
# One step of the processor

A step takes a pending interrupt if interrupts are enabled, passes the time
if the processor is halted, and otherwise fetches and executes one
instruction. A step that cannot be made leaves the processor as it was.
-/

/-- Why a step was not made. -/
inductive StepError where
  | poweredOff
  | unmappedFetch (address : UInt16)
  | refusedFetch (address : UInt16)
  deriving Repr, DecidableEq

/-- The cycles that taking an interrupt lasts. -/
def interruptCycles : Nat := 11

/-- The cycles that a step of a halted processor lasts. -/
def haltCycles : Nat := 4

def Cpu.tick (cpu : Cpu) (count : Nat) : Cpu :=
  { cpu with cycles := cpu.cycles + count }

/-- The interrupt that the next step takes: the pending one, if interrupts are enabled. -/
def Cpu.deliverable? (cpu : Cpu) : Option (Fin 8) :=
  if cpu.interruptsEnabled then cpu.pendingInterrupt else none

namespace Core

variable {σ : Type} [Bus σ]

/-- Takes an interrupt: the program counter is pushed and the restart address entered. -/
@[specialize] def takeInterrupt (vector : Fin 8) (cpu : Cpu) (bus : σ) :
    Except StepError Nat × Core σ :=
  let woken :=
    { cpu with pendingInterrupt := none, interruptsEnabled := false, halted := false }
  match Exec.pushWord woken.pc ⟨woken, bus⟩ with
  | (_, ⟨cpu, bus⟩) =>
      (.ok interruptCycles,
        ⟨{ cpu with pc := UInt16.ofNat (8 * vector.val) }.tick interruptCycles, bus⟩)

/-- Executes the instruction whose opcode was fetched at the program counter. -/
@[specialize] def executeOpcode (opcode : UInt8) (cpu : Cpu) (bus : σ) :
    Except StepError Nat × Core σ :=
  let instruction := Instruction.ofOpcode opcode
  match instruction.execute ⟨{ cpu with pc := cpu.pc + 1 }, bus⟩ with
  | (additional, ⟨cpu, bus⟩) =>
      let count := instruction.cycles + additional
      (.ok count, ⟨cpu.tick count, bus⟩)

/-- One step: the cycles it lasted or why it was not made, and the core after it. -/
@[specialize] def step (core : Core σ) : Except StepError Nat × Core σ :=
  match core with
  | ⟨cpu, bus⟩ =>
      if cpu.phase = .poweredOff then
        (.error .poweredOff, ⟨cpu, bus⟩)
      else
        -- An interrupt wakes a halted processor, so it is looked for before the halt.
        match cpu.deliverable? with
        | some vector => takeInterrupt vector cpu bus
        | none =>
            if cpu.halted then
              (.ok haltCycles, ⟨cpu.tick haltCycles, bus⟩)
            else
              match Bus.fetch bus cpu.pc with
              | (.opcode opcode, bus) => executeOpcode opcode cpu bus
              | (.unmapped, bus) => (.error (.unmappedFetch cpu.pc), ⟨cpu, bus⟩)
              | (.refused, bus) => (.error (.refusedFetch cpu.pc), ⟨cpu, bus⟩)

end Core

end Monitor8080
