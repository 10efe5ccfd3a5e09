import Monitor8080.Monitor.Step
import Monitor8080.Proofs.Simulation
namespace Monitor8080

/-!
# Guarding is transparent

The guarded bus passes every access on to memory, so an instruction that is
not refused does on it what it does on bare memory. Two cores are alike if a
program cannot tell them apart; what is watched and which phase the engine is
in make no difference to it.
-/

/-- Two memories that a program cannot tell apart: all but what is watched in them agrees. -/
structure Memory.Alike (left right : Memory) : Prop where
  bytes : left.bytes = right.bytes
  blocks : left.blocks = right.blocks
  inputLatches : left.inputLatches = right.inputLatches
  outputLatches : left.outputLatches = right.outputLatches

namespace Memory.Alike

@[refl] theorem refl (memory : Memory) : memory.Alike memory :=
  ⟨rfl, rfl, rfl, rfl⟩

theorem trans
    {first second third : Memory}
    (alike : first.Alike second)
    (alikeNext : second.Alike third) :
    first.Alike third :=
  ⟨alike.bytes.trans alikeNext.bytes, alike.blocks.trans alikeNext.blocks,
    alike.inputLatches.trans alikeNext.inputLatches,
    alike.outputLatches.trans alikeNext.outputLatches⟩

variable {left right : Memory}

theorem byte_eq
    (alike : left.Alike right)
    (address : UInt16) :
    left.byte address = right.byte address := by
  simp only [Memory.byte, alike.bytes]

theorem blockKind_eq
    (alike : left.Alike right)
    (address : UInt16) :
    left.blockKind address = right.blockKind address := by
  simp only [Memory.blockKind, alike.blocks]

theorem read_eq
    (alike : left.Alike right)
    (address : UInt16) :
    left.read address = right.read address := by
  simp only [Memory.read, alike.blockKind_eq, alike.byte_eq]

theorem fetch?_eq
    (alike : left.Alike right)
    (address : UInt16) :
    left.fetch? address = right.fetch? address := by
  simp only [Memory.fetch?, alike.blockKind_eq, alike.byte_eq]

theorem input_eq
    (alike : left.Alike right)
    (port : UInt8) :
    left.input port = right.input port := by
  simp only [Memory.input, alike.inputLatches]

theorem setByte
    (alike : left.Alike right)
    (address : UInt16)
    (value : UInt8) :
    (left.setByte address value).Alike (right.setByte address value) :=
  ⟨by simp only [Memory.setByte, alike.bytes], alike.blocks, alike.inputLatches,
    alike.outputLatches⟩

theorem write
    (alike : left.Alike right)
    (address : UInt16)
    (value : UInt8) :
    (left.write address value).Alike (right.write address value) := by
  simp only [Memory.write, alike.blockKind_eq]
  split
  · exact alike.setByte address value
  · exact alike

theorem output
    (alike : left.Alike right)
    (port value : UInt8) :
    (left.output port value).Alike (right.output port value) :=
  ⟨alike.bytes, alike.blocks, alike.inputLatches,
    by simp only [Memory.output, alike.outputLatches]⟩

end Memory.Alike

namespace Memory

/-- A watch more makes no difference to a program. -/
theorem watch_alike
    (memory : Memory)
    (address : UInt16)
    (kind : Access) :
    (memory.watch address kind).Alike memory := by
  cases kind <;> exact ⟨rfl, rfl, rfl, rfl⟩

theorem unwatch_alike
    (memory : Memory)
    (address : UInt16)
    (kind : Access) :
    (memory.unwatch address kind).Alike memory := by
  cases kind <;> exact ⟨rfl, rfl, rfl, rfl⟩

/-- Alike memories answer alike. -/
theorem alike_simulation : BusSimulation Memory.Alike where
  read alike address := ⟨alike.read_eq address, alike⟩
  write alike address value := alike.write address value
  input alike port := ⟨alike.input_eq port, alike⟩
  output alike port value := alike.output port value

/-- A fetch from alike memories comes to the same. -/
theorem Alike.fetch
    {left right : Memory}
    (alike : left.Alike right)
    (address : UInt16) :
    (Bus.fetch left address).1 = (Bus.fetch right address).1 ∧
      (Bus.fetch left address).2.Alike (Bus.fetch right address).2 := by
  have sameOpcode := alike.fetch?_eq address
  cases found : right.fetch? address with
  | none =>
      simpa [Bus.fetch, sameOpcode, found] using alike
  | some opcode =>
      simpa [Bus.fetch, sameOpcode, found] using alike

end Memory

/-! ## Cores -/

/-- Two cores that a program cannot tell apart: all but the engine phase and what is watched agrees. -/
structure Core.Alike (left right : Core Memory) : Prop where
  cpu : left.cpu.inPhase .ready = right.cpu.inPhase .ready
  memory : left.bus.Alike right.bus

namespace Core

namespace Alike

@[refl] theorem refl (core : Core Memory) : core.Alike core :=
  ⟨rfl, .refl _⟩

theorem trans
    {first second third : Core Memory}
    (alike : first.Alike second)
    (alikeNext : second.Alike third) :
    first.Alike third :=
  ⟨alike.cpu.trans alikeNext.cpu, alike.memory.trans alikeNext.memory⟩

/-- Alike processors differ in the engine phase alone. -/
theorem cpu_eq
    {left right : Core Memory}
    (alike : left.Alike right) :
    right.cpu = left.cpu.inPhase right.cpu.phase :=
  calc right.cpu
    _ = (right.cpu.inPhase .ready).inPhase right.cpu.phase := by
        rw [Cpu.inPhase_inPhase, Cpu.inPhase_phase]
    _ = (left.cpu.inPhase .ready).inPhase right.cpu.phase := by
        rw [alike.cpu]
    _ = left.cpu.inPhase right.cpu.phase := Cpu.inPhase_inPhase ..

/-- Alike cores that have power make alike steps. -/
theorem step
    {left right : Core Memory}
    (alike : left.Alike right)
    (powered : left.cpu.phase ≠ .poweredOff)
    (poweredToo : right.cpu.phase ≠ .poweredOff) :
    (Core.step left).1 = (Core.step right).1 ∧
      (Core.step left).2.Alike (Core.step right).2 := by
  have agreement :=
    Memory.alike_simulation.step
      (fun _ : left.cpu.isFetching = false => alike.memory)
      powered poweredToo fun _ => alike.memory.fetch left.cpu.pc
  rw [← alike.cpu_eq] at agreement
  obtain ⟨sameOutcome, sameCpu, stillAlike⟩ := agreement
  refine ⟨sameOutcome, ?_, stillAlike⟩
  rw [show (Core.step right).2.cpu = _ from sameCpu, Cpu.inPhase_inPhase]

end Alike

/-- The core after a number of steps on bare memory. -/
def afterSteps (core : Core Memory) : Nat → Core Memory
  | 0 => core
  | count + 1 => (step (core.afterSteps count)).2

@[simp] theorem afterSteps_phase
    (core : Core Memory)
    (count : Nat) :
    (core.afterSteps count).cpu.phase = core.cpu.phase := by
  induction count with
  | zero =>
      rfl
  | succ count inductionHypothesis =>
      rw [afterSteps, step_phase, inductionHypothesis]

/-- A step on bare memory fails without power, or where no opcode can be fetched. -/
theorem step_error_cases
    {core : Core Memory}
    {error : StepError}
    (failed : (step core).1 = .error error) :
    core.cpu.phase = .poweredOff ∧ error = .poweredOff ∨
      core.cpu.isFetching ∧
        core.bus.fetch? core.cpu.pc = none ∧
        error = .unmappedFetch core.cpu.pc := by
  obtain ⟨cpu, memory⟩ := core
  by_cases poweredOff : cpu.phase = .poweredOff
  · rw [step_of_poweredOff poweredOff] at failed
    cases failed
    exact .inl ⟨poweredOff, rfl⟩
  · cases delivered : cpu.deliverable? with
    | some vector =>
        rw [step_of_deliverable poweredOff delivered] at failed
        cases failed
    | none =>
        cases halted : cpu.halted with
        | true =>
            rw [step_of_halted poweredOff delivered halted] at failed
            cases failed
        | false =>
            have fetching : cpu.isFetching :=
              Cpu.isFetching_iff.mpr ⟨poweredOff, delivered, halted⟩
            rw [step_of_isFetching fetching] at failed
            cases mapped : memory.fetch? cpu.pc with
            | some opcode =>
                simp only [Bus.fetch, mapped] at failed
                cases failed
            | none =>
                simp only [Bus.fetch, mapped] at failed
                cases failed
                exact .inr ⟨fetching, rfl, rfl⟩

end Core

/-! ## Guarded memory -/

namespace Guarded

/-- A guarded memory and a memory that a program cannot tell from the one that is guarded. -/
def Guards (guarded : Guarded) (memory : Memory) : Prop :=
  guarded.memory.Alike memory

/-- Guarded memory answers as bare memory does. -/
theorem guards_simulation : BusSimulation Guards where
  read alike address := ⟨alike.read_eq address, alike⟩
  write alike address value := alike.write address value
  input alike port := ⟨alike.input_eq port, alike⟩
  output alike port value := alike.output port value

/-! ### What comes of a guarded fetch -/

section Fetch

variable {memory : Memory} {sentry : Sentry} {address : UInt16} {opcode : UInt8}

/-- A guarded fetch from where nothing is mapped changes nothing. -/
theorem fetch_of_unmapped (unmapped : memory.fetch? address = none) :
    Bus.fetch (Guarded.mk memory sentry) address = (.unmapped, ⟨memory, sentry⟩) := by
  simp only [Bus.fetch, Guarded.fetch, unmapped]

/-- A fetch that nothing stops is recorded. -/
theorem fetch_of_passed
    {breakpoints : Breakpoints}
    (mapped : memory.fetch? address = some opcode)
    (passed : sentry.breakpoints.hitByExecution address = (none, breakpoints)) :
    Bus.fetch (Guarded.mk memory sentry) address =
      (.opcode opcode,
        ⟨memory, { sentry with breakpoints := breakpoints }.noteFetch address opcode⟩) := by
  simp only [Bus.fetch, Guarded.fetch, mapped, passed]

/-- A fetch that is stopped is refused, and the hit becomes the pending reason. -/
theorem fetch_of_hit
    {hit : Hit}
    {breakpoints : Breakpoints}
    (mapped : memory.fetch? address = some opcode)
    (stopped : sentry.breakpoints.hitByExecution address = (some hit, breakpoints)) :
    Bus.fetch (Guarded.mk memory sentry) address =
      (.refused,
        ⟨memory, { sentry with breakpoints := breakpoints, pending? := some (.hit hit) }⟩) := by
  simp only [Bus.fetch, Guarded.fetch, mapped, stopped]

end Fetch

end Guarded
end Monitor8080
