import Monitor8080.Processor.Step
namespace Monitor8080

/-!
# Instructions on related buses

An instruction sees its bus only through the answers to its accesses. Two
buses that answer alike, and go on to do so, therefore lead it through the
same states of the processor. The engine phase takes no part in this: nothing
that an instruction does depends on it or changes it.
-/

/-- The processor in another engine phase. -/
def Cpu.inPhase (cpu : Cpu) (phase : EnginePhase) : Cpu :=
  { cpu with phase := phase }

namespace Cpu

@[simp] theorem inPhase_phase (cpu : Cpu) : cpu.inPhase cpu.phase = cpu := rfl

@[simp] theorem phase_inPhase
    (cpu : Cpu)
    (phase : EnginePhase) :
    (cpu.inPhase phase).phase = phase := rfl

@[simp] theorem inPhase_inPhase
    (cpu : Cpu)
    (first second : EnginePhase) :
    (cpu.inPhase first).inPhase second = cpu.inPhase second := rfl

@[simp] theorem pc_inPhase
    (cpu : Cpu)
    (phase : EnginePhase) :
    (cpu.inPhase phase).pc = cpu.pc := rfl

end Cpu

/-- A relation between two buses under which every access but a fetch has the same answer and keeps it. -/
structure BusSimulation
    {σ τ : Type}
    [Bus σ]
    [Bus τ]
    (related : σ → τ → Prop) : Prop where
  read :
    ∀ {left right},
      related left right →
      ∀ address,
        (Bus.read left address).1 = (Bus.read right address).1 ∧
          related (Bus.read left address).2 (Bus.read right address).2
  write :
    ∀ {left right},
      related left right →
      ∀ address value,
        related (Bus.write left address value) (Bus.write right address value)
  input :
    ∀ {left right},
      related left right →
      ∀ port,
        (Bus.input left port).1 = (Bus.input right port).1 ∧
          related (Bus.input left port).2 (Bus.input right port).2
  output :
    ∀ {left right},
      related left right →
      ∀ port value,
        related (Bus.output left port value) (Bus.output right port value)

variable {σ τ : Type}

/-- Two cores with related buses, whose processors differ in the engine phase at most. -/
structure Core.Related
    (related : σ → τ → Prop)
    (phase : EnginePhase)
    (left : Core σ)
    (right : Core τ) : Prop where
  cpu : right.cpu = left.cpu.inPhase phase
  bus : related left.bus right.bus

namespace Exec

/-- Two actions that agree on related buses: in the value, and in the core that they lead to. -/
def Simulates
    (related : σ → τ → Prop)
    (left : Exec σ α)
    (right : Exec τ α) : Prop :=
  ∀ phase cpu bus bus',
    related bus bus' →
      (left ⟨cpu, bus⟩).1 = (right ⟨cpu.inPhase phase, bus'⟩).1 ∧
        Core.Related related phase
          (left ⟨cpu, bus⟩).2 (right ⟨cpu.inPhase phase, bus'⟩).2

variable {related : σ → τ → Prop}

theorem Simulates.pure (value : α) :
    Simulates related (Pure.pure value : Exec σ α) (Pure.pure value : Exec τ α) := by
  intro phase cpu bus bus' busesRelated
  exact ⟨rfl, rfl, busesRelated⟩

/-- Actions that agree one by one agree one after the other. -/
theorem Simulates.bind
    {left : Exec σ α}
    {right : Exec τ α}
    {leftNext : α → Exec σ β}
    {rightNext : α → Exec τ β}
    (first : Simulates related left right)
    (next : ∀ value, Simulates related (leftNext value) (rightNext value)) :
    Simulates related (left >>= leftNext) (right >>= rightNext) := by
  intro phase cpu bus bus' busesRelated
  obtain ⟨sameValue, sameCpu, nextRelated⟩ := first phase cpu bus bus' busesRelated
  have continued :=
    next (left ⟨cpu, bus⟩).1 phase (left ⟨cpu, bus⟩).2.cpu
      (left ⟨cpu, bus⟩).2.bus (right ⟨cpu.inPhase phase, bus'⟩).2.bus nextRelated
  rw [← sameCpu] at continued
  change
    (leftNext (left ⟨cpu, bus⟩).1 (left ⟨cpu, bus⟩).2).1 =
        (rightNext (right ⟨cpu.inPhase phase, bus'⟩).1
          (right ⟨cpu.inPhase phase, bus'⟩).2).1 ∧
      Core.Related related phase
        (leftNext (left ⟨cpu, bus⟩).1 (left ⟨cpu, bus⟩).2).2
        (rightNext (right ⟨cpu.inPhase phase, bus'⟩).1
          (right ⟨cpu.inPhase phase, bus'⟩).2).2
  rw [← sameValue]
  exact continued

/-- What is read off the processor agrees if it does not depend on the phase. -/
theorem Simulates.ofCpu
    {view : Cpu → α}
    (phaseBlind : ∀ cpu phase, view (cpu.inPhase phase) = view cpu) :
    Simulates related (ofCpu view : Exec σ α) (ofCpu view : Exec τ α) := by
  intro phase cpu bus bus' busesRelated
  exact ⟨(phaseBlind cpu phase).symm, rfl, busesRelated⟩

/-- A change of the processor agrees if it neither depends on the phase nor sets it. -/
theorem Simulates.modifyCpu
    {change : Cpu → Cpu}
    (phaseBlind : ∀ cpu phase, change (cpu.inPhase phase) = (change cpu).inPhase phase) :
    Simulates related (modifyCpu change : Exec σ Unit) (modifyCpu change : Exec τ Unit) := by
  intro phase cpu bus bus' busesRelated
  exact ⟨rfl, phaseBlind cpu phase, busesRelated⟩

theorem Simulates.jumpTo (address : UInt16) :
    Simulates related (jumpTo address : Exec σ Unit) (jumpTo address : Exec τ Unit) :=
  .modifyCpu fun _ _ => rfl

end Exec

namespace BusSimulation

open Exec

variable [Bus σ] [Bus τ] {related : σ → τ → Prop}

theorem readByte
    (simulation : BusSimulation related)
    (address : UInt16) :
    Simulates related (readByte address : Exec σ UInt8) (readByte address : Exec τ UInt8) := by
  intro phase cpu bus bus' busesRelated
  obtain ⟨sameByte, stillRelated⟩ := simulation.read busesRelated address
  exact ⟨sameByte, rfl, stillRelated⟩

theorem writeByte
    (simulation : BusSimulation related)
    (address : UInt16)
    (byte : UInt8) :
    Simulates related
      (writeByte address byte : Exec σ Unit) (writeByte address byte : Exec τ Unit) := by
  intro phase cpu bus bus' busesRelated
  exact ⟨rfl, rfl, simulation.write busesRelated address byte⟩

theorem inputByte
    (simulation : BusSimulation related)
    (port : UInt8) :
    Simulates related (inputByte port : Exec σ UInt8) (inputByte port : Exec τ UInt8) := by
  intro phase cpu bus bus' busesRelated
  obtain ⟨sameByte, stillRelated⟩ := simulation.input busesRelated port
  exact ⟨sameByte, rfl, stillRelated⟩

theorem outputByte
    (simulation : BusSimulation related)
    (port byte : UInt8) :
    Simulates related
      (outputByte port byte : Exec σ Unit) (outputByte port byte : Exec τ Unit) := by
  intro phase cpu bus bus' busesRelated
  exact ⟨rfl, rfl, simulation.output busesRelated port byte⟩

theorem readWord
    (simulation : BusSimulation related)
    (address : UInt16) :
    Simulates related (readWord address : Exec σ UInt16) (readWord address : Exec τ UInt16) :=
  (simulation.readByte address).bind fun low =>
    (simulation.readByte (address + 1)).bind fun high =>
      .pure (wordOfBytes low high)

theorem writeWord
    (simulation : BusSimulation related)
    (address word : UInt16) :
    Simulates related
      (writeWord address word : Exec σ Unit) (writeWord address word : Exec τ Unit) :=
  (simulation.writeByte address (lowByte word)).bind fun _ =>
    simulation.writeByte (address + 1) (highByte word)

theorem nextByte (simulation : BusSimulation related) :
    Simulates related (nextByte : Exec σ UInt8) (nextByte : Exec τ UInt8) :=
  (Simulates.ofCpu fun _ _ => rfl).bind fun pc =>
    (simulation.readByte pc).bind fun byte =>
      (Simulates.modifyCpu fun _ _ => rfl).bind fun _ => .pure byte

theorem nextWord (simulation : BusSimulation related) :
    Simulates related (nextWord : Exec σ UInt16) (nextWord : Exec τ UInt16) :=
  (Simulates.ofCpu fun _ _ => rfl).bind fun pc =>
    (simulation.readWord pc).bind fun word =>
      (Simulates.modifyCpu fun _ _ => rfl).bind fun _ => .pure word

theorem pushWord
    (simulation : BusSimulation related)
    (word : UInt16) :
    Simulates related (pushWord word : Exec σ Unit) (pushWord word : Exec τ Unit) :=
  (Simulates.modifyCpu fun _ _ => rfl).bind fun _ =>
    (Simulates.ofCpu fun _ _ => rfl).bind fun sp => simulation.writeWord sp word

theorem popWord (simulation : BusSimulation related) :
    Simulates related (popWord : Exec σ UInt16) (popWord : Exec τ UInt16) :=
  (Simulates.ofCpu fun _ _ => rfl).bind fun sp =>
    (simulation.readWord sp).bind fun word =>
      (Simulates.modifyCpu fun _ _ => rfl).bind fun _ => .pure word

theorem operand
    (simulation : BusSimulation related)
    (source : ByteOperand) :
    Simulates related (operand source : Exec σ UInt8) (operand source : Exec τ UInt8) := by
  cases source with
  | m =>
      exact (Simulates.ofCpu fun _ _ => rfl).bind fun hl => simulation.readByte hl
  | _ =>
      exact Simulates.ofCpu fun _ _ => rfl

theorem setOperand
    (simulation : BusSimulation related)
    (destination : ByteOperand)
    (value : UInt8) :
    Simulates related
      (setOperand destination value : Exec σ Unit)
      (setOperand destination value : Exec τ Unit) := by
  cases destination with
  | m =>
      exact (Simulates.ofCpu fun _ _ => rfl).bind fun hl => simulation.writeByte hl value
  | _ =>
      exact Simulates.modifyCpu fun _ _ => rfl

private theorem setWord_inPhase
    (register : WordRegister)
    (cpu : Cpu)
    (phase : EnginePhase)
    (word : UInt16) :
    (cpu.inPhase phase).setWord register word = (cpu.setWord register word).inPhase phase := by
  cases register <;> rfl

private theorem setStackWord_inPhase
    (register : StackRegister)
    (cpu : Cpu)
    (phase : EnginePhase)
    (word : UInt16) :
    (cpu.inPhase phase).setStackWord register word =
      (cpu.setStackWord register word).inPhase phase := by
  cases register <;> rfl

private theorem word_inPhase
    (register : WordRegister)
    (cpu : Cpu)
    (phase : EnginePhase) :
    (cpu.inPhase phase).word register = cpu.word register := by
  cases register <;> rfl

private theorem stackWord_inPhase
    (register : StackRegister)
    (cpu : Cpu)
    (phase : EnginePhase) :
    (cpu.inPhase phase).stackWord register = cpu.stackWord register := by
  cases register <;> rfl

private theorem pointer_inPhase
    (register : PointerRegister)
    (cpu : Cpu)
    (phase : EnginePhase) :
    (cpu.inPhase phase).pointer register = cpu.pointer register := by
  cases register <;> rfl

/-- Every instruction agrees on related buses. -/
theorem execute
    (simulation : BusSimulation related)
    (instruction : Instruction) :
    Simulates related
      (instruction.execute : Exec σ Nat) (instruction.execute : Exec τ Nat) := by
  cases instruction with
  | nop =>
      exact .pure 0
  | loadWordImmediate register =>
      exact simulation.nextWord.bind fun word =>
        (Simulates.modifyCpu fun cpu phase =>
          setWord_inPhase register cpu phase word).bind fun _ => .pure 0
  | storeIndirect pointer =>
      exact (Simulates.ofCpu (pointer_inPhase pointer)).bind fun address =>
        (Simulates.ofCpu fun _ _ => rfl).bind fun byte =>
          (simulation.writeByte address byte).bind fun _ => .pure 0
  | loadIndirect pointer =>
      exact (Simulates.ofCpu (pointer_inPhase pointer)).bind fun address =>
        (simulation.readByte address).bind fun _ =>
          (Simulates.modifyCpu fun _ _ => rfl).bind fun _ => .pure 0
  | storeHLDirect =>
      exact simulation.nextWord.bind fun address =>
        (Simulates.ofCpu fun _ _ => rfl).bind fun word =>
          (simulation.writeWord address word).bind fun _ => .pure 0
  | loadHLDirect =>
      exact simulation.nextWord.bind fun address =>
        (simulation.readWord address).bind fun _ =>
          (Simulates.modifyCpu fun _ _ => rfl).bind fun _ => .pure 0
  | storeDirect =>
      exact simulation.nextWord.bind fun address =>
        (Simulates.ofCpu fun _ _ => rfl).bind fun byte =>
          (simulation.writeByte address byte).bind fun _ => .pure 0
  | loadDirect =>
      exact simulation.nextWord.bind fun address =>
        (simulation.readByte address).bind fun _ =>
          (Simulates.modifyCpu fun _ _ => rfl).bind fun _ => .pure 0
  | incrementWord register =>
      refine (Simulates.modifyCpu fun cpu phase => ?_).bind fun _ => .pure 0
      rw [word_inPhase, setWord_inPhase]
  | decrementWord register =>
      refine (Simulates.modifyCpu fun cpu phase => ?_).bind fun _ => .pure 0
      rw [word_inPhase, setWord_inPhase]
  | addToHL register =>
      refine (Simulates.modifyCpu fun cpu phase => ?_).bind fun _ => .pure 0
      rw [word_inPhase]
      rfl
  | increment destination =>
      exact (simulation.operand destination).bind fun value =>
        (Simulates.ofCpu fun _ _ => rfl).bind fun flags =>
          (Simulates.modifyCpu fun _ _ => rfl).bind fun _ =>
            (simulation.setOperand destination
              (Alu.increment value flags).1).bind fun _ => .pure 0
  | decrement destination =>
      exact (simulation.operand destination).bind fun value =>
        (Simulates.ofCpu fun _ _ => rfl).bind fun flags =>
          (Simulates.modifyCpu fun _ _ => rfl).bind fun _ =>
            (simulation.setOperand destination
              (Alu.decrement value flags).1).bind fun _ => .pure 0
  | loadImmediate destination =>
      exact simulation.nextByte.bind fun byte =>
        (simulation.setOperand destination byte).bind fun _ => .pure 0
  | move destination source =>
      exact (simulation.operand source).bind fun byte =>
        (simulation.setOperand destination byte).bind fun _ => .pure 0
  | arithmetic op source =>
      exact (simulation.operand source).bind fun _ =>
        (Simulates.modifyCpu fun _ _ => rfl).bind fun _ => .pure 0
  | arithmeticImmediate op =>
      exact simulation.nextByte.bind fun _ =>
        (Simulates.modifyCpu fun _ _ => rfl).bind fun _ => .pure 0
  | jump =>
      exact simulation.nextWord.bind fun address =>
        (Simulates.jumpTo address).bind fun _ => .pure 0
  | jumpIf condition =>
      refine simulation.nextWord.bind fun address =>
        (Simulates.ofCpu fun _ _ => rfl).bind fun flags => ?_
      by_cases holds : condition.holds flags
      · simp only [holds, ↓reduceIte]
        exact (Simulates.jumpTo address).bind fun _ => .pure 0
      · simp only [holds, Bool.false_eq_true, ↓reduceIte]
        exact .pure 0
  | call =>
      exact simulation.nextWord.bind fun address =>
        (Simulates.ofCpu fun _ _ => rfl).bind fun pc =>
          (simulation.pushWord pc).bind fun _ =>
            (Simulates.jumpTo address).bind fun _ => .pure 0
  | callIf condition =>
      refine simulation.nextWord.bind fun address =>
        (Simulates.ofCpu fun _ _ => rfl).bind fun flags => ?_
      by_cases holds : condition.holds flags
      · simp only [holds, ↓reduceIte]
        exact (Simulates.ofCpu fun _ _ => rfl).bind fun pc =>
          (simulation.pushWord pc).bind fun _ =>
            (Simulates.jumpTo address).bind fun _ => .pure takenCycles
      · simp only [holds, Bool.false_eq_true, ↓reduceIte]
        exact .pure 0
  | ret =>
      exact simulation.popWord.bind fun address =>
        (Simulates.jumpTo address).bind fun _ => .pure 0
  | returnIf condition =>
      refine (Simulates.ofCpu fun _ _ => rfl).bind fun flags => ?_
      by_cases holds : condition.holds flags
      · simp only [holds, ↓reduceIte]
        exact simulation.popWord.bind fun address =>
          (Simulates.jumpTo address).bind fun _ => .pure takenCycles
      · simp only [holds, Bool.false_eq_true, ↓reduceIte]
        exact .pure 0
  | restart vector =>
      exact (Simulates.ofCpu fun _ _ => rfl).bind fun pc =>
        (simulation.pushWord pc).bind fun _ =>
          (Simulates.jumpTo (UInt16.ofNat (8 * vector.val))).bind fun _ => .pure 0
  | push register =>
      exact (Simulates.ofCpu (stackWord_inPhase register)).bind fun word =>
        (simulation.pushWord word).bind fun _ => .pure 0
  | pop register =>
      exact simulation.popWord.bind fun word =>
        (Simulates.modifyCpu fun cpu phase =>
          setStackWord_inPhase register cpu phase word).bind fun _ => .pure 0
  | exchangeStackTop =>
      exact (Simulates.ofCpu fun _ _ => rfl).bind fun sp =>
        (simulation.readWord sp).bind fun _ =>
          (Simulates.ofCpu fun _ _ => rfl).bind fun sp =>
            (Simulates.ofCpu fun _ _ => rfl).bind fun hl =>
              (simulation.writeWord sp hl).bind fun _ =>
                (Simulates.modifyCpu fun _ _ => rfl).bind fun _ => .pure 0
  | jumpToHL =>
      exact (Simulates.ofCpu fun _ _ => rfl).bind fun address =>
        (Simulates.jumpTo address).bind fun _ => .pure 0
  | readPort =>
      exact simulation.nextByte.bind fun port =>
        (simulation.inputByte port).bind fun _ =>
          (Simulates.modifyCpu fun _ _ => rfl).bind fun _ => .pure 0
  | writePort =>
      exact simulation.nextByte.bind fun port =>
        (Simulates.ofCpu fun _ _ => rfl).bind fun byte =>
          (simulation.outputByte port byte).bind fun _ => .pure 0
  | _ =>
      exact (Simulates.modifyCpu fun _ _ => rfl).bind fun _ => .pure 0

end BusSimulation

/-! ## Steps -/

/-- Whether the next step of the processor fetches an opcode. -/
def Cpu.isFetching (cpu : Cpu) : Bool :=
  cpu.isPowered && cpu.deliverable?.isNone && !cpu.halted

/-- A processor fetches an opcode if it has power, takes no interrupt and is not halted. -/
theorem Cpu.isFetching_iff {cpu : Cpu} :
    cpu.isFetching ↔
      cpu.phase ≠ .poweredOff ∧ cpu.deliverable? = none ∧ cpu.halted = false := by
  simp [isFetching, isPowered, and_assoc]

namespace Core

variable [Bus σ] {cpu : Cpu} {bus : σ}

/-- Without power no step is made. -/
theorem step_of_poweredOff (poweredOff : cpu.phase = .poweredOff) :
    step ⟨cpu, bus⟩ = (.error .poweredOff, ⟨cpu, bus⟩) := by
  simp [step, poweredOff]

/-- An interrupt that can be delivered is taken. -/
theorem step_of_deliverable
    (powered : cpu.phase ≠ .poweredOff)
    {vector : Fin 8}
    (deliverable : cpu.deliverable? = some vector) :
    step ⟨cpu, bus⟩ = takeInterrupt vector cpu bus := by
  simp [step, powered, deliverable]

/-- A halted processor passes the time. -/
theorem step_of_halted
    (powered : cpu.phase ≠ .poweredOff)
    (undisturbed : cpu.deliverable? = none)
    (halted : cpu.halted = true) :
    step ⟨cpu, bus⟩ = (.ok haltCycles, ⟨cpu.tick haltCycles, bus⟩) := by
  simp [step, powered, undisturbed, halted]

/-- A step that fetches an opcode goes by what comes of the fetch. -/
theorem step_of_isFetching (fetching : cpu.isFetching) :
    step ⟨cpu, bus⟩ =
      match Bus.fetch bus cpu.pc with
      | (.opcode opcode, bus) => executeOpcode opcode cpu bus
      | (.unmapped, bus) => (.error (.unmappedFetch cpu.pc), ⟨cpu, bus⟩)
      | (.refused, bus) => (.error (.refusedFetch cpu.pc), ⟨cpu, bus⟩) := by
  obtain ⟨powered, undisturbed, awake⟩ := Cpu.isFetching_iff.mp fetching
  cases fetched : Bus.fetch bus cpu.pc with
  | mk outcome next =>
      cases outcome <;> simp [step, powered, undisturbed, awake, fetched]

end Core

namespace BusSimulation

variable [Bus σ] [Bus τ] {related : σ → τ → Prop}
variable {cpu : Cpu} {phase : EnginePhase} {bus : σ} {bus' : τ}

/-- Taking an interrupt agrees on related buses. -/
theorem takeInterrupt
    (simulation : BusSimulation related)
    (busesRelated : related bus bus')
    (vector : Fin 8) :
    (Core.takeInterrupt vector cpu bus).1 =
        (Core.takeInterrupt vector (cpu.inPhase phase) bus').1 ∧
      Core.Related related phase
        (Core.takeInterrupt vector cpu bus).2
        (Core.takeInterrupt vector (cpu.inPhase phase) bus').2 := by
  let woken : Cpu :=
    { cpu with pendingInterrupt := none, interruptsEnabled := false, halted := false }
  obtain ⟨-, sameCpu, stillRelated⟩ :=
    simulation.pushWord woken.pc phase woken bus bus' busesRelated
  refine ⟨rfl, ?_, stillRelated⟩
  change
    Cpu.tick
        { (Exec.pushWord woken.pc ⟨woken.inPhase phase, bus'⟩).2.cpu with
          pc := UInt16.ofNat (8 * vector.val) } interruptCycles = _
  rw [sameCpu]
  rfl

/-- Executing a fetched opcode agrees on related buses. -/
theorem executeOpcode
    (simulation : BusSimulation related)
    (busesRelated : related bus bus')
    (opcode : UInt8) :
    (Core.executeOpcode opcode cpu bus).1 =
        (Core.executeOpcode opcode (cpu.inPhase phase) bus').1 ∧
      Core.Related related phase
        (Core.executeOpcode opcode cpu bus).2
        (Core.executeOpcode opcode (cpu.inPhase phase) bus').2 := by
  let instruction := Instruction.ofOpcode opcode
  let next : Cpu := { cpu with pc := cpu.pc + 1 }
  obtain ⟨sameCycles, sameCpu, stillRelated⟩ :=
    simulation.execute instruction phase next bus bus' busesRelated
  refine ⟨?_, ?_, stillRelated⟩
  · change
      Except.ok (instruction.cycles + (instruction.execute ⟨next, bus⟩).1) =
        Except.ok
          (instruction.cycles + (instruction.execute ⟨next.inPhase phase, bus'⟩).1)
    rw [sameCycles]
  · change
      Cpu.tick (instruction.execute ⟨next.inPhase phase, bus'⟩).2.cpu
          (instruction.cycles + (instruction.execute ⟨next.inPhase phase, bus'⟩).1) = _
    rw [sameCpu, ← sameCycles]
    rfl

/--
A whole step agrees if it fetches nothing and the buses are related, or if both
fetch alike, whatever the two engine phases are as long as the power is on.
-/
theorem step
    (simulation : BusSimulation related)
    (relatedUnfetched : cpu.isFetching = false → related bus bus')
    (powered : cpu.phase ≠ .poweredOff)
    (poweredToo : phase ≠ .poweredOff)
    (fetchedAlike :
      cpu.isFetching →
        (Bus.fetch bus cpu.pc).1 = (Bus.fetch bus' cpu.pc).1 ∧
          related (Bus.fetch bus cpu.pc).2 (Bus.fetch bus' cpu.pc).2) :
    (Core.step ⟨cpu, bus⟩).1 = (Core.step ⟨cpu.inPhase phase, bus'⟩).1 ∧
      Core.Related related phase
        (Core.step ⟨cpu, bus⟩).2 (Core.step ⟨cpu.inPhase phase, bus'⟩).2 := by
  have poweredInPhase : (cpu.inPhase phase).phase ≠ .poweredOff := poweredToo
  cases delivered : cpu.deliverable? with
  | some vector =>
      rw [Core.step_of_deliverable powered delivered,
        Core.step_of_deliverable poweredInPhase
          (show (cpu.inPhase phase).deliverable? = some vector from delivered)]
      have unfetched : cpu.isFetching = false := by
        simp [Cpu.isFetching, delivered]
      exact simulation.takeInterrupt (relatedUnfetched unfetched) vector
  | none =>
      cases halted : cpu.halted with
      | true =>
          rw [Core.step_of_halted powered delivered halted,
            Core.step_of_halted poweredInPhase
              (show (cpu.inPhase phase).deliverable? = none from delivered) halted]
          have unfetched : cpu.isFetching = false := by
            simp [Cpu.isFetching, halted]
          exact ⟨rfl, rfl, relatedUnfetched unfetched⟩
      | false =>
          have fetching : cpu.isFetching :=
            Cpu.isFetching_iff.mpr ⟨powered, delivered, halted⟩
          have fetchingToo : (cpu.inPhase phase).isFetching :=
            Cpu.isFetching_iff.mpr ⟨poweredToo, delivered, halted⟩
          obtain ⟨sameFetch, stillRelated⟩ := fetchedAlike fetching
          rw [Core.step_of_isFetching fetching, Core.step_of_isFetching fetchingToo,
            Cpu.pc_inPhase]
          cases left : Bus.fetch bus cpu.pc with
          | mk fetched next =>
              cases right : Bus.fetch bus' cpu.pc with
              | mk fetched' next' =>
                  rw [left, right] at sameFetch stillRelated
                  cases (sameFetch : fetched = fetched')
                  cases fetched with
                  | opcode byte =>
                      exact simulation.executeOpcode stillRelated byte
                  | unmapped =>
                      exact ⟨rfl, rfl, stillRelated⟩
                  | refused =>
                      exact ⟨rfl, rfl, stillRelated⟩

end BusSimulation

/-! ## Invariants -/

/-- A property of a bus that every access but a fetch keeps. -/
def BusInvariant [Bus σ] (property : σ → Prop) : Prop :=
  BusSimulation fun left right => left = right ∧ property left

namespace BusInvariant

variable [Bus σ] {property : σ → Prop}

/-- A property that each kind of access keeps is an invariant. -/
theorem of_accesses
    (read : ∀ bus address, property bus → property (Bus.read bus address).2)
    (write : ∀ bus address value, property bus → property (Bus.write bus address value))
    (input : ∀ bus port, property bus → property (Bus.input bus port).2)
    (output : ∀ bus port value, property bus → property (Bus.output bus port value)) :
    BusInvariant property where
  read := by
    rintro left right ⟨rfl, holds⟩ address
    exact ⟨rfl, rfl, read left address holds⟩
  write := by
    rintro left right ⟨rfl, holds⟩ address value
    exact ⟨rfl, write left address value holds⟩
  input := by
    rintro left right ⟨rfl, holds⟩ port
    exact ⟨rfl, rfl, input left port holds⟩
  output := by
    rintro left right ⟨rfl, holds⟩ port value
    exact ⟨rfl, output left port value holds⟩

/-- What holds before a step without a fetch, or else after the fetch, holds after the step. -/
theorem step
    (invariant : BusInvariant property)
    {cpu : Cpu}
    {bus : σ}
    (unfetched : cpu.isFetching = false → property bus)
    (fetched : cpu.isFetching → property (Bus.fetch bus cpu.pc).2) :
    property (Core.step ⟨cpu, bus⟩).2.bus := by
  by_cases poweredOff : cpu.phase = .poweredOff
  · rw [Core.step_of_poweredOff poweredOff]
    exact unfetched (by simp [Cpu.isFetching, Cpu.isPowered, poweredOff])
  · have agreement :=
      BusSimulation.step invariant (fun idle => ⟨rfl, unfetched idle⟩) poweredOff poweredOff
        fun fetching => ⟨rfl, rfl, fetched fetching⟩
    exact agreement.2.bus.2

end BusInvariant

namespace Core

variable [Bus σ]

/-- A step leaves the engine phase as it is. -/
theorem step_phase (core : Core σ) :
    (step core).2.cpu.phase = core.cpu.phase := by
  obtain ⟨cpu, bus⟩ := core
  by_cases poweredOff : cpu.phase = .poweredOff
  · rw [step_of_poweredOff poweredOff]
  · have anything : BusInvariant fun _ : σ => True :=
      .of_accesses (fun _ _ _ => trivial) (fun _ _ _ _ => trivial)
        (fun _ _ _ => trivial) (fun _ _ _ _ => trivial)
    have agreement :=
      BusSimulation.step anything
        (fun _ : cpu.isFetching = false => (⟨rfl, trivial⟩ : bus = bus ∧ True))
        poweredOff poweredOff
        fun _ => ⟨rfl, rfl, trivial⟩
    simpa using congrArg Cpu.phase agreement.2.cpu

end Core

end Monitor8080
