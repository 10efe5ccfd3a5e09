import Monitor8080.Disassembly.Decode
import Monitor8080.Proofs.ControlTransfers
namespace Monitor8080

/-!
# Instruction boundaries as they are decoded

What is decoded at the program counter tells what the next step does: where the
instruction ends, whether control goes elsewhere, and whether a return address
is pushed or popped. Which opcodes transfer control is also read off their
bits, so that both readings of an opcode are compared.
-/

/-! ## Opcodes by their bits -/

namespace Opcode

/-- Jumps, also the one through `HL`. -/
def isJump (opcode : UInt8) : Bool :=
  opcode &&& 0xC7 == 0xC2 || opcode &&& 0xF7 == 0xC3 || opcode == 0xE9

/-- Calls, among them the four that are made without a condition, and restarts. -/
def isCall (opcode : UInt8) : Bool :=
  opcode &&& 0xC7 == 0xC4 || opcode &&& 0xCF == 0xCD || opcode &&& 0xC7 == 0xC7

def isReturn (opcode : UInt8) : Bool :=
  opcode &&& 0xC7 == 0xC0 || opcode &&& 0xEF == 0xC9

/-- The condition that the middle bits of a conditional jump, call or return select. -/
def condition? (opcode : UInt8) : Option Condition :=
  if [0xC0, 0xC2, 0xC4].contains (opcode &&& 0xC7) then
    some (.ofCode (opcode >>> 3 &&& 7).toNat)
  else
    none

end Opcode

namespace Instruction

/-- The two readings of an opcode agree on what transfers control, and when. -/
theorem ofOpcode_transfers (opcode : UInt8) :
    (ofOpcode opcode).isJump = Opcode.isJump opcode ∧
      (ofOpcode opcode).isCall = Opcode.isCall opcode ∧
      (ofOpcode opcode).isReturn = Opcode.isReturn opcode ∧
      (ofOpcode opcode).condition? = Opcode.condition? opcode := by
  have everyCode :
      ∀ code : Fin 256,
        let opcode := UInt8.ofFin code
        (ofOpcode opcode).isJump = Opcode.isJump opcode ∧
          (ofOpcode opcode).isCall = Opcode.isCall opcode ∧
          (ofOpcode opcode).isReturn = Opcode.isReturn opcode ∧
          (ofOpcode opcode).condition? = Opcode.condition? opcode := by
    decide +kernel
  exact everyCode opcode.toFin

end Instruction

/-! ## Decoding -/

@[simp] theorem Memory.length_bytesFrom
    (memory : Memory)
    (address : UInt16)
    (count : Nat) :
    (memory.bytesFrom address count).length = count := by
  induction count generalizing address with
  | zero =>
      rfl
  | succ count inductionHypothesis =>
      exact congrArg (· + 1) (inductionHypothesis (address + 1))

/-- A stretch of bytes in two parts, of which the second one begins where the first one ends. -/
theorem Memory.bytesFrom_add
    (memory : Memory)
    (address : UInt16)
    (first second : Nat) :
    memory.bytesFrom address (first + second) =
      memory.bytesFrom address first ++ memory.bytesFrom (address + UInt16.ofNat first) second := by
  induction first generalizing address with
  | zero =>
      rw [Nat.zero_add, show UInt16.ofNat 0 = 0 from rfl, UInt16.add_zero]
      rfl
  | succ first inductionHypothesis =>
      rw [Nat.add_right_comm, bytesFrom, inductionHypothesis, UInt16.ofNat_add, UInt16.add_assoc,
        UInt16.add_comm 1]
      rfl

/-- Places less than the address space behind one address have different addresses. -/
theorem Memory.add_ofNat_inj
    {start : UInt16}
    {first second : Nat}
    (firstInside : first < size)
    (secondInside : second < size)
    (same : start + UInt16.ofNat first = start + UInt16.ofNat second) :
    first = second := by
  have sameOffset := congrArg UInt16.toNat ((UInt16.add_right_inj start).mp same)
  rw [size] at firstInside secondInside
  rw [UInt16.toNat_ofNat', UInt16.toNat_ofNat'] at sameOffset
  omega

/-- Where an opcode can be fetched, its instruction is decoded, with as many bytes as it has. -/
theorem decode_of_fetch?
    {memory : Memory}
    {address : UInt16}
    {opcode : UInt8}
    (mapped : memory.fetch? address = some opcode)
    (dialect : Dialect)
    (live? : Option Cpu) :
    (decode memory address dialect live?).instruction = .ofOpcode opcode ∧
      (decode memory address dialect live?).next =
        address + UInt16.ofNat (Instruction.ofOpcode opcode).length := by
  have found : memory.byte address = opcode := by
    unfold Memory.fetch? at mapped
    split at mapped
    · cases mapped
    · exact Option.some.inj mapped
  refine ⟨congrArg Instruction.ofOpcode found, ?_⟩
  rw [Decoded.next, Decoded.length, decode, Memory.length_bytesFrom, found]

/-! ## Steps -/

namespace Core

/-- A word is pushed: it is written where the stack pointer points to after it went down by two. -/
structure Pushes (before : Core Memory) (word : UInt16) (after : Core Memory) : Prop where
  sp : after.cpu.sp = before.cpu.sp - 2
  bus : after.bus = before.bus.writeWord (before.cpu.sp - 2) word

/-- The program counter is taken from where the stack pointer points to, which goes up by two. -/
structure PopsPC (before after : Core Memory) : Prop where
  pc : after.cpu.pc = before.bus.readWord before.cpu.sp
  sp : after.cpu.sp = before.cpu.sp + 2

/-- The address after the instruction at the program counter is pushed. -/
def PushesNext (before after : Core Memory) : Prop :=
  ∀ dialect live?,
    before.Pushes (decode before.bus before.cpu.pc dialect live?).next after

variable {core : Core Memory} {opcode : UInt8}

/-- A step that fetches an opcode executes its instruction, and time passes. -/
theorem step_of_fetch?
    (fetching : core.cpu.isFetching)
    (mapped : core.bus.fetch? core.cpu.pc = some opcode) :
    ∃ count,
      core.step =
        (.ok count,
          ⟨((Instruction.ofOpcode opcode).executed core.cpu core.bus).cpu.tick count,
            ((Instruction.ofOpcode opcode).executed core.cpu core.bus).bus⟩) := by
  obtain ⟨cpu, memory⟩ := core
  have mapped : memory.fetch? cpu.pc = some opcode := mapped
  rw [step_of_isFetching fetching]
  simp only [Bus.fetch, mapped]
  exact ⟨_, rfl⟩

end Core

/-! ## What opcodes do by their nature -/

namespace Opcode

/--
Every step of the opcode with these flags has the effect, whatever else is in
the registers and in memory. So a word that is pushed is the return address
only if it is no register that happens to hold the same word.
-/
def Entails
    (opcode : UInt8)
    (flags : Flags)
    (effect : Core Memory → Core Memory → Prop) : Prop :=
  ∀ core : Core Memory,
    core.cpu.isFetching →
      core.bus.fetch? core.cpu.pc = some opcode →
        core.cpu.flags = flags → effect core core.step.2

/-- A core about to execute the opcode, with zeros in the other registers and all over memory. -/
def probe (opcode : UInt8) (flags : Flags) : Core Memory :=
  ⟨{ Cpu.initial with flags := flags, sp := 0x1000 }, Memory.empty.setByte 0 opcode⟩

section Probe

variable (opcode : UInt8) (flags : Flags)

theorem sp_probe : (probe opcode flags).cpu.sp = 0x1000 :=
  rfl

theorem hl_probe : (probe opcode flags).cpu.hl = 0 := by
  change wordOfBytes 0 0 = 0
  decide

theorem blockKind_probe (address : UInt16) : (probe opcode flags).bus.blockKind address = .ram :=
  Memory.blockKind_empty address

theorem byte_probe (address : UInt16) :
    (probe opcode flags).bus.byte address = if 0 = address then opcode else 0 := by
  rw [probe, Memory.byte_setByte, Memory.byte_empty]

theorem fetch?_probe :
    (probe opcode flags).bus.fetch? (probe opcode flags).cpu.pc = some opcode := by
  simp only [Memory.fetch?, blockKind_probe, byte_probe]
  exact congrArg some (if_pos rfl)

theorem readWord_probe
    {address : UInt16}
    (low : 0 ≠ address)
    (high : 0 ≠ address + 1) :
    (probe opcode flags).bus.readWord address = 0 := by
  simp only [Memory.readWord, Memory.read, blockKind_probe, byte_probe, if_neg low, if_neg high]
  rfl

/-- No register of the probe holds the address after the opcode. -/
theorem stackWord_probe (register : StackRegister) :
    lowByte ((probe opcode flags).cpu.stackWord register) ≠ 1 := by
  have status : ∀ flags : Flags, lowByte (wordOfBytes flags.toByte 0) ≠ 1 := by
    rintro ⟨sign, zero, auxCarry, parity, carry⟩
    revert sign zero auxCarry parity carry
    decide
  cases register with
  | psw =>
      exact status flags
  | _ =>
      change lowByte (wordOfBytes 0 0) ≠ 1
      decide

end Probe

end Opcode

namespace Core

variable {core : Core Memory} {opcode : UInt8}
variable (fetching : core.cpu.isFetching) (mapped : core.bus.fetch? core.cpu.pc = some opcode)

include fetching mapped

/-- A call that is made pushes the address after its bytes. -/
theorem pushesNext_of_isCall
    (calls : (Instruction.ofOpcode opcode).isCall)
    (taken : (Instruction.ofOpcode opcode).isTaken core.cpu.flags) :
    core.PushesNext core.step.2 := by
  obtain ⟨count, stepped⟩ := step_of_fetch? fetching mapped
  obtain ⟨sp, bus⟩ := Instruction.executed_of_isCall core.bus calls taken
  intro dialect live?
  rw [stepped, (decode_of_fetch? mapped dialect live?).2]
  exact ⟨sp, bus⟩

/-- A return that is made pops the program counter. -/
theorem popsPC_of_isReturn
    (returns : (Instruction.ofOpcode opcode).isReturn)
    (taken : (Instruction.ofOpcode opcode).isTaken core.cpu.flags) :
    core.PopsPC core.step.2 := by
  obtain ⟨count, stepped⟩ := step_of_fetch? fetching mapped
  obtain ⟨pc, sp⟩ := Instruction.executed_of_isReturn core.bus returns taken
  rw [stepped]
  exact ⟨pc, sp⟩

end Core

namespace Opcode

variable {opcode : UInt8} {flags : Flags}

/-- A step of the probe executes the instruction of the opcode. -/
theorem step_probe (opcode : UInt8) (flags : Flags) :
    ∃ count,
      (probe opcode flags).step =
        (.ok count,
          ⟨((Instruction.ofOpcode opcode).executed (probe opcode flags).cpu
              (probe opcode flags).bus).cpu.tick count,
            ((Instruction.ofOpcode opcode).executed (probe opcode flags).cpu
              (probe opcode flags).bus).bus⟩) :=
  Core.step_of_fetch? (show (probe opcode flags).cpu.isFetching from rfl)
    (fetch?_probe opcode flags)

/-- The probe's stack pointer goes down or up by two only if a word is pushed or popped. -/
theorem sp_step_probe :
    ((probe opcode flags).step.2.cpu.sp = 0x1000 - 2 →
        (Instruction.ofOpcode opcode).isCall ∧ (Instruction.ofOpcode opcode).isTaken flags ∨
          ∃ register, Instruction.ofOpcode opcode = .push register) ∧
      ((probe opcode flags).step.2.cpu.sp = 0x1000 + 2 →
        (Instruction.ofOpcode opcode).isReturn ∧ (Instruction.ofOpcode opcode).isTaken flags ∨
          ∃ register, Instruction.ofOpcode opcode = .pop register) := by
  have sp :
      (probe opcode flags).step.2.cpu.sp =
        (Instruction.ofOpcode opcode).stackPointer (probe opcode flags).cpu
          (probe opcode flags).bus := by
    obtain ⟨count, stepped⟩ := step_probe opcode flags
    rw [← Instruction.executed_sp, stepped]
    rfl
  have notLowered : 0x1000 - 2 ∉ ([0, 0, 0x1000, 0x1000 + 1, 0x1000 - 1] : List UInt16) := by
    decide
  have notRaised : 0x1000 + 2 ∉ ([0, 0, 0x1000, 0x1000 + 1, 0x1000 - 1] : List UInt16) := by
    decide
  have loaded : (probe opcode flags).bus.readWord 1 = 0 :=
    readWord_probe opcode flags (by decide) (by decide)
  have moves :=
    @Instruction.stackPointer_cases (.ofOpcode opcode) (probe opcode flags).cpu
      (probe opcode flags).bus
  rw [← sp, show (probe opcode flags).cpu.pc + 1 = 1 from rfl, loaded, hl_probe,
    sp_probe] at moves
  rcases moves with moved | ⟨lowered, pushes⟩ | ⟨raised, pops⟩
  · exact
      ⟨fun lowered => absurd (lowered ▸ moved) notLowered,
        fun raised => absurd (raised ▸ moved) notRaised⟩
  · exact ⟨fun _ => pushes, fun raised => absurd (lowered.symm.trans raised) (by decide)⟩
  · exact ⟨fun lowered => absurd (raised.symm.trans lowered) (by decide), fun _ => pops⟩

theorem entails_pushesNext_iff :
    Entails opcode flags Core.PushesNext ↔
      (Instruction.ofOpcode opcode).isCall ∧ (Instruction.ofOpcode opcode).isTaken flags := by
  constructor
  · intro entails
    have fetched := fetch?_probe opcode flags
    have pushes := entails (probe opcode flags) rfl fetched rfl .intel8080 none
    have lowered : (probe opcode flags).step.2.cpu.sp = 0x1000 - 2 := pushes.sp
    rcases sp_step_probe.1 lowered with calls | ⟨register, isPush⟩
    · exact calls
    · -- A register is pushed, and none of the probe holds the address after the opcode.
      obtain ⟨count, stepped⟩ := step_probe opcode flags
      have next :
          (decode (probe opcode flags).bus (probe opcode flags).cpu.pc .intel8080 none).next =
            1 := by
        rw [(decode_of_fetch? fetched .intel8080 none).2, isPush]
        cases register <;> rfl
      have bus := pushes.bus
      simp only [stepped, isPush, Instruction.executed_bus_of_push, next] at bus
      have writable :
          ((probe opcode flags).bus.blockKind ((probe opcode flags).cpu.sp - 2)).isWritable := by
        rw [blockKind_probe]
        rfl
      have low := congrArg (·.byte ((probe opcode flags).cpu.sp - 2)) bus
      simp only [Memory.byte_writeWord writable] at low
      exact absurd low (stackWord_probe opcode flags register)
  · rintro ⟨calls, taken⟩ core fetching mapped rfl
    exact Core.pushesNext_of_isCall fetching mapped calls taken

theorem entails_popsPC_iff :
    Entails opcode flags Core.PopsPC ↔
      (Instruction.ofOpcode opcode).isReturn ∧ (Instruction.ofOpcode opcode).isTaken flags := by
  constructor
  · intro entails
    have pops := entails (probe opcode flags) rfl (fetch?_probe opcode flags) rfl
    have raised : (probe opcode flags).step.2.cpu.sp = 0x1000 + 2 := pops.sp
    rcases sp_step_probe.2 raised with returns | ⟨register, isPop⟩
    · exact returns
    · -- A register is popped, and control goes past the opcode instead of to the popped word.
      obtain ⟨count, stepped⟩ := step_probe opcode flags
      have word : (probe opcode flags).bus.readWord 0x1000 = 0 :=
        readWord_probe opcode flags (by decide) (by decide)
      have popped : (probe opcode flags).step.2.cpu.pc = 0 := pops.pc.trans word
      have passed : (probe opcode flags).step.2.cpu.pc = 1 := by
        rw [stepped, isPop]
        cases register <;> rfl
      exact absurd (popped.symm.trans passed) (by decide)
  · rintro ⟨returns, taken⟩ core fetching mapped rfl
    exact Core.popsPC_of_isReturn fetching mapped returns taken

end Opcode

/--
What is decoded at the program counter tells what a step does to the flow of
control. Where an opcode can be fetched, the decoder and the bits of the opcode
agree on whether it is a jump, a call or a return, and on its condition. The
step is made, and control goes past the bytes decoded unless it is transferred.
With these flags, the opcode pushes the address after its bytes if and only if
it is a call that is made, and pops the program counter if and only if it is a
return that is made. Addresses go around the end of the address space.
-/
theorem steps_follow_decoding
    {core : Core Memory}
    {opcode : UInt8}
    (fetching : core.cpu.isFetching)
    (mapped : core.bus.fetch? core.cpu.pc = some opcode)
    (dialect : Dialect)
    (live? : Option Cpu) :
    let decoded := decode core.bus core.cpu.pc dialect live?
    let taken := decoded.instruction.isTaken core.cpu.flags
    decoded.instruction.isJump = Opcode.isJump opcode ∧
      decoded.isCall = Opcode.isCall opcode ∧
      decoded.instruction.isReturn = Opcode.isReturn opcode ∧
      decoded.instruction.condition? = Opcode.condition? opcode ∧
      (∃ count, core.step.1 = .ok count) ∧
      decoded.next = core.cpu.pc + UInt16.ofNat decoded.length ∧
      core.step.2.cpu.pc = (if taken then decoded.instruction.target core else decoded.next) ∧
      (Opcode.Entails opcode core.cpu.flags Core.PushesNext ↔ decoded.isCall ∧ taken) ∧
      (decoded.isCall ∧ taken → core.Pushes decoded.next core.step.2) ∧
      (Opcode.Entails opcode core.cpu.flags Core.PopsPC ↔
        decoded.instruction.isReturn ∧ taken) ∧
      (decoded.instruction.isReturn ∧ taken → core.PopsPC core.step.2) := by
  intro decoded taken
  obtain ⟨instruction, next⟩ := decode_of_fetch? mapped dialect live?
  have calls : decoded.isCall = (Instruction.ofOpcode opcode).isCall :=
    congrArg Instruction.isCall instruction
  have made : taken = (Instruction.ofOpcode opcode).isTaken core.cpu.flags :=
    congrArg (·.isTaken core.cpu.flags) instruction
  obtain ⟨sameJumps, sameCalls, sameReturns, sameCondition⟩ :=
    Instruction.ofOpcode_transfers opcode
  obtain ⟨count, stepped⟩ := Core.step_of_fetch? fetching mapped
  rw [made, calls, instruction]
  refine
    ⟨sameJumps, sameCalls, sameReturns, sameCondition, ⟨count, by rw [stepped]⟩, rfl, ?_,
      Opcode.entails_pushesNext_iff, ?_, Opcode.entails_popsPC_iff, ?_⟩
  · rw [stepped, next]
    exact Instruction.executed_pc _ core.cpu core.bus
  · rintro ⟨isCall, isMade⟩
    exact Core.pushesNext_of_isCall fetching mapped isCall isMade dialect live?
  · rintro ⟨isReturn, isMade⟩
    exact Core.popsPC_of_isReturn fetching mapped isReturn isMade

/-- An undocumented call at the end of the address space takes its target from both ends of it. -/
theorem undocumented_call_wraps :
    let core : Core Memory :=
      ⟨{ Cpu.initial with pc := 0xFFFE, sp := 0x2000 },
        Memory.empty.load 0xFFFE [0xDD, 0x34, 0x12]⟩
    core.cpu.isFetching ∧
      core.bus.fetch? core.cpu.pc = some 0xDD ∧
      core.step.2.cpu.pc = 0x1234 ∧
      core.Pushes 0x0001 core.step.2 := by
  intro core
  have fetching : core.cpu.isFetching := rfl
  have bytes :
      ∀ address,
        core.bus.byte address =
          if 0x0000 = address then 0x12
          else if 0xFFFF = address then 0x34
          else if 0xFFFE = address then 0xDD
          else 0 := by
    intro address
    simp only [core, Memory.load, Memory.byte_setByte, Memory.byte_empty]
    rfl
  have kinds : ∀ address, core.bus.blockKind address = .ram := Memory.blockKind_empty
  have mapped : core.bus.fetch? core.cpu.pc = some 0xDD := by
    simp only [Memory.fetch?, kinds, bytes]
    rfl
  have target : core.bus.readWord 0xFFFF = 0x1234 := by
    simp only [Memory.readWord, Memory.read, kinds, bytes]
    decide
  obtain ⟨instruction, next⟩ := decode_of_fetch? mapped .intel8080 none
  have wraps : (decode core.bus core.cpu.pc .intel8080 none).next = 0x0001 :=
    next.trans (by decide)
  obtain ⟨-, -, -, -, -, -, pc, -, pushes, -⟩ :=
    steps_follow_decoding fetching mapped .intel8080 none
  rw [instruction] at pc
  rw [wraps] at pushes
  rw [Decoded.isCall, instruction] at pushes
  exact ⟨fetching, mapped, pc.trans target, pushes ⟨rfl, rfl⟩⟩

end Monitor8080
