import Monitor8080.Proofs.CallFrames
import Monitor8080.Proofs.DecodedFlow
import Monitor8080.Proofs.RoundTrips
import Monitor8080.Proofs.WrittenAddresses
namespace Monitor8080

/-!
# Notes of what the next step reads

Where an instruction is decoded with a processor at hand, each operand that it
reads from memory is noted with its address and its contents. What stands in
the note is what the processor gets: the step that executes the instruction
reads its operand from that address and obtains that value.
-/

/-- A value in memory with its address, as a note shows it. -/
inductive NotedInput where
  | byte (address : UInt16) (value : UInt8)
  | word (address value : UInt16)
  deriving Repr, DecidableEq

namespace NotedInput

/-- The note of a value and its address. -/
def text : NotedInput → String
  | .byte address value => "[" ++ Text.hexWord address ++ "]=" ++ Text.hexByte value
  | .word address value => "[" ++ Text.hexWord address ++ "]=" ++ Text.hexWord value

/-- The addresses from which the value is read, in that order. -/
def addresses : NotedInput → List UInt16
  | .byte address _ => [address]
  | .word address _ => [address, address + 1]

/-- The processor finds the value at the address. -/
def IsIn (memory : Memory) : NotedInput → Prop
  | .byte address value => memory.read address = value
  | .word address value => memory.readWord address = value

end NotedInput

/-- The byte at an address. -/
def Memory.byteInput (memory : Memory) (address : UInt16) : NotedInput :=
  .byte address (memory.byte address)

/-- The word at an address. -/
def Memory.wordInput (memory : Memory) (address : UInt16) : NotedInput :=
  .word address (memory.word address)

/-- The processor with another byte in a register. -/
def Cpu.withByte (cpu : Cpu) (register : ByteOperand) (value : UInt8) : Cpu :=
  match register with
  | .b => { cpu with b := value }
  | .c => { cpu with c := value }
  | .d => { cpu with d := value }
  | .e => { cpu with e := value }
  | .h => { cpu with h := value }
  | .l => { cpu with l := value }
  | .m => cpu
  | .a => { cpu with a := value }

namespace Instruction

/-- What an instruction at the program counter reads from memory for an operand after its first. -/
def input? (instruction : Instruction) (cpu : Cpu) (memory : Memory) : Option NotedInput :=
  match instruction with
  | .loadIndirect pointer => some (memory.byteInput (cpu.pointer pointer))
  | .loadDirect => some (memory.byteInput (memory.word (cpu.pc + 1)))
  | .loadHLDirect => some (memory.wordInput (memory.word (cpu.pc + 1)))
  | .move _ .m | .arithmetic _ .m => some (memory.byteInput cpu.hl)
  | _ => none

/-- The addresses of the bytes after the opcode of an instruction at some address. -/
def operandAddresses (instruction : Instruction) (address : UInt16) : List UInt16 :=
  (List.range' 1 (instruction.length - 1)).map fun index => address + UInt16.ofNat index

/--
The processor has taken a value from memory for its operand: a load has it in
its destination, and an operation has computed with it. Nothing else changes.
-/
def Took (instruction : Instruction) (input : NotedInput) (before after : Cpu) : Prop :=
  match instruction, input with
  | .loadIndirect _, .byte _ value | .loadDirect, .byte _ value =>
      after = { before with a := value }
  | .loadHLDirect, .word _ value => after = before.setHL value ∧ after.hl = value
  | .move destination _, .byte _ value => after = before.withByte destination value
  | .arithmetic op _, .byte _ value => after = before.applyAlu op value
  | _, _ => False

end Instruction

/-- The word at an address is what its two bytes write. -/
theorem Memory.word_eq (memory : Memory) (address : UInt16) :
    memory.word address =
      UInt16.ofNat (littleEndian [memory.byte address, memory.byte (address + 1)]) := by
  rw [← CallChain.toNat_wordOfBytes, UInt16.ofNat_toNat]
  rfl

/-- An instruction has a note of what it reads for an operand after its first, and no others. -/
theorem notes_renderOperands
    (instruction : Instruction)
    (memory : Memory)
    (dialect : Dialect)
    (cpu : Cpu)
    (opcode : UInt8) :
    (renderOperands memory dialect (some cpu) opcode true .byte
        (memory.bytesFrom cpu.pc instruction.length).tail instruction.operands).notes =
      (instruction.input? cpu memory).toList.map NotedInput.text := by
  cases instruction with
  | loadDirect | loadHLDirect =>
      rw [Instruction.input?, memory.word_eq]
      rfl
  | loadIndirect operand | storeIndirect operand | push operand | pop operand
  | incrementWord operand | decrementWord operand | addToHL operand | loadWordImmediate operand
  | increment operand | decrement operand | loadImmediate operand | arithmetic op operand =>
      cases operand <;> rfl
  | move destination source =>
      cases source <;> cases destination <;> rfl
  | _ =>
      rfl

section Execution

variable {memory : Memory} {cpu : Cpu} {address : UInt16}

theorem Memory.read_of_ne_unmapped
    (mapped : memory.blockKind address ≠ .unmapped) :
    memory.read address = memory.byte address := by
  unfold read
  split
  · rename_i unmapped
    exact absurd unmapped mapped
  · rfl

theorem Memory.readWord_of_ne_unmapped
    (low : memory.blockKind address ≠ .unmapped)
    (high : memory.blockKind (address + 1) ≠ .unmapped) :
    memory.readWord address = memory.word address := by
  rw [readWord, read_of_ne_unmapped low, read_of_ne_unmapped high]
  rfl

/-- What is read off an instruction stands in memory where that is mapped. -/
theorem Instruction.isIn_of_input?
    {instruction : Instruction}
    {input : NotedInput}
    (reads : instruction.input? cpu memory = some input)
    (mapped : ∀ address ∈ input.addresses, memory.blockKind address ≠ .unmapped) :
    input.IsIn memory := by
  have ofByte : ∀ {address}, memory.byteInput address = input → input.IsIn memory := by
    rintro address rfl
    exact Memory.read_of_ne_unmapped (mapped address List.mem_cons_self)
  have ofWord : ∀ {address}, memory.wordInput address = input → input.IsIn memory := by
    rintro address rfl
    exact Memory.readWord_of_ne_unmapped (mapped address List.mem_cons_self)
      (mapped (address + 1) (List.mem_cons_of_mem _ List.mem_cons_self))
  unfold input? at reads
  split at reads
  case h_3 => exact ofWord (Option.some.inj reads)
  case h_6 => cases reads
  all_goals exact ofByte (Option.some.inj reads)

section Steps

variable {instruction : Instruction} {input : NotedInput}

/-- The processor reads the word after an opcode as it stands in memory. -/
theorem Memory.readWord_operand
    (second : memory.blockKind (cpu.pc + UInt16.ofNat 1) ≠ .unmapped)
    (third : memory.blockKind (cpu.pc + UInt16.ofNat 2) ≠ .unmapped) :
    memory.readWord (cpu.pc + 1) = memory.word (cpu.pc + 1) := by
  refine readWord_of_ne_unmapped second ?_
  rwa [UInt16.add_assoc]

variable (reads : instruction.input? cpu memory = some input)
variable (noStore : instruction ≠ .move .m .m)
variable
  (whole :
    ∀ index < instruction.length,
      memory.blockKind (cpu.pc + UInt16.ofNat index) ≠ .unmapped)

include reads noStore whole

/-- An instruction reads its own bytes, which tell where its operand is, and then the operand. -/
theorem Instruction.accesses_of_input? :
    instruction.accesses { cpu with pc := cpu.pc + 1 } memory =
      (instruction.operandAddresses cpu.pc ++ input.addresses).map (.memory .read) := by
  have ownBytes :
      wordAccesses .read (cpu.pc + 1) =
        [.memory .read (cpu.pc + UInt16.ofNat 1), .memory .read (cpu.pc + UInt16.ofNat 2)] := by
    rw [wordAccesses, UInt16.add_assoc]
    rfl
  cases instruction with
  | loadDirect =>
      have word := Memory.readWord_operand (whole 1 (by decide)) (whole 2 (by decide))
      cases reads
      change wordAccesses .read (cpu.pc + 1) ++ [.memory .read (memory.readWord (cpu.pc + 1))] = _
      rw [word, ownBytes]
      rfl
  | loadHLDirect =>
      have word := Memory.readWord_operand (whole 1 (by decide)) (whole 2 (by decide))
      cases reads
      change wordAccesses .read (cpu.pc + 1) ++
        wordAccesses .read (memory.readWord (cpu.pc + 1)) = _
      rw [word, ownBytes]
      rfl
  | loadIndirect pointer =>
      cases reads
      cases pointer <;> rfl
  | move destination source =>
      cases source with
      | m =>
          cases reads
          cases destination with
          | m => exact absurd rfl noStore
          | _ => rfl
      | _ =>
          cases reads
  | arithmetic op source =>
      cases source with
      | m =>
          cases reads
          rfl
      | _ =>
          cases reads
  | _ =>
      cases reads

/-- An instruction leaves memory as it is and takes the value that its operand has there. -/
theorem Instruction.took_of_input?
    (isIn : input.IsIn memory) :
    (instruction.executed cpu memory).bus = memory ∧
      instruction.Took input
        { cpu with pc := cpu.pc + UInt16.ofNat instruction.length }
        (instruction.executed cpu memory).cpu := by
  have past : cpu.pc + 1 + 2 = cpu.pc + UInt16.ofNat 3 := UInt16.add_assoc _ _ _
  cases instruction with
  | loadDirect =>
      have word := Memory.readWord_operand (whole 1 (by decide)) (whole 2 (by decide))
      cases reads
      have value : memory.read (memory.word (cpu.pc + 1)) = memory.byte _ := isIn
      refine ⟨rfl, ?_⟩
      change { cpu with pc := cpu.pc + 1 + 2, a := memory.read (memory.readWord (cpu.pc + 1)) } = _
      rw [word, past, value]
      rfl
  | loadHLDirect =>
      have word := Memory.readWord_operand (whole 1 (by decide)) (whole 2 (by decide))
      cases reads
      have value : memory.readWord (memory.word (cpu.pc + 1)) = memory.word _ := isIn
      have loaded :
          (loadHLDirect.executed cpu memory).cpu =
            { cpu with pc := cpu.pc + UInt16.ofNat 3 }.setHL
              (memory.word (memory.word (cpu.pc + 1))) := by
        change
          { cpu with pc := cpu.pc + 1 + 2 }.setHL
            (memory.readWord (memory.readWord (cpu.pc + 1))) = _
        rw [word, past, value]
      refine ⟨rfl, loaded, ?_⟩
      rw [loaded]
      exact wordOfBytes_lowByte_highByte _
  | loadIndirect pointer =>
      cases reads
      have value : memory.read (cpu.pointer pointer) = memory.byte _ := isIn
      refine ⟨rfl, ?_⟩
      change { cpu with pc := cpu.pc + 1, a := memory.read (cpu.pointer pointer) } = _
      rw [value]
      cases pointer <;> rfl
  | move destination source =>
      cases source with
      | m =>
          cases reads
          have value : memory.read cpu.hl = memory.byte _ := isIn
          unfold Took Memory.byteInput
          simp only
          rw [← value]
          cases destination with
          | m => exact absurd rfl noStore
          | _ => exact ⟨rfl, rfl⟩
      | _ =>
          cases reads
  | arithmetic op source =>
      cases source with
      | m =>
          cases reads
          have value : memory.read cpu.hl = memory.byte _ := isIn
          refine ⟨rfl, ?_⟩
          change { cpu with pc := cpu.pc + 1 }.applyAlu op (memory.read cpu.hl) = _
          rw [value]
          rfl
      | _ =>
          cases reads
  | _ =>
      cases reads

end Steps

end Execution

/-! ## Notes as texts -/

namespace Text

theorem fixedHexDigits_eq
    {width left right : Nat}
    (same : fixedHexDigits width left = fixedHexDigits width right) :
    left % Nat.pow 16 width = right % Nat.pow 16 width := by
  have value := digitsValue?_fixedHexDigits width left
  rw [same, digitsValue?_fixedHexDigits] at value
  exact (Option.some.inj value).symm

theorem hexWord_injective : Function.Injective hexWord := by
  intro left right same
  have digits := fixedHexDigits_eq (String.ofList_injective same)
  rw [Nat.mod_eq_of_lt left.toNat_lt, Nat.mod_eq_of_lt right.toNat_lt] at digits
  exact UInt16.toNat_inj.mp digits

theorem hexByte_injective : Function.Injective hexByte := by
  intro left right same
  have digits := fixedHexDigits_eq (String.ofList_injective same)
  rw [Nat.mod_eq_of_lt left.toNat_lt, Nat.mod_eq_of_lt right.toNat_lt] at digits
  exact UInt8.toNat_inj.mp digits

theorem hexByte_ne_hexWord (byte : UInt8) (word : UInt16) : hexByte byte ≠ hexWord word := by
  intro same
  have lengths := congrArg List.length (String.ofList_injective same)
  rw [length_fixedHexDigits, length_fixedHexDigits] at lengths
  cases lengths

end Text

namespace NotedInput

open Text (hexWord hexByte)

/-- The address of a note has four digits, so the value after it starts at a known place. -/
theorem parts_of_note_eq
    {left right : UInt16}
    {first second : String}
    (same : "[" ++ hexWord left ++ "]=" ++ first = "[" ++ hexWord right ++ "]=" ++ second) :
    left = right ∧ first = second := by
  have written := congrArg String.toList same
  simp only [String.toList_append, List.append_assoc] at written
  obtain ⟨-, fromAddress⟩ := List.append_inj written rfl
  obtain ⟨address, afterAddress⟩ := List.append_inj fromAddress (by
    rw [Text.length_toList_hexWord, Text.length_toList_hexWord])
  obtain ⟨-, value⟩ := List.append_inj afterAddress rfl
  exact ⟨Text.hexWord_injective (String.toList_injective address), String.toList_injective value⟩

/-- A note tells the address and the value, and whether it is a byte or a word. -/
theorem text_injective : Function.Injective text := by
  intro left right same
  cases left with
  | byte address value =>
      cases right with
      | byte other otherValue =>
          obtain ⟨rfl, values⟩ := parts_of_note_eq same
          rw [Text.hexByte_injective values]
      | word other otherValue =>
          exact absurd (parts_of_note_eq same).2 (Text.hexByte_ne_hexWord value otherValue)
  | word address value =>
      cases right with
      | byte other otherValue =>
          exact absurd (parts_of_note_eq same).2.symm (Text.hexByte_ne_hexWord otherValue value)
      | word other otherValue =>
          obtain ⟨rfl, values⟩ := parts_of_note_eq same
          rw [Text.hexWord_injective values]

end NotedInput

/-! ## Opcodes that read an operand -/

namespace Opcode

/-- Loads from memory and operations on the byte that `HL` points to; `76` is the halt. -/
def readsOperand (opcode : UInt8) : Bool :=
  opcode &&& 0xEF == 0x0A || opcode == 0x2A || opcode == 0x3A
    || (opcode &&& 0xC7 == 0x46 && opcode != 0x76) || opcode &&& 0xC7 == 0x86

end Opcode

namespace Instruction

/-- Whether the instruction reads an operand other than its first one from memory. -/
def readsOperand : Instruction → Bool
  | .loadIndirect _ | .loadDirect | .loadHLDirect | .move _ .m | .arithmetic _ .m => true
  | _ => false

theorem isSome_input?
    (instruction : Instruction)
    (cpu : Cpu)
    (memory : Memory) :
    (instruction.input? cpu memory).isSome = instruction.readsOperand := by
  cases instruction with
  | move destination source =>
      cases source <;> rfl
  | arithmetic op source =>
      cases source <;> rfl
  | _ =>
      rfl

/-- The two readings of an opcode agree on what reads an operand; none moves a byte to its place. -/
theorem ofOpcode_readsOperand (opcode : UInt8) :
    (ofOpcode opcode).readsOperand = Opcode.readsOperand opcode ∧
      ofOpcode opcode ≠ .move .m .m := by
  have everyCode :
      ∀ code : Fin 256,
        (ofOpcode (UInt8.ofFin code)).readsOperand = Opcode.readsOperand (UInt8.ofFin code) ∧
          ofOpcode (UInt8.ofFin code) ≠ .move .m .m := by
    decide +kernel
  exact everyCode opcode.toFin

/-- Time that passes is no part of what an instruction takes. -/
theorem Took.tick
    {instruction : Instruction}
    {input : NotedInput}
    {before after : Cpu}
    (took : instruction.Took input before after)
    (count : Nat) :
    instruction.Took input (before.tick count) (after.tick count) := by
  unfold Took at *
  split at took
  case h_3 => exact ⟨congrArg (·.tick count) took.1, took.2⟩
  case h_4 destination _ _ value =>
      rw [took]
      cases destination <;> rfl
  case h_6 => exact took
  all_goals exact congrArg (·.tick count) took

end Instruction

/--
A step takes an operand from memory: it reads the bytes of its instruction and
then the operand at its address, and nothing else, it obtains the value, leaves
memory as it is, and the processor past the instruction has taken the value.
-/
structure Core.Takes (core : Core Memory) (decoded : Decoded) (input : NotedInput) : Prop where
  accesses :
    core.accesses =
      (decoded.instruction.operandAddresses decoded.address ++ input.addresses).map (.memory .read)
  value : input.IsIn core.bus
  bus : core.step.2.bus = core.bus
  cpu :
    ∃ count,
      core.step.1 = .ok count ∧
        decoded.instruction.Took input
          ({ core.cpu with pc := decoded.next }.tick count) core.step.2.cpu

/-- A step that executes an instruction takes the operand that is read off it. -/
theorem Core.takes_of_input?
    {core : Core Memory}
    {opcode : UInt8}
    {input : NotedInput}
    (fetching : core.cpu.isFetching)
    (fetched : core.bus.fetch? core.cpu.pc = some opcode)
    (reads : (Instruction.ofOpcode opcode).input? core.cpu core.bus = some input)
    (whole :
      ∀ index < (Instruction.ofOpcode opcode).length,
        core.bus.blockKind (core.cpu.pc + UInt16.ofNat index) ≠ .unmapped)
    (mapped : ∀ address ∈ input.addresses, core.bus.blockKind address ≠ .unmapped)
    (dialect : Dialect)
    (live? : Option Cpu) :
    core.Takes (decode core.bus core.cpu.pc dialect live?) input := by
  have noStore := (Instruction.ofOpcode_readsOperand opcode).2
  have isIn := Instruction.isIn_of_input? reads mapped
  obtain ⟨instruction, next⟩ := decode_of_fetch? fetched dialect live?
  obtain ⟨count, stepped⟩ := step_of_fetch? fetching fetched
  obtain ⟨bus, took⟩ := Instruction.took_of_input? reads noStore whole isIn
  refine ⟨?_, isIn, by rw [stepped]; exact bus, count, by rw [stepped], ?_⟩
  · obtain ⟨powered, undisturbed, awake⟩ := Cpu.isFetching_iff.mp fetching
    rw [accesses_eq, prescribedAccesses, if_neg powered, undisturbed, awake, fetched, instruction]
    exact Instruction.accesses_of_input? reads noStore whole
  · rw [stepped, instruction, next]
    exact took.tick count

/--
What is noted beside a decoded instruction is what its execution reads. Each
note is the text of an address with the byte or the word there, and exactly the
opcodes that read an operand from memory have one. If the bytes of the
instruction and the noted addresses are mapped, the step reads its operand from
there, obtains the noted value and leaves it in its destination or computes
with it. Both words and instructions may go around the end of the address space.
-/
theorem steps_take_noted_inputs
    {core : Core Memory}
    (fetching : core.cpu.isFetching)
    (dialect : Dialect)
    (whole :
      ∀ index < (decode core.bus core.cpu.pc dialect (some core.cpu)).length,
        core.bus.blockKind (core.cpu.pc + UInt16.ofNat index) ≠ .unmapped) :
    let decoded := decode core.bus core.cpu.pc dialect (some core.cpu)
    (∀ note ∈ decoded.notes, ∃ input : NotedInput, note = input.text) ∧
      (decoded.notes ≠ [] ↔ Opcode.readsOperand (core.bus.byte core.cpu.pc)) ∧
      ∀ input : NotedInput,
        input.text ∈ decoded.notes →
        (∀ address ∈ input.addresses, core.bus.blockKind address ≠ .unmapped) →
          core.Takes decoded input := by
  intro decoded
  have notes :
      decoded.notes =
        ((Instruction.ofOpcode (core.bus.byte core.cpu.pc)).input? core.cpu
          core.bus).toList.map NotedInput.text :=
    notes_renderOperands _ _ _ _ _
  have length :
      decoded.length = (Instruction.ofOpcode (core.bus.byte core.cpu.pc)).length :=
    Memory.length_bytesFrom _ _ _
  change ∀ index < decoded.length, _ at whole
  rw [length] at whole
  rw [notes, ← (Instruction.ofOpcode_readsOperand _).1, ← Instruction.isSome_input?]
  cases reads : (Instruction.ofOpcode (core.bus.byte core.cpu.pc)).input? core.cpu core.bus with
  | none =>
      simp
  | some input =>
      refine ⟨by simp, by simp, fun other noted mapped => ?_⟩
      have same : other = input := by
        simpa [NotedInput.text_injective.eq_iff] using noted
      have fetched : core.bus.fetch? core.cpu.pc = some (core.bus.byte core.cpu.pc) := by
        have opcodeMapped : core.bus.blockKind core.cpu.pc ≠ .unmapped := by
          simpa using whole 0 (Nat.lt_of_lt_of_le Nat.zero_lt_one (Nat.le_add_right 1 _))
        unfold Memory.fetch?
        split
        · rename_i unmapped
          exact absurd unmapped opcodeMapped
        · rfl
      subst same
      exact Core.takes_of_input? fetching fetched reads whole mapped dialect (some core.cpu)

/-- A word that starts with the last byte of the address space ends with the first one. -/
theorem noted_word_wraps :
    let core : Core Memory :=
      ⟨{ Cpu.initial with pc := 0x0100 },
        ((Memory.empty.load 0x0100 [0x2A, 0xFF, 0xFF]).setByte 0xFFFF 0x34).setByte 0x0000 0x12⟩
    core.cpu.isFetching ∧
      "[FFFF]=1234" ∈ (decode core.bus core.cpu.pc .intel8080 (some core.cpu)).notes ∧
      core.step.2.cpu.hl = 0x1234 := by
  intro core
  have bytes :
      ∀ address,
        core.bus.byte address =
          if 0x0000 = address then 0x12
          else if 0xFFFF = address then 0x34
          else if 0x0102 = address then 0xFF
          else if 0x0101 = address then 0xFF
          else if 0x0100 = address then 0x2A
          else 0 := by
    intro address
    simp only [core, Memory.load, Memory.byte_setByte, Memory.byte_empty]
    rfl
  have kinds : ∀ address, core.bus.blockKind address ≠ .unmapped := by
    intro address
    have ram : core.bus.blockKind address = .ram := Memory.blockKind_empty address
    rw [ram]
    decide
  have opcode : core.bus.byte core.cpu.pc = 0x2A := (bytes 0x0100).trans (by decide)
  have target : core.bus.word 0x0101 = 0xFFFF := by
    simp only [Memory.word, bytes]
    decide
  have value : core.bus.word 0xFFFF = 0x1234 := by
    simp only [Memory.word, bytes]
    decide
  let decoded := decode core.bus core.cpu.pc .intel8080 (some core.cpu)
  have instruction : decoded.instruction = .loadHLDirect := congrArg Instruction.ofOpcode opcode
  have notes : decoded.notes = ["[FFFF]=1234"] := by
    refine (notes_renderOperands _ core.bus .intel8080 core.cpu _).trans ?_
    rw [opcode]
    change [(core.bus.wordInput (core.bus.word 0x0101)).text] = _
    rw [target, Memory.wordInput, value]
    decide
  have noted : (NotedInput.word 0xFFFF 0x1234).text ∈ decoded.notes := by
    rw [notes]
    decide
  obtain ⟨-, -, takes⟩ :=
    @steps_take_noted_inputs core rfl .intel8080 fun index _ => kinds _
  obtain ⟨count, -, took⟩ := (takes (.word 0xFFFF 0x1234) noted fun address _ => kinds address).cpu
  rw [instruction] at took
  exact ⟨rfl, by rw [notes]; exact List.mem_cons_self, took.2⟩

end Monitor8080
