import Monitor8080.Proofs.CallFrames
import Monitor8080.Proofs.RoundTrips
namespace Monitor8080

/-!
# The call behind a fresh return address

Right after a call its return address is on top of the stack, and the bytes
before that address are those of the call. The search for the call starts at the
nearest byte, so it finds the call itself unless the last of its operand bytes
alone is a restart: then that byte is taken for the call.
-/

/-! ## Memory after a word was pushed -/

namespace Memory

variable {memory : Memory} {address other : UInt16}

/-- A byte that is not written stays as it is. -/
theorem byte_writeWord_of_apart
    (low : address ≠ other)
    (high : address + 1 ≠ other)
    (word : UInt16) :
    (memory.writeWord address word).byte other = memory.byte other := by
  have byte_write :
      ∀ (memory : Memory) (place : UInt16) (value : UInt8),
        place ≠ other → (memory.write place value).byte other = memory.byte other := by
    intro memory place value apart
    rw [write]
    split
    · rw [byte_setByte, if_neg apart]
    · rfl
  rw [writeWord, byte_write _ _ _ high, byte_write _ _ _ low]

/-- Where memory can be written, the word that is written stands there. -/
theorem word_writeWord
    (low : (memory.blockKind address).isWritable)
    (high : (memory.blockKind (address + 1)).isWritable)
    (word : UInt16) :
    (memory.writeWord address word).word address = word := by
  have highWritable :
      ((memory.write address (lowByte word)).blockKind (address + 1)).isWritable := by
    rw [write, if_pos low]
    exact high
  rw [Memory.word, byte_writeWord low, writeWord, write, if_pos highWritable, byte_setByte,
    if_pos rfl, wordOfBytes_lowByte_highByte]

theorem byte_of_fetch?
    {opcode : UInt8}
    (mapped : memory.fetch? address = some opcode) :
    memory.byte address = opcode := by
  unfold fetch? at mapped
  split at mapped
  · cases mapped
  · exact Option.some.inj mapped

end Memory

/-! ## How long calls are -/

namespace Opcode

def isRestart (opcode : UInt8) : Bool :=
  opcode &&& 0xC7 == 0xC7

theorem isCall_of_isRestart
    {opcode : UInt8}
    (restarts : isRestart opcode) :
    isCall opcode := by
  rw [isRestart] at restarts
  rw [isCall, restarts, Bool.or_true]

/-- A restart is the only byte of its instruction, any other call has two bytes more. -/
theorem length_of_isCall
    {opcode : UInt8}
    (calls : (Instruction.ofOpcode opcode).isCall) :
    (Instruction.ofOpcode opcode).length = if isRestart opcode then 1 else 3 := by
  have everyCode :
      ∀ code : Fin 256,
        let opcode := UInt8.ofFin code
        (Instruction.ofOpcode opcode).isCall →
          (Instruction.ofOpcode opcode).length = if isRestart opcode then 1 else 3 := by
    decide +kernel
  exact everyCode opcode.toFin calls

end Opcode

/-! ## Searching for a call from where it ends -/

namespace CallChain

variable {view : View}

/-- The byte where it starts makes an instruction a call, and tells where it ends. -/
theorem isCallBefore_decode_iff
    {returnAddress : UInt16}
    {distance : Nat} :
    IsCallBefore view returnAddress distance
        (decode view.memory (returnAddress - UInt16.ofNat distance) view.dialect none) ↔
      let opcode := view.memory.byte (returnAddress - UInt16.ofNat distance)
      (Instruction.ofOpcode opcode).isCall ∧
        UInt16.ofNat (Instruction.ofOpcode opcode).length = UInt16.ofNat distance := by
  have next_eq_iff :
      ∀ length : UInt16,
        returnAddress - UInt16.ofNat distance + length = returnAddress ↔
          length = UInt16.ofNat distance := by
    intro length
    have whole := UInt16.sub_add_cancel returnAddress (UInt16.ofNat distance)
    conv_lhs => rhs; rw [← whole]
    exact UInt16.add_right_inj _
  constructor
  · rintro ⟨-, isCall, ends⟩
    rw [Decoded.next, Decoded.length, decode, Memory.length_bytesFrom, next_eq_iff] at ends
    exact ⟨isCall, ends⟩
  · rintro ⟨isCall, ends⟩
    refine ⟨rfl, isCall, ?_⟩
    rw [Decoded.next, Decoded.length, decode, Memory.length_bytesFrom, next_eq_iff]
    exact ends

/-- A call that ends before an address is a restart there, or starts three bytes before. -/
theorem IsCallBefore.opcode
    {returnAddress : UInt16}
    {distance : Nat}
    {call : Decoded}
    (isBefore : IsCallBefore view returnAddress distance call) :
    let opcode := view.memory.byte (returnAddress - UInt16.ofNat distance)
    (Instruction.ofOpcode opcode).isCall ∧
      UInt16.ofNat (if Opcode.isRestart opcode then 1 else 3) = UInt16.ofNat distance := by
  obtain rfl := isBefore.decoded
  obtain ⟨calls, ends⟩ := isCallBefore_decode_iff.mp isBefore
  rw [Opcode.length_of_isCall calls] at ends
  exact ⟨calls, ends⟩

/-- Where the search from the end of a call arrives: at its last byte if this alone is a restart. -/
def recovered (memory : Memory) (address : UInt16) : UInt16 :=
  if Opcode.isRestart (memory.byte address) then address
  else if Opcode.isRestart (memory.byte (address + 2)) then address + 2
  else address

/-- The search from the end of a restart arrives at the restart. -/
theorem isNearestCall_of_isRestart
    {address : UInt16}
    (restarts : Opcode.isRestart (view.memory.byte address))
    (window : 1 ≤ view.scanWindow) :
    IsNearestCall view (address + 1) (decode view.memory address view.dialect none) := by
  have calls : (Instruction.ofOpcode (view.memory.byte address)).isCall := by
    rw [(Instruction.ofOpcode_transfers _).2.1]
    exact Opcode.isCall_of_isRestart restarts
  have back : address + 1 - UInt16.ofNat 1 = address := UInt16.add_sub_cancel address 1
  have isBefore := @isCallBefore_decode_iff view (address + 1) 1
  rw [back] at isBefore
  refine ⟨1, Nat.le_refl 1, window, isBefore.mpr ⟨calls, ?_⟩, fun nearer other => by omega⟩
  rw [Opcode.length_of_isCall calls, if_pos restarts]

/-- The search from the end of a call arrives at the call or at a restart in its last byte. -/
theorem isNearestCall_recovered
    {address : UInt16}
    (calls : (Instruction.ofOpcode (view.memory.byte address)).isCall)
    (window : 3 ≤ view.scanWindow) :
    IsNearestCall view
      (address + UInt16.ofNat (Instruction.ofOpcode (view.memory.byte address)).length)
      (decode view.memory (recovered view.memory address) view.dialect none) := by
  have lastByte : address + 3 = address + 2 + 1 := (UInt16.add_assoc address 2 1).symm
  rw [Opcode.length_of_isCall calls, recovered]
  split
  · rename_i restarts
    exact isNearestCall_of_isRestart restarts (by omega)
  · rename_i notRestart
    split
    · rename_i restarts
      rw [show UInt16.ofNat 3 = 3 from rfl, lastByte]
      exact isNearestCall_of_isRestart restarts (by omega)
    · rename_i noRestart
      have back : address + UInt16.ofNat 3 - UInt16.ofNat 3 = address :=
        UInt16.add_sub_cancel _ _
      have isBefore := @isCallBefore_decode_iff view (address + UInt16.ofNat 3) 3
      rw [back] at isBefore
      refine ⟨3, by decide, window, isBefore.mpr ⟨calls, ?_⟩, ?_⟩
      · rw [Opcode.length_of_isCall calls, if_neg notRestart]
      · intro nearer other atLeast isNearer nearerIsBefore
        -- Only a restart is shorter than the call, and it ends only one byte after its start.
        obtain ⟨-, ends⟩ := nearerIsBefore.opcode
        obtain rfl | rfl : nearer = 1 ∨ nearer = 2 := by omega
        · have isLastByte : address + UInt16.ofNat 3 - UInt16.ofNat 1 = address + 2 :=
            (congrArg (· - 1) lastByte).trans (UInt16.add_sub_cancel (address + 2) 1)
          rw [isLastByte, if_neg noRestart] at ends
          exact absurd ends (by decide)
        · split at ends <;> exact absurd ends (by decide)

/-- Memories with the same bytes of a call lead the search to the same address. -/
theorem recovered_congr
    {memory other : Memory}
    {address : UInt16}
    (calls : (Instruction.ofOpcode (memory.byte address)).isCall)
    (same :
      ∀ offset < (Instruction.ofOpcode (memory.byte address)).length,
        other.byte (address + UInt16.ofNat offset) = memory.byte (address + UInt16.ofNat offset)) :
    other.byte address = memory.byte address ∧
      recovered other address = recovered memory address := by
  rw [Opcode.length_of_isCall calls] at same
  have first : other.byte address = memory.byte address := by
    have atStart := same 0 (by split <;> decide)
    rwa [show UInt16.ofNat 0 = 0 from rfl, UInt16.add_zero] at atStart
  refine ⟨first, ?_⟩
  rw [recovered, recovered, first]
  split
  · rfl
  · rename_i notRestart
    rw [if_neg notRestart] at same
    have last : other.byte (address + 2) = memory.byte (address + 2) := same 2 (by decide)
    rw [last]

/-- The word at the stack pointer makes the first frame. -/
theorem frames_eq_cons_of_isNearestCall
    {cpu : Cpu}
    {call : Decoded}
    (isNearest : IsNearestCall view (view.memory.word cpu.sp) call)
    {count : Nat}
    (wanted : 1 ≤ count) :
    ∃ frame rest,
      frames view cpu count = frame :: rest ∧
        frame.stackPointer = cpu.sp ∧
        frame.returnAddress = view.memory.word cpu.sp ∧ frame.call = call := by
  obtain ⟨rest, rfl⟩ := Nat.exists_eq_add_one.mpr wanted
  rw [frames, framesFrom_succ, frameAt?, callEndingAt?_eq_some_iff.mpr isNearest]
  exact ⟨_, _, rfl, rfl, rfl, rfl⟩

/--
The core is about to make a call whose return address can be written where the
stack pointer leads, beside the bytes of the call.
-/
structure IsMakingCall
    (core : Core Memory)
    (opcode : UInt8) : Prop where
  fetching : core.cpu.isFetching
  mapped : core.bus.fetch? core.cpu.pc = some opcode
  calls : (Instruction.ofOpcode opcode).isCall
  taken : (Instruction.ofOpcode opcode).isTaken core.cpu.flags
  low : (core.bus.blockKind (core.cpu.sp - 2)).isWritable
  high : (core.bus.blockKind (core.cpu.sp - 2 + 1)).isWritable
  apart :
    ∀ offset < (Instruction.ofOpcode opcode).length,
      core.cpu.sp - 2 ≠ core.cpu.pc + UInt16.ofNat offset ∧
        core.cpu.sp - 2 + 1 ≠ core.cpu.pc + UInt16.ofNat offset

section Calling

variable {core : Core Memory} {opcode : UInt8}

/-- After the call its return address is on top of the stack, and its bytes are as before. -/
theorem IsMakingCall.step
    (making : IsMakingCall core opcode) :
    core.step.2.bus.word core.step.2.cpu.sp =
        core.cpu.pc + UInt16.ofNat (Instruction.ofOpcode opcode).length ∧
      ∀ offset < (Instruction.ofOpcode opcode).length,
        core.step.2.bus.byte (core.cpu.pc + UInt16.ofNat offset) =
          core.bus.byte (core.cpu.pc + UInt16.ofNat offset) := by
  obtain ⟨sp, bus⟩ :=
    Core.pushesNext_of_isCall making.fetching making.mapped making.calls making.taken
      .intel8080 none
  rw [(decode_of_fetch? making.mapped .intel8080 none).2] at bus
  rw [bus, sp]
  refine ⟨Memory.word_writeWord making.low making.high _, fun offset inside => ?_⟩
  obtain ⟨low, high⟩ := making.apart offset inside
  exact Memory.byte_writeWord_of_apart low high _

/-- The search from the return address arrives at the call or at a restart in its last byte. -/
theorem IsMakingCall.isNearestCall
    (making : IsMakingCall core opcode)
    (isAfter : view.memory = core.step.2.bus)
    (window : 3 ≤ view.scanWindow) :
    IsNearestCall view (view.memory.word core.step.2.cpu.sp)
      (decode view.memory (recovered core.bus core.cpu.pc) view.dialect none) := by
  obtain ⟨returnAddress, unchanged⟩ := making.step
  obtain rfl := Memory.byte_of_fetch? making.mapped
  rw [← isAfter] at returnAddress unchanged
  obtain ⟨first, arrives⟩ := recovered_congr making.calls unchanged
  have calls := making.calls
  rw [← first] at calls
  have isNearest := isNearestCall_recovered calls window
  rwa [first, ← returnAddress, arrives] at isNearest

/--
The first frame after a call is the one of its return address. It shows the
call, or the restart in its last byte if there is one. A trace shows these
frames if the ends of all groups of symbols are words, as they are where no
symbols are looked at.
-/
theorem frames_after_call
    (making : IsMakingCall core opcode)
    (isAfter : view.memory = core.step.2.bus)
    (window : 3 ≤ view.scanWindow)
    {count : Nat}
    (wanted : 1 ≤ count) :
    ∃ frame rest,
      frames view core.step.2.cpu count = frame :: rest ∧
        (view.Fits → trace view core.step.2.cpu count = .ok (frame :: rest)) ∧
        frame.stackPointer = core.step.2.cpu.sp ∧
        frame.returnAddress =
          core.cpu.pc + UInt16.ofNat (Instruction.ofOpcode opcode).length ∧
        frame.call.address = recovered core.bus core.cpu.pc := by
  have isNearest := making.isNearestCall isAfter window
  obtain ⟨frame, rest, found, place, returnAddress, isCall⟩ :=
    frames_eq_cons_of_isNearestCall isNearest wanted
  refine ⟨frame, rest, found, fun fits => ?_, place, ?_, congrArg Decoded.address isCall⟩
  · rw [fits.trace_eq, found]
  · rw [returnAddress, isAfter, making.step.1]

end Calling

/-- A core about to make a call at 0000, given the last byte of its operand. -/
def callTo (page : UInt8) : Core Memory :=
  ⟨{ Cpu.initial with sp := 0x1000 }, Memory.empty.load 0x0000 [0xCD, 0x00, page]⟩

theorem byte_callTo
    (page : UInt8)
    (address : UInt16) :
    (callTo page).bus.byte address =
      if 0x0002 = address then page
      else if 0x0001 = address then 0x00
      else if 0x0000 = address then 0xCD
      else 0x00 := by
  simp only [callTo, Memory.load, Memory.byte_setByte, Memory.byte_empty]
  rfl

theorem isMakingCall_callTo (page : UInt8) : IsMakingCall (callTo page) 0xCD := by
  have kinds : ∀ address, (callTo page).bus.blockKind address = .ram := Memory.blockKind_empty
  refine ⟨rfl, ?_, rfl, rfl, ?_, ?_, ?_⟩
  · simp only [Memory.fetch?, kinds, byte_callTo]
    rfl
  · rw [kinds]
    rfl
  · rw [kinds]
    rfl
  · have apart :
        ∀ offset < 3,
          (0x1000 - 2 : UInt16) ≠ 0x0000 + UInt16.ofNat offset ∧
            (0x1000 - 2 + 1 : UInt16) ≠ 0x0000 + UInt16.ofNat offset := by
      decide
    exact apart

/-- A call to 0400 is shown by the first frame after it was made. -/
theorem frames_after_call_to_page_four :
    IsMakingCall (callTo 0x04) 0xCD ∧
      ∃ frame rest,
        trace ⟨(callTo 0x04).step.2.bus, .intel8080, 4, none⟩ (callTo 0x04).step.2.cpu 16 =
            .ok (frame :: rest) ∧
          frame.stackPointer = 0x0FFE ∧
          frame.returnAddress = 0x0003 ∧ frame.call.address = 0x0000 := by
  have arrives : recovered (callTo 0x04).bus (callTo 0x04).cpu.pc = 0x0000 := by
    simp only [recovered, byte_callTo]
    decide
  have making := isMakingCall_callTo 0x04
  have sp : (callTo 0x04).step.2.cpu.sp = 0x0FFE :=
    (Core.pushesNext_of_isCall making.fetching making.mapped making.calls making.taken
      .intel8080 none).sp
  obtain ⟨frame, rest, -, traced, place, returnAddress, isCall⟩ :=
    @frames_after_call ⟨(callTo 0x04).step.2.bus, .intel8080, 4, none⟩ (callTo 0x04) 0xCD making
      rfl (by decide) 16 (by decide)
  exact
    ⟨making, frame, rest, traced (fun _ none => by cases none), place.trans sp, returnAddress,
      isCall.trans arrives⟩

/-- The first frame after a call at 0000 to C700 shows the restart in its last byte instead. -/
theorem restart_in_call_is_shown :
    let view : View := ⟨(callTo 0xC7).step.2.bus, .intel8080, 4, none⟩
    IsMakingCall (callTo 0xC7) 0xCD ∧
      (callTo 0xC7).cpu.pc = 0x0000 ∧
      ∃ frame rest,
        trace view (callTo 0xC7).step.2.cpu 16 = .ok (frame :: rest) ∧
          frame.call.address = 0x0002 := by
  have arrives : recovered (callTo 0xC7).bus (callTo 0xC7).cpu.pc = 0x0002 := by
    simp only [recovered, byte_callTo]
    decide
  have making := isMakingCall_callTo 0xC7
  intro view
  have isNearest := @IsMakingCall.isNearestCall view _ _ making rfl (by decide)
  have wanted : 1 ≤ 16 := by decide
  obtain ⟨frame, rest, found, -, -, isCall⟩ := frames_eq_cons_of_isNearestCall isNearest wanted
  have fits : view.Fits := fun _ none => by cases none
  refine ⟨making, rfl, frame, rest, ?_, (congrArg Decoded.address isCall).trans arrives⟩
  rw [fits.trace_eq, found]

end CallChain

end Monitor8080
