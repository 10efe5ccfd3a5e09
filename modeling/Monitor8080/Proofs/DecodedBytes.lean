import Monitor8080.Disassembly.Scan
import Monitor8080.Proofs.CallFrames
import Monitor8080.Proofs.CarryChains
import Monitor8080.Proofs.RangeListings
namespace Monitor8080

/-!
# Decoding depends only on the bytes

An instruction is as long as its operands are together, and moving a location
through it byte by byte ends where that length says. Neither the dialect nor a
processor at hand moves the location otherwise, so whoever decodes one
instruction after the other from some address on finds the same ones.
-/

/-! ## Bytes taken one after the other -/

namespace Location

/-- The location moved to an address. -/
def movedTo (location : Location) (address : UInt16) : Location :=
  { location with address? := some address }

theorem movedTo_address
    {location : Location}
    {address : UInt16}
    (here : location.address? = some address) :
    location.movedTo address = location := by
  rw [movedTo, ← here]

theorem movedTo_shifted
    (location : Location)
    (address : UInt16) :
    (location.movedTo address).shifted 1 = location.movedTo (address + 1) := rfl

end Location

/-- Bytes taken from an address on are those that stand there, and so is their value. -/
theorem Memory.takeBytes_movedTo
    (memory : Memory)
    (location : Location)
    (address : UInt16)
    (count : Nat) :
    memory.takeBytes (location.movedTo address) count =
      ⟨memory.bytesFrom address count,
        UInt16.ofNat (littleEndian (memory.bytesFrom address count)),
        location.movedTo (address + UInt16.ofNat count)⟩ := by
  induction count generalizing address with
  | zero =>
      rw [takeBytes, show UInt16.ofNat 0 = 0 from rfl, UInt16.add_zero]
      rfl
  | succ count inductionHypothesis =>
      have behind : address + 1 + UInt16.ofNat count = address + UInt16.ofNat (count + 1) := by
        rw [UInt16.ofNat_add, UInt16.add_assoc, UInt16.add_comm 1]
        rfl
      rw [takeBytes, Location.movedTo_shifted, inductionHypothesis, behind]
      simp only [CallChain.shiftLeft_or_toUInt16]
      rfl

/-! ## Operands read one after the other -/

theorem Operand.extraBytes_le_two (operand : Operand) (width : Width) :
    operand.extraBytes width ≤ 2 := by
  unfold extraBytes
  split
  · cases width <;> decide
  · exact Nat.le_refl 2
  · exact Nat.zero_le 2

/-- The value of the bytes of an operand fits into a word. -/
theorem Operand.toNat_value
    (memory : Memory)
    (address : UInt16)
    (operand : Operand)
    (width : Width) :
    let bytes := memory.bytesFrom address (operand.extraBytes width)
    (UInt16.ofNat (littleEndian bytes)).toNat = littleEndian bytes := by
  intro bytes
  have bounded := littleEndian_lt bytes
  have few : 256 ^ bytes.length ≤ 256 ^ 2 := by
    refine Nat.pow_le_pow_right (by decide) ?_
    rw [Memory.length_bytesFrom]
    exact operand.extraBytes_le_two width
  exact UInt16.toNat_ofNat_of_lt' (Nat.lt_of_lt_of_le bounded few)

section Operands

variable (memory : Memory) (dialect : Dialect) (live? : Option Cpu) (opcode : UInt8)

/-- An operand is rendered from the bytes that it takes, and those after it from what follows. -/
theorem renderOperands_append
    {width : Width}
    {operand : Operand}
    {own : List UInt8}
    (takes : own.length = operand.extraBytes (operand.width?.getD width))
    (isFirst : Bool)
    (later : List UInt8)
    (operands : List Operand) :
    let ownWidth := operand.width?.getD width
    let rest := renderOperands memory dialect live? opcode false ownWidth later operands
    renderOperands memory dialect live? opcode isFirst width (own ++ later) (operand :: operands) =
      ⟨operand.shownTexts dialect opcode ownWidth (littleEndian own) ++ rest.texts,
        operand.liveNotes memory live? isFirst ownWidth (littleEndian own) ++ rest.notes⟩ := by
  intro ownWidth rest
  have texts : ∀ value,
      operand.shownTexts dialect opcode ownWidth value =
        if operand.isImplied ∧ dialect = .intel8080 then []
        else [operand.text dialect opcode ownWidth value] := by
    intro value
    unfold Operand.shownTexts Operand.isShown
    cases operand.isImplied <;> cases dialect <;> rfl
  simp only [texts, renderOperands, List.take_left' takes, List.drop_left' takes]
  rfl

namespace OperandScan

variable (location : Location) (address : UInt16) (width : Width) (isFirst : Bool)
variable (taken : List UInt8) (texts notes : List String)

theorem readOperand_movedTo (operand : Operand) :
    let own := operand.width?.getD width
    let bytes := memory.bytesFrom address (operand.extraBytes own)
    readOperand memory dialect live? opcode
        ⟨location.movedTo address, width, isFirst, taken, texts, notes⟩ operand =
      { location := location.movedTo (address + UInt16.ofNat (operand.extraBytes own))
        width := own
        isFirst := false
        bytes := taken ++ bytes
        texts := texts ++ operand.shownTexts dialect opcode own (littleEndian bytes)
        notes := notes ++ operand.liveNotes memory live? isFirst own (littleEndian bytes) } := by
  intro own bytes
  have fits := operand.toNat_value memory address own
  simp only [readOperand, memory.takeBytes_movedTo, own, bytes, fits]

/--
Reading operands takes as many bytes as they have together, shown or not, and
renders them as if their bytes had been known before.
-/
theorem readOperands_movedTo (operands : List Operand) :
    let bytes := memory.bytesFrom address (operandBytes width operands)
    let rendered := renderOperands memory dialect live? opcode isFirst width bytes operands
    readOperands memory dialect live? opcode
        ⟨location.movedTo address, width, isFirst, taken, texts, notes⟩ operands =
      { location := location.movedTo (address + UInt16.ofNat (operandBytes width operands))
        width := operands.foldl (fun width operand => operand.width?.getD width) width
        isFirst := isFirst && operands.isEmpty
        bytes := taken ++ bytes
        texts := texts ++ rendered.texts
        notes := notes ++ rendered.notes } := by
  -- Each operand hands its width and the place behind it on to the next, so both vary.
  induction operands generalizing address width isFirst taken texts notes with
  | nil =>
      have nowhere : address + UInt16.ofNat 0 = address := UInt16.add_zero address
      simp only [readOperands, operandBytes, renderOperands, Memory.bytesFrom, List.foldl_nil,
        List.append_nil, nowhere, List.isEmpty_nil, Bool.and_true]
  | cons operand operands inductionHypothesis =>
      let own := operand.width?.getD width
      let count := operand.extraBytes own
      have behind :
          address + UInt16.ofNat count + UInt16.ofNat (operandBytes own operands) =
            address + UInt16.ofNat (operandBytes width (operand :: operands)) := by
        rw [UInt16.add_assoc, ← UInt16.ofNat_add]
        rfl
      have split :
          memory.bytesFrom address (operandBytes width (operand :: operands)) =
            memory.bytesFrom address count ++
              memory.bytesFrom (address + UInt16.ofNat count) (operandBytes own operands) :=
        memory.bytesFrom_add address count _
      have takes : (memory.bytesFrom address count).length = count := Memory.length_bytesFrom ..
      have first := readOperand_movedTo memory dialect live? opcode location address width isFirst
        taken texts notes operand
      have rest := inductionHypothesis (address + UInt16.ofNat count) own false
        (taken ++ memory.bytesFrom address count)
        (texts ++ operand.shownTexts dialect opcode own
          (littleEndian (memory.bytesFrom address count)))
        (notes ++ operand.liveNotes memory live? isFirst own
          (littleEndian (memory.bytesFrom address count)))
      have parts := renderOperands_append memory dialect live? opcode takes isFirst
        (memory.bytesFrom (address + UInt16.ofNat count) (operandBytes own operands)) operands
      simp only [split, parts, ← behind, ← List.append_assoc]
      rw [readOperands, List.foldl_cons, first]
      refine rest.trans ?_
      simp only [Bool.false_and, List.isEmpty_cons, Bool.and_false]
      rfl

end OperandScan

end Operands

/-! ## Values shown -/

/-- The width of a value of so many bytes. -/
def Width.ofCount : Nat → Width
  | 1 => .byte
  | _ => .word

namespace Operand

/-- Whether an operand is written after the opcode: an immediate value or a direct address. -/
def isWritten (operand : Operand) : Bool :=
  operand.place = .immediate ∨ operand.place = .memory ∧ operand.register? = none

/-- An operand that is written after the opcode, as a dialect shows its digits. -/
def around (operand : Operand) (dialect : Dialect) (digits : String) : String :=
  if operand.place = .memory ∧ dialect = .intel8086 then "[" ++ digits ++ "]" else digits

/-- The text of an operand of an instruction with some bytes after its opcode. -/
def textAmong (operand : Operand) (dialect : Dialect) (opcode : UInt8)
    (bytes : List UInt8) : String :=
  if operand.isWritten then
    operand.around dialect
      (String.ofList (Text.fixedHexDigits (2 * bytes.length) (littleEndian bytes)))
  else
    operand.text dialect opcode .byte 0

theorem text_of_not_isWritten
    {operand : Operand}
    (unwritten : operand.isWritten = false)
    (dialect : Dialect)
    (opcode : UInt8)
    (width : Width)
    (value : Nat) :
    operand.text dialect opcode width value = operand.text dialect opcode .byte 0 := by
  obtain ⟨width?, place, register?, isImplied⟩ := operand
  cases place with
  | register | interruptNumber =>
      rfl
  | immediate =>
      cases unwritten
  | memory =>
      cases register? with
      | none => cases unwritten
      | some register => rfl

/-- A value as wide as its bytes has two digits for each of them. -/
theorem valueText_littleEndian
    {width : Width}
    {bytes : List UInt8}
    (wide : width.bytes = bytes.length) :
    valueText width (littleEndian bytes) =
      String.ofList (Text.fixedHexDigits (2 * bytes.length) (littleEndian bytes)) := by
  have bounded := littleEndian_lt bytes
  rw [← wide] at bounded ⊢
  cases width with
  | byte =>
      rw [valueText, Text.hexByte, UInt8.toNat_ofNat_of_lt' bounded]
      rfl
  | word =>
      rw [valueText, Text.hexWord, UInt16.toNat_ofNat_of_lt' bounded]
      rfl

/-- An operand that takes all the bytes after the opcode shows their value. -/
theorem text_of_isWritten
    {operand : Operand}
    {width : Width}
    {bytes : List UInt8}
    (written : operand.isWritten)
    (takes : operand.extraBytes width = bytes.length)
    (dialect : Dialect)
    (opcode : UInt8) :
    operand.text dialect opcode width (littleEndian bytes) =
      operand.around dialect
        (String.ofList (Text.fixedHexDigits (2 * bytes.length) (littleEndian bytes))) := by
  obtain ⟨width?, place, register?, isImplied⟩ := operand
  cases place with
  | register | interruptNumber =>
      cases written
  | immediate =>
      exact valueText_littleEndian takes
  | memory =>
      cases register? with
      | some register =>
          cases written
      | none =>
          -- A direct address is a word, whatever is found there.
          have wide : Width.word.bytes = bytes.length := takes
          rw [← valueText_littleEndian wide]
          cases dialect <;> rfl

end Operand

/-- An operand that is written after the opcode takes all the bytes there. -/
theorem Instruction.extraBytes_of_isWritten
    {opcode : UInt8}
    {operand : Operand}
    (member : operand ∈ (ofOpcode opcode).operands)
    (written : operand.isWritten) :
    let count := operandBytes .byte (ofOpcode opcode).operands
    operand.extraBytes (Width.ofCount count) = count := by
  have everyCode :
      ∀ code : Fin 256,
        let operands := (ofOpcode (UInt8.ofFin code)).operands
        ∀ operand ∈ operands,
          operand.isWritten →
            operand.extraBytes (Width.ofCount (operandBytes .byte operands)) =
              operandBytes .byte operands := by
    decide +kernel
  exact everyCode opcode.toFin operand member written

theorem texts_renderOperands
    (instruction : Instruction)
    (memory : Memory)
    (dialect : Dialect)
    (live? : Option Cpu)
    (opcode : UInt8)
    (address : UInt16) :
    let count := operandBytes .byte instruction.operands
    let bytes := memory.bytesFrom address count
    (renderOperands memory dialect live? opcode true .byte bytes instruction.operands).texts =
      (instruction.operands.filter (·.isShown dialect)).map fun operand =>
        operand.text dialect opcode (Width.ofCount count) (littleEndian bytes) := by
  -- At most one operand of an instruction takes bytes, so it takes all of them.
  cases instruction with
  | loadIndirect operand | storeIndirect operand | push operand | pop operand
  | incrementWord operand | decrementWord operand | addToHL operand | loadWordImmediate operand
  | increment operand | decrement operand | loadImmediate operand | arithmetic op operand =>
      cases dialect <;> cases operand <;> rfl
  | move destination source =>
      cases dialect <;> cases source <;> cases destination <;> rfl
  | _ =>
      cases dialect <;> rfl

/-! ## Instructions -/

/-! ### The opcode table -/

/-- An entry of the opcode table tells of an opcode what its bit fields tell. -/
structure OpcodeEntry.Agrees (entry : OpcodeEntry) (opcode : UInt8) : Prop where
  operands : entry.operands = (Instruction.ofOpcode opcode).operands
  mnemonic : ∀ dialect, entry.id.mnemonic dialect = (Instruction.ofOpcode opcode).mnemonic dialect
  isCall : entry.id.isCall = (Instruction.ofOpcode opcode).isCall
  isReturn : entry.id.isReturn = (Instruction.ofOpcode opcode).isReturn
  isUndocumented : entry.isUndocumented = Monitor8080.isUndocumented opcode
  length : entry.length = (Instruction.ofOpcode opcode).length

namespace OpcodeEntry

theorem ofOpcode_agrees (opcode : UInt8) : (ofOpcode opcode).Agrees opcode := by
  have everyCode :
      ∀ code : Fin 256,
        let opcode := UInt8.ofFin code
        let entry := ofOpcode opcode
        let instruction := Instruction.ofOpcode opcode
        entry.operands = instruction.operands ∧
          (∀ dialect ∈ [.intel8080, .intel8086],
            entry.id.mnemonic dialect = instruction.mnemonic dialect) ∧
          entry.id.isCall = instruction.isCall ∧
          entry.id.isReturn = instruction.isReturn ∧
          entry.isUndocumented = Monitor8080.isUndocumented opcode := by
    decide +kernel
  obtain ⟨operands, mnemonics, isCall, isReturn, isUndocumented⟩ := everyCode opcode.toFin
  refine ⟨operands, fun dialect => mnemonics dialect ?_, isCall, isReturn, isUndocumented, ?_⟩
  · cases dialect <;> decide
  · exact congrArg (fun operands => 1 + operandBytes .byte operands) operands

end OpcodeEntry

section Instructions

variable {memory : Memory} {location : Location} {start : UInt16}
variable (here : location.address? = some start)

include here

/-- Decoding byte by byte finds the instruction at a location and ends behind it. -/
theorem decodeAt?_eq
    (dialect : Dialect)
    (live? : Option Cpu) :
    decodeAt? memory location dialect live? =
      some (decode memory start dialect live?,
        location.movedTo (decode memory start dialect live?).next) := by
  let opcode := memory.byte start
  let operands := (Instruction.ofOpcode opcode).operands
  have shifted : location.shifted 1 = location.movedTo (start + 1) := by
    rw [← Location.movedTo_shifted, Location.movedTo_address here]
  have read := OperandScan.readOperands_movedTo memory dialect live? opcode location (start + 1)
    .byte true [opcode] [] [] operands
  have length : (Instruction.ofOpcode opcode).length = operandBytes .byte operands + 1 :=
    Nat.add_comm ..
  have behind :
      (decode memory start dialect live?).next =
        start + 1 + UInt16.ofNat (operandBytes .byte operands) := by
    rw [Decoded.next, Decoded.length, decode, Memory.length_bytesFrom, length, Nat.add_comm,
      UInt16.ofNat_add, ← UInt16.add_assoc]
    rfl
  have agrees := OpcodeEntry.ofOpcode_agrees opcode
  rw [decodeAt?, here, Option.map_some, behind]
  simp only [agrees.operands, agrees.mnemonic, agrees.isUndocumented, OperandScan.afterOpcode,
    shifted, read, decode, length, Memory.bytesFrom, opcode, operands]
  rfl

end Instructions

/-- The operands that a dialect shows, with the value of the bytes after the opcode. -/
theorem operands_decode
    (memory : Memory)
    (address : UInt16)
    (dialect : Dialect)
    (live? : Option Cpu) :
    let decoded := decode memory address dialect live?
    decoded.operands =
      (decoded.instruction.operands.filter (·.isShown dialect)).map fun operand =>
        operand.textAmong dialect (memory.byte address) decoded.bytes.tail := by
  intro decoded
  let opcode := memory.byte address
  let count := operandBytes .byte (Instruction.ofOpcode opcode).operands
  have tail : decoded.bytes.tail = memory.bytesFrom (address + 1) count := by
    change (memory.bytesFrom address (1 + count)).tail = _
    rw [Nat.add_comm]
    rfl
  have takesAll : decoded.bytes.tail.length = count := by
    rw [tail, Memory.length_bytesFrom]
  calc
    decoded.operands
        = (renderOperands memory dialect live? opcode true .byte decoded.bytes.tail
            decoded.instruction.operands).texts := rfl
    _ = (decoded.instruction.operands.filter (·.isShown dialect)).map fun operand =>
          operand.text dialect opcode (Width.ofCount count) (littleEndian decoded.bytes.tail) := by
          rw [tail]
          exact texts_renderOperands ..
    _ = _ := by
          refine List.map_congr_left fun operand member => ?_
          have isOperand := (List.mem_filter.mp member).1
          unfold Operand.textAmong
          by_cases written : operand.isWritten
          · have takes := Instruction.extraBytes_of_isWritten isOperand written
            rw [if_pos written, Operand.text_of_isWritten written (takes.trans takesAll.symm)]
          · have unwritten := Bool.eq_false_of_not_eq_true written
            rw [if_neg written, Operand.text_of_not_isWritten unwritten]

/-! ## What decoding depends on -/

theorem Memory.bytesFrom_eq_map
    (memory : Memory)
    (address : UInt16)
    (count : Nat) :
    memory.bytesFrom address count =
      (List.range count).map fun index => memory.byte (address + UInt16.ofNat index) := by
  induction count generalizing address with
  | zero =>
      rfl
  | succ count inductionHypothesis =>
      have first : address + UInt16.ofNat 0 = address := UInt16.add_zero address
      rw [bytesFrom, inductionHypothesis, List.range_succ_eq_map, List.map_cons, first,
        List.map_map]
      refine congrArg _ (List.map_congr_left fun index _ => ?_)
      rw [Function.comp_apply, Nat.succ_eq_add_one, UInt16.ofNat_add, UInt16.add_assoc,
        UInt16.add_comm 1]
      rfl

/-- All of a decoded instruction that the bytes from an address on decide, how ever it is shown. -/
structure Decoded.IsFoundAt
    (memory : Memory)
    (start : UInt16)
    (decoded : Decoded) : Prop where
  address : decoded.address = start
  instruction : decoded.instruction = Instruction.ofOpcode (memory.byte start)
  isUndocumented : decoded.isUndocumented = Monitor8080.isUndocumented (memory.byte start)
  length : decoded.length = decoded.instruction.length
  short : decoded.length ∈ [1, 2, 3]
  bytes :
    decoded.bytes =
      (List.range decoded.length).map fun index => memory.byte (start + UInt16.ofNat index)

theorem isFoundAt_decode
    (memory : Memory)
    (start : UInt16)
    (dialect : Dialect)
    (live? : Option Cpu) :
    (decode memory start dialect live?).IsFoundAt memory start := by
  have length :
      (decode memory start dialect live?).length =
        (Instruction.ofOpcode (memory.byte start)).length :=
    Memory.length_bytesFrom ..
  obtain ⟨positive, atMost⟩ := Instruction.length_ofOpcode (memory.byte start)
  exact {
    address := rfl
    instruction := rfl
    isUndocumented := rfl
    length := length
    short := by
      rw [length, List.mem_cons, List.mem_cons, List.mem_singleton]
      omega
    bytes := by
      rw [length]
      exact memory.bytesFrom_eq_map start _ }

/-- Two decoded instructions are the same but for what is shown of them. -/
structure Decoded.IsLike (decoded other : Decoded) : Prop where
  bytes : decoded.bytes = other.bytes
  length : decoded.length = other.length
  instruction : decoded.instruction = other.instruction
  isUndocumented : decoded.isUndocumented = other.isUndocumented
  next : decoded.next = other.next

theorem isLike_decode
    (memory : Memory)
    (start : UInt16)
    (dialect otherDialect : Dialect)
    (live? otherLive? : Option Cpu) :
    (decode memory start dialect live?).IsLike (decode memory start otherDialect otherLive?) :=
  ⟨rfl, rfl, rfl, rfl, rfl⟩

/-- Decodes one instruction after the other, each as it is to be shown. -/
def decodeEach (memory : Memory) :
    List (Dialect × Option Cpu) → Location → List Decoded × Location
  | [], location => ([], location)
  | (dialect, live?) :: views, location =>
      match decodeAt? memory location dialect live? with
      | none => ([], location)
      | some (decoded, behind) =>
          let (later, last) := decodeEach memory views behind
          (decoded :: later, last)

/-- Decoding one instruction after the other follows their chain in memory. -/
theorem decodeEach_eq
    {memory : Memory}
    {location : Location}
    {start : UInt16}
    (here : location.address? = some start)
    (views : List (Dialect × Option Cpu)) :
    (decodeEach memory views location).1.map (·.address) =
        (List.range views.length).map (memory.chain start) ∧
      (decodeEach memory views location).2 =
        location.movedTo (memory.chain start views.length) := by
  induction views generalizing location start with
  | nil =>
      exact ⟨rfl, (Location.movedTo_address here).symm⟩
  | cons view views inductionHypothesis =>
      obtain ⟨dialect, live?⟩ := view
      have next : (decode memory start dialect live?).next = memory.addressAfter start := by
        rw [Decoded.next, (isFoundAt_decode ..).length]
        rfl
      have moved :
          (location.movedTo (memory.addressAfter start)).address? =
            some (memory.addressAfter start) :=
        rfl
      obtain ⟨addresses, last⟩ := inductionHypothesis moved
      rw [decodeEach, decodeAt?_eq here, next]
      simp only [List.map_cons, addresses, last, List.length_cons, List.range_succ_eq_map,
        List.map_map, Memory.chain_succ]
      refine ⟨congrArg _ (List.map_congr_left fun index _ => ?_), rfl⟩
      exact (memory.chain_succ start index).symm

/--
Decoding at a location depends only on the bytes from its address on. Nothing
that is shown, dialect or processor, decides where an instruction ends.
-/
structure DependsOnBytes
    (memory : Memory)
    (location : Location)
    (start : UInt16) : Prop where
  /-- An instruction is found, and the location moves behind it. -/
  found :
    ∀ dialect live?, ∃ decoded,
      decodeAt? memory location dialect live? = some (decoded, location.movedTo decoded.next) ∧
        decoded.IsFoundAt memory start ∧
        decoded.operands =
          (decoded.instruction.operands.filter (·.isShown dialect)).map fun operand =>
            operand.textAmong dialect (memory.byte start) decoded.bytes.tail
  alike :
    ∀ dialect otherDialect live? otherLive?, ∃ decoded other behind,
      decodeAt? memory location dialect live? = some (decoded, behind) ∧
        decodeAt? memory location otherDialect otherLive? = some (other, behind) ∧
        decoded.IsLike other
  /-- An operand that is left out takes its bytes. -/
  leftOut :
    ∀ dialect live? opcode (scan : OperandScan) (operand : Operand),
      scan.location = location →
        operand.isShown dialect = false →
          let count := operand.extraBytes (operand.width?.getD scan.width)
          let read := scan.readOperand memory dialect live? opcode operand
          read.texts = scan.texts ∧
            read.bytes = scan.bytes ++ memory.bytesFrom start count ∧
            read.location = location.movedTo (start + UInt16.ofNat count)
  /-- However each is shown, the instructions are those of one chain. -/
  chain :
    ∀ views,
      (decodeEach memory views location).1.map (·.address) =
          (List.range views.length).map (memory.chain start) ∧
        (decodeEach memory views location).2 =
          location.movedTo (memory.chain start views.length)

/--
Decoding depends only on the bytes. It finds an instruction of as many bytes as
the first of them says, whose operands show the value of the others, and what
is shown makes no difference to the bytes taken, to the location behind them,
nor to the instructions found from there on.
-/
theorem decoding_depends_only_on_bytes
    {memory : Memory}
    {location : Location}
    {start : UInt16}
    (here : location.address? = some start) :
    DependsOnBytes memory location start where
  found dialect live? :=
    ⟨decode memory start dialect live?, decodeAt?_eq here dialect live?, isFoundAt_decode ..,
      operands_decode ..⟩
  alike dialect otherDialect live? otherLive? :=
    ⟨_, _, _, decodeAt?_eq here dialect live?, decodeAt?_eq here otherDialect otherLive?,
      isLike_decode ..⟩
  leftOut := by
    intro dialect live? opcode scan operand there hidden count read
    subst there
    obtain ⟨location, width, isFirst, bytes, texts, notes⟩ := scan
    have moved := OperandScan.readOperand_movedTo memory dialect live? opcode location start width
      isFirst bytes texts notes operand
    have nothing : ∀ value,
        operand.shownTexts dialect opcode (operand.width?.getD width) value = [] := by
      intro value
      rw [Operand.shownTexts, hidden]
      rfl
    rw [Location.movedTo_address here] at moved
    simp only [read, moved, nothing, List.append_nil, count, and_self]
  chain := decodeEach_eq here

/-- A jump across the top of memory, and an operand that would take bytes without being shown. -/
theorem jump_across_top_depends_only_on_bytes :
    let memory := ((Memory.empty.setByte 0xFFFE 0xC3).setByte 0xFFFF 0x34).setByte 0 0x12
    let location := Location.ofAddress 0xFFFE
    location.address? = some 0xFFFE ∧
      (Operand.immediate .word).implied.isShown .intel8080 = false ∧
      DependsOnBytes memory location 0xFFFE ∧
      (decodeAt? memory location .intel8080 none).map (fun found => found.1.operands) =
        some ["1234"] := by
  intro memory location
  have opcode : memory.byte 0xFFFE = 0xC3 := by
    simp only [memory, Memory.byte_setByte]
    rfl
  have bytes : memory.bytesFrom 0xFFFE 3 = [0xC3, 0x34, 0x12] := by
    simp only [memory, Memory.bytesFrom, Memory.byte_setByte]
    rfl
  have jump : (Instruction.ofOpcode 0xC3).length = 3 := rfl
  have here : location.address? = some 0xFFFE := rfl
  refine ⟨here, rfl, decoding_depends_only_on_bytes here, ?_⟩
  rw [decodeAt?_eq here, decode, opcode, jump, bytes]
  rfl

end Monitor8080
