import Monitor8080.Disassembly.Decode
import Monitor8080.Disassembly.OpcodeTable
import Monitor8080.Location
namespace Monitor8080

/-!
# Decoding byte by byte

Decoding moves a location through an instruction: past the opcode, whose entry in
the opcode table tells the operands, and then operand by operand past the bytes
that each one takes. How long an instruction
is shows from where the location is left. Nothing is looked up in advance, and
an operand that a dialect leaves out is passed like any other.
-/

/-- Bytes taken from memory, the value that they write and the location behind them. -/
structure TakenBytes where
  bytes : List UInt8
  value : UInt16
  location : Location

/-- Takes bytes at a location one after the other, lowest first. -/
def Memory.takeBytes (memory : Memory) (location : Location) : (count : Nat) → TakenBytes
  | 0 => ⟨[], 0, location⟩
  | count + 1 =>
      let byte := memory.byteAt location
      let rest := memory.takeBytes (location.shifted 1) count
      ⟨byte :: rest.bytes, (rest.value <<< 8) ||| byte.toUInt16, rest.location⟩

namespace Operand

/-- Whether a dialect shows an operand. -/
def isShown (dialect : Dialect) (operand : Operand) : Bool :=
  !(operand.isImplied && dialect == .intel8080)

/-- What is shown of an operand: its text, or nothing if it is left out. -/
def shownTexts (operand : Operand) (dialect : Dialect) (opcode : UInt8)
    (width : Width) (value : Nat) : List String :=
  if operand.isShown dialect then [operand.text dialect opcode width value] else []

/-- What is noted of an operand: what it reads from memory, if a processor is at hand. -/
def liveNotes (operand : Operand) (memory : Memory) (live? : Option Cpu) (isFirst : Bool)
    (width : Width) (value : Nat) : List String :=
  match live? with
  | some cpu =>
      if operand.place = .memory ∧ !isFirst then
        [note memory width (operand.target cpu value)]
      else
        []
  | none => []

end Operand

/-- An instruction as far as it has been read. -/
structure OperandScan where
  location : Location
  /-- The width of the operand read last. -/
  width : Width
  isFirst : Bool
  bytes : List UInt8
  texts : List String
  notes : List String

namespace OperandScan

/-- Nothing but an opcode has been read. -/
def afterOpcode (location : Location) (opcode : UInt8) : OperandScan :=
  ⟨location.shifted 1, .byte, true, [opcode], [], []⟩

/-- Reads another operand. -/
def readOperand (memory : Memory) (dialect : Dialect) (live? : Option Cpu) (opcode : UInt8)
    (scan : OperandScan) (operand : Operand) : OperandScan :=
  let width := operand.width?.getD scan.width
  let taken := memory.takeBytes scan.location (operand.extraBytes width)
  let value := taken.value.toNat
  { location := taken.location
    width := width
    isFirst := false
    bytes := scan.bytes ++ taken.bytes
    texts := scan.texts ++ operand.shownTexts dialect opcode width value
    notes := scan.notes ++ operand.liveNotes memory live? scan.isFirst width value }

/-- Reads operands one after the other. -/
def readOperands (memory : Memory) (dialect : Dialect) (live? : Option Cpu) (opcode : UInt8)
    (scan : OperandScan) (operands : List Operand) : OperandScan :=
  operands.foldl (readOperand memory dialect live? opcode) scan

end OperandScan

/-- The instruction at a location and the location behind it, unless the location is unset. -/
def decodeAt? (memory : Memory) (location : Location) (dialect : Dialect)
    (live? : Option Cpu) : Option (Decoded × Location) :=
  location.address?.map fun address =>
    let opcode := memory.byte address
    let entry := OpcodeEntry.ofOpcode opcode
    let scan :=
      (OperandScan.afterOpcode location opcode).readOperands memory dialect live? opcode
        entry.operands
    ({ address := address
       bytes := scan.bytes
       instruction := .ofOpcode opcode
       isUndocumented := entry.isUndocumented
       mnemonic := entry.id.mnemonic dialect
       operands := scan.texts
       notes := scan.notes },
      scan.location)

end Monitor8080
