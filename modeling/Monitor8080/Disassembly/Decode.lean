import Monitor8080.Disassembly.Operand
import Monitor8080.Processor.Registers
import Monitor8080.Text.Blank
import Monitor8080.Text.Layout
namespace Monitor8080

/-!
# Decoding

An instruction is decoded from the bytes at an address, around the end of the
address space if need be, without regard to block types. With a processor at
hand, the memory operands that the instruction reads are annotated with their
address and present contents.
-/

/-- An instruction found in memory, ready to be shown. -/
structure Decoded where
  address : UInt16
  bytes : List UInt8
  instruction : Instruction
  isUndocumented : Bool
  mnemonic : String
  operands : List String
  notes : List String
  deriving Repr, DecidableEq

namespace Decoded

def length (decoded : Decoded) : Nat :=
  decoded.bytes.length

/-- The address after the instruction. -/
def next (decoded : Decoded) : UInt16 :=
  decoded.address + UInt16.ofNat decoded.length

/-- Whether the instruction is a call or a restart. -/
def isCall (decoded : Decoded) : Bool :=
  decoded.instruction.isCall

/-- The column where the notes of a line start. -/
def noteColumn : Nat := 32

/-- The line of an instruction: address, bytes, mnemonic, operands and notes. -/
def line (decoded : Decoded) : String :=
  let head :=
    Text.hexWord decoded.address ++ " "
      ++ Text.padRight 9 (Text.join " " (decoded.bytes.map Text.hexByte))
      ++ (if decoded.isUndocumented then "*" else " ")
      ++ Text.padRight 6 decoded.mnemonic ++ " "
      ++ Text.join "," decoded.operands
  if decoded.notes.isEmpty then
    Text.trimEnd head
  else
    let head := Text.trimEnd head
    Text.trimEnd <|
      head ++ Text.spaces (max 1 (noteColumn - head.length)) ++ "; "
        ++ Text.join " " decoded.notes

end Decoded

/-- The bytes from an address on, around the end of the address space. -/
def Memory.bytesFrom (memory : Memory) (address : UInt16) : (count : Nat) → List UInt8
  | 0 => []
  | count + 1 => memory.byte address :: memory.bytesFrom (address + 1) count

/-- The number that bytes write, lowest first. -/
def littleEndian : List UInt8 → Nat
  | [] => 0
  | byte :: bytes => byte.toNat + 256 * littleEndian bytes

/-- The address in the register that an operand goes through. -/
def Cpu.operandAddress (cpu : Cpu) : OperandRegister → UInt16
  | .bc => cpu.bc
  | .de => cpu.de
  | .sp => cpu.sp
  | _ => cpu.hl

namespace Operand

/-- The text of a value as wide as an operand. -/
def valueText (width : Width) (value : Nat) : String :=
  match width with
  | .byte => Text.hexByte (UInt8.ofNat value)
  | .word => Text.hexWord (UInt16.ofNat value)

/-- An operand as shown, given its width and the value of its bytes. -/
def text (operand : Operand) (dialect : Dialect) (opcode : UInt8)
    (width : Width) (value : Nat) : String :=
  match operand.place with
  | .register => (operand.register?.map (OperandRegister.name dialect)).getD "?"
  | .immediate => valueText width value
  | .interruptNumber => toString (opcode.toNat / 8 % 8)
  | .memory =>
      let place :=
        match operand.register? with
        | some register => register.name dialect
        | none => Text.hexWord (UInt16.ofNat value)
      match dialect with
      | .intel8080 => place
      | .intel8086 => "[" ++ place ++ "]"

/-- The address that a memory operand refers to. -/
def target (operand : Operand) (cpu : Cpu) (value : Nat) : UInt16 :=
  match operand.register? with
  | some register => cpu.operandAddress register
  | none => UInt16.ofNat value

/-- The address of a memory operand and what stands there. -/
def note (memory : Memory) (width : Width) (address : UInt16) : String :=
  "[" ++ Text.hexWord address ++ "]=" ++
    match width with
    | .byte => Text.hexByte (memory.byte address)
    | .word => Text.hexWord (memory.word address)

end Operand

/-- The shown parts of the operands of one instruction. -/
structure Rendered where
  texts : List String
  notes : List String

/--
The operands from one on, given the width of the one before it and the bytes
that are left for them. Only an operand after the first is read, so only such
an operand has a note.
-/
def renderOperands (memory : Memory) (dialect : Dialect) (live? : Option Cpu)
    (opcode : UInt8) (isFirst : Bool) (width : Width) (bytes : List UInt8) :
    List Operand → Rendered
  | [] => ⟨[], []⟩
  | operand :: operands =>
      let width := operand.width?.getD width
      let count := operand.extraBytes width
      let value := littleEndian (bytes.take count)
      let rest :=
        renderOperands memory dialect live? opcode false width (bytes.drop count) operands
      let notes :=
        match live? with
        | some cpu =>
            if operand.place = .memory ∧ !isFirst then
              [Operand.note memory width (operand.target cpu value)]
            else
              []
        | none => []
      let texts :=
        if operand.isImplied ∧ dialect = .intel8080 then []
        else [operand.text dialect opcode width value]
      ⟨texts ++ rest.texts, notes ++ rest.notes⟩

/-- The instruction at an address, with notes on what it reads if a processor is given. -/
def decode (memory : Memory) (address : UInt16) (dialect : Dialect)
    (live? : Option Cpu) : Decoded :=
  let opcode := memory.byte address
  let instruction := Instruction.ofOpcode opcode
  let bytes := memory.bytesFrom address instruction.length
  let rendered :=
    renderOperands memory dialect live? opcode true .byte bytes.tail instruction.operands
  { address := address
    bytes := bytes
    instruction := instruction
    isUndocumented := isUndocumented opcode
    mnemonic := instruction.mnemonic dialect
    operands := rendered.texts
    notes := rendered.notes }

end Monitor8080
