import Monitor8080.Memory.Basic
namespace Monitor8080

/-!
# Buses

The processor reaches memory and ports through a bus. Bare memory is one bus;
another one may watch the accesses on their way, and may refuse an opcode
fetch so that the instruction is not begun.
-/

/-- What comes of an opcode fetch. -/
inductive Fetched where
  | opcode (byte : UInt8)
  | unmapped
  | refused
  deriving Repr, DecidableEq

/-- The accesses of the processor. -/
class Bus (σ : Type) where
  read : σ → UInt16 → UInt8 × σ
  write : σ → UInt16 → UInt8 → σ
  fetch : σ → UInt16 → Fetched × σ
  input : σ → UInt8 → UInt8 × σ
  output : σ → UInt8 → UInt8 → σ

/-- Bare memory refuses nothing and changes only where it is written. -/
instance : Bus Memory where
  read memory address := (memory.read address, memory)
  write memory address value := memory.write address value
  fetch memory address :=
    match memory.fetch? address with
    | some opcode => (.opcode opcode, memory)
    | none => (.unmapped, memory)
  input memory port := (memory.input port, memory)
  output memory port value := memory.output port value

end Monitor8080
