namespace Monitor8080

/-!
# The address space

Memory is 64 KiB of bytes in 64 blocks of 1 KiB. A block's type decides what
the processor may do there; the operator's own accesses ignore the types. The
processor sees 256 input and 256 output latches beside the bytes. Memory also
knows which addresses and ports are watched, so that an unwatched access is
cheap.
-/

/-- What a block of memory is made of. -/
inductive BlockKind where
  | unmapped
  | ram
  | rom
  | video
  deriving Repr, DecidableEq, Inhabited

namespace BlockKind

/-- The name of a block type in listings. -/
def name : BlockKind → String
  | .unmapped => "NONE"
  | .ram => "RAM"
  | .rom => "ROM"
  | .video => "VIDEO"

/-- Whether the processor's writes take effect in the block. -/
def isWritable : BlockKind → Bool
  | .ram | .video => true
  | .rom | .unmapped => false

end BlockKind

/-- A way of accessing memory that can be watched. -/
inductive Access where
  | read
  | write
  deriving Repr, DecidableEq

/-- A direction of a port. -/
inductive PortDirection where
  | input
  | output
  deriving Repr, DecidableEq

/-- The high and the low byte put together. -/
def wordOfBytes (low high : UInt8) : UInt16 :=
  (high.toUInt16 <<< 8) ||| low.toUInt16

def lowByte (word : UInt16) : UInt8 :=
  word.toUInt8

def highByte (word : UInt16) : UInt8 :=
  (word >>> 8).toUInt8

/-- The bytes of the address space, their block types, the port latches and what is watched. -/
structure Memory where
  bytes : Vector UInt8 65536
  blocks : Vector BlockKind 64
  inputLatches : Vector UInt8 256
  outputLatches : Vector UInt8 256
  /-- One entry for every breakpoint that watches an address for reads. -/
  readWatches : List UInt16
  /-- One entry for every breakpoint that watches an address for writes. -/
  writeWatches : List UInt16
  /-- The input ports that stop execution, in increasing order. -/
  inputBreaks : List UInt8
  /-- The output ports that stop execution, in increasing order. -/
  outputBreaks : List UInt8
  /-- How often memory was changed other than by the processor. -/
  edits : Nat

namespace Memory

def size : Nat := 65536

def blockSize : Nat := 1024

/-- Zeroed RAM with every input latch at `FF` and every output latch at `00`. -/
def empty : Memory where
  bytes := Vector.replicate 65536 0
  blocks := Vector.replicate 64 .ram
  inputLatches := Vector.replicate 256 0xFF
  outputLatches := Vector.replicate 256 0
  readWatches := []
  writeWatches := []
  inputBreaks := []
  outputBreaks := []
  edits := 0

instance : Inhabited Memory :=
  ⟨empty⟩

/-! ## Bytes, whatever their block -/

def byte (memory : Memory) (address : UInt16) : UInt8 :=
  memory.bytes.get address.toFin

def setByte (memory : Memory) (address : UInt16) (value : UInt8) : Memory :=
  { memory with bytes := memory.bytes.set address.toNat value address.toNat_lt }

/-- The word at an address, low byte first. -/
def word (memory : Memory) (address : UInt16) : UInt16 :=
  wordOfBytes (memory.byte address) (memory.byte (address + 1))

/-- Memory with another word at an address, low byte first. -/
def setWord (memory : Memory) (address : UInt16) (value : UInt16) : Memory :=
  (memory.setByte address (lowByte value)).setByte (address + 1) (highByte value)

/-- Memory with bytes laid from an address on, around the end of the address space. -/
def load (memory : Memory) (address : UInt16) : List UInt8 → Memory
  | [] => memory
  | value :: values => (memory.setByte address value).load (address + 1) values

/-! ## Blocks -/

/-- The number of the block that holds an address. -/
def blockIndex (address : UInt16) : Fin 64 :=
  ⟨address.toNat / 1024, by have := address.toNat_lt; omega⟩

/-- The type of the block that holds an address. -/
def blockKind (memory : Memory) (address : UInt16) : BlockKind :=
  memory.blocks.get (blockIndex address)

/--
Memory with another type for the blocks from the one that holds `start` up to
the last one that the next `length` bytes reach; blocks past the end are left out.
-/
def setBlockKind (memory : Memory) (start : UInt16) (length : Nat) (type : BlockKind) :
    Memory :=
  let first := start.toNat / blockSize
  let last := (start.toNat + length + blockSize - 1) / blockSize
  { memory with
    blocks := Vector.ofFn fun index =>
      if first ≤ index.val ∧ index.val < last then type else memory.blocks.get index }

/-- A run of neighbouring blocks of one type. -/
structure BlockRun where
  start : Nat
  length : Nat
  type : BlockKind
  deriving Repr, DecidableEq

/-- The runs of equal types in a list of blocks of which the first one stands at `start`. -/
def runsFrom (start : Nat) : List BlockKind → List BlockRun
  | [] => []
  | type :: types =>
      match runsFrom (start + blockSize) types with
      | [] => [⟨start, blockSize, type⟩]
      | range :: ranges =>
          if range.type = type then
            ⟨start, range.length + blockSize, type⟩ :: ranges
          else
            ⟨start, blockSize, type⟩ :: range :: ranges

/-- The runs of equally typed blocks, in address order. -/
def blockRuns (memory : Memory) : List BlockRun :=
  runsFrom 0 memory.blocks.toList

/-! ## What the processor sees -/

/-- The byte that the processor reads: `FF` where nothing is mapped. -/
def read (memory : Memory) (address : UInt16) : UInt8 :=
  match memory.blockKind address with
  | .unmapped => 0xFF
  | _ => memory.byte address

/-- Memory after the processor's write, which only writable blocks keep. -/
def write (memory : Memory) (address : UInt16) (value : UInt8) : Memory :=
  if (memory.blockKind address).isWritable then memory.setByte address value else memory

/-- The opcode at an address, `none` where nothing is mapped. -/
def fetch? (memory : Memory) (address : UInt16) : Option UInt8 :=
  match memory.blockKind address with
  | .unmapped => none
  | _ => some (memory.byte address)

/-- The byte that the processor reads from a port. -/
def input (memory : Memory) (port : UInt8) : UInt8 :=
  memory.inputLatches.get port.toFin

/-- Memory after the processor has written a byte to a port. -/
def output (memory : Memory) (port : UInt8) (value : UInt8) : Memory :=
  { memory with outputLatches := memory.outputLatches.set port.toNat value port.toNat_lt }

/-- Memory in which the next read from a port will see another byte. -/
def setInput (memory : Memory) (port : UInt8) (value : UInt8) : Memory :=
  { memory with inputLatches := memory.inputLatches.set port.toNat value port.toNat_lt }

/-- The byte last written to a port. -/
def outputLatch (memory : Memory) (port : UInt8) : UInt8 :=
  memory.outputLatches.get port.toFin

end Memory

end Monitor8080
