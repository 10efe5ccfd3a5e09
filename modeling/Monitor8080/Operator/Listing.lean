import Monitor8080.Operator.Command
import Monitor8080.Operator.Operation
namespace Monitor8080

/-!
# Listings of memory

A dump shows memory in lines of sixteen bytes, as units of one, two or four
bytes and as characters, and moves a location past every byte that it reads. A
listing shows instructions one after the other. Both go on where the last one
ended.
-/

/-! ## Dumps -/

/-- How many bytes a line of a dump shows. -/
def dumpLineBytes : Nat := 16

/-- The character that shows a byte in a dump. -/
def dumpChar (byte : UInt8) : Char :=
  if 0x20 ≤ byte ∧ byte ≤ 0x7E then Char.ofNat byte.toNat else '.'

/-- The units on a full line. -/
def unitsPerLine (unit : MemoryUnit) : Nat :=
  dumpLineBytes / unit.bytes

/-- The units that cover a count of bytes, of which the address space has no more to show. -/
def dumpUnits (unit : MemoryUnit) (length : Nat) : Nat :=
  (min length Memory.size + unit.bytes - 1) / unit.bytes

/-- A unit of a dump as far as it has been read, and the location behind it. -/
structure UnitScan where
  location : Location
  value : UInt32
  chars : List Char

namespace UnitScan

/-- Reads the byte with some index into a unit, the lowest one first. -/
def readByte (memory : Memory) (scan : UnitScan) (index : Nat) : UnitScan :=
  let byte := memory.byteAt scan.location
  { location := scan.location.shifted 1
    value := scan.value ||| (byte.toUInt32 <<< UInt32.ofNat (8 * index))
    chars := scan.chars ++ [dumpChar byte] }

/-- Reads a number of bytes at a location. -/
def read (memory : Memory) (location : Location) (count : Nat) : UnitScan :=
  (List.range count).foldl (readByte memory) ⟨location, 0, []⟩

end UnitScan

/-- A line of a dump as far as it has been read, and the location behind it. -/
structure LineScan where
  location : Location
  items : List String
  chars : List Char

namespace LineScan

/-- Reads another unit, which is shown in hexadecimal and as characters. -/
def readUnit (memory : Memory) (unit : MemoryUnit) (line : LineScan) : LineScan :=
  let scan := UnitScan.read memory line.location unit.bytes
  { location := scan.location
    items := line.items ++ [Text.hexPadded (2 * unit.bytes) scan.value.toNat]
    chars := line.chars ++ scan.chars }

/-- Reads units one after the other. -/
def readUnits (memory : Memory) (unit : MemoryUnit) (line : LineScan) : (count : Nat) → LineScan
  | 0 => line
  | count + 1 => readUnits memory unit (line.readUnit memory unit) count

theorem length_items_readUnits
    (memory : Memory)
    (unit : MemoryUnit)
    (line : LineScan)
    (count : Nat) :
    (line.readUnits memory unit count).items.length = line.items.length + count := by
  induction count generalizing line with
  | zero =>
      rfl
  | succ count inductionHypothesis =>
      rw [readUnits, inductionHypothesis, readUnit, List.length_append, List.length_singleton,
        Nat.add_right_comm, Nat.add_assoc]

/-- The text of a line that begins at a location; the units have the width of a full line. -/
def text (unit : MemoryUnit) (start : Location) (line : LineScan) : String :=
  start.text ++ "  "
    ++ Text.padRight (unitsPerLine unit * (2 * unit.bytes + 1)) (Text.join " " line.items)
    ++ " " ++ String.ofList line.chars

end LineScan

/-- The lines of a dump, and the location behind what they show. -/
structure MemoryDump where
  lines : List String
  location : Location

theorem unitsPerLine_pos (unit : MemoryUnit) : 0 < unitsPerLine unit := by
  cases unit <;> decide

/--
The dump of a count of units at a location. A line takes as many of the units
that are left as fit on it, and the next line begins where it ends.
-/
def dumpFrom (memory : Memory) (unit : MemoryUnit) (location : Location) (units : Nat) :
    MemoryDump :=
  if units = 0 then
    ⟨[], location⟩
  else
    let line :=
      LineScan.readUnits memory unit ⟨location, [], []⟩ (min units (unitsPerLine unit))
    let rest := dumpFrom memory unit line.location (units - line.items.length)
    ⟨line.text unit location :: rest.lines, rest.location⟩
termination_by units
decreasing_by
  have full := unitsPerLine_pos unit
  rw [LineScan.length_items_readUnits, List.length_nil]
  omega

/-! ## Instructions -/

/-- What a listing showed, and where it ended. -/
structure Extract where
  lines : List String
  next : UInt16

namespace Session

/-- The listing of a count of instructions from an address on. -/
def listCount (session : Session) (address : UInt16) : (count : Nat) → Extract
  | 0 => ⟨[], address⟩
  | count + 1 =>
      let listed := session.listedAt address
      let rest := listCount session listed.decoded.next count
      ⟨listed.lines ++ rest.lines, rest.next⟩

/--
The listing of the instructions that start within some distance of `start`,
from an address on. It ends at the top of memory, so the fuel for one
instruction an address is enough.
-/
def listWithin (session : Session) (start : UInt16) (distance : UInt16)
    (address : UInt16) : (fuel : Nat) → Extract
  | 0 => ⟨[], address⟩
  | fuel + 1 =>
      if distance < address - start then
        ⟨[], address⟩
      else
        let listed := session.listedAt address
        let next := listed.decoded.next
        if next < address then
          ⟨listed.lines, next⟩
        else
          let rest := listWithin session start distance next fuel
          ⟨listed.lines ++ rest.lines, rest.next⟩

/-- The listing of the instructions from one address up to another. -/
def listRange (session : Session) (start stop : UInt16) : Extract :=
  session.listWithin start (stop - start) start Memory.size

end Session

namespace Operation

/-- Dumps memory from an address or from where the last dump ended. -/
def dump (unit : MemoryUnit) (address? length? : Option String) : Operation Unit := do
  let cursor ← place address? (← observe (·.monitor.dumpCursor))
  let length ← countOr (← observe (·.monitor.config.dumpBytes)) length?
  let dump ← observe fun session =>
    dumpFrom session.machine.memory unit cursor (dumpUnits unit length)
  printAll dump.lines
  updateMonitor fun monitor => { monitor with dumpCursor := dump.location }

/-- Lists instructions from an address, or from where the last listing ended, up to another. -/
def disassemble (address? end? : Option String) : Operation Unit := do
  let cursor ← place address? (← observe (·.monitor.codeCursor))
  let start := cursor.address?.getD 0
  let extract ←
    match end? with
    | some text => do
        let stop ← address text
        observe (·.listRange start stop)
    | none => observe fun session => session.listCount start session.monitor.config.unassembleCount
  printAll extract.lines
  updateMonitor fun monitor =>
    { monitor with codeCursor := { cursor with address? := some extract.next } }

/-- The bytes that an instruction assembles to: none, since no mnemonic can be assembled. -/
def assembled (_mnemonic : String) (_operands : List String) : List UInt8 :=
  []

/-- Assembles an instruction at an address or where the last one ended. -/
def assemble (address? mnemonic? : Option String) (operands : List String) :
    Operation Unit := do
  let cursor ← place address? (← observe (·.monitor.assembleCursor))
  let bytes := assembled (mnemonic?.getD "") operands
  if bytes.isEmpty then
    print "assemble: not supported"
  let start := cursor.address?.getD 0
  for (byte, index) in bytes.zipIdx do
    modify (·.editByte (start + UInt16.ofNat index) byte)
  updateMonitor fun monitor =>
    { monitor with assembleCursor := cursor.shifted bytes.length }

def dumpMap : Operation Unit := do
  let ranges ← observe (·.machine.memory.blockRuns)
  printAll <| ranges.map fun range =>
    Text.hexPadded 4 range.start ++ "-" ++ Text.hexPadded 4 (range.start + range.length - 1)
      ++ " " ++ range.type.name

end Operation

end Monitor8080
