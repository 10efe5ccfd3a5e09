import Monitor8080.Sentry.Breakpoints
import Monitor8080.Sentry.History
import Monitor8080.Sentry.Topic
import Monitor8080.Memory.Watch
import Monitor8080.Processor.Bus
namespace Monitor8080

/-!
# The guarded bus

While anything has to be checked, the processor works through a bus that
passes every access on to memory and takes note of it: a fetch is recorded or
refused, and the first watched access of an instruction becomes the reason why
execution stops after it.
-/

/-- Why execution stops. -/
inductive Stop where
  | hit (reached : Hit)
  | port (direction : PortDirection) (number byte : UInt8)
  deriving Repr, DecidableEq

/-- The command that sets a port breakpoint of a direction. -/
def PortDirection.tag : PortDirection → String
  | .input => "bi"
  | .output => "bo"

/-- The name of a direction in messages. -/
def PortDirection.verb : PortDirection → String
  | .input => "in"
  | .output => "out"

namespace Stop

def text : Stop → String
  | .hit (.countdown address) => "bn countdown expired at " ++ Text.hexWord address
  | .hit (.entry kind location _) => kind.tag ++ " " ++ location.text ++ " hit"
  | .port direction number byte =>
      direction.tag ++ " " ++ Text.hexByte number ++ " hit (" ++ Text.hexByte byte ++ ")"

end Stop

/-- A running checksum over the fetches, shown after every so many of them. -/
structure Checksum where
  interval : Nat
  counter : Nat
  value : UInt32
  isDue : Bool
  deriving Repr, DecidableEq

namespace Checksum

/-- A checksum that starts over, shown after some number of fetches; never if that is zero. -/
def ofInterval (interval : Nat) : Checksum :=
  ⟨interval, 0, 0, false⟩

/-- A value turned left by one bit and mixed with a fetch. -/
def mix (value : UInt32) (address : UInt16) (opcode : UInt8) : UInt32 :=
  ((value <<< 1) ||| (value >>> 31)) ^^^ ((address.toUInt32 <<< 8) ||| opcode.toUInt32)

/-- The checksum after one more fetch. -/
def record (checksum : Checksum) (address : UInt16) (opcode : UInt8) : Checksum :=
  if checksum.interval = 0 then
    checksum
  else
    let value := mix checksum.value address opcode
    if checksum.interval ≤ checksum.counter + 1 then
      ⟨checksum.interval, 0, value, true⟩
    else
      ⟨checksum.interval, checksum.counter + 1, value, checksum.isDue⟩

end Checksum

/-- What stands guard over the bus: what it stops at and what it records. -/
structure Sentry where
  breakpoints : Breakpoints
  history : History
  checksum : Checksum
  /-- The mask of the message topics that are switched on. -/
  messages : UInt32
  /-- The first reason to stop that the present instruction gave. -/
  pending? : Option Stop
  /-- Messages about ports that were not printed yet. -/
  notes : List String

namespace Sentry

/-- Whether messages of a topic are printed. -/
def reports (sentry : Sentry) (topic : Topic) : Bool :=
  topic.isOn sentry.messages

/-- Whether the processor has to work through the guarded bus. -/
def isNeeded (sentry : Sentry) (memory : Memory) : Bool :=
  sentry.breakpoints.isWaiting
    || sentry.history.isOn
    || 0 < sentry.checksum.interval
    || memory.hasPortBreaks
    || sentry.reports .port

def noteFetch (sentry : Sentry) (address : UInt16) (opcode : UInt8) : Sentry :=
  { sentry with
    history := sentry.history.record address opcode
    checksum := sentry.checksum.record address opcode }

/-- The sentry after an access to a watched address, if no access before gave a reason to stop. -/
def noteAccess (sentry : Sentry) (kind : Access) (address : UInt16) : Sentry :=
  match sentry.pending? with
  | some _ => sentry
  | none =>
      let (hit?, breakpoints) := sentry.breakpoints.hitByAccess kind address 1
      { sentry with breakpoints := breakpoints, pending? := hit?.map .hit }

def notePort (sentry : Sentry) (isBreak : Bool) (direction : PortDirection)
    (port byte : UInt8) : Sentry :=
  let sentry :=
    if sentry.reports .port then
      let note := direction.verb ++ " " ++ Text.hexByte port ++ ": " ++ Text.hexByte byte
      { sentry with notes := sentry.notes ++ [note] }
    else
      sentry
  if isBreak ∧ !sentry.breakpoints.isMuted ∧ sentry.pending?.isNone then
    { sentry with pending? := some (.port direction port byte) }
  else
    sentry

end Sentry

/-- Memory whose accesses are checked. -/
structure Guarded where
  memory : Memory
  sentry : Sentry

namespace Guarded

/-- The byte that memory gives; a watched read is recorded. -/
def read (guarded : Guarded) (address : UInt16) : UInt8 × Guarded :=
  match guarded with
  | ⟨memory, sentry⟩ =>
      let sentry :=
        if memory.isWatched address .read then sentry.noteAccess .read address else sentry
      (memory.read address, ⟨memory, sentry⟩)

/-- Memory after the write, whether it keeps it or not; a watched write is recorded. -/
def write (guarded : Guarded) (address : UInt16) (value : UInt8) : Guarded :=
  match guarded with
  | ⟨memory, sentry⟩ =>
      let sentry :=
        if memory.isWatched address .write then sentry.noteAccess .write address else sentry
      ⟨memory.write address value, sentry⟩

/-- The opcode that memory gives, unless a breakpoint or the countdown refuses the fetch. -/
def fetch (guarded : Guarded) (address : UInt16) : Fetched × Guarded :=
  match guarded with
  | ⟨memory, sentry⟩ =>
      -- Memory is asked first, so an unmapped fetch reaches no breakpoint.
      match memory.fetch? address with
      | none => (.unmapped, ⟨memory, sentry⟩)
      | some opcode =>
          match sentry.breakpoints.hitByExecution address with
          | (none, breakpoints) =>
              (.opcode opcode,
                ⟨memory, { sentry with breakpoints := breakpoints }.noteFetch address opcode⟩)
          | (some hit, breakpoints) =>
              (.refused,
                ⟨memory, { sentry with breakpoints := breakpoints, pending? := some (.hit hit) }⟩)

def input (guarded : Guarded) (port : UInt8) : UInt8 × Guarded :=
  match guarded with
  | ⟨memory, sentry⟩ =>
      let byte := memory.input port
      (byte,
        ⟨memory, sentry.notePort (memory.hasPortBreak port .input) .input port byte⟩)

def output (guarded : Guarded) (port value : UInt8) : Guarded :=
  match guarded with
  | ⟨memory, sentry⟩ =>
      let isBreak := memory.hasPortBreak port .output
      ⟨memory.output port value, sentry.notePort isBreak .output port value⟩

instance : Bus Guarded where
  read := read
  write := write
  fetch := fetch
  input := input
  output := output

end Guarded

end Monitor8080
