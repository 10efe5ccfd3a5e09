import Monitor8080.Processor.Step
import Monitor8080.Memory.Watch
namespace Monitor8080

/-!
# The machine

A processor with its memory, and the flag by which a long run can be asked to
stop. The engine's phase changes only along fixed ways: starting needs a ready
engine, and only switching the power on ends the powered-off phase.
-/

/-- The emulated computer. -/
structure Machine where
  cpu : Cpu
  memory : Memory
  stopRequested : Bool

/-- Why an image was not loaded. -/
inductive ImageError where
  | tooLarge (address : UInt16) (length : Nat)
  deriving Repr, DecidableEq

def ImageError.message : ImageError → String
  | .tooLarge address length =>
      "Image of " ++ toString length ++ " bytes does not fit at 0x" ++ Text.hexWord address

namespace Machine

/-- A machine that is ready, with zeroed memory. -/
def initial : Machine where
  cpu := Cpu.initial
  memory := Memory.empty
  stopRequested := false

instance : Inhabited Machine :=
  ⟨initial⟩

def setPhase (machine : Machine) (phase : EnginePhase) : Machine :=
  { machine with cpu := { machine.cpu with phase := phase } }

/-- Counts a change of memory made other than by the processor. -/
def refresh (machine : Machine) : Machine :=
  { machine with
    memory := { machine.memory with
      edits := machine.memory.edits + 1 } }

/-- The machine with an image in memory, if the image ends within the address space. -/
def placeImage (machine : Machine) (address : UInt16) (image : List UInt8) :
    Except ImageError Machine :=
  if Memory.size < address.toNat + image.length then
    .error (.tooLarge address image.length)
  else
    .ok { machine with memory := machine.memory.load address image }.refresh

/-- The machine about to execute from an address. -/
def startAt (machine : Machine) (address : UInt16) : Machine :=
  { machine with cpu := { machine.cpu with pc := address } }

/-- The machine with the power on; nothing changes if it was. -/
def powerOn (machine : Machine) : Machine :=
  if machine.cpu.isPowered then machine else machine.setPhase .ready

def powerOff (machine : Machine) : Machine :=
  machine.setPhase .poweredOff

def reset (machine : Machine) : Machine :=
  { machine with cpu := machine.cpu.reset, stopRequested := false }

def isRunning (machine : Machine) : Bool :=
  machine.cpu.isRunning

/-- The machine with a ready engine running and no stop requested. -/
def start (machine : Machine) : Machine :=
  let machine := { machine with stopRequested := false }
  if machine.cpu.phase = .ready then machine.setPhase .running else machine

/-- The machine with a running engine ready again. -/
def stop (machine : Machine) : Machine :=
  if machine.cpu.phase = .running then machine.setPhase .ready else machine

end Machine

end Monitor8080
