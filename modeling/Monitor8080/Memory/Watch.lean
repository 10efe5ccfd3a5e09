import Monitor8080.Memory.Basic
namespace Monitor8080.Memory

/-!
# Watched addresses and ports

Several breakpoints may watch one address, so the watches on it are counted:
it stays watched until every one of them is gone. A port either stops
execution or does not, separately for each direction.
-/

/-- The watched addresses of a kind, once for every watch on them. -/
def watches (memory : Memory) : Access → List UInt16
  | .read => memory.readWatches
  | .write => memory.writeWatches

def withWatches (memory : Memory) (kind : Access) (addresses : List UInt16) : Memory :=
  match kind with
  | .read => { memory with readWatches := addresses }
  | .write => { memory with writeWatches := addresses }

def watch (memory : Memory) (address : UInt16) (kind : Access) : Memory :=
  memory.withWatches kind (address :: memory.watches kind)

/-- Memory with one watch less on an address, if there is one. -/
def unwatch (memory : Memory) (address : UInt16) (kind : Access) : Memory :=
  memory.withWatches kind ((memory.watches kind).erase address)

def isWatched (memory : Memory) (address : UInt16) (kind : Access) : Bool :=
  (memory.watches kind).contains address

/-- The ports of a direction that stop execution, in increasing order. -/
def portBreaks (memory : Memory) : PortDirection → List UInt8
  | .input => memory.inputBreaks
  | .output => memory.outputBreaks

def withPortBreaks (memory : Memory) (direction : PortDirection) (ports : List UInt8) :
    Memory :=
  match direction with
  | .input => { memory with inputBreaks := ports }
  | .output => { memory with outputBreaks := ports }

/-- A port put into an increasing list of others. -/
def insertPort (port : UInt8) : List UInt8 → List UInt8
  | [] => [port]
  | other :: ports =>
      if port < other then port :: other :: ports else other :: insertPort port ports

def hasPortBreak (memory : Memory) (port : UInt8) (direction : PortDirection) : Bool :=
  (memory.portBreaks direction).contains port

def hasPortBreaks (memory : Memory) : Bool :=
  !memory.inputBreaks.isEmpty || !memory.outputBreaks.isEmpty

/-- Memory in which a port stops execution exactly if it did not before. -/
def togglePortBreak (memory : Memory) (port : UInt8) (direction : PortDirection) : Memory :=
  let ports := memory.portBreaks direction
  memory.withPortBreaks direction <|
    if ports.contains port then ports.erase port else insertPort port ports

/-- Memory in which no port of a direction stops execution. -/
def clearPortBreaks (memory : Memory) (direction : PortDirection) : Memory :=
  memory.withPortBreaks direction []

end Monitor8080.Memory
