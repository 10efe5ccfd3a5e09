import Monitor8080.Sentry.Guarded
import Monitor8080.Config
import Monitor8080.Error
import Monitor8080.Expr.Evaluation
import Monitor8080.Machine
import Monitor8080.Symbols.Table
namespace Monitor8080

/-!
# The monitor

The monitor watches a machine for its operator. It holds the sentry, the names
that the operator uses, the cursors that listings go on from, and the lines
that it printed and nobody has taken yet. A session is a monitor with the
machine that it watches.
-/

/-- The state of the monitor. -/
structure Monitor where
  config : Config
  symbols : SymbolTable
  /-- The lines printed, oldest first. -/
  output : Array String
  sentry : Sentry
  /-- What the operator's variables stand for. -/
  bindings : NameMap Int64
  dialect : Dialect
  codeCursor : Location
  dumpCursor : Location
  assembleCursor : Location
  /-- The operator lines remembered, newest first. -/
  commandHistory : List String

/-- A monitor and the machine that it watches. -/
structure Session where
  monitor : Monitor
  machine : Machine

namespace Monitor

/-! ## Output -/

def print (monitor : Monitor) (line : String) : Monitor :=
  { monitor with output := monitor.output.push line }

def printAll (monitor : Monitor) (lines : List String) : Monitor :=
  lines.foldl print monitor

/-- The monitor after a message, which is printed if its topic is switched on. -/
def message (monitor : Monitor) (topic : Topic) (text : String) : Monitor :=
  if monitor.sentry.reports topic then monitor.print text else monitor

/-- The lines printed, and the monitor without them. -/
def drain (monitor : Monitor) : List String × Monitor :=
  (monitor.output.toList, { monitor with output := #[] })

/-- The monitor with a message topic switched on or off. -/
def switchTopic (monitor : Monitor) (topic : Topic) (isWanted : Bool) :
    Monitor :=
  { monitor with
    sentry := { monitor.sentry with
      messages := topic.switch isWanted monitor.sentry.messages } }

/-! ## Guarding -/

def withBreakpoints (monitor : Monitor) (breakpoints : Breakpoints) : Monitor :=
  { monitor with sentry := { monitor.sentry with breakpoints := breakpoints } }

/-- Whether the history is to be recorded: if it always is, or if anything is checked. -/
def wantsHistory (monitor : Monitor) : Bool :=
  monitor.config.alwaysRecordHistory
    || monitor.sentry.breakpoints.isWaiting
    || 0 < monitor.sentry.checksum.interval

/-- Whether the history is to be recorded and is not, since there is no room for it. -/
def lacksHistory (monitor : Monitor) : Bool :=
  monitor.wantsHistory && !monitor.sentry.history.isOn

/--
The monitor with its history recorded exactly if it is to be and there is room
for it, which a change reports.
-/
def settleHistory (monitor : Monitor) : Monitor :=
  let isWanted := monitor.wantsHistory
  if isWanted = monitor.sentry.history.isOn || (isWanted && !monitor.sentry.history.hasRoom) then
    monitor
  else
    let history := monitor.sentry.history.enable isWanted
    let monitor := { monitor with sentry := { monitor.sentry with history := history } }
    monitor.message .hist (if isWanted then "history enabled" else "history disabled")

/-- The monitor with a countdown of some fetches; a count of zero disarms it. -/
def startCountdown (monitor : Monitor) (count : Nat) : Monitor :=
  (monitor.withBreakpoints (monitor.sentry.breakpoints.startCountdown count)).settleHistory

/-- The monitor with a checksum shown after every so many fetches, never if that is zero. -/
def restartChecksum (monitor : Monitor) (interval : Nat) : Monitor :=
  { monitor with
    sentry := { monitor.sentry with
      checksum := Checksum.ofInterval interval } }.settleHistory

/-- The mask of the topics that names in a configuration switch on; others are ignored. -/
def messageMask (names : List String) : UInt32 :=
  (names.filterMap Topic.parse?).foldl (fun mask topic => mask ||| topic.bit) 0

/-- A monitor that nothing was done with yet. -/
def ofConfig (config : Config) : Monitor :=
  settleHistory
    { config := config
      symbols := SymbolTable.empty
      output := #[]
      sentry :=
        { breakpoints := Breakpoints.empty
          history := History.ofCapacity config.historyCapacity
          checksum := Checksum.ofInterval 0
          messages := messageMask config.messages
          pending? := none
          notes := [] }
      bindings := []
      dialect := config.dialect
      codeCursor := Location.unset
      dumpCursor := Location.unset
      assembleCursor := Location.unset
      commandHistory := [] }

/-! ## Names and values -/

/-- The value of a register, or of a flag as one or zero. -/
def registerValue? (cpu : Cpu) (name : String) : Option Int64 :=
  match RegisterName.parse? name with
  | some register => some (cpu.get register).toUInt64.toInt64
  | none => (FlagName.parse? name).map fun flag => Expr.truth (cpu.flag flag)

/-- What the names of an expression mean. -/
def env (monitor : Monitor) (machine : Machine) : Expr.Env where
  variableNamed? := monitor.bindings.find?
  registerNamed? := registerValue? machine.cpu
  symbolNamed? name := (monitor.symbols.addressNamed? name).map fun address =>
    address.toUInt64.toInt64
  byteAt := machine.memory.byte

def evaluate (monitor : Monitor) (machine : Machine) (text : String) :
    Except MonitorError Int64 :=
  match Expr.evaluate (monitor.env machine) text with
  | .ok value => .ok value
  | .error error => .error (.expression error)

/-- The address of a symbol, or of an expression whose value fits into sixteen bits. -/
def addressOf (monitor : Monitor) (machine : Machine) (text : String) :
    Except MonitorError UInt16 :=
  match monitor.symbols.addressNamed? text with
  | some address => .ok address
  | none =>
      match monitor.evaluate machine text with
      | .error error => .error error
      | .ok value =>
          if -0x8000 ≤ value ∧ value ≤ 0xFFFF then
            .ok (Expr.toAddress value)
          else
            .error (.invalidAddress text)

end Monitor

namespace Session

@[inline] def updateMonitor (session : Session) (change : Monitor → Monitor) : Session :=
  match session with
  | ⟨monitor, machine⟩ => ⟨change monitor, machine⟩

@[inline] def updateMachine (session : Session) (change : Machine → Machine) : Session :=
  match session with
  | ⟨monitor, machine⟩ => ⟨monitor, change machine⟩

def print (session : Session) (line : String) : Session :=
  session.updateMonitor (·.print line)

/-- The session after a message, which is printed if its topic is switched on. -/
def message (session : Session) (topic : Topic) (text : String) : Session :=
  session.updateMonitor (·.message topic text)

def pc (session : Session) : UInt16 :=
  session.machine.cpu.pc

/-! ## Memory, as the operator edits it -/

/-- The byte at a location, `FF` if it is not set. -/
def byteAt (session : Session) (location : Location) : UInt8 :=
  session.machine.memory.byteAt location

/-- The word at a location, `FFFF` if it is not set. -/
def wordAt (session : Session) (location : Location) : UInt16 :=
  match location.address? with
  | some address => session.machine.memory.word address
  | none => 0xFFFF

/-- The session with another byte at an address, as the operator sets it. -/
def editByte (session : Session) (address : UInt16) (value : UInt8) : Session :=
  let edited :=
    session.updateMachine fun machine =>
      { machine with memory := machine.memory.setByte address value }.refresh
  edited.message .mem (Text.hexWord address ++ ": " ++ Text.hexByte value)

/-- The session with another word at an address, as the operator sets it. -/
def editWord (session : Session) (address : UInt16) (value : UInt16) : Session :=
  let edited :=
    session.updateMachine fun machine =>
      { machine with memory := machine.memory.setWord address value }.refresh
  edited.message .mem (Text.hexWord address ++ ": " ++ Text.hexWord value)

/-! ## Breakpoints and the watches that they need -/

/-- The machine with the watch on a breakpoint's address, if its kind needs one. -/
def watchFor (machine : Machine) (kind : BreakKind) (location : Location) : Machine :=
  match kind.access?, location.address? with
  | some access, some address =>
      { machine with memory := machine.memory.watch address access }
  | _, _ => machine

/-- The machine without the watch on a breakpoint's address. -/
def unwatchFor (machine : Machine) (kind : BreakKind) (location : Location) : Machine :=
  match kind.access?, location.address? with
  | some access, some address =>
      { machine with memory := machine.memory.unwatch address access }
  | _, _ => machine

/-- The machine without the watches on the addresses of removed breakpoints. -/
def unwatchAll (machine : Machine) (removed : List (BreakKind × Location)) : Machine :=
  removed.foldl (fun machine entry => unwatchFor machine entry.1 entry.2) machine

/-- The session with one more breakpoint, which is reported unless it is temporary. -/
def placeBreakpoint (session : Session) (kind : BreakKind) (location : Location) :
    Except MonitorError Session :=
  match session.monitor.sentry.breakpoints.add kind location with
  | .error error => .error (.ofBreakpointError error)
  | .ok breakpoints =>
      let monitor := session.monitor.withBreakpoints breakpoints
      let monitor :=
        match location.isTemporary, location.address? with
        | false, some address =>
            monitor.message .break (kind.tag ++ " " ++ Text.hexWord address ++ " set")
        | _, _ => monitor
      -- The watch is set also where a second temporary entry changed nothing.
      .ok ⟨monitor.settleHistory, watchFor session.machine kind location⟩

/-- Removes the breakpoints at an address, or all of them, and tells how many they were. -/
def removeBreakpoints (session : Session) (address? : Option UInt16) : Nat × Session :=
  let (removed, breakpoints) :=
    match address? with
    | some address => session.monitor.sentry.breakpoints.remove address
    | none => session.monitor.sentry.breakpoints.clear
  (removed.length,
    ⟨(session.monitor.withBreakpoints breakpoints).settleHistory,
      unwatchAll session.machine removed⟩)

/-- Removes the temporary breakpoints, and tells how many they were. -/
def removeTemporaryBreakpoints (session : Session) : Nat × Session :=
  let (removed, breakpoints) := session.monitor.sentry.breakpoints.removeTemporary
  if removed.isEmpty then
    (0, session)
  else
    (removed.length,
      ⟨(session.monitor.withBreakpoints breakpoints).settleHistory,
        unwatchAll session.machine removed⟩)

end Session

end Monitor8080
