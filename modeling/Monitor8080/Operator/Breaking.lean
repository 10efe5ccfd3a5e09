import Monitor8080.Operator.Command
import Monitor8080.Operator.Operation
import Monitor8080.Text.Layout
namespace Monitor8080.Operation

/-!
# Operations on breakpoints

Breakpoints of memory are set at an address with an optional script, those of
ports are switched, and the countdown is armed. The listing of a breakpoint is
the command that sets it.
-/

def placeBreakpoint (kind : BreakKind) (location : Location) : Operation Unit := do
  let session ← get
  match session.placeBreakpoint kind location with
  | .error error => throw error
  | .ok session =>
      set session
      requireHistory

/-- Sets a breakpoint at the address of a text, with a script if one is given. -/
def setBreakpoint (kind : BreakKind) (text : String) (script? : Option String) :
    Operation Unit := do
  let location := Location.ofAddress (← address text)
  match script? with
  | some script => placeBreakpoint kind (location.withScript script (Text.commandsOf script))
  | none => placeBreakpoint kind location

/-- Clears the breakpoints at an address, and tells how many they were. -/
def clearBreakpointsAt (address? : Option UInt16) : Operation Nat := do
  let count ← modifyGet fun session => session.removeBreakpoints address?
  requireHistory
  return count

def clearTemporaryBreakpoints : Operation Unit := do
  let count ← modifyGet Session.removeTemporaryBreakpoints
  if 0 < count then
    requireHistory

/-- Clears the breakpoints at an address, of which there has to be one, or everything. -/
def removeBreakpoints (text? : Option String) : Operation Unit := do
  match text? with
  | none =>
      let count ← clearBreakpointsAt none
      updateChecks (·.startCountdown 0)
      print (toString count ++ " breakpoints cleared")
  | some text =>
      let target ← address text
      if (← clearBreakpointsAt (some target)) = 0 then
        throw (.noBreakpoint target)

/-- The command that sets a breakpoint. -/
def breakpointLine (kind : BreakKind) (location : Location) : String :=
  kind.tag ++ " " ++ location.text ++
    match location.script? with
    | some script => " \x22" ++ script ++ "\x22"
    | none => ""

/-- The command that arms a countdown. -/
def countdownLine (count : Nat) : String :=
  "bn " ++ toString count

/-- The command that switches a port breakpoint. -/
def portLine (direction : PortDirection) (port : UInt8) : String :=
  direction.tag ++ " " ++ Text.hexByte port

def breakpointLines (session : Session) : List String :=
  let breakpoints := session.monitor.sentry.breakpoints
  let memory := session.machine.memory
  let permanent := breakpoints.listed.filter fun entry => !entry.2.isTemporary
  permanent.map (fun entry => breakpointLine entry.1 entry.2)
    ++ breakpoints.countdown?.toList.map countdownLine
    ++ memory.inputBreaks.map (portLine .input)
    ++ memory.outputBreaks.map (portLine .output)

def listBreakpoints : Operation Unit := do
  printAllOr "no breakpoints" (← observe breakpointLines)

/-- The largest count that a countdown, a checksum interval or the speed takes. -/
def countLimit : Nat := 0xFFFFFFFF

/-- Arms the countdown, or shows it. -/
def countDown (count? : Option String) : Operation Unit := do
  match count? with
  | none =>
      match ← observe (·.monitor.sentry.breakpoints.countdown?) with
      | some count => print (countdownLine count)
      | none => print "bn disarmed"
  | some text =>
      let count ← count text
      updateChecks (·.startCountdown (min count countLimit))

/-- Switches a port breakpoint, clears those of a direction or lists them. -/
def togglePort (direction : PortDirection) (port? : Option String) : Operation Unit := do
  match port? with
  | none =>
      let ports ← observe (·.machine.memory.portBreaks direction)
      printAllOr (direction.tag ++ ": none") (ports.map (portLine direction))
  | some "*" =>
      updateMachine fun machine =>
        { machine with memory := machine.memory.clearPortBreaks direction }
  | some text =>
      let number ← port text
      updateMachine fun machine =>
        { machine with memory := machine.memory.togglePortBreak number direction }
      let isSet ← observe (·.machine.memory.hasPortBreak number direction)
      message .break (portLine direction number ++ if isSet then " set" else " cleared")

end Monitor8080.Operation
