import Monitor8080.Monitor.Notice
namespace Monitor8080

/-!
# Operations of the operator

An operation changes the session and may fail, where what it did before the
failure stays done. Its arguments are expressions, evaluated in the session as
it is at that moment. An operation that leaves the history without room fails
in a way that ends everything under way.
-/

/-- An operation on a session that gives a value or fails. -/
abbrev Operation := ExceptT MonitorError (StateM Session)

namespace Operation

/-- Something seen in the session. -/
def observe (view : Session → α) : Operation α := do
  return view (← get)

/-- A value, or the failure in its place. -/
def ofExcept (result : Except MonitorError α) : Operation α :=
  match result with
  | .ok value => pure value
  | .error error => throw error

def print (line : String) : Operation Unit :=
  modify (·.print line)

def printAll (lines : List String) : Operation Unit :=
  modify fun session => session.updateMonitor (·.printAll lines)

/-- Prints lines, or another line if there are none. -/
def printAllOr (line : String) (lines : List String) : Operation Unit :=
  if lines.isEmpty then print line else printAll lines

/-- Prints a message if its topic is switched on. -/
def message (topic : Topic) (text : String) : Operation Unit :=
  modify (·.message topic text)

def updateMonitor (change : Monitor → Monitor) : Operation Unit :=
  modify (·.updateMonitor change)

/-- Fails if the history is to be recorded and there is no room for it. -/
def requireHistory : Operation Unit := do
  if (← observe (·.monitor.lacksHistory)) then
    throw .historyTooLong

/-- Changes what is checked, for which the history may have to be recorded. -/
def updateChecks (change : Monitor → Monitor) : Operation Unit := do
  modify (·.updateMonitor change)
  requireHistory

def updateMachine (change : Machine → Machine) : Operation Unit :=
  modify (·.updateMachine change)

/-! ## Arguments -/

def evaluate (text : String) : Operation Int64 := do
  ofExcept (← observe fun session => session.monitor.evaluate session.machine text)

/-- The address that a text means. -/
def address (text : String) : Operation UInt16 := do
  ofExcept (← observe fun session => session.monitor.addressOf session.machine text)

/-- The value of an expression within bounds, or a complaint about it. -/
def valueWithin (low high : Int64) (complaint text : String) : Operation Int64 := do
  let value ← evaluate text
  if value < low ∨ high < value then
    throw (.malformed (complaint ++ ": " ++ text))
  return value

/-- A count, which must not be negative. -/
def count (text : String) : Operation Nat := do
  let value ← evaluate text
  if value < 0 then
    throw (.malformed ("negative count: " ++ text))
  return value.toInt.toNat

/-- A count if one is given, and a default otherwise. -/
def countOr (default : Nat) : Option String → Operation Nat
  | some text => count text
  | none => pure default

/-- A byte, which may be written as a signed one. -/
def byte (text : String) : Operation UInt8 := do
  return (← valueWithin (-0x80) 0xFF "byte out of range" text).toUInt64.toUInt8

/-- A word, which may be written as a signed one. -/
def word (text : String) : Operation UInt16 := do
  return (← valueWithin (-0x8000) 0xFFFF "word out of range" text).toUInt64.toUInt16

/-- The number of a port. -/
def port (text : String) : Operation UInt8 := do
  return (← valueWithin 0 0xFF "port out of range" text).toUInt64.toUInt8

/-- The address that a text means, else the cursor, else the next instruction to be executed. -/
def place (text? : Option String) (cursor : Location) : Operation Location :=
  match text? with
  | some text => do return Location.ofAddress (← address text)
  | none =>
      if cursor.isSet then pure cursor
      else do return Location.ofAddress (← observe Session.pc)

end Operation

end Monitor8080
