import Monitor8080.Operator.Breaking
import Monitor8080.Text.Layout
namespace Monitor8080.Operation

/-!
# Operations that show and set

Memory, ports, registers, flags, options, variables and message topics are
shown and set one by one.
-/

/-! ## Memory and ports -/

/-- Sets memory from an address on to values, each evaluated when its turn comes. -/
def editFrom (unit : MemoryUnit) (target : UInt16) : List String → Operation Unit
  | [] => pure ()
  | text :: texts =>
      match unit with
      | .word => do
          let value ← word text
          modify (·.editWord target value)
          editFrom unit (target + 2) texts
      | _ => do
          let value ← byte text
          modify (·.editByte target value)
          editFrom unit (target + 1) texts

/-- Sets memory from the address of a text on to values. -/
def edit (unit : MemoryUnit) (text : String) (values : List String) : Operation Unit := do
  editFrom unit (← address text) values

/-- Reads a port as the processor does. -/
def readPort (text : String) : Operation Unit := do
  let number ← port text
  let value ← observe (·.machine.memory.input number)
  print ("in " ++ Text.hexByte number ++ ": " ++ Text.hexByte value)

/-- Writes to a port as the processor does. -/
def writePort (portText byteText : String) : Operation Unit := do
  let number ← port portText
  let value ← byte byteText
  updateMachine fun machine => { machine with memory := machine.memory.output number value }
  message .port ("out " ++ Text.hexByte number ++ ": " ++ Text.hexByte value)

/-! ## Registers and flags -/

/-- The line that shows a register under the name it was asked for by. -/
def registerLine (name : String) (register : RegisterName) (value : UInt16) : String :=
  name.toUpper ++ "=" ++
    if register.isByte then Text.hexByte value.toUInt8 else Text.hexWord value

/-- Shows a register or sets it to a value that fits it, signed or not. -/
def accessRegister (name : String) (register : RegisterName) (value? : Option String) :
    Operation Unit := do
  match value? with
  | none =>
      print (registerLine name register (← observe (·.machine.cpu.get register)))
  | some text =>
      let (low, high) : Int64 × Int64 :=
        if register.isByte then (-0x80, 0xFF) else (-0x8000, 0xFFFF)
      let value := Expr.toAddress (← valueWithin low high "value out of range" text)
      updateMachine fun machine => { machine with cpu := machine.cpu.set register value }
      message .cpu (name.toUpper ++ "=" ++ Text.hexShort value.toNat)

/-- Shows a flag, or sets it to whether a value is not zero. -/
def accessFlag (name : String) (flag : FlagName) (value? : Option String) :
    Operation Unit := do
  match value? with
  | none =>
      let value ← observe (·.machine.cpu.flag flag)
      print (name.toUpper ++ "=" ++ Cpu.flagDigit value)
  | some text =>
      let value ← evaluate text
      updateMachine fun machine =>
        { machine with cpu := machine.cpu.withFlag flag (value != 0) }

/-- Shows or sets a register or a flag. -/
def register (name : String) (value? : Option String) : Operation Unit :=
  match RegisterName.parse? name, FlagName.parse? name with
  | some register, _ => accessRegister name register value?
  | none, some flag => accessFlag name flag value?
  | none, none => throw (.unknownRegister name)

def showRegisters : Operation Unit := do
  print (← observe (·.machine.cpu.line))

/-! ## Values and variables -/

/-- A value in hexadecimal with its sign, and in decimal. -/
def valueText (value : Int64) : String :=
  let digits := Text.hexShort value.toInt.natAbs
  (if value < 0 then "-" else "") ++ digits ++ "h " ++ toString value.toInt

def printValue (text : String) : Operation Unit := do
  print (valueText (← evaluate text))

/-- The line that shows a variable by its 64 bits in hexadecimal, and in decimal. -/
def variableLine (name : String) (value : Int64) : String :=
  name ++ " = " ++ Text.hexShort value.toUInt64.toNat ++ "h " ++ toString value.toInt

/-- The value of a variable, which has to be there. -/
def variableValue (name : String) : Operation Int64 := do
  match ← observe fun session => session.monitor.bindings.find? name with
  | some value => return value
  | none => throw (.expression (.undefined name))

/-- Lists, shows, sets or deletes variables. -/
def accessVariables (command : VariableCommand) : Operation Unit := do
  match command with
  | .list =>
      let bindings ← observe (·.monitor.bindings)
      printAllOr "no variables" (bindings.map fun entry => variableLine entry.1 entry.2)
  | .show name => print (variableLine name (← variableValue name))
  | .delete name =>
      let _ ← variableValue name
      updateMonitor fun monitor =>
        { monitor with bindings := monitor.bindings.erase name }
  | .assign name text =>
      let value ← evaluate text
      updateMonitor fun monitor =>
        { monitor with bindings := monitor.bindings.insert name value }

/-! ## Options and messages -/

/-- Shows the options, or sets one. -/
def options (arguments : List String) : Operation Unit := do
  match arguments.head?.map String.toLower, arguments[1]? with
  | none, _ =>
      let session ← get
      printAll [
        "style " ++ session.monitor.dialect.name,
        "cs " ++ toString session.monitor.sentry.checksum.interval,
        "sp " ++ toString session.machine.cpu.speed]
  | some "8080", none => updateMonitor fun monitor => { monitor with dialect := .intel8080 }
  | some "8086", none => updateMonitor fun monitor => { monitor with dialect := .intel8086 }
  | some "cs", some text =>
      let interval ← count text
      updateChecks (·.restartChecksum (min interval countLimit))
  | some "sp", some text =>
      let speed ← count text
      updateMachine fun machine =>
        { machine with cpu := { machine.cpu with speed := min (max speed 1) countLimit } }
  | _, _ => throw (.malformed ("s " ++ Text.join " " arguments))

/-- The line that shows whether a message topic is switched on. -/
def topicLine (mask : UInt32) (topic : Topic) : String :=
  Text.padRight 6 topic.name ++ " " ++ if topic.isOn mask then "on" else "off"

/-- Shows the message topics, or switches one or all of them. -/
def messages (topic? : Option String) (enable? : Option Bool) : Operation Unit := do
  let mask ← observe (·.monitor.sentry.messages)
  match topic? with
  | none => printAll (Topic.all.map (topicLine mask))
  | some text =>
      if text.toLower = "all" then
        updateMonitor fun monitor =>
          Topic.all.foldl
            (fun monitor topic => monitor.switchTopic topic (enable?.getD true)) monitor
      else
        match Topic.parse? text with
        | some topic =>
            updateMonitor (·.switchTopic topic (enable?.getD (!topic.isOn mask)))
        | none => throw (.malformed ("m " ++ text))

end Monitor8080.Operation
