import Monitor8080.CommandLine.Arguments
import Monitor8080.CommandLine.FileTree
import Monitor8080.CommandLine.LogFilter
import Monitor8080.Json.Printer
import Monitor8080.Monitor.Snapshot
import Monitor8080.Operator.Dialogue
import Monitor8080.Text.Number
namespace Monitor8080.CommandLine

/-!
# The program

The program sets up a monitor and a machine from the files it is called with,
executes the lines given as arguments, holds a dialogue unless it is called
not to, and stores what the monitor remembers. The first thing that fails ends
it; what was printed until then stays printed.
-/

/-- What the paths lead to. -/
abbrev Lookup := String → Found

/-- Why the program ended early. -/
inductive ProgramError where
  | malformedLogFilter (text : String)
  | unreadable (path : String)
  | unwritable (path : String)
  | malformed (path : String)
  | invalidAddress (text : String)
  | unrestored (error : MonitorError)
  | historyTooLong
  | image (error : ImageError)
  deriving Repr, DecidableEq

/-- The wording of why the program ended early. -/
def ProgramError.message : ProgramError → String
  | .malformedLogFilter text => "malformed log filter: " ++ text
  | .unreadable path => "cannot read " ++ path
  | .unwritable path => "cannot write " ++ path
  | .malformed path => "malformed JSON in " ++ path
  | .invalidAddress text => "invalid address: " ++ text
  | .unrestored error => error.message
  | .historyTooLong => MonitorError.historyTooLong.message
  | .image error => error.message

/-- The exit code when the program ended early; a history without room counts as a defect. -/
def ProgramError.exitCode : ProgramError → UInt32
  | .historyTooLong => 101
  | _ => 1

/-- A stage of the program, which changes the session and may fail. -/
abbrev Stage := ExceptT ProgramError (StateM Session)

/-- The contents of a file. -/
def readBytes (find : Lookup) (path : String) : Except ProgramError (List UInt8) :=
  match find path with
  | .file bytes => .ok bytes
  | .directory | .missing => .error (.unreadable path)

/-- The text in a file. -/
def readText (find : Lookup) (path : String) : Except ProgramError String := do
  let bytes ← readBytes find path
  match String.fromUTF8? ⟨bytes.toArray⟩ with
  | some text => return text
  | none => throw (.unreadable path)

/-- An address given as an argument: a number within the address space. -/
def address (text : String) : Except ProgramError UInt16 :=
  match Text.numeral? text with
  | some value =>
      if 0 ≤ value ∧ value ≤ 0xFFFF then .ok value.toUInt64.toUInt16
      else .error (.invalidAddress text)
  | none => .error (.invalidAddress text)

namespace Invocation

/-- The files that the program may read. -/
def inputPaths (invocation : Invocation) : List String :=
  invocation.config?.toList ++ invocation.state?.toList ++ invocation.symbols
    ++ invocation.image?.toList

/-- The settings that the program is called with. -/
def config (invocation : Invocation) (find : Lookup) : Except ProgramError Config := do
  if !LogFilter.isFilter invocation.logLevel then
    throw (.malformedLogFilter invocation.logLevel)
  match invocation.config? with
  | none => return Config.default
  | some path =>
      match Config.ofText? (← readText find path) with
      | some config => return config
      | none => throw (.malformed path)

/-- Restores what was stored when the program last ended, if it was. -/
def applyState (invocation : Invocation) (find : Lookup) : Stage Unit := do
  match invocation.state? with
  | none => pure ()
  | some path =>
      if find path = .missing then
        return
      match SlotTable.ofText? (← readText find path) with
      | none => throw (.malformed path)
      | some table =>
          match (← get).monitor.restore table with
          | .ok monitor => modify fun session => ⟨monitor, session.machine⟩
          | .error error => throw (.unrestored error)

/-- Adds the groups of a symbol file. -/
def addSymbols (find : Lookup) (path : String) : Stage Unit := do
  let text ← readText find path
  match (← get).monitor.symbols.loadText? text with
  | some (_, symbols) =>
      modify fun session => session.updateMonitor ({ · with symbols := symbols })
  | none => throw (.malformed path)

/-- Puts the image into memory, and the program counter on the entry address. -/
def placeImage (invocation : Invocation) (find : Lookup) : Stage Unit := do
  let load ← address invocation.load
  match invocation.image? with
  | none => pure ()
  | some path =>
      match (← get).machine.placeImage load (← readBytes find path) with
      | .ok machine => modify fun session => ⟨session.monitor, machine⟩
      | .error error => throw (.image error)
  let entry ←
    match invocation.entry? with
    | some text => address text
    | none => pure load
  modify (·.updateMachine (·.startAt entry))

def switchOn : Stage Unit :=
  modify fun session => (session.updateMachine Machine.powerOn).noticePower true

/-- Everything that comes before the dialogue. -/
def prepare (invocation : Invocation) (find : Lookup) : Stage Unit := do
  invocation.applyState find
  invocation.symbols.forM (addSymbols find)
  invocation.placeImage find
  switchOn
  invocation.commands.forM fun line => modify fun session => (session.heed line).2

/-- The file to write when the program ends, with its new text. -/
def stateToWrite? (invocation : Invocation) (session : Session) : Option (String × String) :=
  invocation.state?.map (·, session.monitor.saved.toJson.renderPretty)

end Invocation

/-- What the program has done: its exit code, what it printed and the files it left. -/
structure Report where
  exitCode : UInt32
  output : String
  files : FileTree
  deriving Repr, DecidableEq

/-- The exit code when the arguments were refused. -/
def usageCode : UInt32 := 2

/-- The session that the program starts with. -/
def newSession (config : Config) : Except ProgramError Session :=
  let monitor := Monitor.ofConfig config
  if monitor.lacksHistory then .error .historyTooLong else .ok ⟨monitor, Machine.initial⟩

/-- The program as far as the dialogue: what it printed, and whether and how it goes on. -/
def start (invocation : Invocation) (find : Lookup) : String × Except ProgramError Session :=
  match invocation.config find >>= newSession with
  | .error error => ("", .error error)
  | .ok session =>
      match (invocation.prepare find).run session with
      | (outcome, session) =>
          let (text, session) := session.takeText
          match outcome with
          | .ok _ => (text, .ok session)
          | .error error => (text, .error error)

/-- The files after the program has stored what the monitor remembers. -/
def store (invocation : Invocation) (files : FileTree) (session : Session) :
    Except ProgramError FileTree :=
  match invocation.stateToWrite? session with
  | none => .ok files
  | some (path, state) =>
      match files.write? path state with
      | some files => .ok files
      | none => .error (.unwritable path)

/-- The program for an invocation, with the lines that the operator enters. -/
def perform (invocation : Invocation) (files : FileTree) (lines : List String) : Report :=
  match start invocation files.find with
  | (text, .error error) => ⟨error.exitCode, text, files⟩
  | (text, .ok session) =>
      let (rest, session) := if invocation.isBatch then ("", session) else session.converse lines
      match store invocation files session with
      | .ok files => ⟨0, text ++ rest, files⟩
      | .error error => ⟨error.exitCode, text ++ rest, files⟩

/-- The whole program: what comes of its arguments, the files and the text entered. -/
def run (arguments : List String) (files : FileTree) (input : String) : Report :=
  match Invocation.ofArguments arguments with
  | .error _ => ⟨usageCode, "", files⟩
  | .ok invocation => perform invocation files (Text.lines input)

end Monitor8080.CommandLine
