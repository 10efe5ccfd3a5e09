import Monitor8080.Disassembly.Mnemonic
import Monitor8080.Json.Decoding
import Monitor8080.Json.Reader
namespace Monitor8080

/-!
# Configuration

The settings of a monitor, read from a JSON record of which every field may be
left out.
-/

/-- The settings of a monitor. -/
structure Config where
  /-- How many addresses the history holds. -/
  historyCapacity : Nat
  /-- How many frames a stack trace shows at most. -/
  maxStackFrames : Nat
  /-- How many bytes before a return address are searched for the call. -/
  callScanWindow : Nat
  /-- How many instructions a listing shows. -/
  unassembleCount : Nat
  /-- How many bytes a dump shows. -/
  dumpBytes : Nat
  /-- How many instructions are executed between two looks at the stop flag. -/
  runChunk : Nat
  /-- How many instructions one run executes at most. -/
  runLimit : Nat
  /-- How many operator lines are remembered. -/
  commandHistoryLength : Nat
  dialect : Dialect
  /-- The names of the message topics that are switched on. -/
  messages : List String
  /-- Whether the history is recorded even if nothing is checked. -/
  alwaysRecordHistory : Bool
  deriving Repr, DecidableEq

/-- A dialect by its name, which may also be the name of an object's only member, with null. -/
def Dialect.ofJson? : Json → Option Dialect
  | .string name | .object [(name, .null)] =>
      [Dialect.intel8080, .intel8086].find? (·.name == name)
  | _ => none

namespace Config

/-- The settings where nothing else is given. -/
def default : Config where
  historyCapacity := 1024
  maxStackFrames := 16
  callScanWindow := 4
  unassembleCount := 16
  dumpBytes := 128
  runChunk := 10000
  runLimit := 50000000
  commandHistoryLength := 64
  dialect := .intel8080
  messages := []
  alwaysRecordHistory := false

instance : Inhabited Config :=
  ⟨default⟩

/-- The names of the settings in their order in an array. -/
def fieldNames : List String :=
  ["history_capacity", "max_stack_frames", "call_scan_window", "unassemble_count",
    "dump_bytes", "run_chunk", "run_limit", "command_history_len", "style", "messages",
    "always_record_history"]

/-- The settings that a value gives. -/
def ofJson? (value : Json) : Option Config := do
  let fields ← value.fields? fieldNames
  let count (name : String) (default : Nat) : Option Nat :=
    fields.defaulted? name Json.count? default
  return {
    historyCapacity := ← count "history_capacity" default.historyCapacity
    maxStackFrames := ← count "max_stack_frames" default.maxStackFrames
    callScanWindow :=
      ← fields.defaulted? "call_scan_window" (Json.natBelow? 0x10000) default.callScanWindow
    unassembleCount := ← count "unassemble_count" default.unassembleCount
    dumpBytes := ← count "dump_bytes" default.dumpBytes
    runChunk := ← count "run_chunk" default.runChunk
    runLimit := ← count "run_limit" default.runLimit
    commandHistoryLength := ← count "command_history_len" default.commandHistoryLength
    dialect := ← fields.defaulted? "style" Dialect.ofJson? default.dialect
    messages := ← fields.defaulted? "messages" (Json.list? Json.text?) default.messages
    alwaysRecordHistory :=
      ← fields.defaulted? "always_record_history" Json.bool? default.alwaysRecordHistory }

/-- The settings that a text gives. -/
def ofText? (text : String) : Option Config :=
  (Json.read? text).bind ofJson?

end Config

end Monitor8080
