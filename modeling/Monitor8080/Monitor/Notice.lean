import Monitor8080.Disassembly.Decode
import Monitor8080.Monitor.Step
namespace Monitor8080

/-!
# Instruction lines and notices

An instruction is listed under the name of the symbol at its address, with the
symbol's note and comment beside it. The host tells the monitor when the power
is switched, when the processor is reset or stopped, and when an interrupt is
requested.
-/

/-- An instruction with the symbol at its address. -/
structure Listed where
  label? : Option String
  decoded : Decoded
  deriving Repr, DecidableEq

def Listed.lines (listed : Listed) : List String :=
  listed.label?.toList ++ [listed.decoded.line]

namespace Session

/-- The instruction at an address; the next one to be executed is shown with what it reads. -/
def listedAt (session : Session) (address : UInt16) : Listed :=
  let ⟨monitor, machine⟩ := session
  let live? := if address = machine.cpu.pc then some machine.cpu else none
  let decoded := decode machine.memory address monitor.dialect live?
  match monitor.symbols.exactAt? address with
  | some symbol =>
      { label? := some (symbol.name ++ ":")
        decoded := { decoded with
          notes := decoded.notes ++ symbol.note?.toList ++ symbol.comment?.toList } }
  | none => ⟨none, decoded⟩

/-- The session after listing the next instruction to be executed. -/
def showCurrent (session : Session) : Session :=
  let lines := (session.listedAt session.pc).lines
  session.updateMonitor (·.printAll lines)

/-- The session with the listing cursor at the next instruction to be executed. -/
def pointAtPC (session : Session) : Session :=
  let pc := session.pc
  session.updateMonitor fun monitor =>
    { monitor with codeCursor := Location.ofAddress pc }

/-- The session told that the power was switched on or off. -/
def noticePower (session : Session) (isOn : Bool) : Session :=
  let session := session.message .cpu (if isOn then "power on" else "power off")
  if isOn then session.pointAtPC else session

/-- The session told that the machine was reset. -/
def noticeReset (session : Session) : Session :=
  let session :=
    session.updateMonitor fun monitor =>
      { monitor with
        sentry := { monitor.sentry with history := monitor.sentry.history.clear }
        dumpCursor := Location.unset }
  session.pointAtPC.message .cpu "reset"

/-- The session told that execution has stopped. -/
def noticeStop (session : Session) : Session :=
  (session.message .cpu ("stopped at " ++ Text.hexWord session.pc)).showCurrent

/-- The session after a request for an interrupt. -/
def noticeInterrupt (session : Session) (vector : UInt8) : Session :=
  let session :=
    session.updateMachine fun machine =>
      { machine with cpu := machine.cpu.requestInterrupt vector }
  session.message .int ("interrupt RST " ++ toString (vector.toNat % 8))

end Session

end Monitor8080
