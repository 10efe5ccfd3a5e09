import Monitor8080.Sentry.Breakpoints
import Monitor8080.Expr.Token
namespace Monitor8080

/-!
# Why a command failed

Each cause has a wording for the operator. A fault of an expression is
reported in the words of the expression.
-/

open Monitor8080.Expr (Fault)

/-- Why a command, a reading or a restoring failed. -/
inductive MonitorError where
  | unknownCommand (keyword : String)
  | malformed (text : String)
  | invalidAddress (text : String)
  | unknownRegister (name : String)
  | duplicateBreakpoint (kind : BreakKind) (address : UInt16)
  | noBreakpoint (address : UInt16)
  | expression (error : Fault)
  | malformedJson
  | poweredOff
  | historyNotRecorded
  | malformedSlot (slot : Nat)
  /-- The history was to be recorded and there is no room for it. -/
  | historyTooLong
  deriving Repr, DecidableEq

namespace MonitorError

def message : MonitorError → String
  | .unknownCommand keyword => "unknown command: " ++ keyword
  | .malformed text => "syntax error: " ++ text
  | .invalidAddress text => "invalid address: " ++ text
  | .unknownRegister name => "unknown register: " ++ name
  | .duplicateBreakpoint kind address =>
      kind.tag ++ " " ++ Text.hexWord address ++ " already exists"
  | .noBreakpoint address => "no breakpoint at " ++ Text.hexWord address
  | .expression error => error.message
  | .malformedJson => "malformed JSON"
  | .poweredOff => "machine is powered off"
  | .historyNotRecorded => "history is not being recorded"
  | .malformedSlot slot => "malformed address in state slot " ++ toString slot
  | .historyTooLong => "capacity overflow"

/-- Why a breakpoint was not set, as the failure of a command. -/
def ofBreakpointError : BreakpointError → MonitorError
  | .unset location => .invalidAddress location.text
  | .duplicate kind address => .duplicateBreakpoint kind address

end MonitorError

end Monitor8080
