import Monitor8080.Operator.Script
namespace Monitor8080

/-!
# Commands with a run

Such a command works out its arguments and may set a temporary breakpoint
before it runs the machine for one goal, and may show something afterwards.
-/

/-- A command that runs the machine: to go on, to trace or to step over a call. -/
inductive RunCommand where
  | go (address? : Option String)
  | trace (detail : TraceDetail) (count? : Option String)
  | stepPast (withRegisters : Bool)
  deriving Repr, DecidableEq

namespace RunCommand

open Operation

def command : RunCommand → Command
  | .go address? => .go address?
  | .trace detail count? => .trace detail count?
  | .stepPast withRegisters => .stepPast withRegisters

/-- The command that runs the machine which a command is, if it is one. -/
def ofCommand? : Command → Option RunCommand
  | .go address? => some (.go address?)
  | .trace detail count? => some (.trace detail count?)
  | .stepPast withRegisters => some (.stepPast withRegisters)
  | _ => none

/-- What comes before the run, and the goal of the run. -/
def prepare : RunCommand → Operation RunGoal
  | .go none => pure .go
  | .go (some text) => do
      placeBreakpoint .exec (Location.temporary (← address text))
      return .go
  | .trace detail count? => do
      return .trace detail (← countOr 1 count?)
  | .stepPast _ => do
      let decoded ← observe fun session =>
        decode session.machine.memory session.pc session.monitor.dialect none
      if decoded.isCall then
        placeBreakpoint .exec (Location.temporary decoded.next)
        return .go
      else
        return .quiet 1

def finish : RunCommand → RunGoal → Operation Unit
  | .stepPast withRegisters, goal => do
      if goal ≠ .go then
        modify Session.showCurrent
      if withRegisters then
        showRegisters
  | _, _ => pure ()

end RunCommand

end Monitor8080
