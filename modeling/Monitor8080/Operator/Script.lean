import Monitor8080.Operator.Inspecting
import Monitor8080.Operator.Listing
import Monitor8080.Operator.Run
import Monitor8080.Operator.Setting
namespace Monitor8080

/-!
# Command lines and scripts

A line and the script of a breakpoint are lists of commands, executed in order
until one fails. A condition that does not hold passes on to the commands
after the next `else`.

A script is executed with breakpoints muted, so a run that one of its commands
starts meets no breakpoint. Runs are therefore of two kinds: those inside a
script, where a stop has no script of its own to execute, and those outside.
A line is abandoned with all its runs and scripts, just as they are, when there
is no room for the history.
-/

/-- How a list of commands ended. -/
inductive ScriptEnd where
  | completed
  /-- A condition did not hold and no `else` was left. -/
  | aborted
  | failed
  | abandoned
  deriving Repr, DecidableEq

/-- A way of running the machine. -/
abbrev Runner := RunGoal → Operation Unit

namespace Operation

/-- Goes on, until an address if one is given. -/
def go (run : Runner) (address? : Option String) : Operation Unit := do
  match address? with
  | some text => placeBreakpoint .exec (Location.temporary (← address text))
  | none => pure ()
  run .go

/-- Executes one instruction, or a call with all that it calls. -/
def stepPast (run : Runner) (withRegisters : Bool) : Operation Unit := do
  let decoded ← observe fun session =>
    decode session.machine.memory session.pc session.monitor.dialect none
  if decoded.isCall then
    placeBreakpoint .exec (Location.temporary decoded.next)
    run .go
  else
    run (.quiet 1)
    modify Session.showCurrent
  if withRegisters then
    showRegisters

/-- Stops the engine, which ends the run around the script that asks for it. -/
def halt : Operation Unit := do
  updateMachine Machine.stop
  message .cpu ("halt at " ++ Text.hexWord (← observe Session.pc))

/-- The description of the commands. -/
def usage : List String :=
  ["",
    "Usage:",
    "---------------------------------------------------------------",
    "Command                     Description",
    "---------------------------------------------------------------",
    "a [addr] [mnemonic] [op]    assembles an instruction (not supported)",
    "bp/br/bw addr [\x22cmds\x22]      sets an exec/read/write breakpoint",
    "bc addr|*                   clears breakpoints at addr, or all",
    "bl                          lists breakpoints",
    "bn [n]                      breaks after n instructions (0 disarms)",
    "bi/bo [port|*]              toggles a port input/output breakpoint",
    "d/db/dw/dd [addr] [len]     dumps memory as bytes/words/dwords",
    "dh [n] [n|filter]           shows execution history",
    "dm                          shows the memory block map",
    "e/eb/ew addr values...      edits memory",
    "f [clear]                   shows opcode frequencies",
    "g [addr]                    runs, optionally until addr",
    "h                           halts execution",
    "i port / o port byte        reads or writes a port",
    "k/ks [n]                    shows a stack trace (ks: with symbols)",
    "ln addr                     shows the nearest symbol",
    "ls [prefix]                 lists symbols",
    "m [category] [on|off]       shows or toggles message categories",
    "p/pr                        steps over (pr: then shows registers)",
    "print expr                  evaluates an expression",
    "r [reg[=value]]             shows or sets registers",
    "s [8080|8086|cs n|sp n]     shows or sets options",
    "t/tr/tc [n]                 traces n instructions (tr: registers, tc: calls)",
    "u [addr] [end]              unassembles",
    "var [name [= expr]]         lists, shows, sets or deletes variables",
    "if expr / else              script conditionals",
    ""]

/-- Executes a command that is no condition. -/
def execute (run : Runner) : Command → Operation Unit
  | .help => printAll usage
  | .assemble address? mnemonic? operands => assemble address? mnemonic? operands
  | .setBreakpoint kind address script? => setBreakpoint kind address script?
  | .removeBreakpoints address? => removeBreakpoints address?
  | .listBreakpoints => listBreakpoints
  | .countDown count? => countDown count?
  | .togglePort direction port? => togglePort direction port?
  | .dump unit address? length? => dump unit address? length?
  | .listHistory back? filter? => listHistory back? filter?
  | .dumpMap => dumpMap
  | .edit unit address values => edit unit address values
  | .frequencies isClear => frequencies isClear
  | .go address? => go run address?
  | .halt => halt
  | .readPort port => readPort port
  | .writePort port byte => writePort port byte
  | .listCalls withSymbols count? => listCalls withSymbols count?
  | .describeAddress address => describeAddress address
  | .listNames start? => listNames start?
  | .messages topic? enable? => messages topic? enable?
  | .stepPast withRegisters => stepPast run withRegisters
  | .print text => printValue text
  | .showRegisters => showRegisters
  | .register name value? => register name value?
  | .options arguments => options arguments
  | .trace detail count? => do run (.trace detail (← countOr 1 count?))
  | .disassemble address? end? => disassemble address? end?
  | .onVariables access => accessVariables access
  | .ifTrue _ | .orElse => throw (.malformed "if/else")

end Operation

namespace Script

/-- Whether a text is the command `else`. -/
def opensElse (text : String) : Bool :=
  match Command.parse text with
  | .ok .orElse => true
  | _ => false

/-- The commands after the next `else`, if there is one. -/
def afterElse? (commands : List String) : Option (List String) :=
  match commands.dropWhile (!opensElse ·) with
  | [] => none
  | _ :: rest => some rest

/-- What is left after an `else` is shorter than the commands before it. -/
theorem length_afterElse?_lt {commands rest : List String}
    (found : afterElse? commands = some rest) :
    rest.length < commands.length := by
  unfold afterElse? at found
  split at found
  · simp at found
  · next first tail same =>
      have := (List.dropWhile_sublist (!opensElse ·) (l := commands)).length_le
      simp only [same, List.length_cons] at this
      cases found
      omega

/-- Executes commands until one fails or none is left, and tells how that ended. -/
def execute (run : Runner) (commands : List String) (session : Session) :
    ScriptEnd × Session :=
  match commands with
  | [] => (.completed, session)
  | text :: rest =>
      match Command.parse text with
      | .error error => (.failed, session.print error.message)
      | .ok (.ifTrue condition) =>
          match session.monitor.evaluate session.machine condition with
          | .error error => (.failed, session.print error.message)
          | .ok value =>
              if value ≠ 0 then
                execute run rest session
              else
                match found : afterElse? rest with
                | some rest =>
                    have _shorter := length_afterElse?_lt found
                    execute run rest session
                | none => (.aborted, session)
      -- The commands of a condition that held end at the `else`.
      | .ok .orElse => (.completed, session)
      | .ok command =>
          match (Operation.execute run command).run session with
          | (.ok _, session) => execute run rest session
          | (.error .historyTooLong, session) => (.abandoned, session)
          | (.error error, session) => (.failed, session.print error.message)
termination_by commands.length
decreasing_by
  all_goals simp only [List.length_cons]
  all_goals omega

end Script

namespace Session

/-- The session with the breakpoints muted once more. -/
def mute (session : Session) : Session :=
  session.updateMonitor fun monitor =>
    monitor.withBreakpoints monitor.sentry.breakpoints.mute

/-- The session with the breakpoints muted once less. -/
def unmute (session : Session) : Session :=
  session.updateMonitor fun monitor =>
    monitor.withBreakpoints monitor.sentry.breakpoints.unmute

/-- The session with a breakpoint at the next instruction excused once. -/
def excuseHere (session : Session) : Session :=
  let pc := session.pc
  session.updateMonitor fun monitor =>
    monitor.withBreakpoints (monitor.sentry.breakpoints.excuse pc)

end Session

namespace Run

/-- A stop that has no script ends the run, silently if a temporary breakpoint was reached. -/
def endAt : StopHandler := fun reason session =>
  match reason with
  | .hit (.entry _ location _) =>
      if location.isTemporary then (.ends, session)
      else (.ends, session.print reason.text)
  | _ => (.ends, session.print reason.text)

/-- A run inside a script. -/
def nested : Runner :=
  run endAt

/--
Executes the script of a breakpoint. The run goes on after it unless the
script failed or stopped the engine, or a temporary breakpoint was reached at
the same place.
-/
def playScript (kind : BreakKind) (location : Location) (consumed : Bool)
    (session : Session) : Course × Session :=
  let (outcome, session) := Script.execute nested location.commands session.mute
  -- The abandoned script leaves the breakpoints muted.
  if outcome = .abandoned then
    (.abandoned, session)
  else
    let session := session.unmute
    if outcome = .failed ∨ !session.machine.isRunning then
      (.ends, session.print (Stop.hit (.entry kind location consumed)).text)
    else if consumed then
      (.ends, session)
    -- A refused instruction is still to be executed; one with an access was executed already.
    else if kind = .exec then
      (.goesOn, session.excuseHere)
    else
      (.goesOn, session)

/-- A stop executes the script of its breakpoint, or ends the run if there is none. -/
def answerStop : StopHandler := fun reason session =>
  match reason with
  | .hit (.entry kind location consumed) =>
      if location.commands.isEmpty then endAt reason session
      else playScript kind location consumed session
  | _ => endAt reason session

/-- A run outside scripts. -/
def outermost : Runner :=
  run answerStop

end Run

namespace Session

/-- The session that remembers a line as the one used last. -/
def recordLine (session : Session) (line : String) : Session :=
  session.updateMonitor fun monitor =>
    { monitor with
      commandHistory :=
        (line :: monitor.commandHistory.filter (· ≠ line)).take
          monitor.config.commandHistoryLength }

/--
Executes an operator line whole, with numbers of any size, and tells whether no
command in it failed. A line that meets a number too large for a machine word is
cut off there instead.
-/
def obey (session : Session) (line : String) : Bool × Session :=
  let line := Text.trim line
  if line.isEmpty then
    (true, session)
  else
    let session := session.recordLine line
    match Script.execute Run.outermost (Text.commandsOf line) session with
    | (.completed, session) | (.aborted, session) => (true, session)
    | (.failed, session) => (false, session)
    | (.abandoned, session) =>
        (false, session.print ("internal error: " ++ MonitorError.historyTooLong.message))

end Session

end Monitor8080
