import Monitor8080.Operator.RunCommand
namespace Monitor8080

/-!
# Lines that are cut off

The size of a chunk of steps and the end of a group of symbols are machine
words. Where a line comes to a product or a sum that is too large for one, it
is cut off just there, with its runs and scripts as they are, and the operator
is told. Up to there it is carried out like any line, so the place is looked
for along the way that the line takes.
-/

/-- The size of the chunks of a run, if it is a word. -/
def Run.chunkSize? (config : Config) (cpu : Cpu) : Option Nat :=
  word? (chunkSize config cpu)

/-- Where a line is cut off: what is too large there, and the session. -/
structure Cutoff where
  overflow : Overflow
  session : Session

/-! ## Symbols -/

namespace Session

/-- Where a search for the symbol at an address is cut off. -/
def searchCutoff? (session : Session) (address : UInt16) : Option Cutoff :=
  match session.monitor.symbols.lookup address true with
  | .ok _ => none
  | .error overflow => some ⟨overflow, session⟩

/-- Where the listing of instructions at some addresses is cut off: the lines before are printed. -/
def listingCutoff? (session : Session) : (addresses : List UInt16) → Option Cutoff
  | [] => none
  | address :: addresses =>
      session.searchCutoff? address <|>
        (session.updateMonitor (·.printAll (session.listedAt address).lines)).listingCutoff?
          addresses

/-- The addresses of a count of instructions from one on. -/
def countAddresses (session : Session) (address : UInt16) : (count : Nat) → List UInt16
  | 0 => []
  | count + 1 =>
      address :: session.countAddresses (session.listedAt address).decoded.next count

/-- The addresses of the instructions that a listing within some distance shows. -/
def addressesWithin (session : Session) (start distance : UInt16) (address : UInt16) :
    (fuel : Nat) → List UInt16
  | 0 => []
  | fuel + 1 =>
      if distance < address - start then
        []
      else
        let next := (session.listedAt address).decoded.next
        if next < address then [address]
        else address :: session.addressesWithin start distance next fuel

end Session

namespace Operation

/-- The addresses of the instructions that a listing shows. -/
def listedAddresses (address? end? : Option String) : Operation (List UInt16) := do
  let cursor ← place address? (← observe (·.monitor.codeCursor))
  let start := cursor.address?.getD 0
  match end? with
  | some text => do
      let stop ← address text
      observe (·.addressesWithin start (stop - start) start Memory.size)
  | none =>
      observe fun session => session.countAddresses start session.monitor.config.unassembleCount

/-- The addresses of the calls that a chain of calls names with symbols. -/
def namedCalls (count? : Option String) : Operation (List UInt16) := do
  let number ← countOr (← observe (·.monitor.config.maxStackFrames)) count?
  let frames ← observe fun session =>
    CallChain.frames
      { memory := session.machine.memory
        dialect := session.monitor.dialect
        scanWindow := session.monitor.config.callScanWindow
        symbols? := some session.monitor.symbols }
      session.machine.cpu number
  return frames.map (·.call.address)

end Operation

/-! ## Runs -/

namespace Run

section Search

variable (handle : StopHandler) (goal : RunGoal) (find? : Session → Option α)

/-- The first find at the sessions from which a number of steps are made. -/
def searchBurst : (steps : Nat) → (executed : Nat) → Session → Option α
  | 0, _, _ => none
  | steps + 1, executed, session =>
      find? session <|>
        match step handle goal executed session with
        | ⟨.goesOn, executed, session⟩ => searchBurst steps executed session
        | _ => none

/-- The first find in chunk after chunk of steps. -/
def searchChunks (chunk bound : Nat) :
    (fuel : Nat) → (executed : Nat) → Session → Option α
  | 0, _, _ => none
  | fuel + 1, executed, session =>
      if bound ≤ executed then
        none
      else if session.machine.stopRequested then
        none
      else
        let steps := min chunk (bound - executed)
        searchBurst handle goal find? steps executed session <|>
          match burst handle goal steps executed session with
          | ⟨.goesOn, executed, session⟩ => searchChunks chunk bound fuel executed session
          | _ => none

/-- The first find at the sessions from which a run makes its steps. -/
def search (session : Session) : Option α :=
  let session := enter session
  let chunk := chunkSize session.monitor.config session.machine.cpu
  let bound := goal.bound session.monitor.config.runLimit
  searchChunks handle goal find? chunk bound (2 * bound + 1) 0 session

end Search

/-- The session after a step of a run, once its trace has shown the step. -/
def shown (goal : RunGoal) (session : Session) : Session :=
  if session.step.1.isRetired then
    match upcoming? goal session with
    | some (detail, listed) => showTraced detail listed session.step.2
    | none => session.step.2
  else
    session.step.2

/-- Where a script is cut off. -/
abbrev ScriptCutoff := (commands : List String) → Session → Option Cutoff

/-- Where a step of a run is cut off: as its trace is prepared, or in the script that it leads to. -/
def stepCutoff? (scriptCutoff? : ScriptCutoff) (goal : RunGoal) (session : Session) :
    Option Cutoff :=
  (if (upcoming? goal session).isSome then session.searchCutoff? session.pc else none) <|>
    if isBroken session.step.1 session.step.2 then
      none
    else
      match session.step.1 with
      | .break (.hit (.entry _ location _)) =>
          scriptCutoff? location.commands (shown goal session).mute
      | _ => none

/-- Where the notice that a run has stopped is cut off. A quiet run is left without that notice. -/
def noticeCutoff? (stretch : Stretch) : Option Cutoff :=
  if stretch.course = .abandoned then
    none
  else
    let ending : Operation Unit := do
      reportLimit stretch.course stretch.executed
      leave (.quiet 0)
    match ending.run stretch.session with
    | (.ok _, session) =>
        (session.message .cpu ("stopped at " ++ Text.hexWord session.pc)).searchCutoff? session.pc
    | (.error _, _) => none

/-- Where a run is cut off: at its start, at one of its steps or at its end. -/
def cutoff? (handle : StopHandler) (scriptCutoff? : ScriptCutoff) (goal : RunGoal)
    (session : Session) : Option Cutoff :=
  if session.machine.cpu.isPowered then
    let session := clearError session
    let entered := enter session
    match chunkSize? entered.monitor.config entered.machine.cpu with
    | none => some ⟨.product, entered⟩
    | some _ =>
        search handle goal (stepCutoff? scriptCutoff? goal) session <|>
          if goal = .go ∧ !session.machine.isRunning then
            noticeCutoff? (perform handle goal session)
          else
            none
  else
    none

end Run

/-! ## Commands -/

/-- Where a run that is cut off in some places is cut off for a goal. -/
abbrev RunCutoff := RunGoal → Session → Option Cutoff

/-- Where a command with a run is cut off: in the run, or as it shows where the run has led to. -/
def RunCommand.cutoff? (runner : Runner) (runCutoff? : RunCutoff) (command : RunCommand)
    (session : Session) : Option Cutoff :=
  match command.prepare.run session with
  | (.error _, _) => none
  | (.ok goal, session) =>
      runCutoff? goal session <|>
        match command, (runner goal).run session with
        | .stepPast _, (.ok _, session) =>
            if goal = .go then none else session.searchCutoff? session.pc
        | _, _ => none

/-- Where a command is cut off. -/
def Command.cutoff? (runner : Runner) (runCutoff? : RunCutoff) (command : Command)
    (session : Session) : Option Cutoff :=
  match command with
  | .describeAddress text =>
      match (Operation.address text).run session with
      | (.ok address, session) => session.searchCutoff? address
      | (.error _, _) => none
  | .listCalls true count? =>
      match (Operation.namedCalls count?).run session with
      | (.ok addresses, session) => addresses.findSome? session.searchCutoff?
      | (.error _, _) => none
  | .disassemble address? end? =>
      match (Operation.listedAddresses address? end?).run session with
      | (.ok addresses, session) => session.listingCutoff? addresses
      | (.error _, _) => none
  | command =>
      (RunCommand.ofCommand? command).bind fun runCommand =>
        runCommand.cutoff? runner runCutoff? session

/-! ## Scripts and lines -/

namespace Script

/--
The first find among the commands that are executed, each looked at in its
session. Behind a condition that does not hold, commands are skipped up to the
next `else`.
-/
def search (runner : Runner) (find? : Command → Session → Option α) :
    (isSkipping : Bool) → (commands : List String) → Session → Option α
  | _, [], _ => none
  | true, text :: rest, session => search runner find? (!opensElse text) rest session
  | false, text :: rest, session =>
      match Command.parse text with
      | .error _ => none
      | .ok (.ifTrue condition) =>
          match session.monitor.evaluate session.machine condition with
          | .error _ => none
          | .ok value => search runner find? (value = 0) rest session
      | .ok .orElse => none
      | .ok command =>
          find? command session <|>
            match (Operation.execute runner command).run session with
            | (.ok _, session) => search runner find? false rest session
            | (.error _, _) => none

/-- Where a script is cut off whose commands run the machine by a runner. -/
def cutoff? (runner : Runner) (runCutoff? : RunCutoff) : Run.ScriptCutoff :=
  search runner (Command.cutoff? runner runCutoff?) false

end Script

namespace Run

/-- Where a run inside a script is cut off, in which no other script is executed. -/
def nestedCutoff? : RunCutoff :=
  cutoff? endAt fun _ _ => none

/-- Where a run outside scripts is cut off. -/
def outermostCutoff? : RunCutoff :=
  cutoff? answerStop (Script.cutoff? nested nestedCutoff?)

end Run

namespace Session

/-- Where a line is cut off. -/
def cutoff? (session : Session) (line : String) : Option Cutoff :=
  let line := Text.trim line
  if line.isEmpty then
    none
  else
    Script.cutoff? Run.outermost Run.outermostCutoff? (Text.commandsOf line)
      (session.recordLine line)

/-- Whether every size of a chunk that a speed can lead to, and the end of every group, is a word. -/
def fitsWords (session : Session) : Bool :=
  (max session.monitor.config.runChunk 1 * max session.machine.cpu.speed Operation.countLimit
      ≤ wordLimit) &&
    session.monitor.symbols.groups.all fun group => group.base.toNat + group.length ≤ wordLimit

/-- Obeys a line up to where it is cut off, and tells whether no command in it failed. -/
def heed (session : Session) (line : String) : Bool × Session :=
  -- Where all numbers that may matter are words, there is no need to look.
  if session.fitsWords then
    session.obey line
  else
    match session.cutoff? line with
    | some cutoff => (false, cutoff.session.print ("internal error: " ++ cutoff.overflow.message))
    | none => session.obey line

end Session

end Monitor8080
