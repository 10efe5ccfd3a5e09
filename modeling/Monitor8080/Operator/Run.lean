import Monitor8080.Operator.Breaking
import Monitor8080.Operator.Command
namespace Monitor8080

/-!
# Runs

A run has the processor make steps until it has executed as many instructions
as asked for or allowed, until something stops it, or until a stop is
requested. The stop flag is looked at only between chunks of steps. What
becomes of a breakpoint that is reached is left to a handler, which tells how
the run goes on. A run that is abandoned stops where it is, and leaves all that
is usually done at its end undone.
-/

/-- What a run is for: to go on, to trace or to execute silently. -/
inductive RunGoal where
  | go
  | trace (detail : TraceDetail) (count : Nat)
  | quiet (count : Nat)
  deriving Repr, DecidableEq

namespace RunGoal

/-- How many instructions a run executes under a limit: as many as asked for, or any number. -/
def bound (goal : RunGoal) (limit : Nat) : Nat :=
  match goal with
  | .go => limit
  | .trace _ count => min count limit
  | .quiet count => min count limit

end RunGoal

/-- How a run goes on after a step. -/
inductive Course where
  | goesOn
  | ends
  /-- There is no room for the history. -/
  | abandoned
  deriving Repr, DecidableEq

/-- A handler of stops: how the run goes on, and the session after it. -/
abbrev StopHandler := Stop → Session → Course × Session

/-- What a stretch of a run came to. -/
structure Stretch where
  course : Course
  /-- How many instructions the run has executed so far. -/
  executed : Nat
  session : Session

namespace Run

/-- The lines that a trace shows for an executed instruction. -/
def traceLines (detail : TraceDetail) (listed : Listed) (cpu : Cpu) : List String :=
  match detail with
  | .plain => listed.lines
  | .registers => listed.lines ++ ["    " ++ cpu.line]
  | .calls => if listed.decoded.isCall then listed.lines else []

/-- The session after a trace has shown an instruction that was executed. -/
def showTraced (detail : TraceDetail) (listed : Listed) (session : Session) : Session :=
  let lines := traceLines detail listed session.machine.cpu
  session.updateMonitor (·.printAll lines)

/-- Whether the processor waits for an interrupt that cannot come. -/
def isStuck (cpu : Cpu) : Bool :=
  cpu.halted && !cpu.interruptsEnabled

/-- How a run goes on after a step, and the session then. -/
def react (handle : StopHandler) (result : StepEnd) (session : Session) :
    Course × Session :=
  match result with
  | .cycles _ =>
      if isStuck session.machine.cpu then
        (.ends, session.print ("halted at " ++ Text.hexWord session.pc))
      else
        (.goesOn, session)
  | .break reason => handle reason session
  | .fault _ => (.ends, session)

/-- Whether a step released a temporary breakpoint and left the history without room. -/
def isBroken (result : StepEnd) (session : Session) : Bool :=
  result.releasesTemporary && session.monitor.lacksHistory

/-- What a trace is going to show once the next instruction is executed. -/
def upcoming? (goal : RunGoal) (session : Session) : Option (TraceDetail × Listed) :=
  match goal with
  | .trace detail _ => some (detail, session.listedAt session.pc)
  | _ => none

/-- One step of a run that has executed some instructions. -/
def step (handle : StopHandler) (goal : RunGoal) (executed : Nat) (session : Session) :
    Stretch :=
  -- What is traced is read off before the step, which may overwrite it.
  let upcoming? := upcoming? goal session
  match session.step with
  | (result, session) =>
      if isBroken result session then
        ⟨.abandoned, executed, session⟩
      -- An instruction stopped by its own access was executed, so it counts and is shown.
      else if result.isRetired then
        let session :=
          match upcoming? with
          | some (detail, listed) => showTraced detail listed session
          | none => session
        match react handle result session with
        | (course, session) => ⟨course, executed + 1, session⟩
      else
        match react handle result session with
        | (course, session) => ⟨course, executed, session⟩

/-- A number of steps, or fewer if one of them ends the run. -/
def burst (handle : StopHandler) (goal : RunGoal) :
    (steps : Nat) → (executed : Nat) → Session → Stretch
  | 0, executed, session => ⟨.goesOn, executed, session⟩
  | steps + 1, executed, session =>
      match step handle goal executed session with
      | ⟨.goesOn, executed, session⟩ => burst handle goal steps executed session
      | stretch => stretch

/--
Chunk after chunk of steps until the run has executed as many instructions as
it may, or something ends it before. Each chunk makes a step at least.
-/
def chunks (handle : StopHandler) (goal : RunGoal) (chunk bound : Nat) :
    (fuel : Nat) → (executed : Nat) → Session → Stretch
  | 0, executed, session => ⟨.goesOn, executed, session⟩
  | fuel + 1, executed, session =>
      if bound ≤ executed then
        ⟨.goesOn, executed, session⟩
      else if session.machine.stopRequested then
        ⟨.ends, executed, session.print "stop requested"⟩
      else
        match burst handle goal (min chunk (bound - executed)) executed session with
        | ⟨.goesOn, executed, session⟩ => chunks handle goal chunk bound fuel executed session
        | stretch => stretch

/-- How many steps a chunk has: as many as configured for each unit of speed, and at least one. -/
def chunkSize (config : Config) (cpu : Cpu) : Nat :=
  max config.runChunk 1 * max cpu.speed 1

/-- The session at the start of a run: the engine runs and the first fetch is excused. -/
def enter (session : Session) : Session :=
  let session := session.updateMachine Machine.start
  let pc := session.pc
  session.updateMonitor fun monitor =>
    monitor.withBreakpoints (monitor.sentry.breakpoints.excuse pc)

/--
The steps of a run. A refused fetch is followed by an executed instruction if
the run goes on, so twice as many chunks as instructions are enough.
-/
def perform (handle : StopHandler) (goal : RunGoal) (session : Session) : Stretch :=
  let session := enter session
  let chunk := chunkSize session.monitor.config session.machine.cpu
  let bound := goal.bound session.monitor.config.runLimit
  chunks handle goal chunk bound (2 * bound + 1) 0 session

/-- Tells that a run executed as many instructions as any run may. -/
def reportLimit (course : Course) (executed : Nat) : Operation Unit := do
  let limit ← Operation.observe (·.monitor.config.runLimit)
  if course = .goesOn ∧ limit ≤ executed then
    Operation.print ("run limit of " ++ toString limit ++ " instructions reached")

/-- What is done after a run that no other run surrounds. -/
def leave (goal : RunGoal) : Operation Unit := do
  Operation.updateMachine Machine.stop
  Operation.clearTemporaryBreakpoints
  modify Session.pointAtPC
  if goal = .go then
    modify Session.noticeStop

/-- The session with an error of the engine cleared, which is reported. -/
def clearError (session : Session) : Session :=
  if session.machine.cpu.phase = .error then
    (session.message .cpu "clearing error state").updateMachine (·.setPhase .ready)
  else
    session

/-- Runs the machine, whose power has to be on. -/
def run (handle : StopHandler) (goal : RunGoal) : Operation Unit := do
  if !(← Operation.observe (·.machine.cpu.isPowered)) then
    throw .poweredOff
  modify clearError
  let isNested ← Operation.observe (·.machine.isRunning)
  match perform handle goal (← get) with
  | ⟨course, executed, session⟩ =>
      set session
      -- An abandoned run is not left: the engine and the temporary breakpoints stay.
      if course = .abandoned then
        throw .historyTooLong
      reportLimit course executed
      if isNested then
        modify Session.pointAtPC
      else
        leave goal

end Run

end Monitor8080
