import Monitor8080.Monitor.Basic
namespace Monitor8080

/-!
# One step under the monitor

The monitor has the processor make a step, through the guarded bus if anything
is to be checked. It then prints what the step left to print and tells how the
step ended. An instruction whose fetch was refused did not happen; any other
reason to stop comes after the instruction was executed.
-/

/-- How a step ended. -/
inductive StepEnd where
  | cycles (count : Nat)
  | break (reason : Stop)
  | fault (error : StepError)
  deriving Repr, DecidableEq

namespace StepEnd

/-- Whether the step executed something, and did not merely try. -/
def isRetired : StepEnd → Bool
  | .cycles _ => true
  | .break (.port _ _ _) => true
  | .break (.hit (.entry kind _ _)) => kind ≠ .exec
  | .break (.hit (.countdown _)) => false
  | .fault _ => false

/-- Whether the step reached a temporary breakpoint, which is then no longer watched. -/
def releasesTemporary : StepEnd → Bool
  | .break (.hit (.entry _ location _)) => location.isTemporary
  | _ => false

/-- The cycles that a step without a stop lasted. -/
def cycleCount : StepEnd → Nat
  | .cycles count => count
  | _ => 0

end StepEnd

/-- The wording of why a step was not made. -/
def StepError.message : StepError → String
  | .poweredOff => "CPU is powered off"
  | .unmappedFetch address =>
      "Fetch from unmapped memory at addr: 0x" ++ Text.hexWord address
  | .refusedFetch address => "Hit breakpoint at addr: 0x" ++ Text.hexWord address

namespace Monitor

/-- The monitor after printing the notes of a step. -/
def tellNotes (monitor : Monitor) : Monitor :=
  match monitor.sentry.notes with
  | [] => monitor
  | notes =>
      { monitor with sentry := { monitor.sentry with notes := [] } }.printAll notes

/-- The monitor after printing the checksum if it is due. -/
def flushChecksum (monitor : Monitor) (cycles : Nat) : Monitor :=
  if monitor.sentry.checksum.isDue then
    let checksum := { monitor.sentry.checksum with isDue := false }
    { monitor with sentry := { monitor.sentry with checksum := checksum } }.print <|
      "checksum " ++ Text.hexPadded 8 checksum.value.toNat
        ++ " at cycle " ++ toString cycles
  else
    monitor

def dropPending (monitor : Monitor) : Monitor :=
  { monitor with sentry := { monitor.sentry with pending? := none } }

end Monitor

namespace Session

/-- Has the processor make a step through the guarded bus. -/
def executeGuarded (session : Session) : Except StepError Nat × Session :=
  match session with
  | ⟨⟨config, symbols, output, sentry, bindings, dialect, codeCursor, dumpCursor,
      assembleCursor, commandHistory⟩, ⟨cpu, memory, stopRequested⟩⟩ =>
      match Core.step (⟨cpu, ⟨memory, sentry⟩⟩ : Core Guarded) with
      | (outcome, ⟨cpu, ⟨memory, sentry⟩⟩) =>
          (outcome,
            ⟨⟨config, symbols, output, sentry, bindings, dialect, codeCursor,
              dumpCursor, assembleCursor, commandHistory⟩, ⟨cpu, memory, stopRequested⟩⟩)

/-- Has the processor make a step on bare memory. -/
def executeBare (session : Session) : Except StepError Nat × Session :=
  match session with
  | ⟨monitor, ⟨cpu, memory, stopRequested⟩⟩ =>
      match Core.step (⟨cpu, memory⟩ : Core Memory) with
      | (outcome, ⟨cpu, memory⟩) => (outcome, ⟨monitor, ⟨cpu, memory, stopRequested⟩⟩)

/-- Has the processor make a step, through the guarded bus if anything is to be checked. -/
def execute (session : Session) : Except StepError Nat × Session :=
  if session.monitor.sentry.isNeeded session.machine.memory then
    session.executeGuarded
  else
    session.executeBare

/-- The session after printing what a step left to print. -/
def flush (session : Session) : Session :=
  match session with
  | ⟨monitor, machine⟩ =>
      ⟨monitor.tellNotes.flushChecksum machine.cpu.cycles, machine⟩

/-- What a step comes to, given its outcome at the processor. -/
def conclude (session : Session) : Except StepError Nat → StepEnd × Session
  | .ok count =>
      match session.monitor.sentry.pending? with
      | none => (.cycles count, session)
      | some reason => (.break reason, session.updateMonitor Monitor.dropPending)
  | .error (.refusedFetch address) =>
      let reason := session.monitor.sentry.pending?.getD (.hit (.countdown address))
      (.break reason, session.updateMonitor Monitor.dropPending)
  | .error error =>
      -- The phase is overwritten whatever it was, also where the power is off.
      let session := session.updateMachine (·.setPhase .error)
      (.fault error, session.print ("fault: " ++ error.message))

/-- The session after a stop: a temporary breakpoint that was reached is no longer watched. -/
def releaseTemporary (session : Session) : StepEnd → Session
  | .break (.hit (.entry kind location _)) =>
      -- Only the entry that is reported counts, though others may have gone away with it.
      if location.isTemporary then
        ⟨session.monitor.settleHistory, unwatchFor session.machine kind location⟩
      else
        session
  | _ => session

/-- One step under the monitor, and how it ended. -/
def step (session : Session) : StepEnd × Session :=
  let (outcome, session) := session.execute
  let (result, session) := session.flush.conclude outcome
  (result, session.releaseTemporary result)

end Session

end Monitor8080
