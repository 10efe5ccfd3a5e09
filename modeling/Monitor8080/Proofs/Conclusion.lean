import Monitor8080.Proofs.MonitorFrames
import Monitor8080.Proofs.Transparency
namespace Monitor8080

/-!
# What the monitor concludes from a step

A step is the processor's own step, through the guarded bus or not, and then
the monitor's conclusion from it, which may release a temporary breakpoint.
Neither moves anything that a program can tell.
-/

namespace StepEnd

/-- How a step ends, by the reason to stop that it left and its outcome at the processor. -/
def ofOutcome (pending? : Option Stop) : Except StepError Nat → StepEnd
  | .ok count =>
      match pending? with
      | none => .cycles count
      | some reason => .break reason
  | .error (.refusedFetch address) => .break (pending?.getD (.hit (.countdown address)))
  | .error error => .fault error

/-- Whether the step could not be made. -/
def isFault : StepEnd → Bool
  | .fault _ => true
  | _ => false

end StepEnd

namespace Session

/-- The core of a session's machine. -/
def core (session : Session) : Core Memory :=
  ⟨session.machine.cpu, session.machine.memory⟩

/-- The core of a session's machine with its memory guarded. -/
def guardedCore (session : Session) : Core Guarded :=
  ⟨session.machine.cpu, ⟨session.machine.memory, session.monitor.sentry⟩⟩

/-- A guarded step is a step of the guarded core. -/
theorem executeGuarded_eq (session : Session) :
    session.executeGuarded =
      ((Core.step session.guardedCore).1,
        ⟨{ session.monitor with sentry := (Core.step session.guardedCore).2.bus.sentry },
          { session.machine with
            cpu := (Core.step session.guardedCore).2.cpu
            memory := (Core.step session.guardedCore).2.bus.memory }⟩) := rfl

/-- A bare step is a step of the core. -/
theorem executeBare_eq (session : Session) :
    session.executeBare =
      ((Core.step session.core).1,
        ⟨session.monitor,
          { session.machine with
            cpu := (Core.step session.core).2.cpu
            memory := (Core.step session.core).2.bus }⟩) := rfl

/-! ## The monitor's conclusion -/

section Conclude

variable (session : Session) (outcome : Except StepError Nat)

theorem conclude_fst :
    (session.conclude outcome).1 =
      StepEnd.ofOutcome session.monitor.sentry.pending? outcome := by
  unfold conclude StepEnd.ofOutcome
  cases outcome with
  | ok count =>
      cases session.monitor.sentry.pending? <;> rfl
  | error error =>
      cases error <;> rfl

@[simp] theorem conclude_breakpoints :
    (session.conclude outcome).2.monitor.sentry.breakpoints =
      session.monitor.sentry.breakpoints := by
  unfold conclude
  cases outcome with
  | ok count =>
      cases session.monitor.sentry.pending? <;> rfl
  | error error =>
      cases error <;> rfl

@[simp] theorem conclude_memory :
    (session.conclude outcome).2.machine.memory = session.machine.memory := by
  unfold conclude
  cases outcome with
  | ok count =>
      cases session.monitor.sentry.pending? <;> rfl
  | error error =>
      cases error <;> rfl

/-- Only a step that could not be made leaves its mark on the processor: the error phase. -/
theorem conclude_cpu :
    (session.conclude outcome).2.machine.cpu =
      if (session.conclude outcome).1.isFault then session.machine.cpu.inPhase .error
      else session.machine.cpu := by
  unfold conclude
  cases outcome with
  | ok count =>
      cases session.monitor.sentry.pending? <;> rfl
  | error error =>
      cases error <;> rfl

/-- Nothing stays pending unless the step could not be made. -/
theorem conclude_pending? :
    (session.conclude outcome).2.monitor.sentry.pending? =
      if (session.conclude outcome).1.isFault then session.monitor.sentry.pending?
      else none := by
  unfold conclude
  cases outcome with
  | ok count =>
      cases pending : session.monitor.sentry.pending? with
      | none =>
          exact pending
      | some reason =>
          rfl
  | error error =>
      cases error <;> rfl

end Conclude

/-! ## Releasing a temporary breakpoint -/

section Release

variable (session : Session) (result : StepEnd)

/-- A temporary breakpoint is released by unwatching it and settling the history, if at all. -/
theorem releaseTemporary_cases :
    session.releaseTemporary result = session ∨
      ∃ kind location,
        session.releaseTemporary result =
          ⟨session.monitor.settleHistory, unwatchFor session.machine kind location⟩ := by
  unfold releaseTemporary
  split
  · split
    · exact .inr ⟨_, _, rfl⟩
    · exact .inl rfl
  · exact .inl rfl

@[simp] theorem releaseTemporary_breakpoints :
    (session.releaseTemporary result).monitor.sentry.breakpoints =
      session.monitor.sentry.breakpoints := by
  rcases releaseTemporary_cases session result with unchanged | ⟨kind, location, released⟩
  · rw [unchanged]
  · rw [released, Monitor.settleHistory_breakpoints]

@[simp] theorem releaseTemporary_pending? :
    (session.releaseTemporary result).monitor.sentry.pending? =
      session.monitor.sentry.pending? := by
  rcases releaseTemporary_cases session result with unchanged | ⟨kind, location, released⟩
  · rw [unchanged]
  · rw [released, Monitor.settleHistory_pending?]

@[simp] theorem releaseTemporary_cpu :
    (session.releaseTemporary result).machine.cpu = session.machine.cpu := by
  rcases releaseTemporary_cases session result with unchanged | ⟨kind, location, released⟩
  · rw [unchanged]
  · rw [released, unwatchFor_cpu]

/-- A watch less makes no difference to a program. -/
theorem unwatchFor_alike
    (machine : Machine)
    (kind : BreakKind)
    (location : Location) :
    (unwatchFor machine kind location).memory.Alike machine.memory := by
  unfold unwatchFor
  split
  · exact machine.memory.unwatch_alike _ _
  · exact .refl _

/-- A watch more makes no difference to a program. -/
theorem watchFor_alike
    (machine : Machine)
    (kind : BreakKind)
    (location : Location) :
    (watchFor machine kind location).memory.Alike machine.memory := by
  unfold watchFor
  split
  · exact machine.memory.watch_alike _ _
  · exact .refl _

theorem releaseTemporary_memory_alike :
    (session.releaseTemporary result).machine.memory.Alike session.machine.memory := by
  rcases releaseTemporary_cases session result with unchanged | ⟨kind, location, released⟩
  · rw [unchanged]
  · rw [released]
    exact unwatchFor_alike session.machine kind location

end Release

/-! ## The whole step -/

variable (session : Session)

/-- What the monitor concludes from the processor's step. -/
def concluded : StepEnd × Session :=
  session.execute.2.flush.conclude session.execute.1

theorem step_eq :
    session.step =
      (session.concluded.1, session.concluded.2.releaseTemporary session.concluded.1) := rfl

/-- How a step ends is decided by the processor's step alone. -/
theorem step_fst :
    session.step.1 =
      StepEnd.ofOutcome session.execute.2.monitor.sentry.pending? session.execute.1 := by
  rw [step_eq, concluded, conclude_fst, flush_pending?]

@[simp] theorem step_breakpoints :
    session.step.2.monitor.sentry.breakpoints =
      session.execute.2.monitor.sentry.breakpoints := by
  rw [step_eq, releaseTemporary_breakpoints, concluded, conclude_breakpoints,
    flush_breakpoints]

theorem step_cpu :
    session.step.2.machine.cpu =
      if session.step.1.isFault then session.execute.2.machine.cpu.inPhase .error
      else session.execute.2.machine.cpu := by
  rw [step_eq, releaseTemporary_cpu, concluded, conclude_cpu, flush_machine]

theorem step_memory_alike :
    session.step.2.machine.memory.Alike session.execute.2.machine.memory := by
  have released :=
    releaseTemporary_memory_alike session.concluded.2 session.concluded.1
  rw [step_eq]
  rwa [concluded, conclude_memory, flush_machine] at released

theorem step_pending? :
    session.step.2.monitor.sentry.pending? =
      if session.step.1.isFault then session.execute.2.monitor.sentry.pending? else none := by
  rw [step_eq, releaseTemporary_pending?, concluded, conclude_pending?, flush_pending?]

end Session

end Monitor8080
