import Monitor8080.Operator.Script
import Monitor8080.Proofs.NameMaps
namespace Monitor8080

/-!
# What reporting leaves alone

Printing changes nothing but the output, and keeping the history recorded
changes nothing but the history and the output. What is checked, and the
machine, stay as they are.
-/

/-- Stopping a machine makes a running engine ready, and does nothing to any other. -/
theorem Machine.stop_cases (machine : Machine) :
    machine.cpu.phase ≠ .running ∧ machine.stop = machine ∨
      machine.cpu.phase = .running ∧ machine.stop = machine.setPhase .ready := by
  unfold stop
  split
  · rename_i running
    exact .inr ⟨running, rfl⟩
  · rename_i idle
    exact .inl ⟨idle, rfl⟩

namespace Monitor

/-! ## Printing -/

/-- Output leaves the sentry alone. -/
@[simp] theorem printAll_sentry (monitor : Monitor) (lines : List String) :
    (monitor.printAll lines).sentry = monitor.sentry := by
  induction lines generalizing monitor with
  | nil =>
      rfl
  | cons line rest inductionHypothesis =>
      exact inductionHypothesis (monitor.print line)

/-- Messages leave the sentry alone, shown or not. -/
@[simp] theorem message_sentry (monitor : Monitor) (topic : Topic) (text : String) :
    (monitor.message topic text).sentry = monitor.sentry := by
  unfold message
  split <;> rfl

@[simp] theorem printAll_config (monitor : Monitor) (lines : List String) :
    (monitor.printAll lines).config = monitor.config := by
  induction lines generalizing monitor with
  | nil =>
      rfl
  | cons line rest inductionHypothesis =>
      exact inductionHypothesis (monitor.print line)

@[simp] theorem message_config (monitor : Monitor) (topic : Topic) (text : String) :
    (monitor.message topic text).config = monitor.config := by
  unfold message
  split <;> rfl

/-! ## Settling the history -/

/-- The monitor with another history. -/
def withHistory (monitor : Monitor) (history : History) : Monitor :=
  { monitor with sentry := { monitor.sentry with history := history } }

/-- Settling the history does nothing, or switches the recording and reports that. -/
theorem settleHistory_cases (monitor : Monitor) :
    monitor.settleHistory = monitor ∨
      ∃ history text,
        monitor.settleHistory = (monitor.withHistory history).message .hist text := by
  simp only [settleHistory]
  split
  · exact .inl rfl
  · exact .inr ⟨_, _, rfl⟩

/-- Settling the history touches nothing of the sentry but the history. -/
theorem settleHistory_sentry (monitor : Monitor) :
    ∃ history,
      monitor.settleHistory.sentry = { monitor.sentry with history := history } := by
  rcases monitor.settleHistory_cases with unchanged | ⟨history, text, switched⟩
  · exact ⟨monitor.sentry.history, by rw [unchanged]⟩
  · exact ⟨history, by rw [switched, message_sentry]; rfl⟩

/-- Recording is switched without regard to the breakpoints. -/
@[simp] theorem settleHistory_breakpoints (monitor : Monitor) :
    monitor.settleHistory.sentry.breakpoints = monitor.sentry.breakpoints := by
  obtain ⟨history, settled⟩ := monitor.settleHistory_sentry
  rw [settled]

/-- Recording is switched without regard to what is pending. -/
@[simp] theorem settleHistory_pending? (monitor : Monitor) :
    monitor.settleHistory.sentry.pending? = monitor.sentry.pending? := by
  obtain ⟨history, settled⟩ := monitor.settleHistory_sentry
  rw [settled]

/-! ## What a step leaves to print -/

/-- Telling the notes leaves none, and nothing else of the sentry changed. -/
theorem tellNotes_sentry (monitor : Monitor) :
    monitor.tellNotes.sentry = { monitor.sentry with notes := [] } := by
  unfold tellNotes
  split
  · rename_i nothing
    rw [← nothing]
  · rw [printAll_sentry]

/-- Printing the checksum leaves none that is due, and nothing else of the sentry changed. -/
theorem flushChecksum_sentry (monitor : Monitor) (cycles : Nat) :
    (monitor.flushChecksum cycles).sentry =
      { monitor.sentry with checksum := { monitor.sentry.checksum with isDue := false } } := by
  unfold flushChecksum
  split
  · rfl
  · rename_i shown
    rw [← Bool.eq_false_iff.mpr shown]

/-! ## Symbols and variables -/

/-- The symbols are the same, and the variables stand in order if they did. -/
structure KeepsNames (before after : Monitor) : Prop where
  symbols : after.symbols = before.symbols
  bindings : before.bindings.IsOrdered → after.bindings.IsOrdered

namespace KeepsNames

@[refl] theorem refl (monitor : Monitor) : monitor.KeepsNames monitor :=
  ⟨rfl, id⟩

/-- Names that are kept over two changes in turn are kept. -/
theorem trans
    {first second third : Monitor}
    (keeps : first.KeepsNames second)
    (keepsNext : second.KeepsNames third) :
    first.KeepsNames third :=
  ⟨keepsNext.symbols.trans keeps.symbols, keepsNext.bindings ∘ keeps.bindings⟩

/-- Output defines no names. -/
theorem printAll (monitor : Monitor) (lines : List String) :
    monitor.KeepsNames (monitor.printAll lines) := by
  induction lines generalizing monitor with
  | nil =>
      exact .refl monitor
  | cons line rest inductionHypothesis =>
      have printed : monitor.KeepsNames (monitor.print line) := ⟨rfl, id⟩
      exact printed.trans (inductionHypothesis (monitor.print line))

/-- Messages define no names. -/
theorem message (monitor : Monitor) (topic : Topic) (text : String) :
    monitor.KeepsNames (monitor.message topic text) := by
  unfold Monitor.message
  split
  · exact ⟨rfl, id⟩
  · exact .refl monitor

/-- No name depends on whether the history is recorded. -/
theorem settleHistory (monitor : Monitor) : monitor.KeepsNames monitor.settleHistory := by
  rcases monitor.settleHistory_cases with unchanged | ⟨history, text, switched⟩
  · rw [unchanged]
  · have switches : monitor.KeepsNames (monitor.withHistory history) := ⟨rfl, id⟩
    rw [switched]
    exact switches.trans (.message _ .hist text)

/-- Notes that are told define no names. -/
theorem tellNotes (monitor : Monitor) : monitor.KeepsNames monitor.tellNotes := by
  unfold Monitor.tellNotes
  split
  · exact .refl monitor
  · have empties :
        monitor.KeepsNames { monitor with sentry := { monitor.sentry with notes := [] } } :=
      ⟨rfl, id⟩
    exact empties.trans (.printAll _ _)

/-- A checksum that is noted defines no name. -/
theorem flushChecksum (monitor : Monitor) (cycles : Nat) :
    monitor.KeepsNames (monitor.flushChecksum cycles) := by
  unfold Monitor.flushChecksum
  split
  · exact ⟨rfl, id⟩
  · exact .refl monitor

end KeepsNames

end Monitor

namespace Session

/-! ## Reports of a session -/

@[simp] theorem message_sentry (session : Session) (topic : Topic) (text : String) :
    (session.message topic text).monitor.sentry = session.monitor.sentry :=
  Monitor.message_sentry ..

@[simp] theorem flush_machine (session : Session) :
    session.flush.machine = session.machine := rfl

/-- Nothing is left to print. -/
theorem flush_sentry (session : Session) :
    session.flush.monitor.sentry =
      { session.monitor.sentry with
        notes := []
        checksum := { session.monitor.sentry.checksum with isDue := false } } := by
  rw [flush, Monitor.flushChecksum_sentry, Monitor.tellNotes_sentry]

/-- What a step noted is flushed without regard to the breakpoints. -/
@[simp] theorem flush_breakpoints (session : Session) :
    session.flush.monitor.sentry.breakpoints = session.monitor.sentry.breakpoints := by
  rw [flush_sentry]

/-- What a step noted is flushed without regard to what is pending. -/
@[simp] theorem flush_pending? (session : Session) :
    session.flush.monitor.sentry.pending? = session.monitor.sentry.pending? := by
  rw [flush_sentry]

@[simp] theorem showCurrent_sentry (session : Session) :
    session.showCurrent.monitor.sentry = session.monitor.sentry :=
  Monitor.printAll_sentry ..

@[simp] theorem noticeStop_sentry (session : Session) :
    session.noticeStop.monitor.sentry = session.monitor.sentry := by
  simp [noticeStop]

/-! ## Watches for breakpoints -/

/-- Watching addresses leaves the processor alone. -/
@[simp] theorem watchFor_cpu (machine : Machine) (kind : BreakKind) (location : Location) :
    (watchFor machine kind location).cpu = machine.cpu := by
  unfold watchFor
  split <;> rfl

@[simp] theorem unwatchFor_cpu (machine : Machine) (kind : BreakKind) (location : Location) :
    (unwatchFor machine kind location).cpu = machine.cpu := by
  unfold unwatchFor
  split <;> rfl

end Session

end Monitor8080
