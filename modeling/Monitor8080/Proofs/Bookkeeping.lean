import Monitor8080.Proofs.Placement
import Monitor8080.Proofs.RecordedSteps
import Monitor8080.Proofs.RunLaws
namespace Monitor8080

/-!
# What steps leave to print and to record

A step takes note of ports and of the checksum and prints at once what is due,
so nothing is left to print after it. Nothing that a line comes down to changes
how much room the history asks for; where there is room for it, nothing is
ever abandoned.
-/

/-- Nothing is pending, and nothing is left to print. -/
structure Sentry.Tidy (sentry : Sentry) : Prop where
  idle : sentry.pending? = none
  noted : sentry.notes = []
  shown : sentry.checksum.isDue = false

namespace Sentry

variable {before after : Sentry}

theorem SameRecords.hasRoom
    (same : before.SameRecords after)
    (room : before.history.hasRoom) :
    after.history.hasRoom := by
  rwa [History.hasRoom, same.capacity]

theorem SameRecords.tidy
    (same : before.SameRecords after)
    (pending : after.pending? = before.pending?)
    (tidy : before.Tidy) :
    after.Tidy :=
  ⟨pending.trans tidy.idle, same.notes.trans tidy.noted, by rw [same.checksum, tidy.shown]⟩

end Sentry

namespace Monitor

/-! ## Settling the history -/

/-- Switching the recording keeps what is left to print, and the room asked for. -/
theorem settleHistory_records (monitor : Monitor) :
    monitor.sentry.SameRecords monitor.settleHistory.sentry := by
  simp only [settleHistory]
  split
  · exact .refl _
  · rw [message_sentry]
    refine ⟨rfl, rfl, ?_⟩
    exact History.capacity_enable _ _

/-- Where there is room, the history is recorded if it is to be. -/
theorem settleHistory_lacksHistory
    {monitor : Monitor}
    (room : monitor.sentry.history.hasRoom) :
    monitor.settleHistory.lacksHistory = false := by
  have records : monitor.settleHistory.sentry.history.isOn = monitor.wantsHistory := by
    rw [settleHistory_history, History.isOn_settle_of_hasRoom room]
  rw [lacksHistory, settleHistory_wantsHistory, records]
  exact Bool.and_not_self _

end Monitor

namespace Session

/-! ## Steps -/

theorem releaseTemporary_records (session : Session) (result : StepEnd) :
    session.monitor.sentry.SameRecords (session.releaseTemporary result).monitor.sentry := by
  rcases session.releaseTemporary_cases result with unchanged | ⟨kind, location, released⟩
  · rw [unchanged]
  · rw [released]
    exact session.monitor.settleHistory_records

/-- What a step leaves to print, before a temporary breakpoint is released. -/
theorem concluded_records (session : Session) :
    session.concluded.2.monitor.sentry.notes = [] ∧
      session.concluded.2.monitor.sentry.checksum.isDue = false ∧
      session.concluded.2.monitor.sentry.history.capacity =
        session.monitor.sentry.history.capacity := by
  obtain ⟨-, ⟨pending?, sentry⟩, -⟩ := session.execute.2.flush.conclude_spec session.execute.1
  refine ⟨?_, ?_, ?_⟩
  · rw [concluded, sentry, flush_sentry]
  · rw [concluded, sentry, flush_sentry]
  · rw [concluded_history, History.capacity_recordIf]

/-- After a step nothing is left to print. -/
theorem step_tidy
    {session : Session}
    (idle : session.monitor.sentry.pending? = none) :
    session.step.2.monitor.sentry.Tidy := by
  obtain ⟨noted, shown, -⟩ := session.concluded_records
  have released := session.concluded.2.releaseTemporary_records session.concluded.1
  refine ⟨step_idle idle, ?_, ?_⟩
  · rw [step_eq, released.notes, noted]
  · rw [step_eq, released.checksum, shown]

theorem step_hasRoom
    {session : Session}
    (room : session.monitor.sentry.history.hasRoom) :
    session.step.2.monitor.sentry.history.hasRoom := by
  obtain ⟨-, -, capacity⟩ := session.concluded_records
  have released := session.concluded.2.releaseTemporary_records session.concluded.1
  rw [step_eq, History.hasRoom, released.capacity, capacity]
  exact room

/-- Where there is room for the history, no step breaks a run. -/
theorem isBroken_of_hasRoom
    {session : Session}
    (room : session.monitor.sentry.history.hasRoom) :
    Run.isBroken session.step.1 session.step.2 = false := by
  obtain ⟨-, -, capacity⟩ := session.concluded_records
  have concludedRoom : session.concluded.2.monitor.sentry.history.hasRoom := by
    rw [History.hasRoom, capacity]
    exact room
  -- Only the release of a temporary breakpoint can break a run, and it settles the history.
  rw [step_eq, Run.isBroken]
  cases session.concluded.1 with
  | cycles count =>
      rfl
  | fault error =>
      rfl
  | «break» reason =>
      cases reason with
      | port direction number byte =>
          rfl
      | hit reached =>
          cases reached with
          | countdown address =>
              rfl
          | entry kind location consumed =>
              cases isTemporary : location.isTemporary with
              | false =>
                  simp [StepEnd.releasesTemporary, isTemporary]
              | true =>
                  have settled := Monitor.settleHistory_lacksHistory concludedRoom
                  simp [releaseTemporary, isTemporary, settled]

/-! ## Edits -/

/-- The history is settled after a change that leaves nothing to print. -/
def Resettles (before after : Session) : Prop :=
  ∃ monitor : Monitor,
    after.monitor = monitor.settleHistory ∧
      (before.monitor.sentry.Tidy → monitor.sentry.Tidy) ∧
      monitor.sentry.history.capacity = before.monitor.sentry.history.capacity

theorem resettles_of_breakpoints
    {before after : Session}
    {breakpoints : Breakpoints}
    (settled : after.monitor = (before.monitor.withBreakpoints breakpoints).settleHistory) :
    before.Resettles after :=
  ⟨_, settled, fun tidy => ⟨tidy.idle, tidy.noted, tidy.shown⟩, rfl⟩

theorem resettles_of_placeBreakpoint
    {before after : Session}
    {kind : BreakKind}
    {location : Location}
    (placed : before.placeBreakpoint kind location = .ok after) :
    before.Resettles after := by
  obtain ⟨added, monitor, -, -, sentry, rfl⟩ := placeBreakpoint_eq placed
  refine ⟨monitor, rfl, ?_, ?_⟩
  · intro tidy
    rw [sentry]
    exact ⟨tidy.idle, tidy.noted, tidy.shown⟩
  · rw [sentry]

/-- A change of what is checked settles the history, and a change by hand leaves the monitor alone. -/
theorem Makes.resettles
    {before after : Session}
    {edit : Edit}
    (makes : before.Makes edit after) :
    edit.isCheck = false ∧ after.monitor = before.monitor ∨ before.Resettles after := by
  cases makes with
  | machine edit =>
      exact .inl ⟨rfl, rfl⟩
  | place placed =>
      exact .inr (resettles_of_placeBreakpoint placed)
  | remove address? =>
      right
      cases address? <;> exact resettles_of_breakpoints rfl
  | arm count =>
      exact .inr (resettles_of_breakpoints rfl)
  | checksum interval =>
      exact .inr ⟨_, rfl, fun tidy => ⟨tidy.idle, tidy.noted, rfl⟩, rfl⟩

theorem removeTemporary_resettles (session : Session) :
    session.removeTemporaryBreakpoints = (0, session) ∨
      session.Resettles session.removeTemporaryBreakpoints.2 := by
  unfold removeTemporaryBreakpoints
  simp only
  split
  · exact .inl rfl
  · exact .inr (resettles_of_breakpoints rfl)

/-! ## The order that is kept -/

/-- What was tidy stays so, and where there is room for the history nothing is abandoned. -/
structure StaysInOrder (before : Session) (isAbandoned : Bool) (after : Session) : Prop where
  tidy : before.monitor.sentry.Tidy → after.monitor.sentry.Tidy
  room :
    before.monitor.sentry.history.hasRoom →
      isAbandoned = false ∧ after.monitor.sentry.history.hasRoom

namespace StaysInOrder

variable {before after : Session} {isAbandoned : Bool}

/-- A change that settles the history keeps the order; it is abandoned only without room. -/
theorem of_resettles
    (resettles : before.Resettles after)
    (isChecked : Bool) :
    before.StaysInOrder (isChecked && after.monitor.lacksHistory) after := by
  obtain ⟨monitor, settled, tidy, capacity⟩ := resettles
  have same := monitor.settleHistory_records
  refine ⟨?_, ?_⟩
  · intro tidyBefore
    rw [settled]
    exact same.tidy monitor.settleHistory_pending? (tidy tidyBefore)
  · intro room
    have roomLeft : monitor.sentry.history.hasRoom := by
      rw [History.hasRoom, capacity]
      exact room
    rw [settled, Monitor.settleHistory_lacksHistory roomLeft]
    exact ⟨Bool.and_false _, same.hasRoom roomLeft⟩

theorem of_records
    (same : before.monitor.sentry.SameRecords after.monitor.sentry)
    (pending : after.monitor.sentry.pending? = before.monitor.sentry.pending?) :
    before.StaysInOrder false after :=
  ⟨same.tidy pending, fun room => ⟨rfl, same.hasRoom room⟩⟩

end StaysInOrder

instance : LawfulReports StaysInOrder where
  refl _ := .of_records (.refl _) rfl
  trans first second :=
    ⟨second.tidy ∘ first.tidy, fun room => second.room (first.room room).2⟩
  report same := .of_records same.records same.pending?

/-- Everything that lines come down to keeps the order. -/
theorem staysInOrder_isLaw : Run.IsLawThroughout StaysInOrder where
  clearError session := by
    have same := Run.clearError_sentry session
    refine .of_records ?_ ?_ <;> rw [same]
  enter session := .of_records ⟨rfl, rfl, rfl⟩ rfl
  step session := by
    refine ⟨fun tidy => step_tidy tidy.idle, fun room => ?_⟩
    exact ⟨isBroken_of_hasRoom room, step_hasRoom room⟩
  stop session := .of_records ⟨rfl, rfl, rfl⟩ rfl
  removeTemporary session := by
    rcases session.removeTemporary_resettles with unchanged | resettles
    · rw [unchanged]
      exact LawfulReports.report (.refl session)
    · exact .of_resettles resettles _
  mute session := .of_records ⟨rfl, rfl, rfl⟩ rfl
  unmute session := .of_records ⟨rfl, rfl, rfl⟩ rfl
  resume session := .of_records ⟨rfl, rfl, rfl⟩ rfl
  edit edit before after makes := by
    rcases makes.resettles with ⟨byHand, unchanged⟩ | resettles
    · rw [byHand]
      refine .of_records ?_ ?_ <;> rw [unchanged]
    · exact .of_resettles resettles _

end Session
end Monitor8080
