import Monitor8080.Proofs.Conclusion
import Monitor8080.Proofs.Hits
namespace Monitor8080

/-!
# Placing and removing breakpoints

A breakpoint that is placed is one more entry of its kind with a watch on its
address, and one that is removed is an entry and a watch less. Nothing else of
what is checked changes, and nothing that a program can tell.
-/

namespace Breakpoints

variable {breakpoints added : Breakpoints} {kind : BreakKind} {location : Location}

/-- An entry that is added comes last, unless it is a temporary one that is there already. -/
theorem add_cases (succeeded : breakpoints.add kind location = .ok added) :
    added = breakpoints ∨
      added = breakpoints.withEntries kind (breakpoints.entries kind ++ [location]) := by
  unfold add at succeeded
  split at succeeded
  · cases succeeded
  · simp only at succeeded
    split at succeeded
    · split at succeeded
      · cases succeeded
        exact .inl rfl
      · cases succeeded
    · cases succeeded
      exact .inr rfl

/-- Adding an entry leaves alone what holds the breakpoints back. -/
theorem add_restraints (succeeded : breakpoints.add kind location = .ok added) :
    added.countdown? = breakpoints.countdown? ∧
      added.muting = breakpoints.muting ∧
      added.excused? = breakpoints.excused? := by
  rcases add_cases succeeded with rfl | rfl
  · exact ⟨rfl, rfl, rfl⟩
  · cases kind <;> exact ⟨rfl, rfl, rfl⟩

/-- An entry after one is added was there before, or is the one added. -/
theorem mem_add
    (succeeded : breakpoints.add kind location = .ok added)
    {other : BreakKind}
    {entry : Location}
    (member : entry ∈ added.entries other) :
    entry ∈ breakpoints.entries other ∨ other = kind ∧ entry = location := by
  rcases add_cases succeeded with rfl | rfl
  · exact .inl member
  · by_cases isKind : other = kind
    · subst other
      rw [entries_withEntries, List.mem_append, List.mem_singleton] at member
      rcases member with earlier | rfl
      · exact .inl earlier
      · exact .inr ⟨rfl, rfl⟩
    · rw [entries_withEntries_of_ne isKind] at member
      exact .inl member

theorem mem_listed : (kind, location) ∈ breakpoints.listed ↔ location ∈ breakpoints.entries kind := by
  cases kind <;> simp [listed, BreakKind.all]

@[simp] theorem entries_without
    (breakpoints : Breakpoints)
    (test : Location → Bool)
    (kind : BreakKind) :
    (breakpoints.without test).entries kind =
      (breakpoints.entries kind).filter (!test ·) := by
  cases kind <;> rfl

/-- Breakpoints of which a test picks none out stay as they are without those. -/
theorem without_of_picked_eq_nil
    {test : Location → Bool}
    (nothing : breakpoints.picked test = []) :
    breakpoints.without test = breakpoints := by
  have notPicked : ∀ kind, ∀ location ∈ breakpoints.entries kind, test location = false := by
    intro kind location member
    have unpicked := List.filter_eq_nil_iff.mp nothing (kind, location) (mem_listed.mpr member)
    simpa using unpicked
  obtain ⟨exec, read, write, countdown?, muting, excused?⟩ := breakpoints
  simpa [without] using ⟨notPicked .exec, notPicked .read, notPicked .write⟩

end Breakpoints

namespace Session

/-- Placing a breakpoint changes the breakpoints alone, before the history is settled. -/
theorem placeBreakpoint_eq
    {before after : Session}
    {kind : BreakKind}
    {location : Location}
    (placed : before.placeBreakpoint kind location = .ok after) :
    ∃ (added : Breakpoints) (monitor : Monitor),
      before.monitor.sentry.breakpoints.add kind location = .ok added ∧
        monitor.config = before.monitor.config ∧
        monitor.sentry = { before.monitor.sentry with breakpoints := added } ∧
        after = ⟨monitor.settleHistory, watchFor before.machine kind location⟩ := by
  unfold placeBreakpoint at placed
  cases succeeded : before.monitor.sentry.breakpoints.add kind location with
  | error error =>
      rw [succeeded] at placed
      cases placed
  | ok added =>
      rw [succeeded] at placed
      cases placed
      refine ⟨added, _, rfl, ?_, ?_, rfl⟩
      · split
        · rw [Monitor.message_config]
          rfl
        · rfl
      · split
        · rw [Monitor.message_sentry]
          rfl
        · rfl

/-- A breakpoint that is placed is added to the others and watched. -/
theorem placeBreakpoint_ok
    {before after : Session}
    {kind : BreakKind}
    {location : Location}
    (placed : before.placeBreakpoint kind location = .ok after) :
    before.monitor.sentry.breakpoints.add kind location =
        .ok after.monitor.sentry.breakpoints ∧
      after.monitor.sentry.pending? = before.monitor.sentry.pending? ∧
      after.machine = watchFor before.machine kind location := by
  obtain ⟨added, monitor, succeeded, -, sentry, rfl⟩ := placeBreakpoint_eq placed
  refine ⟨?_, ?_, rfl⟩
  · rw [Monitor.settleHistory_breakpoints, sentry]
    exact succeeded
  · rw [Monitor.settleHistory_pending?, sentry]

/-- Removing breakpoints filters every kind, and takes the watches of what went away. -/
theorem removeBreakpoints_eq
    (session : Session)
    (address? : Option UInt16) :
    ∃ test : Location → Bool,
      (session.removeBreakpoints address?).2.monitor.sentry.breakpoints =
          session.monitor.sentry.breakpoints.without test ∧
        (session.removeBreakpoints address?).2.monitor.sentry.pending? =
          session.monitor.sentry.pending? ∧
        (session.removeBreakpoints address?).2.machine =
          unwatchAll session.machine (session.monitor.sentry.breakpoints.picked test) := by
  cases address? with
  | none =>
      exact ⟨fun _ => true, Monitor.settleHistory_breakpoints _,
        Monitor.settleHistory_pending? _, rfl⟩
  | some address =>
      exact ⟨fun entry => entry.address? = some address, Monitor.settleHistory_breakpoints _,
        Monitor.settleHistory_pending? _, rfl⟩

theorem removeTemporaryBreakpoints_eq (session : Session) :
    session.removeTemporaryBreakpoints.2.monitor.sentry.breakpoints =
        session.monitor.sentry.breakpoints.without (·.isTemporary) ∧
      session.removeTemporaryBreakpoints.2.monitor.sentry.pending? =
        session.monitor.sentry.pending? ∧
      session.removeTemporaryBreakpoints.2.machine =
        unwatchAll session.machine
          (session.monitor.sentry.breakpoints.picked (·.isTemporary)) := by
  unfold removeTemporaryBreakpoints Breakpoints.removeTemporary Breakpoints.removeWhere
  simp only
  split
  · rename_i nothing
    rw [List.isEmpty_iff] at nothing
    rw [Breakpoints.without_of_picked_eq_nil nothing, nothing]
    exact ⟨rfl, rfl, rfl⟩
  · exact ⟨Monitor.settleHistory_breakpoints _, Monitor.settleHistory_pending? _, rfl⟩

theorem startCountdown_breakpoints (session : Session) (count : Nat) :
    (session.updateMonitor (·.startCountdown count)).monitor.sentry.breakpoints =
      session.monitor.sentry.breakpoints.startCountdown count :=
  Monitor.settleHistory_breakpoints _

theorem unwatchAll_alike
    (machine : Machine)
    (removed : List (BreakKind × Location)) :
    (unwatchAll machine removed).memory.Alike machine.memory := by
  induction removed generalizing machine with
  | nil =>
      exact .refl _
  | cons entry rest inductionHypothesis =>
      exact (inductionHypothesis _).trans (unwatchFor_alike machine entry.1 entry.2)

@[simp] theorem unwatchAll_cpu
    (machine : Machine)
    (removed : List (BreakKind × Location)) :
    (unwatchAll machine removed).cpu = machine.cpu := by
  induction removed generalizing machine with
  | nil =>
      rfl
  | cons entry rest inductionHypothesis =>
      exact (inductionHypothesis _).trans (unwatchFor_cpu ..)

end Session
end Monitor8080
