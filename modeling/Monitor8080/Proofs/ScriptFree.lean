import Monitor8080.Proofs.RunCommands
namespace Monitor8080

/-!
# Runs without scripts

While no breakpoint carries a script, a stop does nothing but end the run, be
it inside a script or outside. One step of a run is then one step under the
monitor and the lines that are printed after it.
-/

/-- No breakpoint carries a script. -/
def Breakpoints.ScriptFree (breakpoints : Breakpoints) : Prop :=
  ∀ kind, ∀ location ∈ breakpoints.entries kind, location.commands = []

/-- Fewer breakpoints carry fewer scripts. -/
theorem Breakpoints.ScriptFree.mono
    {fewer more : Breakpoints}
    (scriptFree : more.ScriptFree)
    (included : ∀ kind, fewer.entries kind ⊆ more.entries kind) :
    fewer.ScriptFree :=
  fun kind location member => scriptFree kind location (included kind member)

namespace Run

/-- The handlers of stops, outside scripts and inside. -/
inductive IsHandler : StopHandler → Prop where
  | outermost : IsHandler answerStop
  | nested : IsHandler endAt

/-- A stop at an entry without a script ends the run. -/
theorem IsHandler.eq_endAt
    {handle : StopHandler}
    (isHandler : IsHandler handle)
    {breakpoints : Breakpoints}
    {reason : Stop}
    (named : reason.NamesEntryOf breakpoints)
    (scriptFree : breakpoints.ScriptFree)
    (session : Session) :
    handle reason session = endAt reason session := by
  cases isHandler with
  | nested =>
      rfl
  | outermost =>
      cases reason with
      | port direction number byte =>
          rfl
      | hit reached =>
          cases reached with
          | countdown address =>
              rfl
          | entry kind location consumed =>
              have noCommands : location.commands = [] := scriptFree kind location named
              simp only [answerStop, noCommands, List.isEmpty_nil, ↓reduceIte]

/-- A stop that ends the run does nothing else but print. -/
theorem endAt_spec
    (reason : Stop)
    (session : Session) :
    (endAt reason session).1 = .ends ∧ session.SameDuty (endAt reason session).2 := by
  unfold endAt
  split
  · split
    · exact ⟨rfl, .refl session⟩
    · exact ⟨rfl, .print session _⟩
  · exact ⟨rfl, .print session _⟩

/-- What a trace shows is printed. -/
theorem showTraced_sameDuty
    (detail : TraceDetail)
    (listed : Listed)
    (session : Session) :
    session.SameDuty (showTraced detail listed session) :=
  .printAll session _

section Step

variable
  {handle : StopHandler}
  (isHandler : IsHandler handle)
  {session : Session}
  (scriptFree : session.monitor.sentry.breakpoints.ScriptFree)
  (idle : session.monitor.sentry.pending? = none)

include isHandler scriptFree idle

/-- After a step, the run goes on only if nothing stopped it, and nothing is done but to print. -/
theorem react_spec (session' : Session) :
    session'.SameGuard (react handle session.step.1 session').2 ∧
      ((react handle session.step.1 session').1 = .goesOn →
        ∃ count, session.step.1 = .cycles count) := by
  cases ended : session.step.1 with
  | cycles count =>
      refine ⟨?_, fun _ => ⟨count, rfl⟩⟩
      unfold react
      split
      · split
        · exact (Session.SameDuty.print session' _).toSameGuard
        · exact .refl session'
      · contradiction
      · contradiction
  | «break» reason =>
      have named := Session.step_names idle ended
      obtain ⟨ends, sameDuty⟩ := endAt_spec reason session'
      rw [react, isHandler.eq_endAt named scriptFree session']
      exact ⟨sameDuty.toSameGuard, fun goesOn => absurd (ends.symm.trans goesOn) Course.noConfusion⟩
  | fault error =>
      exact ⟨.refl session', fun goesOn => absurd goesOn Course.noConfusion⟩

/-- A step of a run is a step under the monitor, and lines that are printed. -/
theorem step_spec
    (goal : RunGoal)
    (executed : Nat) :
    session.step.2.SameGuard (step handle goal executed session).session ∧
      ((step handle goal executed session).course = .goesOn →
        ∃ count, session.step.1 = .cycles count) := by
  have reacts := react_spec isHandler scriptFree idle
  unfold step
  simp only
  split
  · exact ⟨.refl _, fun goesOn => absurd goesOn Course.noConfusion⟩
  · split
    · split
      · obtain ⟨sameGuard, goesOn⟩ := reacts (showTraced _ _ session.step.2)
        exact ⟨(showTraced_sameDuty _ _ _).toSameGuard.trans sameGuard, goesOn⟩
      · exact reacts session.step.2
    · exact reacts session.step.2

end Step

end Run

namespace Session

/-- A session that nothing was done with but to set a breakpoint at the second address. -/
def breakpointAhead : Session :=
  ⟨(Monitor.ofConfig .default).withBreakpoints
      { Breakpoints.empty with exec := [Location.ofAddress 1] },
    Machine.initial⟩

theorem breakpointAhead_scriptFree :
    breakpointAhead.monitor.sentry.breakpoints.ScriptFree := by
  intro kind location member
  cases kind with
  | exec =>
      rw [List.mem_singleton.mp member]
      rfl
  | read =>
      cases member
  | write =>
      cases member

end Session

end Monitor8080
