import Monitor8080.Proofs.ScriptFree
namespace Monitor8080

/-!
# Checking never perturbs execution

Whatever is checked, a step that retires is the processor's own step on bare
memory, and any other step of a run without scripts leaves the program where
it was. A command that runs the machine therefore comes to as many steps on
bare memory as its run retired.
-/

namespace Run

variable {handle : StopHandler} (isHandler : IsHandler handle) (goal : RunGoal)

include isHandler

/-- Every step of a run without scripts is a step on bare memory if it retired, and no step if not. -/
theorem keeps_alike
    {initial : Core Memory}
    (powered : initial.cpu.phase ≠ .poweredOff) :
    Keeps handle goal fun past stretch =>
      stretch.session.core.Alike
          (initial.afterSteps (past.countP (·.step.1.isRetired))) ∧
        stretch.session.monitor.sentry.breakpoints.ScriptFree ∧
        stretch.session.monitor.sentry.pending? = none where
  step := by
    rintro past executed session ⟨alike, scriptFree, idle⟩
    obtain ⟨sameGuard, -⟩ := step_spec isHandler scriptFree idle goal executed
    rw [sameGuard.breakpoints, sameGuard.pending?, List.countP_append, List.countP_singleton]
    have sameCore :
        (step handle goal executed session).session.core = session.step.2.core := by
      rw [Session.core, sameGuard.machine]
      rfl
    refine
      ⟨?_, scriptFree.mono fun kind => (Session.entries_step_sublist kind).subset,
        Session.step_idle idle⟩
    rw [sameCore]
    cases retired : session.step.1.isRetired with
    | true =>
        obtain ⟨count, stepped, sameCpu, sameMemory⟩ := Session.step_of_isRetired retired
        have poweredNow : session.core.cpu.phase ≠ .poweredOff := by
          intro poweredOff
          rw [Core.step_of_poweredOff poweredOff] at stepped
          cases stepped
        have nextAlike : session.step.2.core.Alike (Core.step session.core).2 :=
          ⟨congrArg (·.inPhase .ready) sameCpu, sameMemory⟩
        have bareAlike := alike.step poweredNow (by rwa [Core.afterSteps_phase])
        exact nextAlike.trans bareAlike.2
    | false =>
        exact (Session.step_core_of_not_isRetired idle retired).trans alike
  stopRequest := fun before => before

end Run

/--
A step that retires leaves the processor and the memory as a step on bare
memory does. A command that runs the machine leaves them, while no breakpoint
carries a script, as so many steps on bare memory do as its run retired.
-/
theorem checking_never_perturbs :
    (∀ session : Session,
      session.step.1.isRetired →
        ∃ count,
          (Core.step session.core).1 = .ok count ∧
            session.step.2.machine.cpu = (Core.step session.core).2.cpu ∧
            session.step.2.machine.memory.Alike (Core.step session.core).2.bus) ∧
      ∀ handle,
        Run.IsHandler handle →
        ∀ (command : RunCommand) (session : Session),
          session.monitor.sentry.breakpoints.ScriptFree →
          session.monitor.sentry.pending? = none →
            (command.after handle session).core.Alike
              (session.core.afterSteps
                ((command.stations handle session).countP (·.step.1.isRetired))) := by
  refine ⟨fun session retired => Session.step_of_isRetired retired, ?_⟩
  intro handle isHandler command session scriptFree idle
  rcases command.stations_cases handle session with
    ⟨noStations, same⟩ | ⟨goal, ready, enters, stations, same⟩
  · rw [noStations]
    exact same
  · have entered :
        (Run.enter ready).monitor.sentry.breakpoints.ScriptFree := by
      intro kind location member
      rcases enters.entries kind location member with earlier | noCommands
      · exact scriptFree kind location earlier
      · exact noCommands
    have whole :=
      (Run.keeps_alike isHandler goal enters.powered).perform ready
        ⟨enters.sameProgram, entered, enters.pending?.trans idle⟩
    rw [stations]
    exact same.trans whole.1

/-- Up to a breakpoint ahead one instruction is executed, and it does what it does on bare memory. -/
theorem checking_never_perturbs_up_to_breakpoint :
    (∃ count,
      (Core.step Session.breakpointAhead.core).1 = .ok count ∧
        Session.breakpointAhead.step.2.machine.cpu =
          (Core.step Session.breakpointAhead.core).2.cpu ∧
        Session.breakpointAhead.step.2.machine.memory.Alike
          (Core.step Session.breakpointAhead.core).2.bus) ∧
      ((RunCommand.go none).after Run.answerStop .breakpointAhead).core.Alike
        (Session.breakpointAhead.core.afterSteps 1) := by
  have retired : Session.breakpointAhead.step.1.isRetired := by
    decide +kernel
  have once :
      ((RunCommand.go none).stations Run.answerStop .breakpointAhead).countP
          (·.step.1.isRetired) =
        1 := by
    decide +kernel
  have whole :=
    checking_never_perturbs.2 Run.answerStop .outermost (.go none) .breakpointAhead
      Session.breakpointAhead_scriptFree rfl
  rw [once] at whole
  exact ⟨checking_never_perturbs.1 .breakpointAhead retired, whole⟩

end Monitor8080
