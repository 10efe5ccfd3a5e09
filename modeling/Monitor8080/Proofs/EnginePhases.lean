import Monitor8080.Proofs.RunLaws
import Monitor8080.Proofs.StepCases
namespace Monitor8080

/-!
# Phases of the engine

Edits leave the phase alone but for a halt, which makes a running engine ready.
A step that fails puts the engine into its error phase whatever phase it is in,
and nothing but switching the power off leads back to being powered off.
-/

/-- A change of phase that edits may make: none, or a halt of a running engine. -/
def EnginePhase.Settles (before after : EnginePhase) : Prop :=
  after = before ∨ before = .running ∧ after = .ready

/-- An edit by hand leaves the phase alone, but for a halt. -/
theorem MachineEdit.apply_phase
    (edit : MachineEdit)
    (machine : Machine) :
    machine.cpu.phase.Settles (edit.apply machine).cpu.phase := by
  cases edit with
  | register name value =>
      cases name <;> exact .inl rfl
  | flag name value =>
      cases name <;> exact .inl rfl
  | halt =>
      rw [apply]
      rcases machine.stop_cases with ⟨-, same⟩ | ⟨running, ready⟩
      · rw [same]
        exact .inl rfl
      · rw [ready]
        exact .inr ⟨running, rfl⟩
  | _ =>
      exact .inl rfl

namespace Session

theorem Makes.phase
    {before after : Session}
    {edit : Edit}
    (makes : before.Makes edit after) :
    before.machine.cpu.phase.Settles after.machine.cpu.phase := by
  cases makes with
  | machine edit =>
      exact edit.apply_phase before.machine
  | place placed =>
      left
      rw [(placeBreakpoint_ok placed).2.2, watchFor_cpu]
  | remove address? =>
      left
      obtain ⟨test, -, -, machine⟩ := before.removeBreakpoints_eq address?
      rw [machine, unwatchAll_cpu]
  | arm count =>
      exact .inl rfl
  | checksum interval =>
      exact .inl rfl

theorem execute_phase (session : Session) :
    session.execute.2.machine.cpu.phase = session.machine.cpu.phase := by
  unfold execute
  split
  · rw [executeGuarded_eq]
    exact Core.step_phase session.guardedCore
  · rw [executeBare_eq]
    exact Core.step_phase session.core

/-- A step that could not be made is an error of the engine, and any other keeps the phase. -/
theorem step_phase (session : Session) :
    session.step.2.machine.cpu.phase =
      if session.step.1.isFault then .error else session.machine.cpu.phase := by
  rw [step_cpu]
  split
  · rfl
  · exact session.execute_phase

/-! ## Power -/

/-- The power is not switched off. -/
def StaysPowered (before after : Session) : Prop :=
  before.machine.cpu.isPowered → after.machine.cpu.isPowered

theorem staysPowered_of_phase
    {before after : Session}
    (phase : after.machine.cpu.phase = before.machine.cpu.phase ∨ after.machine.cpu.phase ≠ .poweredOff) :
    before.StaysPowered after := by
  intro powered
  rcases phase with same | powered
  · rw [Cpu.isPowered, same]
    exact powered
  · simpa [Cpu.isPowered] using powered

instance : AllowsReports StaysPowered where
  refl _ := id
  trans first second := second ∘ first
  report same := staysPowered_of_phase (.inl (by rw [same.machine]))

/-- Nothing that lines come down to switches the power off. -/
theorem staysPowered_isLaw :
    Run.IsLawThroughout fun before _ after => before.StaysPowered after where
  clearError session := by
    unfold Run.clearError
    split
    · exact staysPowered_of_phase (.inr EnginePhase.noConfusion)
    · exact id
  enter session := by
    intro powered
    have still := Run.enter_phase_ne (of_decide_eq_true powered)
    exact decide_eq_true still
  step session := by
    refine staysPowered_of_phase ?_
    rw [step_phase]
    split
    · exact .inr EnginePhase.noConfusion
    · exact .inl rfl
  stop session := by
    refine staysPowered_of_phase ?_
    rw [updateMachine]
    rcases session.machine.stop_cases with ⟨-, same⟩ | ⟨-, ready⟩
    · rw [same]
      exact .inl rfl
    · rw [ready]
      exact .inr EnginePhase.noConfusion
  removeTemporary session := by
    refine staysPowered_of_phase (.inl ?_)
    rw [session.removeTemporaryBreakpoints_eq.2.2, unwatchAll_cpu]
  mute _ := id
  unmute _ := id
  resume _ := id
  edit edit before after makes := by
    refine staysPowered_of_phase ?_
    rcases makes.phase with same | ⟨-, ready⟩
    · exact .inl same
    · rw [ready]
      exact .inr EnginePhase.noConfusion

end Session

end Monitor8080
