import Monitor8080.Proofs.BareRuns
import Monitor8080.Proofs.PendingCalls
import Monitor8080.Proofs.RunToAddress
namespace Monitor8080

/-!
# Stepping past a call

Stepping past a call sets a temporary breakpoint behind the call and runs the
machine. The breakpoint tells addresses apart and nothing else. So the run ends
when control comes there, be it that the call has been returned from, or that
another call from the same place has, which the call itself led to.
-/

open Operation

theorem Breakpoints.ScriptFree.areUnobtrusive
    {breakpoints : Breakpoints}
    (scriptFree : breakpoints.ScriptFree) :
    breakpoints.AreUnobtrusive := by
  intro kind location member
  rw [scriptFree kind location member]
  exact .nil

/-- What is done up to the first step of a run adds no script. -/
theorem Session.Enters.scriptFree
    {before after : Session}
    (enters : before.Enters after)
    (scriptFree : before.monitor.sentry.breakpoints.ScriptFree) :
    after.monitor.sentry.breakpoints.ScriptFree := by
  intro kind location member
  rcases enters.entries kind location member with earlier | noCommands
  · exact scriptFree kind location earlier
  · exact noCommands

/-- Alike cores are at the same address, and one with power fetches there if the other one does. -/
theorem Core.Alike.fetches
    {left right : Core Memory}
    (alike : left.Alike right)
    (powered : left.cpu.phase ≠ .poweredOff) :
    left.cpu.pc = right.cpu.pc ∧ (right.cpu.isFetching → left.cpu.isFetching) := by
  rw [alike.cpu_eq]
  refine ⟨rfl, fun fetching => ?_⟩
  obtain ⟨-, undisturbed, awake⟩ := Cpu.isFetching_iff.mp fetching
  exact Cpu.isFetching_iff.mpr ⟨powered, undisturbed, awake⟩

/-! ## The steps on the way -/

namespace Run

/-- How many of the stations retired an instruction. -/
def retired (stations : List Session) : Nat :=
  stations.countP (·.step.1.isRetired)

theorem retired_concat
    (past : List Session)
    (session : Session) :
    retired (past ++ [session]) =
      if session.step.1.isRetired then retired past + 1 else retired past := by
  rw [retired, List.countP_append, List.countP_singleton]
  split <;> rfl

/-- The step of a number is made on bare memory, and does not fetch at the target. -/
structure StepsElsewhere
    (initial : Core Memory)
    (target : UInt16)
    (count : Nat) : Prop where
  made : ∃ cycles, (initial.afterSteps count).step.1 = .ok cycles
  elsewhere :
    (initial.afterSteps count).cpu.isFetching → (initial.afterSteps count).cpu.pc ≠ target

/--
What a run to an address other than the one where it begins keeps of its
stations: those that retired were steps of the program on bare memory, and none
of them fetched at the target.
-/
structure KeepsAway
    (initial : Core Memory)
    (start target : UInt16)
    (past : List Session)
    (stretch : Stretch) : Prop where
  alike :
    stretch.session.core.Alike (initial.afterSteps (retired past)) ∧
      stretch.session.monitor.sentry.breakpoints.ScriptFree ∧
      stretch.session.monitor.sentry.pending? = none
  bound : stretch.course = .goesOn → IsBound start target past stretch.session
  steps : ∀ count < retired past, StepsElsewhere initial target count

/-- A step that retires is the next step on bare memory. -/
theorem stepsElsewhere_of_isRetired
    {initial : Core Memory}
    (powered : initial.cpu.phase ≠ .poweredOff)
    {start target : UInt16}
    (apart : start ≠ target)
    {past : List Session}
    {session : Session}
    (alike : session.core.Alike (initial.afterSteps (retired past)))
    (bound : IsBound start target past session)
    (isRetired : session.step.1.isRetired) :
    StepsElsewhere initial target (retired past) := by
  obtain ⟨count, stepped, -, -⟩ := Session.step_of_isRetired isRetired
  have poweredNow : session.core.cpu.phase ≠ .poweredOff := by
    intro poweredOff
    rw [Core.step_of_poweredOff poweredOff] at stepped
    cases stepped
  have poweredThen : (initial.afterSteps (retired past)).cpu.phase ≠ .poweredOff := by
    rwa [Core.afterSteps_phase]
  refine ⟨⟨count, (alike.step poweredNow poweredThen).1 ▸ stepped⟩, fun fetching here => ?_⟩
  obtain ⟨samePc, fetchesToo⟩ := alike.fetches poweredNow
  have accepted : session.acceptsFetch :=
    Bool.and_eq_true_iff.mpr ⟨fetchesToo fetching, isRetired⟩
  exact apart (bound.first_of_acceptsFetch (samePc.trans here) accepted).1

/-- Every step of a run to an address where it does not begin keeps what such a run keeps. -/
theorem keeps_away
    {initial : Core Memory}
    (powered : initial.cpu.phase ≠ .poweredOff)
    {start target : UInt16}
    (apart : start ≠ target)
    (goal : RunGoal) :
    Keeps answerStop goal (KeepsAway initial start target) where
  step := by
    intro past executed session before
    have bound := before.bound rfl
    refine ⟨(keeps_alike .outermost goal powered).step before.alike, bound.step, ?_⟩
    rw [retired_concat]
    split
    · rename_i isRetired
      intro count within
      rcases Nat.lt_succ_iff_lt_or_eq.mp within with isEarlier | rfl
      · exact before.steps count isEarlier
      · exact stepsElsewhere_of_isRetired powered apart before.alike.1 bound isRetired
    · exact before.steps
  stopRequest := fun before => ⟨before.alike, nofun, before.steps⟩

end Run

/-! ## The whole command -/

namespace RunCommand

variable {session : Session} {withRegisters : Bool}

/-- What comes before stepping past a call leaves the program alone. -/
theorem prepare_stepPast_leavesAlone
    (withRegisters : Bool)
    (session : Session) :
    session.LeavesAlone ((stepPast withRegisters).prepare.run session).2 := by
  have places :
      Obeys (fun before _ after => before.LeavesAlone after) (stepPast withRegisters).prepare := by
    refine prepare_obeys _ fun edit permits before after makes => ?_
    cases permits with
    | stepPast withRegisters target =>
        cases makes with
        | place placed =>
            exact .of_placeBreakpoint placed .nil
  exact places session

/-- Before stepping past a call, a temporary breakpoint is behind the call. -/
theorem prepare_stepPast_awaitsFetch
    (isCall : (decode session.machine.memory session.pc session.monitor.dialect none).isCall)
    {goal : RunGoal}
    {prepared : Session}
    (came : (stepPast withRegisters).prepare.run session = (.ok goal, prepared)) :
    prepared.monitor.sentry.breakpoints.AwaitsFetch
      (decode session.machine.memory session.pc session.monitor.dialect none).next := by
  let next := (decode session.machine.memory session.pc session.monitor.dialect none).next
  rw [prepare, run_bind, run_observe] at came
  simp only [isCall, ↓reduceIte] at came
  rcases run_bind_cases (placeBreakpoint .exec (.temporary next)) (fun _ => pure RunGoal.go)
      session with ⟨error, middle, -, whole⟩ | ⟨value, middle, placed, whole⟩
  · cases whole.symm.trans came
  · cases whole.symm.trans came
    exact Breakpoints.awaitsFetch_add
      (Session.placeBreakpoint_ok (Operation.placeBreakpoint_ok placed)).1

/-- How many instructions the run of a command retires. -/
def retired (handle : StopHandler) (command : RunCommand) (session : Session) : Nat :=
  Run.retired (command.stations handle session)

/-- What stepping past a call retires are steps of the program, none of which fetches behind the call. -/
theorem stepPast_keepsAway
    (isCall : (decode session.machine.memory session.pc session.monitor.dialect none).isCall)
    (scriptFree : session.monitor.sentry.breakpoints.ScriptFree)
    (audible : session.monitor.sentry.breakpoints.isMuted = false)
    (idle : session.monitor.sentry.pending? = none) :
    let command := stepPast withRegisters
    let next := (decode session.machine.memory session.pc session.monitor.dialect none).next
    (command.after Run.answerStop session).core.Alike
        (session.core.afterSteps (command.retired Run.answerStop session)) ∧
      ∀ count < command.retired Run.answerStop session,
        Run.StepsElsewhere session.core next count := by
  intro command next
  have leaves := prepare_stepPast_leavesAlone withRegisters session
  have prepares := command.prepare_prepares session
  rcases command.prepared_cases Run.answerStop session with
    ⟨noStations, same⟩ | ⟨goal, prepared, came, powered, stations, same⟩
  · rw [retired, noStations]
    exact ⟨same, fun count within => absurd within (Nat.not_lt_zero count)⟩
  · rw [came] at leaves prepares
    have enters := prepares.enters powered
    have awaits := prepare_stepPast_awaitsFetch isCall came
    have isSet := isSetFor_of_leavesAlone leaves scriptFree.areUnobtrusive audible idle awaits
    have apart : session.pc ≠ next :=
      (Core.next_ne_of_isCall isCall).symm
    have whole :=
      (Run.keeps_away enters.powered apart goal).perform (Run.clearError prepared)
        { alike :=
            ⟨enters.sameProgram, enters.scriptFree scriptFree, enters.pending?.trans idle⟩
          bound := fun _ => enter_isBound leaves isSet
          steps := fun count within => absurd within (Nat.not_lt_zero count) }
    rw [retired, stations]
    exact ⟨same.trans whole.alike.1, whole.steps⟩

end RunCommand

/--
Stepping past a call, with no breakpoint that carries a script, no interrupt
taken and each return made through the word that its own call pushed: the
session comes to as many steps of the program as were retired, none of which
fetched behind the call. If it comes to the instruction there, the call has been
returned from, with the stack pointer where it was, exactly if control was not
there while the call was pending.
-/
theorem step_past_returns_unless_reentered
    {session : Session}
    (withRegisters : Bool)
    (isCall : (decode session.machine.memory session.pc session.monitor.dialect none).isCall)
    (scriptFree : session.monitor.sentry.breakpoints.ScriptFree)
    (audible : session.monitor.sentry.breakpoints.isMuted = false)
    (idle : session.monitor.sentry.pending? = none)
    (undisturbed :
      ∀ count < (RunCommand.stepPast withRegisters).retired Run.answerStop session,
        (session.core.afterSteps count).cpu.deliverable? = none)
    (balanced :
      session.core.IsBalanced
        ((RunCommand.stepPast withRegisters).retired Run.answerStop session)) :
    let command := RunCommand.stepPast withRegisters
    let final := command.after Run.answerStop session
    let steps := command.retired Run.answerStop session
    let next := (decode session.machine.memory session.pc session.monitor.dialect none).next
    final.core.Alike (session.core.afterSteps steps) ∧
      (∀ count < steps,
        (session.core.afterSteps count).cpu.isFetching →
          (session.core.afterSteps count).cpu.pc ≠ next) ∧
      (final.pc = next →
        (session.core.pendingCalls steps = [] ∧ final.machine.cpu.sp = session.machine.cpu.sp ↔
          ∀ count ≤ steps,
            session.core.pendingCalls count ≠ [] →
              (session.core.afterSteps count).cpu.pc ≠ next)) := by
  intro command final steps next
  obtain ⟨alike, stepsElsewhere⟩ :=
    RunCommand.stepPast_keepsAway isCall scriptFree audible idle
  refine ⟨alike, fun count within => (stepsElsewhere count within).elsewhere, fun arrived => ?_⟩
  have samePc : (session.core.afterSteps steps).cpu.pc = final.pc := by
    rw [alike.cpu_eq]
    rfl
  have sameSp : (session.core.afterSteps steps).cpu.sp = final.machine.cpu.sp := by
    rw [alike.cpu_eq]
    rfl
  rw [← sameSp]
  exact Core.returned_iff isCall
    { balanced := balanced
      undisturbed := undisturbed
      made := fun count within => (stepsElsewhere count within).made
      elsewhere := fun count within => (stepsElsewhere count within).elsewhere }
    (samePc.trans arrived)

namespace Session

/--
A session inside a routine that counts `B` down and calls itself until it is
zero, about to call itself; the routine was called from 0000.
-/
def insideRecursion (depth : UInt8) : Session :=
  ⟨Monitor.ofConfig .default,
    { Machine.initial with
      cpu := { Cpu.initial with pc := 0x06, b := depth, sp := 0x1E }
      memory :=
        (Memory.empty.load 0x00 [0xCD, 0x04, 0x00, 0x76, 0x05, 0xC8, 0xCD, 0x04, 0x00, 0xC9]).load
          0x1E [0x03, 0x00] }⟩

end Session

theorem Session.insideRecursion_scriptFree (depth : UInt8) :
    (insideRecursion depth).monitor.sentry.breakpoints.ScriptFree := by
  intro kind location member
  cases kind <;> cases member

/-- The innermost call is stepped past when it has been returned from. -/
theorem step_past_innermost_call_returns :
    let session := Session.insideRecursion 1
    let final := (RunCommand.stepPast false).after Run.answerStop session
    final.pc = 0x09 ∧
      session.core.pendingCalls 3 = [] ∧
      final.machine.cpu.sp = session.machine.cpu.sp := by
  intro session final
  have isCall :
      (decode session.machine.memory session.pc session.monitor.dialect none).isCall := by
    decide +kernel
  have three : (RunCommand.stepPast false).retired Run.answerStop session = 3 := by
    decide +kernel
  have undisturbed : ∀ count < 3, (session.core.afterSteps count).cpu.deliverable? = none := by
    decide +kernel
  have balanced : session.core.IsBalanced 3 := by
    decide +kernel
  have arrives : final.pc = 0x09 := by
    decide +kernel
  have behind :
      (decode session.machine.memory session.pc session.monitor.dialect none).next = 0x09 := by
    decide +kernel
  have notInside :
      ∀ count ≤ 3,
        session.core.pendingCalls count ≠ [] → (session.core.afterSteps count).cpu.pc ≠ 0x09 := by
    decide +kernel
  obtain ⟨-, -, returned⟩ :=
    step_past_returns_unless_reentered false isCall (Session.insideRecursion_scriptFree 1) rfl rfl
      (by rwa [three]) (by rwa [three])
  rw [three, behind] at returned
  exact ⟨arrives, (returned arrives).mpr notInside⟩

/--
Stepping past a call that leads to another call from the same place ends when
that one has been returned from, with the call itself still pending.
-/
theorem step_past_outer_call_ends_inside :
    let session := Session.insideRecursion 2
    let decoded := decode session.machine.memory session.pc session.monitor.dialect none
    let final := (RunCommand.stepPast false).after Run.answerStop session
    session.monitor.sentry.breakpoints = .empty ∧
      session.machine.cpu.pendingInterrupt = none ∧
      decoded.isCall ∧
      (∀ steps, session.core.IsBalanced steps) ∧
      final.pc = decoded.next ∧
      final.machine.cpu.sp = session.machine.cpu.sp - 2 := by
  intro session decoded final
  have balancedAtFirst : session.core.IsBalanced 9 := by
    decide +kernel
  have resting : (session.core.afterSteps 9).IsResting :=
    ⟨by decide +kernel, by decide +kernel⟩
  refine
    ⟨rfl, rfl, by decide +kernel, fun steps count within => ?_, by decide +kernel,
      by decide +kernel⟩
  rcases Nat.lt_or_ge count 9 with early | late
  · exact balancedAtFirst count early
  · obtain ⟨more, rfl⟩ := Nat.exists_eq_add_of_le late
    intro returns
    rw [((resting.afterSteps more).1.pendingAfter []).1] at returns
    cases returns

end Monitor8080
