import Monitor8080.Operator.RunCommand
import Monitor8080.Proofs.OperationEffects
import Monitor8080.Proofs.Placement
import Monitor8080.Proofs.RunStations
import Monitor8080.Proofs.StepCases
namespace Monitor8080

/-!
# Commands that run the machine

A command that runs the machine first works out its arguments and may set a
temporary breakpoint, then runs the machine for one goal, and shows something
at the end. Only the run moves the program.
-/

namespace Session

/-- What a command does before its run: it may set breakpoints that have no script. -/
structure Prepares (before after : Session) : Prop where
  cpu : after.machine.cpu = before.machine.cpu
  memory : after.machine.memory.Alike before.machine.memory
  muting :
    after.monitor.sentry.breakpoints.muting = before.monitor.sentry.breakpoints.muting
  pending? : after.monitor.sentry.pending? = before.monitor.sentry.pending?
  entries :
    ∀ kind,
      ∀ location ∈ after.monitor.sentry.breakpoints.entries kind,
        location ∈ before.monitor.sentry.breakpoints.entries kind ∨ location.commands = []

instance : Composes Prepares where
  refl session := ⟨rfl, .refl _, rfl, rfl, fun _ _ member => .inl member⟩
  trans := by
    intro first second third prepared preparedNext
    refine
      ⟨preparedNext.cpu.trans prepared.cpu, preparedNext.memory.trans prepared.memory,
        preparedNext.muting.trans prepared.muting,
        preparedNext.pending?.trans prepared.pending?, ?_⟩
    intro kind location member
    rcases preparedNext.entries kind location member with earlier | scriptless
    · exact prepared.entries kind location earlier
    · exact .inr scriptless

/-- Placing a breakpoint adds one entry at most and makes no difference to the program. -/
theorem Prepares.of_placeBreakpoint
    {before after : Session}
    {kind : BreakKind}
    {location : Location}
    (placed : before.placeBreakpoint kind location = .ok after)
    (scriptless : location.commands = []) :
    before.Prepares after := by
  obtain ⟨added, pending, machine⟩ := placeBreakpoint_ok placed
  refine
    { cpu := by rw [machine, watchFor_cpu]
      memory := by
        rw [machine]
        exact watchFor_alike ..
      muting := (Breakpoints.add_restraints added).2.1
      pending? := pending
      entries := ?_ }
  intro other entry member
  rcases Breakpoints.mem_add added member with earlier | ⟨-, rfl⟩
  · exact .inl earlier
  · exact .inr scriptless

/-- The program is where it was. -/
def SameProgram (before after : Session) : Prop :=
  after.core.Alike before.core

theorem SameProgram.of_machine
    {before after : Session}
    (machine : after.machine = before.machine) :
    before.SameProgram after := by
  rw [SameProgram, core, core, machine]

instance : AllowsReports SameProgram where
  refl session := .refl session.core
  trans same sameNext := sameNext.trans same
  report same := .of_machine same.machine

theorem SameProgram.of_phase
    {before after : Session}
    (cpu : after.machine.cpu.inPhase .ready = before.machine.cpu.inPhase .ready)
    (memory : after.machine.memory = before.machine.memory) :
    before.SameProgram after :=
  ⟨cpu, by rw [core, core, memory]⟩

theorem SameProgram.pc_eq
    {before after : Session}
    (same : before.SameProgram after) :
    after.pc = before.pc := by
  have samePc :
      (after.core.cpu.inPhase .ready).pc = (before.core.cpu.inPhase .ready).pc :=
    congrArg Cpu.pc same.cpu
  exact samePc

/-- What a command does before its run makes no difference to the program. -/
theorem Prepares.sameProgram
    {before after : Session}
    (prepared : before.Prepares after) :
    before.SameProgram after :=
  ⟨congrArg (·.inPhase .ready) prepared.cpu, prepared.memory⟩

end Session

namespace Run

open Operation

/-! ## Before and after the steps of a run -/

/-- What is left to do after the steps of a run. -/
def settle (goal : RunGoal) (isNested : Bool) (stretch : Stretch) : Operation Unit := do
  if stretch.course = .abandoned then
    throw .historyTooLong
  reportLimit stretch.course stretch.executed
  if isNested then
    modify Session.pointAtPC
  else
    leave goal

section Run

variable {handle : StopHandler} {goal : RunGoal} {session : Session}

/-- Without power there is no run. -/
theorem run_of_not_isPowered (unpowered : session.machine.cpu.isPowered = false) :
    (run handle goal).run session = (.error .poweredOff, session) := by
  unfold run
  rw [run_bind, run_observe, unpowered]
  rfl

/-- With power, what is left to do comes after the steps. -/
theorem run_of_isPowered (powered : session.machine.cpu.isPowered) :
    (run handle goal).run session =
      (settle goal (clearError session).machine.isRunning
          (perform handle goal (clearError session))).run
        (perform handle goal (clearError session)).session := by
  unfold run
  rw [run_bind, run_observe, powered]
  simp only [Bool.not_true, Bool.false_eq_true, ↓reduceIte, run_bind, run_modify,
    run_observe, run_get]
  rfl

end Run

theorem clearError_sameProgram (session : Session) : session.SameProgram (clearError session) := by
  unfold clearError
  split
  · exact .of_phase rfl rfl
  · exact Core.Alike.refl _

@[simp] theorem enter_memory (session : Session) :
    (enter session).machine.memory = session.machine.memory := by
  unfold enter Session.updateMachine Machine.start Machine.setPhase
  simp only
  split <;> rfl

theorem enter_sameProgram (session : Session) : session.SameProgram (enter session) := by
  refine .of_phase ?_ (enter_memory session)
  unfold enter Session.updateMachine Machine.start Machine.setPhase
  simp only
  split <;> rfl

theorem reportLimit_obeys
    {law : Session → Bool → Session → Prop}
    [Session.LawfulReports law]
    (course : Course)
    (executed : Nat) :
    Obeys law (reportLimit course executed) :=
  (Obeys.observe _).andThen fun _ => (Obeys.print _).choice (Obeys.value _)

theorem reportLimit_run
    (course : Course)
    (executed : Nat)
    (session : Session) :
    ∃ after, (reportLimit course executed).run session = (.ok (), after) := by
  unfold reportLimit
  rw [run_bind, run_observe]
  simp only
  split
  · exact ⟨_, rfl⟩
  · exact ⟨session, rfl⟩

theorem leave_sameProgram (goal : RunGoal) :
    Obeys (fun before _ after => before.SameProgram after) (leave goal) := by
  unfold leave
  refine .andThen (.change ?_) fun _ => ?_
  · intro session
    rcases session.machine.stop_cases with ⟨-, same⟩ | ⟨-, ready⟩
    · rw [Session.updateMachine, same]
      exact Core.Alike.refl _
    · rw [Session.updateMachine, ready]
      exact .of_phase rfl rfl
  · refine .andThen (.clearTemporaryBreakpoints ?_) fun _ => ?_
    · intro session
      obtain ⟨-, -, machine⟩ := session.removeTemporaryBreakpoints_eq
      refine ⟨?_, ?_⟩
      · rw [Session.core, machine, Session.unwatchAll_cpu]
        rfl
      · rw [Session.core, machine]
        exact Session.unwatchAll_alike _ _
    · refine .andThen (.change fun session => Core.Alike.refl _) fun _ => ?_
      exact .choice (.change fun session => Core.Alike.refl _) (.value _)

theorem settle_of_abandoned
    {goal : RunGoal}
    {isNested : Bool}
    {stretch : Stretch}
    {session : Session}
    (abandoned : stretch.course = .abandoned) :
    (settle goal isNested stretch).run session = (.error .historyTooLong, session) := by
  unfold settle
  rw [if_pos abandoned]
  rfl

theorem settle_of_not_abandoned
    {goal : RunGoal}
    {isNested : Bool}
    {stretch : Stretch}
    (unabandoned : stretch.course ≠ .abandoned) :
    settle goal isNested stretch = (do
      reportLimit stretch.course stretch.executed
      if isNested then modify Session.pointAtPC else leave goal) := by
  unfold settle
  rw [if_neg unabandoned]

theorem settle_sameProgram
    (goal : RunGoal)
    (isNested : Bool)
    (stretch : Stretch) :
    Follows Session.SameProgram (settle goal isNested stretch) := by
  intro session
  by_cases abandoned : stretch.course = .abandoned
  · rw [settle_of_abandoned abandoned]
    exact Core.Alike.refl _
  · rw [settle_of_not_abandoned abandoned]
    have rest :
        Obeys (fun before _ after => before.SameProgram after) (do
          reportLimit stretch.course stretch.executed
          if isNested then modify Session.pointAtPC else leave goal) := by
      refine .andThen (reportLimit_obeys _ _) fun _ => ?_
      exact .choice (.change fun session => Core.Alike.refl _) (leave_sameProgram goal)
    exact rest session

end Run

/-! ## Entering a run -/

namespace Run

@[simp] theorem clearError_sentry (session : Session) :
    (clearError session).monitor.sentry = session.monitor.sentry := by
  unfold clearError
  split
  · exact Session.message_sentry ..
  · rfl

@[simp] theorem clearError_config (session : Session) :
    (clearError session).monitor.config = session.monitor.config := by
  unfold clearError
  split
  · exact Monitor.message_config ..
  · rfl

theorem clearError_keepsNames (session : Session) :
    session.monitor.KeepsNames (clearError session).monitor := by
  unfold clearError
  split
  · exact .message ..
  · exact .refl _

theorem clearError_phase_ne
    {session : Session}
    (powered : session.machine.cpu.phase ≠ .poweredOff) :
    (clearError session).machine.cpu.phase ≠ .poweredOff := by
  unfold clearError
  split
  · exact EnginePhase.noConfusion
  · exact powered

theorem enter_phase_ne
    {session : Session}
    (powered : session.machine.cpu.phase ≠ .poweredOff) :
    (enter session).machine.cpu.phase ≠ .poweredOff := by
  unfold enter Session.updateMachine Machine.start Machine.setPhase
  simp only
  split
  · exact EnginePhase.noConfusion
  · exact powered

/-- Entering a run excuses the fetch at the program counter and changes nothing else that is checked. -/
theorem enter_breakpoints (session : Session) :
    (enter session).monitor.sentry.breakpoints =
      session.monitor.sentry.breakpoints.excuse session.pc := by
  have samePc : (session.updateMachine Machine.start).pc = session.pc :=
    (enter_sameProgram session).pc_eq
  change
    session.monitor.sentry.breakpoints.excuse (session.updateMachine Machine.start).pc = _
  rw [samePc]

@[simp] theorem enter_pending? (session : Session) :
    (enter session).monitor.sentry.pending? = session.monitor.sentry.pending? := rfl

end Run

/-- What a command does up to the first step of its run. -/
structure Session.Enters (before after : Session) : Prop where
  sameProgram : before.SameProgram after
  powered : before.machine.cpu.phase ≠ .poweredOff
  poweredOn : after.machine.cpu.phase ≠ .poweredOff
  muting :
    after.monitor.sentry.breakpoints.muting = before.monitor.sentry.breakpoints.muting
  excused? : after.monitor.sentry.breakpoints.excused? = some before.pc
  pending? : after.monitor.sentry.pending? = before.monitor.sentry.pending?
  entries :
    ∀ kind,
      ∀ location ∈ after.monitor.sentry.breakpoints.entries kind,
        location ∈ before.monitor.sentry.breakpoints.entries kind ∨ location.commands = []

/-- A run that a command is ready for is entered. -/
theorem Session.Prepares.enters
    {before after : Session}
    (prepared : before.Prepares after)
    (powered : after.machine.cpu.isPowered) :
    before.Enters (Run.enter (Run.clearError after)) := by
  have poweredOn : after.machine.cpu.phase ≠ .poweredOff := by
    simpa [Cpu.isPowered] using powered
  have same : before.SameProgram (Run.clearError after) :=
    (Run.clearError_sameProgram after).trans prepared.sameProgram
  refine
    { sameProgram := (Run.enter_sameProgram _).trans same
      powered := by rwa [← prepared.cpu]
      poweredOn := Run.enter_phase_ne (Run.clearError_phase_ne poweredOn)
      muting := ?_
      excused? := ?_
      pending? := ?_
      entries := ?_ }
  · rw [Run.enter_breakpoints, Run.clearError_sentry, ← prepared.muting]
    rfl
  · rw [Run.enter_breakpoints, same.pc_eq]
    rfl
  · rw [Run.enter_pending?, Run.clearError_sentry, prepared.pending?]
  · intro kind location member
    rw [Run.enter_breakpoints, Run.clearError_sentry, Breakpoints.entries_excuse] at member
    exact prepared.entries kind location member

/-! ## Commands with a run -/

namespace RunCommand

open Operation

theorem command_of_ofCommand?
    {command : Command}
    {runCommand : RunCommand}
    (runs : ofCommand? command = some runCommand) :
    runCommand.command = command := by
  cases command with
  | go address? =>
      cases runs
      rfl
  | trace detail count? =>
      cases runs
      rfl
  | stepPast withRegisters =>
      cases runs
      rfl
  | _ =>
      cases runs

/-- A command that does not run the machine does the same whatever runs there are. -/
theorem execute_of_ofCommand?_eq_none
    {command : Command}
    (runless : ofCommand? command = none)
    (runner other : Runner) :
    execute runner command = execute other command := by
  cases command with
  | go address? =>
      cases runless
  | trace detail count? =>
      cases runless
  | stepPast withRegisters =>
      cases runless
  | _ =>
      rfl

/-- A command runs the machine once, between what comes before and what comes after. -/
theorem execute_eq
    (runner : Runner)
    (command : RunCommand) :
    execute runner command.command = (do
      let goal ← command.prepare
      runner goal
      command.finish goal) := by
  cases command with
  | go address? =>
      cases address? with
      | none =>
          simp [RunCommand.command, execute, Operation.go, prepare, finish]
      | some text =>
          simp [RunCommand.command, execute, Operation.go, prepare, finish]
  | trace detail count? =>
      simp [RunCommand.command, execute, prepare, finish]
  | stepPast withRegisters =>
      simp only [RunCommand.command, execute, Operation.stepPast, prepare, finish, bind_assoc]
      congr 1
      funext decoded
      by_cases isCall : decoded.isCall
      · simp [isCall]
      · simp [isCall]

/-- A command fails before its run, or goes on to the run that it is prepared for. -/
theorem execute_cases
    (runner : Runner)
    (command : RunCommand)
    (session : Session) :
    (∃ error prepared,
      command.prepare.run session = (.error error, prepared) ∧
        (execute runner command.command).run session = (.error error, prepared)) ∨
      ∃ goal prepared,
        command.prepare.run session = (.ok goal, prepared) ∧
          (execute runner command.command).run session =
            (do
              runner goal
              command.finish goal).run prepared := by
  rw [execute_eq]
  exact run_bind_cases ..

/-- What comes before the run sets a breakpoint without a script at most. -/
theorem prepare_prepares (command : RunCommand) : Follows Session.Prepares command.prepare := by
  refine .of_obeys ?_
  cases command with
  | go address? =>
      cases address? with
      | none =>
          exact .value _
      | some text =>
          refine (Obeys.address text).andThen fun target => ?_
          refine .andThen (.placeBreakpoint ?_) fun _ => .value _
          intro before after placed
          exact .of_placeBreakpoint placed rfl
  | trace detail count? =>
      exact (Obeys.countOr 1 count?).andThen fun _ => .value _
  | stepPast withRegisters =>
      refine (Obeys.observe _).andThen fun decoded => ?_
      refine .choice (.andThen (.placeBreakpoint ?_) fun _ => .value _) (.value _)
      intro before after placed
      exact .of_placeBreakpoint placed rfl

/-- What comes after the run is reports. -/
theorem finish_obeys
    {law : Session → Bool → Session → Prop}
    [lawful : Session.LawfulReports law]
    (command : RunCommand)
    (goal : RunGoal) :
    Obeys law (command.finish goal) := by
  cases command with
  | go address? =>
      exact .value ()
  | trace detail count? =>
      exact .value ()
  | stepPast withRegisters =>
      have shows : Obeys law showRegisters := (Obeys.observe _).andThen fun line => .print line
      have showsIfWanted : Obeys law (if withRegisters then showRegisters else pure ()) :=
        .choice shows (.value ())
      refine .choice (.andThen (.change fun session => ?_) fun _ => showsIfWanted) showsIfWanted
      exact lawful.report (.showCurrent session)

theorem finish_sameProgram
    (command : RunCommand)
    (goal : RunGoal) :
    Follows Session.SameProgram (command.finish goal) :=
  .of_obeys (command.finish_obeys goal)

variable (handle : StopHandler) (command : RunCommand) (session : Session)

/-- The session after a command. -/
def after : Session :=
  ((execute (Run.run handle) command.command).run session).2

/-- The stations of a command are those of its run, of which there is none if the command fails before. -/
def stations : List Session :=
  match command.prepare.run session with
  | (.ok goal, prepared) => Run.stations handle goal prepared
  | (.error _, _) => []

/-- A command makes no step and no difference, or the steps of the run that it is prepared for. -/
theorem prepared_cases :
    command.stations handle session = [] ∧
        session.SameProgram (command.after handle session) ∨
      ∃ goal prepared,
        command.prepare.run session = (.ok goal, prepared) ∧
          prepared.machine.cpu.isPowered ∧
          command.stations handle session =
            Run.performStations handle goal (Run.clearError prepared) ∧
          (Run.perform handle goal (Run.clearError prepared)).session.SameProgram
            (command.after handle session) := by
  have prepares := command.prepare_prepares session
  unfold stations after
  rcases command.execute_cases (Run.run handle) session with
    ⟨error, prepared, came, whole⟩ | ⟨goal, prepared, came, whole⟩
  · rw [came] at prepares
    rw [came, whole]
    exact .inl ⟨rfl, prepares.sameProgram⟩
  · rw [came] at prepares
    rw [came, whole]
    simp only [Run.stations, run_bind]
    by_cases powered : prepared.machine.cpu.isPowered
    · refine .inr ⟨goal, prepared, rfl, powered, ?_, ?_⟩
      · rw [if_pos powered]
      · rw [Run.run_of_isPowered powered]
        let stretch := Run.perform handle goal (Run.clearError prepared)
        let isNested := (Run.clearError prepared).machine.isRunning
        have rest :
            Follows Session.SameProgram (do
              Run.settle goal isNested stretch
              command.finish goal) :=
          .of_obeys <|
            .andThen (Run.settle_sameProgram goal isNested stretch)
              fun _ => command.finish_sameProgram goal
        have followed := rest stretch.session
        rw [run_bind] at followed
        exact followed
    · left
      rw [Bool.not_eq_true] at powered
      rw [Run.run_of_not_isPowered powered]
      refine ⟨?_, prepares.sameProgram⟩
      rw [powered]
      rfl

/-- A command makes no step and no difference, or the steps of a run that it enters. -/
theorem stations_cases :
    command.stations handle session = [] ∧
        session.SameProgram (command.after handle session) ∨
      ∃ goal ready,
        session.Enters (Run.enter ready) ∧
          command.stations handle session = Run.performStations handle goal ready ∧
          (Run.perform handle goal ready).session.SameProgram
            (command.after handle session) := by
  rcases command.prepared_cases handle session with
    noSteps | ⟨goal, prepared, came, powered, stations, same⟩
  · exact .inl noSteps
  · have prepares := command.prepare_prepares session
    rw [came] at prepares
    exact .inr ⟨goal, Run.clearError prepared, prepares.enters powered, stations, same⟩

end RunCommand
end Monitor8080
