import Monitor8080.Proofs.Quiescence
namespace Monitor8080

/-!
# Targets of runs

Going on to an address and stepping over a call set a temporary breakpoint
before their run, and the end of the run removes it. Without power there is no
run, and so nothing removes the breakpoint again. Nor does anything remove it if
the line is cut off, as a product or a sum is too large for a machine word.
-/

/-- No breakpoint is temporary. -/
def Breakpoints.NoneTemporary (breakpoints : Breakpoints) : Prop :=
  ∀ kind, ∀ location ∈ breakpoints.entries kind, location.isTemporary = false

instance (breakpoints : Breakpoints) : Decidable breakpoints.NoneTemporary :=
  decidable_of_iff (∀ kind ∈ BreakKind.all, ∀ location ∈ breakpoints.entries kind, location.isTemporary = false)
    ⟨fun checked kind => checked kind (by cases kind <;> decide), fun none kind _ => none kind⟩

namespace Breakpoints.NoneTemporary

variable {before after : Breakpoints}

theorem mono
    (none : before.NoneTemporary)
    (included : ∀ kind, after.entries kind ⊆ before.entries kind) :
    after.NoneTemporary :=
  fun kind location member => none kind location (included kind member)

theorem without_temporary (breakpoints : Breakpoints) :
    (breakpoints.without (·.isTemporary)).NoneTemporary := by
  intro kind location member
  rw [Breakpoints.entries_without] at member
  simpa using (List.mem_filter.mp member).2

end Breakpoints.NoneTemporary

/-! ## Commands that run the machine and commands that do not -/

namespace RunCommand

/-- Only commands that run the machine set temporary breakpoints. -/
theorem isTemporary_of_permits
    {command : Command}
    (runless : ofCommand? command = none)
    {kind : BreakKind}
    {location : Location}
    (permits : command.Permits (.place kind location)) :
    location.isTemporary = false := by
  cases permits with
  | place kind text target =>
      rfl
  | placeScript kind text script target =>
      rfl
  | runTo text target =>
      cases runless
  | stepPast withRegisters target =>
      cases runless

end RunCommand

/-! ## Operations that fail only if they are abandoned -/

namespace Operation

/-- An operation does not fail, unless it is abandoned. -/
def Succeeds (operation : Operation α) : Prop :=
  ∀ session error,
    (operation.run session).1 = .error error → error = .historyTooLong

namespace Succeeds

theorem value (value : α) : Succeeds (pure value) :=
  fun _ _ failed => nomatch failed

theorem change (change : Session → Session) : Succeeds (modify change : Operation Unit) :=
  fun _ _ failed => nomatch failed

theorem observe (view : Session → α) : Succeeds (observe view) :=
  fun _ _ failed => nomatch failed

theorem abandonment : Succeeds (throw .historyTooLong : Operation α) :=
  fun _ _ failed => by cases failed; rfl

theorem andThen
    {operation : Operation α}
    {next : α → Operation β}
    (first : Succeeds operation)
    (second : ∀ value, Succeeds (next value)) :
    Succeeds (operation >>= next) := by
  intro session error failed
  rcases run_bind_cases operation next session with
    ⟨earlier, middle, came, whole⟩ | ⟨value, middle, came, whole⟩
  · rw [whole] at failed
    cases failed
    exact first session error (by rw [came])
  · rw [whole] at failed
    exact second value middle error failed

theorem choice
    {condition : Prop}
    [Decidable condition]
    {first second : Operation α}
    (firstSucceeds : Succeeds first)
    (secondSucceeds : Succeeds second) :
    Succeeds (if condition then first else second) := by
  split
  · exact firstSucceeds
  · exact secondSucceeds

end Succeeds

/-- What the first part makes sure of holds after the second part too, if that keeps it. -/
theorem Follows.andThen
    {property : Session → Prop}
    {operation : Operation α}
    {next : α → Operation β}
    (ensures : Follows (fun _ after => property after) operation)
    (keeps : ∀ value, Follows (fun before after => property before → property after) (next value)) :
    Follows (fun _ after => property after) (operation >>= next) := by
  intro session
  have ensured := ensures session
  rcases run_bind_cases operation next session with
    ⟨error, middle, came, whole⟩ | ⟨value, middle, came, whole⟩
  · rw [came] at ensured
    rw [whole]
    exact ensured
  · rw [came] at ensured
    rw [whole]
    exact keeps value middle ensured

theorem requireHistory_succeeds : Succeeds requireHistory :=
  (Succeeds.observe _).andThen fun _ => .choice .abandonment (.value ())

theorem clearTemporaryBreakpoints_succeeds : Succeeds clearTemporaryBreakpoints := by
  refine .andThen (fun _ _ failed => nomatch failed) fun count => ?_
  exact .choice requireHistory_succeeds (.value ())

end Operation

namespace Run

open Operation

theorem settle_succeeds
    (goal : RunGoal)
    (isNested : Bool)
    (stretch : Stretch) :
    Succeeds (settle goal isNested stretch) := by
  have reports : Succeeds (reportLimit stretch.course stretch.executed) :=
    (Succeeds.observe _).andThen fun limit => .choice (.change _) (.value ())
  have leaves : Succeeds (leave goal) := by
    refine (Succeeds.change _).andThen fun _ => ?_
    refine clearTemporaryBreakpoints_succeeds.andThen fun _ => ?_
    exact (Succeeds.change _).andThen fun _ => .choice (.change _) (.value ())
  intro session error failed
  by_cases abandoned : stretch.course = .abandoned
  · rw [settle_of_abandoned abandoned] at failed
    cases failed
    rfl
  · rw [settle_of_not_abandoned abandoned] at failed
    have left : Succeeds (if isNested then modify Session.pointAtPC else leave goal) :=
      .choice (.change _) leaves
    exact (reports.andThen fun _ => left) session error failed

/-- Leaving a run removes every temporary breakpoint, even if it is abandoned then. -/
theorem leave_removes_temporary
    (goal : RunGoal)
    (session : Session) :
    ((leave goal).run session).2.monitor.sentry.breakpoints.NoneTemporary := by
  have removes :
      Follows (fun _ after => after.monitor.sentry.breakpoints.NoneTemporary)
        clearTemporaryBreakpoints := by
    refine .of_obeys (.clearTemporaryBreakpoints fun session => ?_)
    rw [session.removeTemporaryBreakpoints_eq.1]
    exact .without_temporary _
  have rest :
      Follows (fun _ after => after.monitor.sentry.breakpoints.NoneTemporary) (do
        clearTemporaryBreakpoints
        modify Session.pointAtPC
        if goal = .go then
          modify Session.noticeStop) := by
    refine removes.andThen fun _ => ?_
    intro session none
    cases goal with
    | go =>
        have same := Session.SameDuty.noticeStop session.pointAtPC
        change (session.pointAtPC.noticeStop).monitor.sentry.breakpoints.NoneTemporary
        rw [same.breakpoints]
        exact none
    | trace detail count =>
        exact none
    | quiet count =>
        exact none
  exact rest (session.updateMachine Machine.stop)

end Run

/-! ## Operations that fail without a trace -/

namespace Operation

/-- An operation that fails leaves the session as it was, unless it is abandoned. -/
def Reverts (operation : Operation α) : Prop :=
  ∀ session error,
    (operation.run session).1 = .error error →
      error ≠ .historyTooLong →
      (operation.run session).2 = session

namespace Reverts

theorem value (value : α) : Reverts (pure value) :=
  fun _ _ failed => nomatch failed

/-- What only looks at the session may come first. -/
theorem afterLooking
    {operation : Operation α}
    {next : α → Operation β}
    (looks : Obeys (fun before _ after => after = before) operation)
    (reverts : ∀ value, Reverts (next value)) :
    Reverts (operation >>= next) := by
  intro session error failed ordinary
  have unchanged := looks session
  rcases run_bind_cases operation next session with
    ⟨earlier, middle, came, whole⟩ | ⟨value, middle, came, whole⟩
  · rw [came] at unchanged
    rw [whole]
    exact unchanged
  · rw [came] at unchanged
    rw [whole] at failed ⊢
    subst unchanged
    exact reverts value middle error failed ordinary

/-- What succeeds may come last. -/
theorem beforeSuccess
    {operation : Operation α}
    {next : α → Operation β}
    (reverts : Reverts operation)
    (succeeds : ∀ value, Succeeds (next value)) :
    Reverts (operation >>= next) := by
  intro session error failed ordinary
  have reverted := reverts session
  rcases run_bind_cases operation next session with
    ⟨earlier, middle, came, whole⟩ | ⟨value, middle, came, whole⟩
  · rw [came] at reverted
    rw [whole] at failed ⊢
    cases failed
    exact reverted error rfl ordinary
  · rw [whole] at failed
    exact absurd (succeeds value middle error failed) ordinary

theorem choice
    {condition : Prop}
    [Decidable condition]
    {first second : Operation α}
    (firstReverts : Reverts first)
    (secondReverts : Reverts second) :
    Reverts (if condition then first else second) := by
  split
  · exact firstReverts
  · exact secondReverts

end Reverts

theorem placeBreakpoint_reverts
    (kind : BreakKind)
    (location : Location) :
    Reverts (placeBreakpoint kind location) := by
  refine .afterLooking (fun _ => rfl) fun session => ?_
  split
  · intro before error failed ordinary
    rfl
  · rename_i placed came
    have places : Succeeds (set placed : Operation Unit) := fun _ _ failed => nomatch failed
    intro before error failed ordinary
    exact absurd ((places.andThen fun _ => requireHistory_succeeds) before error failed) ordinary

end Operation

namespace RunCommand

open Operation

/-- What comes before the run leaves everything as it was if it fails. -/
theorem prepare_reverts (command : RunCommand) : Reverts command.prepare := by
  have places :
      ∀ location : Location,
        Reverts (do
          placeBreakpoint .exec location
          return RunGoal.go) :=
    fun location => (placeBreakpoint_reverts .exec location).beforeSuccess fun _ => .value _
  cases command with
  | go address? =>
      cases address? with
      | none =>
          exact .value _
      | some text =>
          exact .afterLooking (.address text) fun target => places (.temporary target)
  | trace detail count? =>
      exact .afterLooking (.countOr 1 count?) fun count => .value _
  | stepPast withRegisters =>
      refine .afterLooking (.observe _) fun decoded => ?_
      exact .choice (places (.temporary decoded.next)) (.value _)

theorem finish_succeeds
    (command : RunCommand)
    (goal : RunGoal) :
    Succeeds (command.finish goal) := by
  have shows : Succeeds showRegisters :=
    (Succeeds.observe _).andThen fun line => .change _
  cases command with
  | go address? =>
      exact .value ()
  | trace detail count? =>
      exact .value ()
  | stepPast withRegisters =>
      have showsIfWanted : Succeeds (if withRegisters then showRegisters else pure ()) :=
        .choice shows (.value ())
      exact .choice ((Succeeds.change _).andThen fun _ => showsIfWanted) showsIfWanted

variable (command : RunCommand) {session : Session}

/-- With power, a command fails only before its run or by being abandoned. -/
theorem execute_of_error
    {handle : StopHandler}
    (powered : session.machine.cpu.isPowered)
    {error : MonitorError}
    (failed : ((execute (Run.run handle) command.command).run session).1 = .error error)
    (ordinary : error ≠ .historyTooLong) :
    ((execute (Run.run handle) command.command).run session).2 = session := by
  have prepares := command.prepare_prepares session
  have reverts := command.prepare_reverts session
  rcases command.execute_cases (Run.run handle) session with
    ⟨earlier, prepared, came, whole⟩ | ⟨goal, prepared, came, whole⟩
  · rw [came] at reverts
    rw [whole] at failed ⊢
    cases failed
    exact reverts error rfl ordinary
  · rw [came] at prepares
    rw [whole] at failed
    have poweredThen : prepared.machine.cpu.isPowered := by
      rw [prepares.cpu]
      exact powered
    let stretch := Run.perform handle goal (Run.clearError prepared)
    let isNested := (Run.clearError prepared).machine.isRunning
    have settles : Succeeds (Run.settle goal isNested stretch) :=
      Run.settle_succeeds goal isNested stretch
    have later :=
      (settles.andThen fun _ => command.finish_succeeds goal) stretch.session error
    simp only [run_bind, Run.run_of_isPowered poweredThen] at failed later
    exact absurd (later failed) ordinary

/-- Without power, all that a command does is what comes before its run, which then fails. -/
theorem execute_of_not_isPowered
    (handle : StopHandler)
    (unpowered : session.machine.cpu.isPowered = false) :
    (execute (Run.run handle) command.command).run session =
      (match (command.prepare.run session).1 with
        | .ok _ => .error .poweredOff
        | .error error => .error error,
        (command.prepare.run session).2) := by
  have prepares := command.prepare_prepares session
  rcases command.execute_cases (Run.run handle) session with
    ⟨error, prepared, came, whole⟩ | ⟨goal, prepared, came, whole⟩
  · rw [whole, came]
  · rw [came] at prepares
    have unpoweredThen : prepared.machine.cpu.isPowered = false := by
      rw [prepares.cpu]
      exact unpowered
    rw [whole, came]
    simp only [run_bind, Run.run_of_not_isPowered unpoweredThen]

end RunCommand

/-! ## Lines -/

namespace Session

/-- The machine has power and stands still, and no breakpoint is temporary. -/
structure Settled (session : Session) : Prop where
  powered : session.machine.cpu.isPowered
  stopped : session.machine.isRunning = false
  lasting : session.monitor.sentry.breakpoints.NoneTemporary

/-- What was settled is settled, unless something was abandoned. -/
def StaysSettled (before : Session) (isAbandoned : Bool) (after : Session) : Prop :=
  before.Settled → isAbandoned = false → after.Settled

instance : LawfulReports StaysSettled where
  refl _ settled _ := settled
  trans first second settled unabandoned := second (first settled rfl) unabandoned
  report same settled _ := by
    refine ⟨?_, ?_, ?_⟩
    · rw [same.machine]
      exact settled.powered
    · rw [same.machine]
      exact settled.stopped
    · rw [same.breakpoints]
      exact settled.lasting

/-- A run removes the temporary breakpoints that there are, whoever set them. -/
theorem outermost_settles
    (goal : RunGoal)
    {session : Session}
    (powered : session.machine.cpu.isPowered)
    (stopped : session.machine.isRunning = false)
    (unabandoned : Operation.wasAbandoned ((Run.outermost goal).run session).1 = false) :
    ((Run.outermost goal).run session).2.Settled where
  powered := Run.run_obeys staysPowered_isLaw.toIsLaw staysPowered_isLaw.handles goal session powered
  stopped := run_staysStopped Run.answerStop goal session stopped unabandoned
  lasting := by
    obtain ⟨reported, left⟩ := run_leaves powered stopped unabandoned
    rw [Run.outermost, left]
    exact Run.leave_removes_temporary goal reported

/-- What a command sets before its run, the run removes, and what comes after it only prints. -/
theorem runCommand_staysSettled (command : RunCommand) :
    Operation.Obeys StaysSettled (Operation.execute Run.outermost command.command) := by
  intro session settled unabandoned
  have prepares := command.prepare_prepares session
  have reverts := command.prepare_reverts session
  rcases command.execute_cases Run.outermost session with
    ⟨error, prepared, came, whole⟩ | ⟨goal, prepared, came, whole⟩
  · rw [came] at reverts
    rw [whole] at unabandoned ⊢
    have ordinary : error ≠ .historyTooLong := by
      rintro rfl
      cases unabandoned
    have unchanged : prepared = session := reverts error rfl ordinary
    rw [unchanged]
    exact settled
  · rw [came] at prepares
    rw [whole] at unabandoned ⊢
    have powered : prepared.machine.cpu.isPowered := by
      rw [prepares.cpu]
      exact settled.powered
    have stopped : prepared.machine.isRunning = false := by
      rw [Machine.isRunning, prepares.cpu]
      exact settled.stopped
    have settles := outermost_settles goal powered stopped
    rcases Operation.run_bind_cases (Run.outermost goal) (fun _ => command.finish goal) prepared with
      ⟨error, left, ran, rest⟩ | ⟨value, left, ran, rest⟩
    · rw [ran] at settles
      rw [rest] at unabandoned ⊢
      exact settles unabandoned
    · have finishes : Operation.Obeys StaysSettled (command.finish goal) :=
        command.finish_obeys goal
      rw [ran] at settles
      rw [rest] at unabandoned ⊢
      exact finishes left (settles rfl) unabandoned

/-- An edit keeps what is settled, if the breakpoint that it may place is not temporary. -/
theorem Makes.staysSettled
    {before after : Session}
    {edit : Edit}
    (makes : before.Makes edit after)
    (lasting : ∀ kind location, edit = .place kind location → location.isTemporary = false)
    (isAbandoned : Bool) :
    before.StaysSettled isAbandoned after := by
  intro settled unabandoned
  refine ⟨?_, makes.staysStopped isAbandoned settled.stopped unabandoned, ?_⟩
  · exact staysPowered_isLaw.edit edit before after makes settled.powered
  · by_cases places : ∃ kind location, edit = .place kind location
    · obtain ⟨kind, location, rfl⟩ := places
      cases makes with
      | place placed =>
          intro other entry member
          rcases Breakpoints.mem_add (placeBreakpoint_ok placed).1 member with earlier | ⟨-, rfl⟩
          · exact settled.lasting other entry earlier
          · exact lasting kind entry rfl
    · refine settled.lasting.mono fun kind => ?_
      refine (makes.does.entries_sublist ?_ kind).subset
      intro placedKind placedAt same
      apply places
      cases edit with
      | place kind location =>
          exact ⟨kind, location, rfl⟩
      | _ =>
          cases same

theorem command_staysSettled (command : Command) :
    Operation.Obeys StaysSettled (Operation.execute Run.outermost command) := by
  cases runs : RunCommand.ofCommand? command with
  | some runCommand =>
      rw [← RunCommand.command_of_ofCommand? runs]
      exact runCommand_staysSettled runCommand
  | none =>
      rw [RunCommand.execute_of_ofCommand?_eq_none runs Run.outermost fun _ => pure ()]
      refine Operation.execute_obeys (fun _ => .value ()) fun edit permits _ _ makes => ?_
      refine makes.staysSettled ?_ _
      rintro kind location rfl
      exact RunCommand.isTemporary_of_permits runs permits

end Session

/-! ## Commands that are cut off -/

namespace RunCommand

variable (command : RunCommand) {session : Session}

/-- Without power there is no run that could be cut off. -/
theorem cutoff?_of_not_isPowered (unpowered : session.machine.cpu.isPowered = false) :
    command.cutoff? Run.outermost Run.outermostCutoff? session = none := by
  have prepares := command.prepare_prepares session
  unfold cutoff?
  cases came : command.prepare.run session with
  | mk result prepared =>
      cases result with
      | error error =>
          rfl
      | ok goal =>
          rw [came] at prepares
          have unpoweredThen : prepared.machine.cpu.isPowered = false := by
            rw [prepares.cpu]
            exact unpowered
          have noRun : Run.outermostCutoff? goal prepared = none := by
            rw [Run.outermostCutoff?, Run.cutoff?, unpoweredThen]
            rfl
          have refused := @Run.run_of_not_isPowered Run.answerStop goal prepared unpoweredThen
          simp only [noRun]
          cases command <;> simp [Run.outermost, refused]

/-- If the chunks of the run are too large, the command is cut off with what came before the run. -/
theorem cutoff?_of_beyond
    (powered : session.machine.cpu.isPowered)
    {goal : RunGoal}
    {prepared : Session}
    (came : command.prepare.run session = (.ok goal, prepared))
    (beyond : Run.chunkSize? prepared.monitor.config prepared.machine.cpu = none) :
    command.cutoff? Run.outermost Run.outermostCutoff? session =
      some ⟨.product, Run.enter (Run.clearError prepared)⟩ := by
  have prepares := command.prepare_prepares session
  rw [came] at prepares
  have poweredThen : prepared.machine.cpu.isPowered := by
    rw [prepares.cpu]
    exact powered
  simp only [cutoff?, came, Run.outermostCutoff?, Run.cutoff?_of_beyond poweredThen beyond]
  rfl

end RunCommand

/--
With power, every line leaves no temporary breakpoint behind unless it is
abandoned or cut off. It is not abandoned as long as there is room for the
history, and not cut off as long as no product and no sum can be too large for a
machine word. A command that runs the machine leaves everything as it was if it
fails before its run, but is cut off with what it did before if the chunks of the
run are too large. Without power it always fails, and what it did before stays
done.
-/
theorem run_targets_are_removed_with_power
    {session : Session}
    (stopped : session.machine.isRunning = false)
    (lasting : session.monitor.sentry.breakpoints.NoneTemporary) :
    let cutoff? := fun command : RunCommand =>
      command.cutoff? Run.outermost Run.outermostCutoff? session
    (session.machine.cpu.isPowered →
      (∀ line,
        (session.abandons line = false ∨ session.monitor.sentry.history.hasRoom) →
          (session.cutoff? line = none ∨ session.fitsWords) →
            (session.heed line).2.monitor.sentry.breakpoints.NoneTemporary) ∧
        (∀ (command : RunCommand) error,
          cutoff? command = none →
            ((Operation.execute Run.outermost command.command).run session).1 = .error error →
              error ≠ .historyTooLong →
                ((Operation.execute Run.outermost command.command).run session).2 = session) ∧
        ∀ (command : RunCommand) goal prepared,
          command.prepare.run session = (.ok goal, prepared) →
            Run.chunkSize? prepared.monitor.config prepared.machine.cpu = none →
              cutoff? command = some ⟨.product, Run.enter (Run.clearError prepared)⟩) ∧
      (session.machine.cpu.isPowered = false →
        ∀ command : RunCommand,
          cutoff? command = none ∧
            (Operation.execute Run.outermost command.command).run session =
              (match (command.prepare.run session).1 with
                | .ok _ => .error .poweredOff
                | .error error => .error error,
                (command.prepare.run session).2)) := by
  intro cutoff?
  refine ⟨fun powered => ⟨?_, ?_, ?_⟩, ?_⟩
  · intro line abandonsNothing cutsNothing
    have unabandoned : session.abandons line = false :=
      abandonsNothing.elim id (Session.abandons_of_hasRoom · line)
    have whole : session.cutoff? line = none :=
      cutsNothing.elim id (Session.cutoff?_of_fitsWords · line)
    obtain ⟨played, stays, same⟩ :=
      session.obey_obeys fun _ _ command _ => Session.command_staysSettled command
    have settled := stays ⟨powered, stopped, lasting⟩ unabandoned
    rw [Session.heed_of_cutoff?_eq_none whole, same.breakpoints]
    exact settled.lasting
  · intro command error _ failed ordinary
    exact command.execute_of_error powered failed ordinary
  · intro command goal prepared came beyond
    exact command.cutoff?_of_beyond powered came beyond
  · intro unpowered command
    exact
      ⟨command.cutoff?_of_not_isPowered unpowered,
        command.execute_of_not_isPowered Run.answerStop unpowered⟩

/-- A run that a breakpoint stops before its target leaves the target no longer watched for. -/
theorem run_stopped_before_target_removes_it :
    let session := (Session.fresh .default .initial).heedAll ["bp 1"]
    (session.heed "g 5").2.monitor.sentry.breakpoints.NoneTemporary := by
  intro session
  have stopped : session.machine.isRunning = false := by decide +kernel
  have lasting : session.monitor.sentry.breakpoints.NoneTemporary := by decide +kernel
  have powered : session.machine.cpu.isPowered := by decide +kernel
  have room : session.monitor.sentry.history.hasRoom := by decide +kernel
  have fits : session.fitsWords := by decide +kernel
  obtain ⟨lines, -, -⟩ := (run_targets_are_removed_with_power stopped lasting).1 powered
  exact lines "g 5" (.inr room) (.inr fits)

/--
Going on to an address without power fails, and leaves the address watched for.
So does going on with power, if the chunks of the run are too large.
-/
theorem run_target_outlives_failed_run :
    let unpowered := Session.fresh .default Machine.initial.powerOff
    let hasty :=
      (Session.fresh { Config.default with runChunk := 0x8000000000000000 } .initial).heedAll
        ["s sp 2"]
    (unpowered.machine.isRunning = false ∧
      unpowered.monitor.sentry.breakpoints.NoneTemporary ∧
      (unpowered.heed "g 5").1 = false ∧
      ¬ (unpowered.heed "g 5").2.monitor.sentry.breakpoints.NoneTemporary) ∧
    hasty.machine.isRunning = false ∧
      hasty.machine.cpu.isPowered ∧
      hasty.monitor.sentry.breakpoints.NoneTemporary ∧
      (hasty.heed "g 5").1 = false ∧
      ¬ (hasty.heed "g 5").2.monitor.sentry.breakpoints.NoneTemporary := by
  decide +kernel

end Monitor8080
