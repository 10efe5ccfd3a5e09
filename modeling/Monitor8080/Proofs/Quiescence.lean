import Monitor8080.Proofs.Bookkeeping
import Monitor8080.Proofs.EnginePhases
import Monitor8080.Proofs.ScriptDeeds
import Monitor8080.Proofs.WordArithmetic
namespace Monitor8080

/-!
# Quiescence between lines

Runs start the engine and stop it again, scripts mute the breakpoints and
unmute them, and steps print what is due, so all is quiet when a line ends.
Only a line that is cut short leaves things as they stand: one that is abandoned,
as there is no room for the history, and one that comes to a product or a sum
that is no machine word.
-/

namespace Session

/-! ## Muting -/

/-- The breakpoints are muted as often as before, unless something was abandoned. -/
def KeepsMuting (before : Session) (isAbandoned : Bool) (after : Session) : Prop :=
  isAbandoned = false →
    after.monitor.sentry.breakpoints.muting = before.monitor.sentry.breakpoints.muting

instance : LawfulReports KeepsMuting where
  refl _ _ := rfl
  trans first second unabandoned := (second unabandoned).trans (first rfl)
  report same _ := by rw [same.breakpoints]

theorem Makes.muting
    {before after : Session}
    {edit : Edit}
    (makes : before.Makes edit after) :
    after.monitor.sentry.breakpoints.muting = before.monitor.sentry.breakpoints.muting := by
  cases makes with
  | machine edit =>
      rfl
  | place placed =>
      obtain ⟨added, -⟩ := placeBreakpoint_ok placed
      exact (Breakpoints.add_restraints added).2.1
  | remove address? =>
      obtain ⟨test, filtered, -⟩ := before.removeBreakpoints_eq address?
      rw [filtered]
      rfl
  | arm count =>
      rw [startCountdown_breakpoints]
      rfl
  | checksum interval =>
      rw [updateMonitor, Monitor.restartChecksum, Monitor.settleHistory_breakpoints]

/-- On its own a run mutes nothing, even if it is abandoned. -/
theorem sameMuting_isLaw :
    Run.IsLaw fun before _ after =>
      after.monitor.sentry.breakpoints.muting = before.monitor.sentry.breakpoints.muting where
  clearError session := by rw [Run.clearError_sentry]
  enter session := by rw [Run.enter_breakpoints]; rfl
  step session := step_muting
  stop session := rfl
  removeTemporary session := by rw [session.removeTemporaryBreakpoints_eq.1]; rfl

theorem keepsMuting_isLaw : Run.IsLaw KeepsMuting :=
  sameMuting_isLaw.imp fun same _ => same

theorem commands_keepMuting
    {runner : Runner}
    (runs : ∀ goal, Operation.Obeys KeepsMuting (runner goal))
    (command : Command) :
    Operation.Obeys KeepsMuting (Operation.execute runner command) :=
  Operation.execute_obeys runs fun _ _ _ _ makes _ => makes.muting

/-- A script that is not abandoned unmutes the breakpoints that it muted. -/
theorem playScript_keepsMuting
    (kind : BreakKind)
    (location : Location)
    (consumed : Bool)
    (session : Session) :
    session.KeepsMuting ((Run.playScript kind location consumed session).1 = .abandoned)
      (Run.playScript kind location consumed session).2 := by
  have runs : ∀ goal, Operation.Obeys KeepsMuting (Run.nested goal) :=
    Run.run_obeys keepsMuting_isLaw keepsMuting_isLaw.endAt
  have played :=
    Script.execute_obeys location.commands
      (fun _ _ command _ => commands_keepMuting runs command) session.mute
  -- No command in the script mutes anything, so unmuting once makes up for muting once.
  rcases Run.playScript_cases kind location consumed session with
    ⟨-, same⟩ | ⟨unabandoned, course, -, ended⟩
  · rw [same]
    exact nofun
  · intro _
    have balanced :
        (Script.execute Run.nested location.commands session.mute).2.unmute.monitor.sentry.breakpoints.muting =
          session.monitor.sentry.breakpoints.muting := by
      have inside := played (decide_eq_false unabandoned)
      exact congrArg (· - 1) inside
    rcases ended with same | ⟨line, same⟩ | same
    · rw [same]
      exact balanced
    · rw [same]
      exact balanced
    · rw [same]
      exact balanced

/-- A line that is not abandoned leaves the breakpoints muted as often as before. -/
theorem obey_keepsMuting (session : Session) (line : String) :
    session.KeepsMuting (session.abandons line) (session.obey line).2 := by
  have handles : Run.HandlesBy KeepsMuting Run.answerStop := by
    refine keepsMuting_isLaw.answerStop ?_
    intro origin stopped kind location consumed _ stepped
    exact Lawful.trans stepped (playScript_keepsMuting kind location consumed stopped)
  have runs : ∀ goal, Operation.Obeys KeepsMuting (Run.outermost goal) :=
    Run.run_obeys keepsMuting_isLaw handles
  obtain ⟨played, keeps, same⟩ :=
    session.obey_obeys (fun _ _ command _ => commands_keepMuting runs command)
  intro unabandoned
  rw [same.breakpoints]
  exact keeps unabandoned

/-! ## The engine -/

/-- An engine that does not run does not run afterwards either, unless something was abandoned. -/
def StaysStopped (before : Session) (isAbandoned : Bool) (after : Session) : Prop :=
  before.machine.isRunning = false → isAbandoned = false → after.machine.isRunning = false

instance : LawfulReports StaysStopped where
  refl _ stopped _ := stopped
  trans first second stopped unabandoned := second (first stopped rfl) unabandoned
  report same stopped _ := by rw [same.machine]; exact stopped

theorem Makes.staysStopped
    {before after : Session}
    {edit : Edit}
    (makes : before.Makes edit after)
    (isAbandoned : Bool) :
    before.StaysStopped isAbandoned after := by
  intro stopped _
  rcases makes.phase with same | ⟨-, ready⟩
  · rw [Machine.isRunning, Cpu.isRunning, same]
    exact stopped
  · rw [Machine.isRunning, Cpu.isRunning, ready]
    rfl

/-- What is done after a run that no other surrounds stops the engine. -/
theorem leave_stops
    {goal : RunGoal}
    {session : Session}
    (unabandoned : Operation.wasAbandoned ((Run.leave goal).run session).1 = false) :
    ((Run.leave goal).run session).2.machine.isRunning = false := by
  have cleared :
      ∀ session : Session,
        session.StaysStopped
          (0 < session.removeTemporaryBreakpoints.1
            && session.removeTemporaryBreakpoints.2.monitor.lacksHistory)
          session.removeTemporaryBreakpoints.2 := by
    intro session stopped _
    rw [session.removeTemporaryBreakpoints_eq.2.2, Machine.isRunning, unwatchAll_cpu]
    exact stopped
  have rest :
      Operation.Obeys StaysStopped (do
        Operation.clearTemporaryBreakpoints
        modify pointAtPC
        if goal = .go then
          modify noticeStop) := by
    refine .andThen (.clearTemporaryBreakpoints cleared) fun _ => ?_
    refine .andThen (.change fun session => ?_) fun _ => .choice (.change fun session => ?_) (.value ())
    · exact LawfulReports.report (.pointAtPC session)
    · exact LawfulReports.report (.noticeStop session)
  have stopped : (session.updateMachine Machine.stop).machine.isRunning = false := by
    rw [updateMachine]
    rcases session.machine.stop_cases with ⟨idle, same⟩ | ⟨-, ready⟩
    · rw [same]
      exact decide_eq_false idle
    · rw [ready]
      rfl
  exact rest _ stopped unabandoned

theorem clearError_stopped
    {session : Session}
    (stopped : session.machine.isRunning = false) :
    (Run.clearError session).machine.isRunning = false := by
  unfold Run.clearError
  split
  · rfl
  · exact stopped

/-- A run that finds the engine stopped ends by leaving it, unless it is abandoned. -/
theorem run_leaves
    {handle : StopHandler}
    {goal : RunGoal}
    {session : Session}
    (powered : session.machine.cpu.isPowered)
    (stopped : session.machine.isRunning = false)
    (unabandoned : Operation.wasAbandoned ((Run.run handle goal).run session).1 = false) :
    ∃ reported, (Run.run handle goal).run session = (Run.leave goal).run reported := by
  -- The engine stood still before, so no other run surrounds this one and it is not left to it.
  rw [Run.run_of_isPowered powered, clearError_stopped stopped] at unabandoned ⊢
  by_cases abandoned : (Run.perform handle goal (Run.clearError session)).course = .abandoned
  · rw [Run.settle_of_abandoned abandoned] at unabandoned
    cases unabandoned
  · obtain ⟨reported, told⟩ :=
      Run.reportLimit_run (Run.perform handle goal (Run.clearError session)).course
        (Run.perform handle goal (Run.clearError session)).executed
        (Run.perform handle goal (Run.clearError session)).session
    refine ⟨reported, ?_⟩
    rw [Run.settle_of_not_abandoned abandoned, Operation.run_bind, told]
    rfl

/-- A run that finds the engine stopped stops it again. -/
theorem run_staysStopped
    (handle : StopHandler)
    (goal : RunGoal) :
    Operation.Obeys StaysStopped (Run.run handle goal) := by
  -- This is no law of the parts of a run, as its beginning starts the engine.
  intro session stopped unabandoned
  by_cases powered : session.machine.cpu.isPowered
  · obtain ⟨reported, same⟩ := run_leaves powered stopped unabandoned
    rw [same] at unabandoned ⊢
    exact leave_stops unabandoned
  · rw [Bool.not_eq_true] at powered
    rw [Run.run_of_not_isPowered powered]
    exact stopped

theorem obey_staysStopped (session : Session) (line : String) :
    session.StaysStopped (session.abandons line) (session.obey line).2 := by
  have runs : ∀ goal, Operation.Obeys StaysStopped (Run.outermost goal) :=
    run_staysStopped Run.answerStop
  have obeys : ∀ command, Operation.Obeys StaysStopped (Operation.execute Run.outermost command) :=
    fun command => Operation.execute_obeys runs fun _ _ _ _ makes => makes.staysStopped _
  obtain ⟨played, stays, same⟩ := session.obey_obeys fun _ _ command _ => obeys command
  intro stopped unabandoned
  rw [same.machine]
  exact stays stopped unabandoned

/-! ## Lines -/

/-- Nothing is under way: no run, no script, and nothing pending or left to print. -/
structure Quiescent (session : Session) : Prop extends session.monitor.sentry.Tidy where
  stopped : session.machine.isRunning = false
  audible : session.monitor.sentry.breakpoints.muting = 0

/-! ### Lines that are cut off -/

/-- What was tidy stays so, and room for the history is left. -/
structure KeepsOrder (before after : Session) : Prop where
  tidy : before.monitor.sentry.Tidy → after.monitor.sentry.Tidy
  room : before.monitor.sentry.history.hasRoom → after.monitor.sentry.history.hasRoom

theorem StaysInOrder.keepsOrder
    {before after : Session}
    {isAbandoned : Bool}
    (order : before.StaysInOrder isAbandoned after) :
    before.KeepsOrder after :=
  ⟨order.tidy, fun room => (order.room room).2⟩

theorem KeepsOrder.of_sameDuty
    {before after : Session}
    (same : before.SameDuty after) :
    before.KeepsOrder after :=
  ⟨same.records.tidy same.pending?, same.records.hasRoom⟩

instance : LawfulReports fun before _ after => KeepsOrder before after where
  refl session := .of_sameDuty (.refl session)
  trans first second := ⟨second.tidy ∘ first.tidy, second.room ∘ first.room⟩
  report := .of_sameDuty

theorem keepsOrder_isLaw : Run.IsLawThroughout fun before _ after => KeepsOrder before after :=
  staysInOrder_isLaw.imp StaysInOrder.keepsOrder

/-- As long as there is room for the history, no line is abandoned. -/
theorem abandons_of_hasRoom
    {session : Session}
    (room : session.monitor.sentry.history.hasRoom)
    (line : String) :
    session.abandons line = false := by
  obtain ⟨played, order, -⟩ := staysInOrder_isLaw.obey line session
  exact (order.room room).1

end Session

/--
Whatever a line does, nothing is pending and nothing is left to print after it.
All is quiet again unless the line was abandoned or cut off. No line is abandoned
as long as there is room for the history. A line is cut off only where a product
or a sum is too large for a machine word, so none is where that cannot be.
-/
theorem lines_end_quiescent_unless_cut_short
    {session : Session}
    (quiescent : session.Quiescent)
    (line : String) :
    let after := (session.heed line).2
    after.monitor.sentry.Tidy ∧
      (session.cutoff? line = none → session.abandons line = false → after.Quiescent) ∧
      (session.monitor.sentry.history.hasRoom →
        session.abandons line = false ∧ after.monitor.sentry.history.hasRoom) ∧
      (∀ cutoff, session.cutoff? line = some cutoff → cutoff.IsGenuine) ∧
      (session.fitsWords → session.cutoff? line = none ∧ after.fitsWords) := by
  intro after
  have order := Session.heed_related Session.keepsOrder_isLaw.isCommandLaw session line
  have tidy := order.tidy quiescent.toTidy
  refine ⟨tidy, ?_, ?_, ?_, ?_⟩
  · intro whole unabandoned
    have obeyed : after = (session.obey line).2 :=
      congrArg Prod.snd (Session.heed_of_cutoff?_eq_none whole)
    refine { toTidy := tidy, stopped := ?_, audible := ?_ }
    · rw [obeyed]
      exact session.obey_staysStopped line quiescent.stopped unabandoned
    · rw [obeyed]
      exact (session.obey_keepsMuting line unabandoned).trans quiescent.audible
  · intro room
    exact ⟨Session.abandons_of_hasRoom room line, order.room room⟩
  · exact fun cutoff found => (Session.cutoff?_keepsOperands found).genuine
  · intro fits
    exact
      ⟨Session.cutoff?_of_fitsWords fits line, (session.heed_keepsOperands line).fitsWords fits⟩

/-- A run to a breakpoint with a script ends quiescent: there is room, and all numbers are words. -/
theorem run_to_script_ends_quiescent :
    let session := (Session.fresh .default .initial).heedAll ["bp 1 \x22t 2\x22"]
    (session.heed "g 5").2.Quiescent := by
  intro session
  have quiescent : session.Quiescent :=
    { idle := by decide +kernel
      noted := by decide +kernel
      shown := by decide +kernel
      stopped := by decide +kernel
      audible := by decide +kernel }
  obtain ⟨-, ends, roomy, -, uncut⟩ := lines_end_quiescent_unless_cut_short quiescent "g 5"
  have room : session.monitor.sentry.history.hasRoom := by decide +kernel
  have fits : session.fitsWords := by decide +kernel
  exact ends (uncut fits).1 (roomy room).1

/--
A run that is abandoned, as there is no room for the history, leaves the engine
running, and so does a trace that comes to a group of symbols that ends at no
word.
-/
theorem lines_cut_short_leave_engine_running :
    let roomless :=
      (Session.fresh { Config.default with historyCapacity := 0x2000000000000000 }
        .initial).heedAll ["bp 5", "g 3"]
    let overlong :=
      (Session.fresh .default .initial).withSymbols
        (SymbolTable.empty.withModule "M" 1 0xFFFFFFFFFFFFFFFF [])
    (roomless.Quiescent ∧ (roomless.heed "g").2.machine.isRunning) ∧
      overlong.Quiescent ∧ (overlong.heed "t 2").2.machine.isRunning := by
  refine
    ⟨⟨⟨⟨?_, ?_, ?_⟩, ?_, ?_⟩, ?_⟩, ⟨⟨?_, ?_, ?_⟩, ?_, ?_⟩, ?_⟩ <;> decide +kernel

end Monitor8080
