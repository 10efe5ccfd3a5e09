import Monitor8080.Proofs.NestedRuns
import Monitor8080.Proofs.Quiescence
import Monitor8080.Proofs.RunProgress
import Monitor8080.Proofs.ScriptSimulation
namespace Monitor8080

/-!
# Scripts do not start scripts

While the script of a breakpoint is executed, the breakpoints are muted, and
muted breakpoints neither stop anything nor change. So whatever becomes of
stops in the runs that a script starts makes no difference to them: there are
none.
-/

open Operation

/-! ## Muted sentries -/

namespace Sentry

variable {sentry : Sentry}

/-- An access through muted breakpoints leaves everything as it was. -/
theorem noteAccess_of_isMuted
    (muted : sentry.breakpoints.isMuted)
    (idle : sentry.pending? = none)
    (kind : Access)
    (address : UInt16) :
    sentry.noteAccess kind address = sentry := by
  obtain ⟨breakpoints, history, checksum, messages, pending?, notes⟩ := sentry
  obtain rfl : pending? = none := idle
  simp only [noteAccess, Breakpoints.hitByAccess, if_pos muted, Option.map_none]

/-- An access to a port through muted breakpoints leaves nothing pending. -/
theorem notePort_pending?_of_isMuted
    (muted : sentry.breakpoints.isMuted)
    (isBreak : Bool)
    (direction : PortDirection)
    (port byte : UInt8) :
    (sentry.notePort isBreak direction port byte).pending? = sentry.pending? := by
  simp only [notePort]
  split <;> simp [muted]

end Sentry

namespace Session

/-! ## Steps -/

/-- The breakpoints are muted, and nothing is pending. -/
structure IsHushed (session : Session) : Prop where
  idle : session.monitor.sentry.pending? = none
  muted : session.monitor.sentry.breakpoints.isMuted

variable {session : Session}

theorem IsHushed.fetchCheck (hushed : session.IsHushed) :
    session.fetchCheck = (none, session.monitor.sentry.breakpoints) := by
  unfold Session.fetchCheck
  split
  · exact Breakpoints.hitByExecution_of_isMuted hushed.muted
  · rfl

/-- An instruction leaves muted breakpoints as they were and nothing pending. -/
theorem IsHushed.execute (hushed : session.IsHushed) :
    session.execute.2.monitor.sentry.breakpoints = session.monitor.sentry.breakpoints ∧
      session.execute.2.monitor.sentry.pending? = none := by
  have passed : session.fetchCheck.1 = none := by
    rw [hushed.fetchCheck]
  refine
    @execute_keeps session passed
      (fun sentry =>
        sentry.breakpoints = session.monitor.sentry.breakpoints ∧ sentry.pending? = none)
      ?_ ?_
  · refine
      @Guarded.invariant_of_notes
        (fun sentry =>
          sentry.breakpoints = session.monitor.sentry.breakpoints ∧ sentry.pending? = none)
        ?_ ?_
    · rintro sentry kind address ⟨same, idle⟩
      rw [Sentry.noteAccess_of_isMuted (by rw [same]; exact hushed.muted) idle]
      exact ⟨same, idle⟩
    · rintro sentry isBreak direction port byte ⟨same, idle⟩
      rw [Sentry.notePort_breakpoints,
        Sentry.notePort_pending?_of_isMuted (by rw [same]; exact hushed.muted)]
      exact ⟨same, idle⟩
  · intro sentry same pending
    rw [hushed.fetchCheck] at same
    exact ⟨same, pending.trans hushed.idle⟩

/-- A step through muted breakpoints is not stopped. -/
theorem IsHushed.step_fst
    (hushed : session.IsHushed)
    (reason : Stop) :
    session.step.1 ≠ .break reason := by
  intro stopped
  rcases session.step_cases with ⟨hit, refused⟩ | ⟨error, failed⟩ | ⟨passed, count, executed⟩
  · rw [hushed.fetchCheck] at refused
    cases refused
  · rw [step_fst_of_failed failed] at stopped
    cases stopped
  · rw [step_fst_of_executed passed executed, hushed.execute.2] at stopped
    cases stopped

/-- A step leaves muted breakpoints as they were, with the countdown and the excuse. -/
theorem IsHushed.step_breakpoints (hushed : session.IsHushed) :
    session.step.2.monitor.sentry.breakpoints = session.monitor.sentry.breakpoints := by
  rw [Session.step_breakpoints, hushed.execute.1]

/-! ## Runs -/

/-- What was hushed stays so. -/
def StaysHushed (before after : Session) : Prop :=
  before.IsHushed → after.IsHushed

theorem StaysHushed.of_muting
    {before after : Session}
    (idle : before.StaysIdle after)
    (muting :
      after.monitor.sentry.breakpoints.muting = before.monitor.sentry.breakpoints.muting) :
    before.StaysHushed after := by
  intro hushed
  refine ⟨idle hushed.idle, ?_⟩
  rw [Breakpoints.isMuted, muting]
  exact hushed.muted

instance : AllowsReports StaysHushed where
  refl _ := id
  trans first second := second ∘ first
  report same := .of_muting (AllowsReports.report same) (by rw [same.breakpoints])

/-- No run that leaves its stops alone unmutes the breakpoints, and no edit does. -/
theorem staysHushed_isLaw : Run.IsLaw fun before _ after => before.StaysHushed after where
  clearError session :=
    .of_muting (staysIdle_isLaw.clearError session) (keepsMuting_isLaw.clearError session rfl)
  enter session :=
    .of_muting (staysIdle_isLaw.enter session) (keepsMuting_isLaw.enter session rfl)
  step session := .of_muting (staysIdle_isLaw.step session) step_muting
  stop session := .of_muting (staysIdle_isLaw.stop session) rfl
  removeTemporary session := by
    refine .of_muting (staysIdle_isLaw.removeTemporary session) ?_
    rw [session.removeTemporaryBreakpoints_eq.1]
    rfl

theorem Makes.staysHushed
    {before after : Session}
    {edit : Edit}
    (makes : before.Makes edit after) :
    before.StaysHushed after :=
  .of_muting makes.does.idle makes.muting

end Session

namespace Run

/-- What becomes of stops makes no difference to a step that nothing stops. -/
theorem step_of_unstopped
    {session : Session}
    (unstopped : ∀ reason, session.step.1 ≠ .break reason)
    (handle other : StopHandler)
    (goal : RunGoal)
    (executed : Nat) :
    step other goal executed session = step handle goal executed session := by
  have sameReaction :
      ∀ after, react other session.step.1 after = react handle session.step.1 after := by
    intro after
    cases ended : session.step.1 with
    | cycles count =>
        rfl
    | «break» reason =>
        exact absurd ended (unstopped reason)
    | fault error =>
        rfl
  cases broken : isBroken session.step.1 session.step.2 with
  | true =>
      rw [step_of_isBroken broken, step_of_isBroken broken]
  | false =>
      rw [step_of_not_isBroken broken, step_of_not_isBroken broken, sameReaction]

theorem Unfolds.of_unstopped
    {handle : StopHandler}
    {goal : RunGoal}
    {bound executed : Nat}
    {session : Session}
    {stations : List Session}
    {last : Stretch}
    (unfolds : Unfolds handle goal bound executed session stations last)
    (unstopped : ∀ station ∈ stations, ∀ reason, station.step.1 ≠ .break reason)
    (other : StopHandler) :
    Unfolds other goal bound executed session stations last := by
  induction unfolds with
  | complete enough =>
      exact .complete enough
  | @ends executed session unfinished ending =>
      have same :=
        step_of_unstopped (unstopped session List.mem_cons_self) handle other goal executed
      rw [← same] at ending ⊢
      exact .ends unfinished ending
  | @goesOn executed executedThen session sessionThen later last unfinished stepped rest
      inductionHypothesis =>
      have same :=
        step_of_unstopped (unstopped session List.mem_cons_self) handle other goal executed
      refine .goesOn unfinished (same.trans stepped) (inductionHypothesis ?_)
      exact fun station member => unstopped station (List.mem_cons_of_mem session member)

variable {session : Session} (hushed : session.IsHushed)

include hushed

/-- Nothing stops a run through muted breakpoints. -/
theorem stations_unstopped (goal : RunGoal) :
    ∀ station ∈ stations endAt goal session, ∀ reason, station.step.1 ≠ .break reason := by
  have isLaw := Session.staysHushed_isLaw
  intro station member
  exact (stations_obey isLaw isLaw.endAt goal session station member hushed).step_fst

/-- What becomes of stops makes no difference to a run through muted breakpoints. -/
theorem run_of_isHushed
    (inside : StopHandler)
    (goal : RunGoal) :
    (run inside goal).run session = (nested goal).run session := by
  unfold nested
  cases powered : session.machine.cpu.isPowered with
  | false =>
      rw [run_of_not_isPowered powered, run_of_not_isPowered powered]
  | true =>
      have unstopped := stations_unstopped hushed goal
      rw [stations, if_pos powered] at unstopped
      obtain ⟨unfolds, few⟩ := perform_unfolds .nested goal (clearError session)
      have unfoldsToo := unfolds.of_unstopped unstopped inside
      have same := (unfoldsToo.perform (unfolds.undisturbed .nested) few).2
      rw [run_of_isPowered powered, run_of_isPowered powered, same]

end Run

/-! ## Commands and scripts -/

namespace Session

theorem commands_stayHushed (command : Command) :
    Obeys (fun before _ after => before.StaysHushed after)
      (Operation.execute Run.nested command) := by
  have isLaw := staysHushed_isLaw
  have runs : ∀ goal, Obeys (fun before _ after => before.StaysHushed after) (Run.nested goal) :=
    Run.run_obeys isLaw isLaw.endAt
  exact execute_obeys runs fun edit _ _ _ makes => makes.staysHushed

theorem prepare_staysHushed (command : RunCommand) :
    Obeys (fun before _ after => before.StaysHushed after) command.prepare :=
  command.prepare_obeys fun _ _ _ _ makes => makes.staysHushed

/-- What becomes of stops makes no difference to a command through muted breakpoints. -/
theorem IsHushed.execute_command
    {session : Session}
    (hushed : session.IsHushed)
    (inside : StopHandler)
    (command : Command) :
    (Operation.execute (Run.run inside) command).run session =
      (Operation.execute Run.nested command).run session := by
  cases runs : RunCommand.ofCommand? command with
  | none =>
      rw [RunCommand.execute_of_ofCommand?_eq_none runs (Run.run inside) Run.nested]
  | some runCommand =>
      have prepared := prepare_staysHushed runCommand session hushed
      rw [← RunCommand.command_of_ofCommand? runs, RunCommand.execute_eq, RunCommand.execute_eq,
        run_bind, run_bind]
      cases came : runCommand.prepare.run session with
      | mk result after =>
          rw [came] at prepared
          cases result with
          | error error =>
              rfl
          | ok goal =>
              simp only
              rw [run_bind, run_bind, Run.run_of_isHushed prepared]

/-- What becomes of stops makes no difference to a script through muted breakpoints. -/
theorem IsHushed.execute_script
    {session : Session}
    (hushed : session.IsHushed)
    (inside : StopHandler)
    (commands : List String) :
    Script.execute (Run.run inside) commands session =
      Script.execute Run.nested commands session := by
  have carries : Script.Carries Run.nested (Run.run inside) id IsHushed :=
    { evaluate := fun _ _ => rfl
      print := fun _ _ => rfl
      execute := fun command session hushed => hushed.execute_command inside command
      keeps := fun command session hushed => commands_stayHushed command session hushed }
  exact Script.execute_carried carries commands hushed

/-- Muting the breakpoints of a session in which nothing is pending hushes it. -/
theorem mute_isHushed
    {session : Session}
    (idle : session.monitor.sentry.pending? = none) :
    session.mute.IsHushed :=
  ⟨idle, decide_eq_true (Nat.succ_pos _)⟩

end Session

/-! ## Steps inside scripts -/

/-- No step of the runs is stopped. -/
def AreUnstopped (runs : List (List Session)) : Prop :=
  ∀ run ∈ runs, ∀ station ∈ run, ∀ reason, station.step.1 ≠ .break reason

namespace Script

/-- What every command keeps holds wherever a command of the script is executed. -/
theorem executed_keep
    {property : Session → Prop}
    {runner : Runner}
    (keeps :
      ∀ command session,
        property session → property ((Operation.execute runner command).run session).2)
    (commands : List String)
    {session : Session}
    (holds : property session) :
    ∀ entry ∈ executed runner false commands session, property entry.2 := by
  refine
    executed_induction
      (motive := fun before executed _ => property before → ∀ entry ∈ executed, property entry.2)
      (fun _ _ _ _ _ member => absurd member List.not_mem_nil) ?_ session holds
  intro text _ command _ before rest last later holds entry member
  rcases List.mem_cons.mp member with rfl | isLater
  · exact holds
  · exact later (keeps command before holds) entry isLater

/-- Nothing stops the runs of a script through muted breakpoints. -/
theorem runs_unstopped
    {session : Session}
    (hushed : session.IsHushed)
    (commands : List String) :
    AreUnstopped (runs commands session) := by
  intro run member
  obtain ⟨⟨command, before⟩, isExecuted, isRun⟩ := List.mem_filterMap.mp member
  have hushedBefore : before.IsHushed :=
    executed_keep Session.commands_stayHushed commands hushed _ isExecuted
  obtain ⟨runCommand, -, rfl⟩ := Option.map_eq_some_iff.mp isRun
  have prepared := Session.prepare_staysHushed runCommand before hushedBefore
  unfold RunCommand.stations
  cases came : runCommand.prepare.run before with
  | mk result after =>
      rw [came] at prepared
      cases result with
      | error error =>
          exact fun _ member => absurd member List.not_mem_nil
      | ok goal =>
          exact Run.stations_unstopped prepared goal

end Script

/-- Nothing stops the runs of the script that is played where a step stops. -/
theorem Run.playedRuns_unstopped
    {session : Session}
    (idle : session.monitor.sentry.pending? = none)
    (goal : RunGoal) :
    AreUnstopped (playedRuns goal session) := by
  have nothing : AreUnstopped [] := fun _ member => absurd member List.not_mem_nil
  have idleThen : (shown goal session).monitor.sentry.pending? = none := by
    rw [(shown_sameDuty goal session).pending?]
    exact Session.step_idle idle
  unfold playedRuns
  split
  · exact nothing
  · split
    · exact Script.runs_unstopped (Session.mute_isHushed idleThen) _
    · exact nothing

/-- Of the runs of a command, nothing stops those of the scripts that are played. -/
theorem RunCommand.runs_unstopped
    {session : Session}
    (idle : session.monitor.sentry.pending? = none)
    (command : RunCommand) :
    AreUnstopped (command.runs session).tail := by
  have isLaw := Session.staysIdle_isLaw
  have prepares : Obeys (fun before _ after => before.StaysIdle after) command.prepare :=
    command.prepare_obeys fun edit _ => isLaw.edit edit
  have prepared := prepares session idle
  unfold runs
  cases came : command.prepare.run session with
  | mk result after =>
      rw [came] at prepared
      cases result with
      | error error =>
          exact fun _ member => absurd member List.not_mem_nil
      | ok goal =>
          intro run member
          obtain ⟨station, isStation, isPlayed⟩ := List.mem_flatMap.mp member
          have idleThen :=
            Run.stations_obey isLaw.toIsLaw isLaw.handles goal after station isStation prepared
          exact Run.playedRuns_unstopped idleThen goal run isPlayed

namespace Session

/-! ## Scripts that are cut short -/

/-- The breakpoints are muted at least as often as before. -/
def StaysMuted (before after : Session) : Prop :=
  before.monitor.sentry.breakpoints.muting ≤ after.monitor.sentry.breakpoints.muting

instance : AllowsReports StaysMuted where
  refl _ := Nat.le_refl _
  trans first second := Nat.le_trans first second
  report same := by rw [StaysMuted, same.breakpoints]

/-- Nothing that a script comes to unmutes the breakpoints. -/
theorem staysMuted_persists : Run.Persists StaysMuted Run.endAt := by
  have isLaw : Run.IsLaw fun before _ after => before.StaysMuted after :=
    sameMuting_isLaw.imp fun same => Nat.le_of_eq same.symm
  have runs :
      ∀ goal, Obeys (fun before _ after => before.StaysMuted after) (Run.run Run.endAt goal) :=
    Run.run_obeys isLaw isLaw.endAt
  refine isLaw.persists (fun _ => Nat.le_succ _) ?_ isLaw.endAt ?_
  · exact fun target before after makes => Nat.le_of_eq makes.muting.symm
  · exact fun command => execute_obeys runs fun _ _ _ _ makes => Nat.le_of_eq makes.muting.symm

/-- A script that is cut off leaves the breakpoints muted more often than before. -/
theorem lt_muting_of_cutoff?
    {session : Session}
    {commands : List String}
    {cutoff : Cutoff}
    (found : Script.cutoff? Run.nested Run.nestedCutoff? commands session.mute = some cutoff) :
    cutoff.IsGenuine ∧
      session.monitor.sentry.breakpoints.muting <
        cutoff.session.monitor.sentry.breakpoints.muting := by
  have nested := staysMuted_persists
  have reached :=
    Script.cutoff?_reaches nested (Run.nestedCutoff?_reaches nested) commands session.mute cutoff
      found
  exact ⟨reached.genuine, Nat.lt_of_succ_le reached.reached⟩

/-- A line that is neither abandoned nor cut off leaves the breakpoints muted as often as before. -/
theorem heed_muting
    {session : Session}
    {line : String}
    (whole : session.cutoff? line = none)
    (unabandoned : session.abandons line = false) :
    (session.heed line).2.monitor.sentry.breakpoints.muting =
      session.monitor.sentry.breakpoints.muting := by
  rw [heed_of_cutoff?_eq_none whole]
  exact session.obey_keepsMuting line unabandoned

/-- The commands of a line that are executed, each with the session in which it is. -/
def executed (session : Session) (line : String) : List (Command × Session) :=
  Script.executed Run.outermost false (Text.commandsOf (Text.trim line))
    (session.recordLine (Text.trim line))

theorem executed_idle
    {session : Session}
    (idle : session.monitor.sentry.pending? = none)
    (line : String) :
    ∀ entry ∈ session.executed line, entry.2.monitor.sentry.pending? = none := by
  have isLaw := staysIdle_isLaw
  have keeps :
      ∀ command,
        Obeys (fun before _ after => before.StaysIdle after)
          (Operation.execute Run.outermost command) :=
    isLaw.commands_obey isLaw.handles
  have idleThen : (session.recordLine (Text.trim line)).monitor.sentry.pending? = none := idle
  exact Script.executed_keep keeps _ idleThen

/-- Unless it is abandoned, a script leaves the breakpoints muted as often as before. -/
theorem playScript_muting
    {session : Session}
    (kind : BreakKind)
    (location : Location)
    (consumed : Bool)
    (ends :
      (Run.playScript kind location consumed session).1 ≠ .abandoned ∨
        session.monitor.sentry.history.hasRoom) :
    (Run.playScript kind location consumed session).2.monitor.sentry.breakpoints.muting =
      session.monitor.sentry.breakpoints.muting := by
  have order : session.StaysInOrder _ (Run.playScript kind location consumed session).2 :=
    staysInOrder_isLaw.isCommandLaw.playScript kind location consumed session
  apply playScript_keepsMuting kind location consumed session
  rcases ends with unabandoned | room
  · exact decide_eq_false unabandoned
  · exact (order.room room).1

end Session

/--
Scripts do not start scripts. Where nothing is pending, a step through muted
breakpoints is not stopped and leaves them as they were, with the countdown and
the excuse. So nothing stops the runs that scripts start, and a script does the
same whatever would become of stops inside it; of a line that is cut off, only a
beginning is executed. However a script ends, it leaves the breakpoints muted as
often as before, unless it is abandoned, as it is not where there is room for the
history, or cut off, as something is too large for a machine word: then they stay
muted. So does every line. A fresh session has nothing pending, and whatever a
host or an operator does leaves nothing pending, so all of that holds ever after.
-/
theorem scripts_start_no_scripts
    {session : Session}
    (idle : session.monitor.sentry.pending? = none) :
    let muting := session.monitor.sentry.breakpoints.muting
    let room := session.monitor.sentry.history.hasRoom
    let scriptCutoff? := fun commands =>
      Script.cutoff? Run.nested Run.nestedCutoff? commands session.mute
    (session.monitor.sentry.breakpoints.isMuted →
        (∀ reason, session.step.1 ≠ .break reason) ∧
          session.step.2.monitor.sentry.breakpoints = session.monitor.sentry.breakpoints) ∧
      (∀ inside commands,
        Script.execute (Run.run inside) commands session.mute =
          Script.execute Run.nested commands session.mute) ∧
      (∀ line,
        ∀ executed ∈ session.executed line,
          ∀ command,
            RunCommand.ofCommand? executed.1 = some command →
              AreUnstopped (command.runs executed.2).tail) ∧
      (∀ kind location consumed,
        let played := Run.playScript kind location consumed session
        match scriptCutoff? location.commands with
        | none =>
            played.1 ≠ .abandoned ∨ room →
              played.2.monitor.sentry.breakpoints.muting = muting
        | some cutoff =>
            cutoff.IsGenuine ∧ muting < cutoff.session.monitor.sentry.breakpoints.muting) ∧
      (∀ line,
        session.abandons line = false ∨ room →
          session.cutoff? line = none ∨ session.fitsWords →
            (session.heed line).2.monitor.sentry.breakpoints.muting = muting) ∧
      (∀ line, (session.heed line).2.monitor.sentry.pending? = none) ∧
      ∀ dealings, (session.dealAll dealings).monitor.sentry.pending? = none := by
  intro muting room scriptCutoff?
  refine ⟨fun muted => ?_, ?_, ?_, ?_, ?_, fun line => ?_, fun dealings => ?_⟩
  · have hushed : session.IsHushed := ⟨idle, muted⟩
    exact ⟨hushed.step_fst, hushed.step_breakpoints⟩
  · exact fun inside => (Session.mute_isHushed idle).execute_script inside
  · intro line executed isExecuted command _
    exact command.runs_unstopped (Session.executed_idle idle line executed isExecuted)
  · intro kind location consumed played
    cases found : scriptCutoff? location.commands with
    | none =>
        exact Session.playScript_muting kind location consumed
    | some cutoff =>
        exact Session.lt_muting_of_cutoff? found
  · intro line abandonsNothing cutsNothing
    have unabandoned : session.abandons line = false :=
      abandonsNothing.elim id (Session.abandons_of_hasRoom · line)
    have whole : session.cutoff? line = none :=
      cutsNothing.elim id (Session.cutoff?_of_fitsWords · line)
    exact Session.heed_muting whole unabandoned
  · exact Session.heed_related Session.staysIdle_isLaw.isCommandLaw session line idle
  · obtain ⟨entries, annals⟩ := session.dealAll_endures dealings
    exact annals.idle idle

/-- A breakpoint inside the script of another one does not stop the trace in the script. -/
theorem trace_in_script_passes_breakpoint :
    let session :=
      (Session.fresh .default .initial).heedAll ["bp 0 \x22t 2\x22", "bp 1 \x22r\x22"]
    session.mute.monitor.sentry.breakpoints.isMuted ∧
      (∀ reason, session.mute.step.1 ≠ .break reason) ∧
      (session.heed "g 5").2.monitor.sentry.breakpoints.muting =
        session.monitor.sentry.breakpoints.muting := by
  intro session
  have idle : session.monitor.sentry.pending? = none := by decide +kernel
  have muted : session.mute.monitor.sentry.breakpoints.isMuted := by decide +kernel
  have room : session.monitor.sentry.history.hasRoom := by decide +kernel
  have fits : session.fitsWords := by decide +kernel
  obtain ⟨inside, -⟩ := @scripts_start_no_scripts session.mute idle
  obtain ⟨-, -, -, -, lines, -⟩ := scripts_start_no_scripts idle
  exact ⟨muted, (inside muted).1, lines "g 5" (.inr room) (.inr fits)⟩

/--
A script that is abandoned for lack of room leaves the breakpoints muted, and so
does one that traces into a group of symbols that ends at no word.
-/
theorem scripts_cut_short_leave_breakpoints_muted :
    let roomless :=
      (Session.fresh { Config.default with historyCapacity := 0x2000000000000000 }
        .initial).heedAll ["bp 1 \x22bn 5\x22"]
    let overlong :=
      ((Session.fresh .default .initial).withSymbols
        (SymbolTable.empty.withModule "M" 1 0xFFFFFFFFFFFFFFFF [])).heedAll ["bp 1 \x22t 2\x22"]
    (roomless.monitor.sentry.pending? = none ∧
      roomless.monitor.sentry.breakpoints.muting = 0 ∧
      (roomless.heed "g").2.monitor.sentry.breakpoints.muting = 1) ∧
    overlong.monitor.sentry.pending? = none ∧
      overlong.monitor.sentry.breakpoints.muting = 0 ∧
      (overlong.heed "g").2.monitor.sentry.breakpoints.muting = 1 := by
  decide +kernel

end Monitor8080
