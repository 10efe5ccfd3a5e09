import Mathlib.Data.Option.Basic
import Monitor8080.Proofs.RunLimit
import Monitor8080.Proofs.SymbolLookup
namespace Monitor8080

/-!
# Where lines are cut off

The place where a line is cut off is looked for along the way that the line
takes: at the commands that it executes and at the stations of its runs. So
what holds from the line up to all of these holds up to where it is cut off,
and there something is too large for a machine word indeed.
-/

open Operation

/-! ## The way of a search -/

namespace Run

section Search

variable {handle : StopHandler} {goal : RunGoal} {find? : Session → Option α}

/-- A search through a burst looks at its stations in order. -/
theorem searchBurst_eq
    (steps executed : Nat)
    (session : Session) :
    searchBurst handle goal find? steps executed session =
      (burstStations handle goal steps executed session).findSome? find? := by
  induction steps generalizing executed session with
  | zero =>
      rfl
  | succ steps inductionHypothesis =>
      rw [searchBurst, burstStations, List.findSome?_cons]
      cases find? session with
      | some found =>
          rfl
      | none =>
          cases step handle goal executed session with
          | mk course executedThen sessionThen =>
              cases course with
              | goesOn =>
                  exact inductionHypothesis executedThen sessionThen
              | ends =>
                  rfl
              | abandoned =>
                  rfl

/-- A search through chunks looks at their stations in order. -/
theorem searchChunks_eq
    (chunk bound fuel executed : Nat)
    (session : Session) :
    searchChunks handle goal find? chunk bound fuel executed session =
      (chunkStations handle goal chunk bound fuel executed session).findSome? find? := by
  induction fuel generalizing executed session with
  | zero =>
      rfl
  | succ fuel inductionHypothesis =>
      rw [searchChunks, chunkStations]
      split
      · rfl
      · split
        · rfl
        · simp only
          rw [searchBurst_eq, List.findSome?_append]
          cases burst handle goal (min chunk (bound - executed)) executed session with
          | mk course executedThen sessionThen =>
              cases course with
              | goesOn =>
                  simp only [inductionHypothesis, Option.orElse_eq_orElse, Option.orElse_eq_or]
              | ends =>
                  simp
              | abandoned =>
                  simp

/-- A run is searched at its stations, in their order. -/
theorem search_eq (session : Session) :
    search handle goal find? session =
      (performStations handle goal session).findSome? find? :=
  searchChunks_eq ..

end Search

end Run

namespace Script

variable {runner : Runner} {find? : Command → Session → Option α}

/-- A search through a script looks at a command before it goes on to the next. -/
theorem search_of_command
    {text : String}
    {rest : List String}
    {command : Command}
    {session : Session}
    (parsed : Command.parse text = .ok command)
    (notIf : ∀ condition, command = .ifTrue condition → False)
    (notElse : command = .orElse → False) :
    search runner find? false (text :: rest) session =
      (find? command session <|>
        match (Operation.execute runner command).run session with
        | (.ok _, session) => search runner find? false rest session
        | (.error _, _) => none) := by
  rw [search, parsed]
  split
  · rename_i same
    cases same
  · rename_i condition same
    cases same
    exact (notIf condition rfl).elim
  · rename_i same
    cases same
    exact (notElse rfl).elim
  · rename_i same
    cases same
    rfl

/-- A script is searched at the commands that it executes, in their order. -/
theorem search_eq
    (isSkipping : Bool)
    (commands : List String)
    (session : Session) :
    search runner find? isSkipping commands session =
      (executed runner isSkipping commands session).findSome? fun command =>
        find? command.1 command.2 := by
  induction commands generalizing isSkipping session with
  | nil =>
      cases isSkipping <;> rfl
  | cons text rest inductionHypothesis =>
      cases isSkipping with
      | true =>
          exact inductionHypothesis _ session
      | false =>
          cases parsed : Command.parse text with
          | error error =>
              simp only [search, executed, parsed, List.findSome?_nil]
          | ok command =>
              have searched
                  (notIf : ∀ condition, command = .ifTrue condition → False)
                  (notElse : command = .orElse → False) :
                  search runner find? false (text :: rest) session =
                    (executed runner false (text :: rest) session).findSome? fun command =>
                      find? command.1 command.2 := by
                rw [search_of_command parsed notIf notElse, executed_of_command parsed notIf notElse,
                  List.findSome?_cons]
                cases find? command session with
                | some found =>
                    rfl
                | none =>
                    cases (Operation.execute runner command).run session with
                    | mk result after =>
                        cases result with
                        | ok value =>
                            exact inductionHypothesis false after
                        | error error =>
                            rfl
              cases command with
              | ifTrue condition =>
                  cases evaluated : session.monitor.evaluate session.machine condition with
                  | error error =>
                      simp only [search, executed, parsed, evaluated, List.findSome?_nil]
                  | ok value =>
                      simp only [search, executed, parsed, evaluated, inductionHypothesis]
              | orElse =>
                  simp only [search, executed, parsed, List.findSome?_nil]
              | _ =>
                  exact searched (fun _ same => by cases same) fun same => by cases same

end Script

/-! ## What holds up to where a line is cut off -/

namespace Cutoff

/-- Something is too large for a machine word: the size of a chunk, or the end of a group. -/
def IsGenuine (cutoff : Cutoff) : Prop :=
  match cutoff.overflow with
  | .product =>
      Run.chunkSize? cutoff.session.monitor.config cutoff.session.machine.cpu = none
  | .sum =>
      ∃ address, ∃ group ∈ cutoff.session.monitor.symbols.groups, group.within? address = none

/-- Something is too large where a line is cut off, and a relation holds up to there. -/
structure IsReached
    (related : Session → Session → Prop)
    (session : Session)
    (cutoff : Cutoff) : Prop where
  genuine : cutoff.IsGenuine
  reached : related session cutoff.session

/-- A cutoff that is reached from a later session is reached from an earlier one. -/
theorem IsReached.after
    {related : Session → Session → Prop}
    [composes : Session.Composes related]
    {first second : Session}
    {cutoff : Cutoff}
    (before : related first second)
    (isReached : cutoff.IsReached related second) :
    cutoff.IsReached related first :=
  ⟨isReached.genuine, composes.trans before isReached.reached⟩

/-- Whatever is found is reached from where the search began. -/
def Reaches
    (related : Session → Session → Prop)
    (find? : Session → Option Cutoff) : Prop :=
  ∀ session cutoff, find? session = some cutoff → cutoff.IsReached related session

end Cutoff

open Cutoff (Reaches)

/-- A relation that holds up to whatever a line comes to along its way. -/
structure Run.Persists
    (related : Session → Session → Prop)
    (handle : StopHandler) : Prop where
  prints :
    ∀ (session : Session) lines, related session (session.updateMonitor (·.printAll lines))
  tells : ∀ (session : Session) topic text, related session (session.message topic text)
  enters : ∀ session, related session (enter (clearError session))
  stations :
    ∀ goal session, ∀ station ∈ stations handle goal session, related session station
  mutes : ∀ goal session, related session (shown goal session).mute
  performs : ∀ goal session, related session (perform handle goal (clearError session)).session
  reports : ∀ course executed, Follows related (reportLimit course executed)
  leaves : ∀ goal, Follows related (leave goal)
  prepares : ∀ command : RunCommand, Follows related command.prepare
  runs : ∀ goal, Follows related (run handle goal)
  commands : ∀ command, Follows related (Operation.execute (run handle) command)

section Reached

variable {related : Session → Session → Prop} [composes : Session.Composes related]

/-- What is reached from where an operation ends is reached through it. -/
theorem Cutoff.IsReached.afterOperation
    {operation : Operation α}
    (follows : Follows related operation)
    {before after : Session}
    {value : α}
    (came : operation.run before = (.ok value, after))
    {cutoff : Cutoff}
    (isReached : cutoff.IsReached related after) :
    cutoff.IsReached related before := by
  have followed := follows before
  rw [came] at followed
  exact isReached.after followed

/-- An operation that leaves the session as it is leads nowhere else. -/
theorem Operation.Follows.of_looks
    {operation : Operation α}
    (looks : Obeys (fun before _ after => after = before) operation) :
    Follows related operation := by
  intro session
  rw [looks session]
  exact composes.refl session

/-! ### Symbols -/

namespace Session

theorem searchCutoff?_reaches (address : UInt16) : Reaches related (·.searchCutoff? address) := by
  intro session cutoff found
  change searchCutoff? session address = some cutoff at found
  unfold searchCutoff? at found
  split at found
  · cases found
  · rename_i overflow failed
    cases found
    obtain ⟨overflows, rfl⟩ := SymbolTable.lookup_eq_error_iff.mp failed
    exact ⟨⟨address, overflows.exists_group⟩, composes.refl session⟩

/-- A listing is cut off after some lines, which are only printed. -/
theorem listingCutoff?_reaches
    (prints :
      ∀ (session : Session) lines, related session (session.updateMonitor (·.printAll lines)))
    (addresses : List UInt16) :
    Reaches related (·.listingCutoff? addresses) := by
  induction addresses with
  | nil =>
      exact fun _ _ found => nomatch found
  | cons address addresses inductionHypothesis =>
      intro session cutoff found
      rcases (Option.orElse_eq_some _ _ _).mp found with here | ⟨-, later⟩
      · exact searchCutoff?_reaches address session cutoff here
      · exact (inductionHypothesis _ cutoff later).after (prints session _)

end Session

/-! ### Runs -/

namespace Run

variable {handle : StopHandler} (persists : Persists related handle)

include persists

/-- A step is cut off where it lists, or in the script of the stop that it comes to. -/
theorem stepCutoff?_reaches
    {scriptCutoff? : ScriptCutoff}
    (scripts : ∀ commands, Reaches related (scriptCutoff? commands))
    (goal : RunGoal) :
    Reaches related (stepCutoff? scriptCutoff? goal) := by
  intro session cutoff found
  rcases (Option.orElse_eq_some _ _ _).mp found with traced | ⟨-, played⟩
  · split at traced
    · exact Session.searchCutoff?_reaches _ session cutoff traced
    · cases traced
  · split at played
    · cases played
    · split at played
      · exact (scripts _ _ cutoff played).after (persists.mutes goal session)
      · cases played

/-- A notice is cut off where it lists the next instruction. -/
theorem noticeCutoff?_reaches
    {stretch : Stretch}
    {cutoff : Cutoff}
    (found : noticeCutoff? stretch = some cutoff) :
    cutoff.IsReached related stretch.session := by
  unfold noticeCutoff? at found
  split at found
  · cases found
  · have ending :
        Obeys (fun before _ after => related before after) (do
          reportLimit stretch.course stretch.executed
          leave (.quiet 0)) :=
      Obeys.andThen (persists.reports _ _) fun _ => persists.leaves _
    simp only at found
    split at found
    · rename_i after came
      refine .afterOperation (.of_obeys ending) came ?_
      exact (Session.searchCutoff?_reaches _ _ cutoff found).after (persists.tells after _ _)
    · cases found

/-- Where a run is cut off is reached from where it begins, if that holds of its scripts. -/
theorem cutoff?_reaches
    {scriptCutoff? : ScriptCutoff}
    (scripts : ∀ commands, Reaches related (scriptCutoff? commands))
    (goal : RunGoal) :
    Reaches related (cutoff? handle scriptCutoff? goal) := by
  intro session cutoff found
  unfold cutoff? at found
  split at found
  · rename_i powered
    simp only at found
    split at found
    · rename_i tooLarge
      cases found
      exact ⟨tooLarge, persists.enters session⟩
    · rcases (Option.orElse_eq_some _ _ _).mp found with inStep | ⟨-, inNotice⟩
      · rw [search_eq] at inStep
        obtain ⟨station, member, foundThere⟩ := List.exists_of_findSome?_eq_some inStep
        have isStation : station ∈ stations handle goal session := by
          rw [stations, if_pos powered]
          exact member
        have reached := stepCutoff?_reaches persists scripts goal station cutoff foundThere
        exact reached.after (persists.stations goal session station isStation)
      · split at inNotice
        · exact (noticeCutoff?_reaches persists inNotice).after (persists.performs goal session)
        · cases inNotice
  · cases found

end Run

/-! ### Commands -/

section Commands

variable {handle : StopHandler} (persists : Run.Persists related handle)

include persists

/-- A command is cut off where its run is, or where it lists the next instruction after it. -/
theorem RunCommand.cutoff?_reaches
    {runCutoff? : RunCutoff}
    (runs : ∀ goal, Reaches related (runCutoff? goal))
    (command : RunCommand) :
    Reaches related (command.cutoff? (Run.run handle) runCutoff?) := by
  intro session cutoff found
  unfold cutoff? at found
  split at found
  · cases found
  · rename_i goal after came
    refine .afterOperation (persists.prepares command) came ?_
    rcases (Option.orElse_eq_some _ _ _).mp found with inRun | ⟨-, inEnd⟩
    · exact runs goal after cutoff inRun
    · split at inEnd
      · rename_i withRegisters last ended
        split at inEnd
        · cases inEnd
        · refine .afterOperation (persists.runs goal) ended ?_
          exact Session.searchCutoff?_reaches _ last cutoff inEnd
      · cases inEnd

/-- Where a command is cut off is reached from where it is executed, if that holds of its run. -/
theorem Command.cutoff?_reaches
    {runCutoff? : RunCutoff}
    (runs : ∀ goal, Reaches related (runCutoff? goal))
    (command : Command) :
    Reaches related (command.cutoff? (Run.run handle) runCutoff?) := by
  intro session cutoff found
  unfold cutoff? at found
  split at found
  · rename_i text
    split at found
    · rename_i address after came
      refine .afterOperation (.of_looks (.address text)) came ?_
      exact Session.searchCutoff?_reaches address after cutoff found
    · cases found
  · rename_i count?
    have looks : Obeys (fun before _ after => after = before) (namedCalls count?) :=
      (Obeys.observe _).andThen fun _ => (Obeys.countOr _ _).andThen fun _ =>
        (Obeys.observe _).andThen fun _ => .value _
    split at found
    · rename_i addresses after came
      refine .afterOperation (.of_looks looks) came ?_
      obtain ⟨address, -, foundThere⟩ := List.exists_of_findSome?_eq_some found
      exact Session.searchCutoff?_reaches address after cutoff foundThere
    · cases found
  · rename_i address? end?
    have looks : Obeys (fun before _ after => after = before) (listedAddresses address? end?) := by
      refine (Obeys.observe _).andThen fun _ => (Obeys.place _ _).andThen fun _ => ?_
      cases end? with
      | none =>
          exact .observe _
      | some text =>
          exact (Obeys.address text).andThen fun _ => .observe _
    split at found
    · rename_i addresses after came
      refine .afterOperation (.of_looks looks) came ?_
      exact Session.listingCutoff?_reaches persists.prints addresses after cutoff found
    · cases found
  · obtain ⟨runCommand, -, foundThere⟩ := Option.bind_eq_some_iff.mp found
    exact runCommand.cutoff?_reaches persists runs session cutoff foundThere

/-- What holds up to where each command ends holds up to where each of a script is executed. -/
theorem Script.executed_reached
    (commands : List String)
    (session : Session) :
    ∀ command ∈ executed (Run.run handle) false commands session, related session command.2 := by
  refine
    executed_induction (motive := fun before commands _ => ∀ command ∈ commands, related before command.2)
      (fun _ _ _ _ member => absurd member List.not_mem_nil) ?_ session
  intro _ _ command _ before rest _ later other member
  rcases List.mem_cons.mp member with rfl | isLater
  · exact composes.refl before
  · exact composes.trans (persists.commands command before) (later other isLater)

/-- Where a script is cut off is reached from where it begins, if that holds of its runs. -/
theorem Script.cutoff?_reaches
    {runCutoff? : RunCutoff}
    (runs : ∀ goal, Reaches related (runCutoff? goal))
    (commands : List String) :
    Reaches related (Script.cutoff? (Run.run handle) runCutoff? commands) := by
  intro session cutoff found
  rw [Script.cutoff?, search_eq] at found
  obtain ⟨command, member, foundThere⟩ := List.exists_of_findSome?_eq_some found
  have reached := command.1.cutoff?_reaches persists runs command.2 cutoff foundThere
  exact reached.after (executed_reached persists commands session command member)

end Commands

/-! ### Lines -/

theorem Run.nestedCutoff?_reaches
    (nested : Run.Persists related Run.endAt)
    (goal : RunGoal) :
    Reaches related (Run.nestedCutoff? goal) :=
  Run.cutoff?_reaches nested (fun _ _ _ found => by cases found) goal

theorem Run.outermostCutoff?_reaches
    (nested : Run.Persists related Run.endAt)
    (outermost : Run.Persists related Run.answerStop)
    (goal : RunGoal) :
    Reaches related (Run.outermostCutoff? goal) :=
  Run.cutoff?_reaches outermost
    (Script.cutoff?_reaches nested (Run.nestedCutoff?_reaches nested)) goal

/-- Where a line is cut off is reached from where it was recorded. -/
theorem Session.cutoff?_reached
    (nested : Run.Persists related Run.endAt)
    (outermost : Run.Persists related Run.answerStop)
    {session : Session}
    {line : String}
    {cutoff : Cutoff}
    (found : session.cutoff? line = some cutoff) :
    cutoff.IsReached related (session.recordLine (Text.trim line)) := by
  unfold Session.cutoff? at found
  simp only at found
  split at found
  · cases found
  · exact
      Script.cutoff?_reaches outermost (Run.outermostCutoff?_reaches nested outermost) _ _ cutoff
        found

end Reached

/-! ### Laws -/

theorem Session.Lawful.composes
    {related : Session → Session → Prop}
    (lawful : Session.Lawful fun before _ after => related before after) :
    Session.Composes related where
  refl := lawful.refl
  trans before after := @lawful.trans _ _ _ false before after

/--
A law of runs holds of all that a run and its commands come to, if it does not
tell apart what was abandoned and holds of the commands and of muting.
-/
theorem Run.IsLaw.persists
    {related : Session → Session → Prop}
    [composes : Session.Composes related]
    [lawful : Session.LawfulReports fun before _ after => related before after]
    (isLaw : IsLaw fun before _ after => related before after)
    (mutes : ∀ session : Session, related session session.mute)
    (runTo :
      ∀ target,
        (Edit.place .exec (.temporary target)).IsGranted fun before _ after =>
          related before after)
    {handle : StopHandler}
    (handles : HandlesBy (fun before _ after => related before after) handle)
    (commands :
      ∀ command,
        Obeys (fun before _ after => related before after)
          (Operation.execute (run handle) command)) :
    Persists related handle where
  prints session lines := lawful.report (.printAll session lines)
  tells session topic text := lawful.report (.message session topic text)
  enters session := composes.trans (isLaw.clearError session) (isLaw.enter (Run.clearError session))
  stations goal session := stations_obey isLaw handles goal session
  mutes goal session :=
    composes.trans (isLaw.step session)
      (composes.trans (lawful.report (shown_sameDuty goal session)) (mutes _))
  performs goal session :=
    composes.trans (isLaw.clearError session)
      (perform_obeys isLaw handles goal (Run.clearError session))
  reports course executed := .of_obeys (reportLimit_obeys course executed)
  leaves goal := .of_obeys (leave_obeys isLaw.stop isLaw.removeTemporary goal)
  prepares command := by
    refine .of_obeys (command.prepare_obeys fun edit permitted => ?_)
    cases command with
    | go address? =>
        cases permitted
        exact runTo _
    | trace detail count? =>
        cases permitted
    | stepPast withRegisters =>
        cases permitted
        exact runTo _
  runs goal := .of_obeys (run_obeys isLaw handles goal)
  commands command := .of_obeys (commands command)

/-- A law of commands holds of all that a line comes to, if it does not tell apart what was abandoned. -/
theorem Run.IsCommandLaw.persists
    {related : Session → Session → Prop}
    [composes : Session.Composes related]
    [lawful : Session.LawfulReports fun before _ after => related before after]
    (isLaw : IsCommandLaw fun before _ after => related before after)
    {handle : StopHandler}
    (handles : HandlesBy (fun before _ after => related before after) handle) :
    Persists related handle :=
  isLaw.toIsLaw.persists isLaw.mute isLaw.runTo handles (isLaw.commands handles)

/-- Such a law holds up to where a line is cut off. -/
theorem Run.IsCommandLaw.cutoff?_reached
    {related : Session → Session → Prop}
    [lawful : Session.LawfulReports fun before _ after => related before after]
    (isLaw : IsCommandLaw fun before _ after => related before after)
    {session : Session}
    {line : String}
    {cutoff : Cutoff}
    (found : session.cutoff? line = some cutoff) :
    cutoff.IsReached related session := by
  have composes := lawful.toLawful.composes
  have reached :=
    Session.cutoff?_reached (isLaw.persists isLaw.toIsLaw.endAt) (isLaw.persists isLaw.handles) found
  exact reached.after (lawful.report (session.recordLine_sameDuty _))

/-- The session after some lines. -/
def Session.heedAll (session : Session) (lines : List String) : Session :=
  lines.foldl (fun session line => (session.heed line).2) session

end Monitor8080
