import Mathlib.Data.List.Perm.Basic
import Monitor8080.Operator.Cutoff
import Monitor8080.Proofs.ScriptDeeds
namespace Monitor8080

/-!
# Runs within runs

A run plays the scripts of the breakpoints that it reaches, and their commands
may run the machine again. The runs of a command are told along with its
execution: its own run, and the runs of the scripts that its stops play.
Together they make every step that the command makes.
-/

open Operation

namespace Script

/-! ## The commands of a script -/

/--
The commands that are executed, each with the session in which it is. After a
condition that does not hold, commands are skipped up to the next `else`.
-/
def executed (runner : Runner) :
    (isSkipping : Bool) → (commands : List String) → Session → List (Command × Session)
  | _, [], _ => []
  | true, text :: rest, session => executed runner (!opensElse text) rest session
  | false, text :: rest, session =>
      match Command.parse text with
      | .error _ => []
      | .ok (.ifTrue condition) =>
          match session.monitor.evaluate session.machine condition with
          | .error _ => []
          | .ok value => executed runner (value = 0) rest session
      | .ok .orElse => []
      | .ok command =>
          (command, session) ::
            match (Operation.execute runner command).run session with
            | (.ok _, session) => executed runner false rest session
            | (.error _, _) => []

theorem executed_of_skipping (runner : Runner) (commands : List String) (session : Session) :
    executed runner true commands session =
      match afterElse? commands with
      | some rest => executed runner false rest session
      | none => [] := by
  induction commands with
  | nil =>
      rfl
  | cons text rest inductionHypothesis =>
      rw [executed]
      cases opens : opensElse text with
      | true =>
          simp [afterElse?, opens]
      | false =>
          simp only [afterElse?, List.dropWhile_cons, opens] at inductionHypothesis ⊢
          exact inductionHypothesis

theorem executed_of_command
    {runner : Runner}
    {text : String}
    {rest : List String}
    {command : Command}
    {session : Session}
    (parsed : Command.parse text = .ok command)
    (notIf : ∀ condition, command = .ifTrue condition → False)
    (notElse : command = .orElse → False) :
    executed runner false (text :: rest) session =
      (command, session) ::
        match (Operation.execute runner command).run session with
        | (.ok _, session) => executed runner false rest session
        | (.error _, _) => [] := by
  rw [executed, parsed]
  split
  · rename_i same
    cases same
  · rename_i condition same
    cases same
    exact (notIf condition rfl).elim
  · rename_i same
    cases same
    exact (notElse rfl).elim
  · rename_i same
    cases same
    rfl

/--
What holds of a script that executes nothing, and goes on holding as one command
more is executed before, holds of every script.
-/
theorem executed_induction
    {motive : Session → List (Command × Session) → Session → Prop}
    {runner : Runner}
    {commands : List String}
    (nothing : ∀ before after, before.SameDuty after → motive before [] after)
    (first :
      ∀ text ∈ commands,
        ∀ command,
          Command.parse text = .ok command →
            ∀ session rest last,
              motive ((Operation.execute runner command).run session).2 rest last →
                motive session ((command, session) :: rest) last)
    (session : Session) :
    motive session (executed runner false commands session) (execute runner commands session).2 := by
  fun_induction execute runner commands session with
  | case1 session =>
      rw [executed]
      exact nothing session session (.refl session)
  | case2 session text rest error notParsed =>
      rw [executed, notParsed]
      exact nothing _ _ (.print session _)
  | case3 session text rest condition parsed error notEvaluated =>
      rw [executed, parsed]
      simp only [notEvaluated]
      exact nothing _ _ (.print session _)
  | case4 session text rest condition parsed value evaluated holds inductionHypothesis =>
      rw [executed, parsed]
      simp only [evaluated, decide_eq_false holds]
      exact inductionHypothesis fun other member => first other (List.mem_cons_of_mem text member)
  | case5 session text rest condition parsed value evaluated fails others found shorter
      inductionHypothesis =>
      have isZero : value = 0 := not_not.mp fails
      rw [executed, parsed]
      simp only [evaluated, decide_eq_true isZero, executed_of_skipping, found]
      refine inductionHypothesis fun other member => first other ?_
      exact List.mem_cons_of_mem text (mem_of_afterElse? found member)
  | case6 session text rest condition parsed value evaluated fails notFound =>
      have isZero : value = 0 := not_not.mp fails
      rw [executed, parsed]
      simp only [evaluated, decide_eq_true isZero, executed_of_skipping, notFound]
      exact nothing session session (.refl session)
  | case7 session text rest parsed =>
      rw [executed, parsed]
      exact nothing session session (.refl session)
  | case8 session text rest command notIf notElse parsed value after ran inductionHypothesis =>
      have opens := first text List.mem_cons_self command parsed session
      rw [ran] at opens
      rw [executed_of_command parsed notIf notElse, ran]
      refine opens _ _ (inductionHypothesis fun other member => ?_)
      exact first other (List.mem_cons_of_mem text member)
  | case9 session text rest command notIf notElse parsed after ran =>
      have opens := first text List.mem_cons_self command parsed session
      rw [ran] at opens
      rw [executed_of_command parsed notIf notElse, ran]
      exact opens _ _ (nothing after after (.refl after))
  | case10 session text rest command notIf notElse parsed error after otherError ran =>
      have opens := first text List.mem_cons_self command parsed session
      rw [ran] at opens
      rw [executed_of_command parsed notIf notElse, ran]
      exact opens _ _ (nothing _ _ (.print after _))

end Script

/-! ## The runs of a command -/

/-- The stations of the run that an executed command of a script comes to, if it runs the machine. -/
def nestedRun? (executed : Command × Session) : Option (List Session) :=
  (RunCommand.ofCommand? executed.1).map (·.stations Run.endAt executed.2)

/-- The stations of the runs that a script starts, run by run. -/
def Script.runs (commands : List String) (session : Session) : List (List Session) :=
  (executed Run.nested false commands session).filterMap nestedRun?

namespace Run

/-- The runs of the script that is played where a step stops, if any is. -/
def playedRuns (goal : RunGoal) (session : Session) : List (List Session) :=
  if isBroken session.step.1 session.step.2 then
    []
  else
    match session.step.1 with
    | .break (.hit (.entry _ location _)) =>
        Script.runs location.commands (shown goal session).mute
    | _ => []

end Run

/-- The runs that a command of the operator comes to: its own, and those that its stops start. -/
def RunCommand.runs (command : RunCommand) (session : Session) : List (List Session) :=
  match command.prepare.run session with
  | (.ok goal, prepared) =>
      let stations := Run.stations Run.answerStop goal prepared
      stations :: stations.flatMap (Run.playedRuns goal)
  | (.error _, _) => []

/-! ## Steps that are made -/

/-- The session in which a step is made, if one is. -/
def Moment.station? (moment : Moment) : Option Session :=
  if moment.deed = .step then some moment.session else none

/-- From one session to another just these steps are made. -/
def Session.Advances (before : Session) (stations : List Session) (after : Session) : Prop :=
  ∃ moments, Chronicle before moments after ∧ moments.filterMap Moment.station? = stations

namespace Session.Advances

variable {first middle last : Session} {earlier later : List Session}

theorem refl (session : Session) : session.Advances [] session :=
  ⟨[], .nil session, rfl⟩

theorem append
    (advances : first.Advances earlier middle)
    (advancesOn : middle.Advances later last) :
    first.Advances (earlier ++ later) last := by
  obtain ⟨moments, chronicle, rfl⟩ := advances
  obtain ⟨momentsOn, chronicleOn, rfl⟩ := advancesOn
  exact ⟨moments ++ momentsOn, chronicle.append chronicleOn, List.filterMap_append⟩

/-- Of two parts the first of which makes no step, the second makes them all. -/
theorem after_nothing
    (quiet : first.Advances [] middle)
    (advances : middle.Advances later last) :
    first.Advances later last :=
  quiet.append advances

/-- Of two parts the second of which makes no step, the first makes them all. -/
theorem before_nothing
    (advances : first.Advances earlier middle)
    (quiet : middle.Advances [] last) :
    first.Advances earlier last := by
  have whole := advances.append quiet
  rw [List.append_nil] at whole
  exact whole

theorem of_step (session : Session) : session.Advances [session] session.step.2 :=
  ⟨[⟨session, .step⟩], .single (.step session), rfl⟩

theorem of_does
    {deed : Deed}
    (does : first.Does deed last)
    (stepless : deed ≠ .step) :
    first.Advances [] last := by
  refine ⟨[⟨first, deed⟩], .single does, ?_⟩
  simp [Moment.station?, stepless]

theorem of_sameDuty (same : first.SameDuty last) : first.Advances [] last :=
  of_does (.adjust same.toSameGuard.adjusts) nofun

end Session.Advances

/-- What makes no step is a law of operations. -/
theorem Session.Advances.lawful :
    Session.LawfulReports fun before _ after => before.Advances [] after where
  refl := .refl
  trans := .append
  report := .of_sameDuty

theorem Edit.deed_ne_step (edit : Edit) : edit.deed ≠ .step := by
  cases edit <;> exact nofun

/-- No edit makes a step. -/
theorem Edit.makes_no_step (edit : Edit) :
    edit.IsGranted fun before _ after => before.Advances [] after :=
  fun _ _ makes => .of_does makes.does edit.deed_ne_step

namespace Run

/-! ## The steps of a run -/

variable {handle : StopHandler} {goal : RunGoal}

theorem step_of_isBroken
    {session : Session}
    (broken : isBroken session.step.1 session.step.2)
    (executed : Nat) :
    step handle goal executed session = ⟨.abandoned, executed, session.step.2⟩ := by
  unfold step
  simp only [broken, ↓reduceIte]

/-- A step that breaks nothing counts if it retired, and the run reacts to it. -/
theorem step_of_not_isBroken
    {session : Session}
    (unbroken : isBroken session.step.1 session.step.2 = false)
    (executed : Nat) :
    step handle goal executed session =
      ⟨(react handle session.step.1 (shown goal session)).1,
        executed + if session.step.1.isRetired then 1 else 0,
        (react handle session.step.1 (shown goal session)).2⟩ := by
  unfold step shown
  simp only [unbroken, Bool.false_eq_true, ↓reduceIte]
  cases retired : session.step.1.isRetired with
  | true =>
      rfl
  | false =>
      rfl

theorem shown_sameDuty (goal : RunGoal) (session : Session) :
    session.step.2.SameDuty (shown goal session) := by
  unfold shown
  split
  · split
    · exact showTraced_sameDuty ..
    · exact .refl _
  · exact .refl _

/-- What becomes of a stop makes just the steps that are played there. -/
structure Plays
    (handle : StopHandler)
    (goal : RunGoal)
    (plays : Session → List Session) : Prop where
  stop :
    ∀ session reason,
      session.step.1 = .break reason →
        isBroken session.step.1 session.step.2 = false →
        (shown goal session).Advances (plays session) (handle reason (shown goal session)).2
  otherwise :
    ∀ session,
      (isBroken session.step.1 session.step.2 ∨ ∀ reason, session.step.1 ≠ .break reason) →
        plays session = []

theorem endAt_plays (goal : RunGoal) : Plays endAt goal fun _ => [] where
  stop _ reason _ _ := .of_sameDuty (endAt_spec reason _).2
  otherwise _ _ := rfl

section Steps

variable {plays : Session → List Session} (played : Plays handle goal plays)

include played

theorem step_advances (executed : Nat) (session : Session) :
    session.Advances (session :: plays session) (step handle goal executed session).session := by
  refine (Session.Advances.of_step session).append ?_
  cases broken : isBroken session.step.1 session.step.2 with
  | true =>
      rw [step_of_isBroken broken, played.otherwise session (.inl broken)]
      exact .refl _
  | false =>
      have shows : session.step.2.Advances [] (shown goal session) :=
        .of_sameDuty (shown_sameDuty goal session)
      rw [step_of_not_isBroken broken]
      refine shows.after_nothing ?_
      cases ended : session.step.1 with
      | «break» reason =>
          exact played.stop session reason ended broken
      | cycles count =>
          rw [played.otherwise session (.inr fun reason same => by cases ended.symm.trans same)]
          unfold react
          split
          · split
            · exact .of_sameDuty (.print _ _)
            · exact .refl _
          · contradiction
          · contradiction
      | fault error =>
          rw [played.otherwise session (.inr fun reason same => by cases ended.symm.trans same)]
          exact .refl _

theorem perform_advances (session : Session) :
    session.Advances
      ((performStations handle goal session).flatMap fun station => station :: plays station)
      (perform handle goal session).session := by
  have keeps :
      Keeps handle goal fun past stretch =>
        session.Advances (past.flatMap fun station => station :: plays station)
          stretch.session :=
    { step := by
        intro past executed station before
        rw [List.flatMap_append, List.flatMap_singleton]
        exact before.append (step_advances played executed station)
      stopRequest := by
        intro past executed station before
        exact before.before_nothing (.of_sameDuty (.print station _)) }
  exact keeps.perform session (.of_does (.enter session) nofun)

omit played in
/-- What is left to do after the steps of a run makes none. -/
theorem settle_advances
    (goal : RunGoal)
    (isNested : Bool)
    (stretch : Stretch)
    (session : Session) :
    session.Advances [] ((settle goal isNested stretch).run session).2 := by
  have lawful := Session.Advances.lawful
  by_cases abandoned : stretch.course = .abandoned
  · rw [settle_of_abandoned abandoned]
    exact .refl session
  · rw [settle_of_not_abandoned abandoned]
    have leaves : Obeys (fun before _ after => before.Advances [] after) (leave goal) :=
      leave_obeys (fun session => .of_does (.stop session) nofun)
        (fun session => .of_does (.removeTemporary session) nofun) goal
    have rest :
        Obeys (fun before _ after => before.Advances [] after) (do
          reportLimit stretch.course stretch.executed
          if isNested then modify Session.pointAtPC else leave goal) := by
      refine .andThen (reportLimit_obeys _ _) fun _ => .choice (.change fun session => ?_) leaves
      exact .of_sameDuty (.pointAtPC session)
    exact rest session

theorem run_advances (session : Session) :
    session.Advances
      ((stations handle goal session).flatMap fun station => station :: plays station)
      ((run handle goal).run session).2 := by
  unfold stations
  by_cases powered : session.machine.cpu.isPowered
  · rw [if_pos powered, run_of_isPowered powered]
    have clears : session.Advances [] (clearError session) :=
      .of_does (.clearError session) nofun
    have performs := perform_advances played (clearError session)
    exact (clears.after_nothing performs).before_nothing (settle_advances _ _ _ _)
  · rw [if_neg powered, run_of_not_isPowered (by simpa using powered)]
    exact .refl session

end Steps

end Run

/-! ## The steps of a command -/

namespace RunCommand

/-- What comes before a run obeys the laws of the edits that the command permits. -/
theorem prepare_obeys
    {law : Session → Bool → Session → Prop}
    [lawful : Session.LawfulReports law]
    (command : RunCommand)
    (grants : ∀ edit, command.command.Permits edit → edit.IsGranted law) :
    Obeys law command.prepare := by
  cases command with
  | go address? =>
      cases address? with
      | none =>
          exact .value _
      | some text =>
          refine (Obeys.address text).andThen fun target => ?_
          exact .andThen (placeBreakpoint_obeys (grants _ (.runTo text target))) fun _ => .value _
  | trace detail count? =>
      exact (Obeys.countOr 1 count?).andThen fun _ => .value _
  | stepPast withRegisters =>
      refine (Obeys.observe _).andThen fun decoded => ?_
      refine .choice (.andThen (placeBreakpoint_obeys ?_) fun _ => .value _) (.value _)
      exact grants _ (.stepPast withRegisters decoded.next)

/-- A command makes the steps of its run, and those that are played where they stop. -/
theorem after_advances
    {handle : StopHandler}
    {plays : RunGoal → Session → List Session}
    (played : ∀ goal, Run.Plays handle goal (plays goal))
    (command : RunCommand)
    (session : Session) :
    session.Advances
      (match command.prepare.run session with
        | (.ok goal, prepared) =>
            (Run.stations handle goal prepared).flatMap fun station =>
              station :: plays goal station
        | (.error _, _) => [])
      (command.after handle session) := by
  have lawful := Session.Advances.lawful
  have prepares : session.Advances [] (command.prepare.run session).2 :=
    command.prepare_obeys (fun edit _ => edit.makes_no_step) session
  unfold after
  rcases command.execute_cases (Run.run handle) session with
    ⟨error, prepared, came, whole⟩ | ⟨goal, prepared, came, whole⟩
  · rw [came] at prepares
    rw [came, whole]
    exact prepares
  · rw [came] at prepares
    rw [came, whole]
    refine prepares.after_nothing ?_
    have runs := Run.run_advances (played goal) prepared
    rcases run_bind_cases (Run.run handle goal) (fun _ => command.finish goal) prepared with
      ⟨error, left, ran, rest⟩ | ⟨value, left, ran, rest⟩
    · rw [ran] at runs
      rw [rest]
      exact runs
    · have finishes :
          Obeys (fun before _ after => before.Advances [] after) (command.finish goal) :=
        command.finish_obeys goal
      rw [ran] at runs
      rw [rest]
      exact runs.before_nothing (finishes left)

/-- A command inside a script makes the steps of its run and no others. -/
theorem nested_advances (command : RunCommand) (session : Session) :
    session.Advances (command.stations Run.endAt session) (command.after Run.endAt session) := by
  have advances := after_advances Run.endAt_plays command session
  have alone :
      (match command.prepare.run session with
        | (.ok goal, prepared) =>
            (Run.stations Run.endAt goal prepared).flatMap fun station => [station]
        | (.error _, _) => []) = command.stations Run.endAt session := by
    unfold stations
    cases command.prepare.run session with
    | mk result prepared =>
        cases result with
        | ok goal =>
            exact List.flatMap_singleton' _
        | error error =>
            rfl
  rw [alone] at advances
  exact advances

end RunCommand

/-- A script makes the steps of its runs. -/
theorem Script.execute_advances (commands : List String) (session : Session) :
    session.Advances (runs commands session).flatten (execute Run.nested commands session).2 := by
  have lawful := Session.Advances.lawful
  refine
    executed_induction
      (motive := fun before executed after =>
        before.Advances (executed.filterMap nestedRun?).flatten after)
      (fun _ _ same => .of_sameDuty same) ?_ session
  intro text _ command _ session rest last advances
  cases runs : RunCommand.ofCommand? command with
  | some runCommand =>
      have run : nestedRun? (command, session) = some (runCommand.stations Run.endAt session) := by
        rw [nestedRun?, runs]
        rfl
      rw [List.filterMap_cons_some run]
      refine .append ?_ advances
      rw [← RunCommand.command_of_ofCommand? runs]
      exact runCommand.nested_advances session
  | none =>
      have noRun : nestedRun? (command, session) = none := by
        rw [nestedRun?, runs]
        rfl
      rw [List.filterMap_cons_none noRun]
      refine .after_nothing ?_ advances
      rw [RunCommand.execute_of_ofCommand?_eq_none runs Run.nested fun _ => pure ()]
      exact
        Operation.execute_obeys (fun _ => .value ()) (fun edit _ => edit.makes_no_step) session

namespace Run

theorem playScript_advances
    (kind : BreakKind)
    (location : Location)
    (consumed : Bool)
    (session : Session) :
    session.Advances (Script.runs location.commands session.mute).flatten
      (playScript kind location consumed session).2 := by
  have mutes : session.Advances [] session.mute := .of_does (.mute session) nofun
  have plays := mutes.after_nothing (Script.execute_advances location.commands session.mute)
  have unmutes := plays.before_nothing (.of_does (.unmute _) nofun)
  rcases playScript_cases kind location consumed session with
    ⟨-, same⟩ | ⟨-, course, -, same | ⟨line, same⟩ | same⟩
  · rw [same]
    exact plays
  · rw [same]
    exact unmutes
  · rw [same]
    exact unmutes.before_nothing (.of_sameDuty (.print _ line))
  · rw [same]
    exact unmutes.before_nothing (.of_does (.resume _) nofun)

theorem playedRuns_of_entry
    {session : Session}
    {kind : BreakKind}
    {location : Location}
    {consumed : Bool}
    (unbroken : isBroken session.step.1 session.step.2 = false)
    (stopped : session.step.1 = .break (.hit (.entry kind location consumed)))
    (goal : RunGoal) :
    playedRuns goal session = Script.runs location.commands (shown goal session).mute := by
  rw [playedRuns, unbroken, stopped]
  rfl

/-- Where a step breaks something or stops at no entry, no script is played. -/
theorem playedRuns_of_not_entry
    {session : Session}
    (nothing :
      isBroken session.step.1 session.step.2 ∨
        ∀ kind location consumed,
          session.step.1 ≠ .break (.hit (.entry kind location consumed)))
    (goal : RunGoal) :
    playedRuns goal session = [] := by
  unfold playedRuns
  split
  · rfl
  · rename_i unbroken
    split
    · rename_i kind location consumed stopped
      exact absurd stopped (nothing.resolve_left unbroken kind location consumed)
    · rfl

theorem answerStop_plays (goal : RunGoal) :
    Plays answerStop goal fun station => (playedRuns goal station).flatten where
  stop := by
    intro session reason stopped unbroken
    have ends : (shown goal session).Advances [] (endAt reason (shown goal session)).2 :=
      .of_sameDuty (endAt_spec reason _).2
    cases reason with
    | port direction number byte =>
        rw [playedRuns_of_not_entry (.inr fun _ _ _ same => by cases stopped.symm.trans same)]
        exact ends
    | hit reached =>
        cases reached with
        | countdown address =>
            rw [playedRuns_of_not_entry (.inr fun _ _ _ same => by cases stopped.symm.trans same)]
            exact ends
        | entry kind location consumed =>
            rw [playedRuns_of_entry unbroken stopped, answerStop]
            split
            · rename_i empty
              rw [List.isEmpty_iff.mp empty, Script.runs, Script.executed]
              exact ends
            · exact playScript_advances kind location consumed _
  otherwise := by
    intro session nothing
    rw [playedRuns_of_not_entry]
    · rfl
    · exact nothing.imp_right fun unstopped _ _ _ => unstopped _

end Run

namespace RunCommand

/-- The runs of a command make all its steps. -/
theorem runs_make_all_steps (command : RunCommand) (session : Session) :
    ∃ moments,
      Chronicle session moments (command.after Run.answerStop session) ∧
        (moments.filterMap Moment.station?).Perm (command.runs session).flatten := by
  obtain ⟨moments, chronicle, stations⟩ :=
    after_advances Run.answerStop_plays command session
  refine ⟨moments, chronicle, ?_⟩
  rw [stations, runs]
  cases command.prepare.run session with
  | mk result prepared =>
      cases result with
      | error error =>
          exact .nil
      | ok goal =>
          let stations := Run.stations Run.answerStop goal prepared
          have whole :
              (stations.flatMap (Run.playedRuns goal)).flatten =
                stations.flatMap fun station => (Run.playedRuns goal station).flatten := by
            rw [List.flatMap_def, List.flatten_flatten, List.map_map, List.flatMap_def]
            rfl
          have apart :=
            List.flatMap_append_perm stations (fun station => [station]) fun station =>
              (Run.playedRuns goal station).flatten
          rw [List.flatMap_singleton', ← whole] at apart
          exact apart.symm

end RunCommand

end Monitor8080
