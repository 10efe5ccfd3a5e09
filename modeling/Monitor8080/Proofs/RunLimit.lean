import Mathlib.Algebra.Order.BigOperators.Group.List
import Mathlib.Algebra.Order.Ring.Nat
import Monitor8080.Proofs.Annals
import Monitor8080.Proofs.NestedRuns
namespace Monitor8080

/-!
# The limit of runs

No run retires more instructions than the limit says. Each run counts its own
instructions only, so a command whose stops play scripts may retire as many
again in every run that they start.
-/

open Operation

theorem RunGoal.bound_le (goal : RunGoal) (limit : Nat) : goal.bound limit ≤ limit := by
  cases goal with
  | go =>
      exact Nat.le_refl limit
  | trace detail count =>
      exact Nat.min_le_right count limit
  | quiet count =>
      exact Nat.min_le_right count limit

namespace Run

/-! ## What a run retires -/

section Counts

variable (handle : StopHandler) (goal : RunGoal)

/-- A run that goes on has counted what it retired. -/
theorem step_executed
    (executed : Nat)
    (session : Session)
    (goesOn : (step handle goal executed session).course = .goesOn) :
    (step handle goal executed session).executed =
      executed + if session.step.1.isRetired then 1 else 0 := by
  cases broken : isBroken session.step.1 session.step.2 with
  | true =>
      rw [step_of_isBroken broken] at goesOn
      cases goesOn
  | false =>
      rw [step_of_not_isBroken broken]

/-- As many steps retire as many instructions at most, and go on counting them. -/
theorem burst_retires
    (steps executed : Nat)
    (session : Session) :
    (burstStations handle goal steps executed session).countP (·.step.1.isRetired) ≤ steps ∧
      ((burst handle goal steps executed session).course = .goesOn →
        (burst handle goal steps executed session).executed =
          executed +
            (burstStations handle goal steps executed session).countP (·.step.1.isRetired)) := by
  induction steps generalizing executed session with
  | zero =>
      exact ⟨Nat.le_refl 0, fun _ => rfl⟩
  | succ steps inductionHypothesis =>
      have counted := step_executed handle goal executed session
      have once : (if session.step.1.isRetired then 1 else 0) ≤ 1 := by
        split <;> omega
      rw [burstStations, burst, List.countP_cons]
      cases stretch : step handle goal executed session with
      | mk course executedThen sessionThen =>
          rw [stretch] at counted
          cases course with
          | goesOn =>
              have sameCount : executedThen = _ := counted rfl
              obtain ⟨few, countedOn⟩ := inductionHypothesis executedThen sessionThen
              simp only
              refine ⟨by omega, fun goesOn => ?_⟩
              have whole := countedOn goesOn
              omega
          | ends =>
              simp only [List.countP_nil]
              exact ⟨by omega, fun goesOn => absurd goesOn Course.noConfusion⟩
          | abandoned =>
              simp only [List.countP_nil]
              exact ⟨by omega, fun goesOn => absurd goesOn Course.noConfusion⟩

/-- What is retired in chunk after chunk stays within the bound. -/
theorem chunks_retire
    {bound executed : Nat}
    (within : executed ≤ bound)
    (chunk fuel : Nat)
    (session : Session) :
    executed +
        (chunkStations handle goal chunk bound fuel executed session).countP
          (·.step.1.isRetired) ≤
      bound := by
  induction fuel generalizing executed session with
  | zero =>
      exact within
  | succ fuel inductionHypothesis =>
      rw [chunkStations]
      split
      · exact within
      · split
        · exact within
        · obtain ⟨few, counted⟩ :=
            burst_retires handle goal (min chunk (bound - executed)) executed session
          rw [List.countP_append]
          cases stretch : burst handle goal (min chunk (bound - executed)) executed session with
          | mk course executedThen sessionThen =>
              rw [stretch] at counted
              cases course with
              | goesOn =>
                  have sameCount : executedThen = _ := counted rfl
                  have withinThen : executedThen ≤ bound := by omega
                  have later := inductionHypothesis withinThen sessionThen
                  simp only
                  omega
              | ends =>
                  simp only [List.countP_nil]
                  omega
              | abandoned =>
                  simp only [List.countP_nil]
                  omega

theorem stations_retire (session : Session) :
    (stations handle goal session).countP (·.step.1.isRetired) ≤
      goal.bound session.monitor.config.runLimit := by
  unfold stations
  split
  · have config : (enter (clearError session)).monitor.config = session.monitor.config :=
      clearError_config session
    have retires :=
      chunks_retire handle goal (Nat.zero_le (goal.bound session.monitor.config.runLimit))
    simp only [Nat.zero_add] at retires
    simp only [performStations, config]
    exact retires _ _ _
  · exact Nat.zero_le _

end Counts

/-! ## What holds at every station -/

/-- A law of a run holds from its beginning up to each of its stations. -/
theorem stations_obey
    {law : Session → Bool → Session → Prop}
    [lawful : Session.LawfulReports law]
    (isLaw : IsLaw law)
    {handle : StopHandler}
    (handles : HandlesBy law handle)
    (goal : RunGoal)
    (session : Session) :
    ∀ station ∈ stations handle goal session, law session false station := by
  have keeps :
      Keeps handle goal fun past stretch =>
        (∀ station ∈ past, law session false station) ∧
          law session (stretch.course = .abandoned) stretch.session :=
    { step := by
        rintro past executed station ⟨earlier, before⟩
        refine ⟨fun other member => ?_, ?_⟩
        · rcases List.mem_append.mp member with inPast | isLast
          · exact earlier other inPast
          · rw [List.mem_singleton.mp isLast]
            exact before
        · exact lawful.trans before (step_obeys isLaw handles goal executed station)
      stopRequest := by
        rintro past executed station ⟨earlier, before⟩
        exact ⟨earlier, lawful.trans before (lawful.report (.print station _))⟩ }
  have noneYet : ∀ station ∈ ([] : List Session), law session false station :=
    fun _ member => absurd member List.not_mem_nil
  unfold stations
  split
  · have entered := lawful.trans (isLaw.clearError session) (isLaw.enter (clearError session))
    exact (keeps.perform (clearError session) ⟨noneYet, entered⟩).1
  · exact noneYet

end Run

/-! ## The runs of scripts -/

theorem Session.Endures.config
    {before after : Session}
    (endures : before.Endures after) :
    after.monitor.config = before.monitor.config := by
  obtain ⟨entries, annals⟩ := endures
  exact annals.config

namespace RunCommand

variable (command : RunCommand)

theorem prepare_config (session : Session) :
    (command.prepare.run session).2.monitor.config = session.monitor.config := by
  have endures : Obeys (fun before _ after => before.Endures after) command.prepare :=
    command.prepare_obeys fun edit _ => Session.endures_isLaw.edit edit
  exact (endures session).config

/-- The run of a command keeps to the limit. -/
theorem stations_retire (handle : StopHandler) (session : Session) :
    (command.stations handle session).countP (·.step.1.isRetired) ≤
      session.monitor.config.runLimit := by
  have config := command.prepare_config session
  unfold stations
  cases came : command.prepare.run session with
  | mk result prepared =>
      rw [came] at config
      cases result with
      | error error =>
          exact Nat.zero_le _
      | ok goal =>
          rw [← config]
          exact (Run.stations_retire handle goal prepared).trans (goal.bound_le _)

end RunCommand

/-- Every run that a script starts keeps to the limit. -/
theorem Script.runs_retire (commands : List String) (session : Session) :
    ∀ run ∈ runs commands session,
      run.countP (·.step.1.isRetired) ≤ session.monitor.config.runLimit := by
  have nestedRuns : ∀ goal, Obeys (fun before _ after => before.Endures after) (Run.nested goal) :=
    Run.run_obeys Session.endures_isLaw.toIsLaw Session.endures_isLaw.toIsLaw.endAt
  refine
    executed_induction
      (motive := fun before executed _ =>
        ∀ run ∈ executed.filterMap nestedRun?,
          run.countP (·.step.1.isRetired) ≤ before.monitor.config.runLimit)
      (fun _ _ _ => nofun) ?_ session
  intro text _ command _ session rest last later run member
  have endures : Obeys (fun before _ after => before.Endures after) (Operation.execute Run.nested command) :=
    Operation.execute_obeys nestedRuns fun edit _ => Session.endures_isLaw.edit edit
  rcases List.mem_filterMap.mp member with ⟨executed, isExecuted, isRun⟩
  rcases List.mem_cons.mp isExecuted with rfl | isLater
  · obtain ⟨runCommand, -, rfl⟩ := Option.map_eq_some_iff.mp isRun
    exact runCommand.stations_retire Run.endAt session
  · rw [← (endures session).config]
    exact later run (List.mem_filterMap.mpr ⟨executed, isLater, isRun⟩)

theorem Run.playedRuns_retire (goal : RunGoal) (session : Session) :
    ∀ run ∈ playedRuns goal session,
      run.countP (·.step.1.isRetired) ≤ session.monitor.config.runLimit := by
  have config : (shown goal session).mute.monitor.config = session.monitor.config :=
    (shown_sameDuty goal session).config.trans session.step_config
  unfold playedRuns
  split
  · exact nofun
  · split
    · rw [← config]
      exact Script.runs_retire _ _
    · exact nofun

namespace RunCommand

theorem runs_retire (command : RunCommand) (session : Session) :
    ∀ run ∈ command.runs session,
      run.countP (·.step.1.isRetired) ≤ session.monitor.config.runLimit := by
  intro run member
  have own := command.stations_retire Run.answerStop session
  have config := command.prepare_config session
  unfold runs at member
  unfold stations at own
  cases came : command.prepare.run session with
  | mk result prepared =>
      rw [came] at member own config
      cases result with
      | error error =>
          cases member
      | ok goal =>
          rcases List.mem_cons.mp member with rfl | isPlayed
          · exact own
          · obtain ⟨station, isStation, isPlayed⟩ := List.mem_flatMap.mp isPlayed
            have endures :=
              Run.stations_obey Session.endures_isLaw.toIsLaw Session.endures_isLaw.handles goal
                prepared station isStation
            have retires := Run.playedRuns_retire goal station run isPlayed
            rw [endures.config, config] at retires
            exact retires

end RunCommand

/-! ## Scripts that start no run -/

/-- Commands that do not run the machine, and set breakpoints whose scripts do not. -/
inductive StartsNoRun : List String → Prop where
  | intro
      {commands : List String}
      (runless :
        ∀ text ∈ commands,
          ∀ command, Command.parse text = .ok command → RunCommand.ofCommand? command = none)
      (scripts :
        ∀ text ∈ commands,
          ∀ command kind location,
            Command.parse text = .ok command →
              command.Permits (.place kind location) → StartsNoRun location.commands) :
      StartsNoRun commands

def Licence.runless : Licence :=
  ⟨fun _ => True, StartsNoRun⟩

theorem Licence.runless_isKept : runless.IsKept where
  basic _ _ := trivial
  permitted _ _ _ _ _ _ _ _ := trivial
  placed := by
    rintro commands text command kind location ⟨-, scripts⟩ member parsed permits
    exact scripts text member command kind location parsed permits

theorem Script.runs_of_startsNoRun
    {commands : List String}
    (startsNoRun : StartsNoRun commands)
    (session : Session) :
    runs commands session = [] := by
  obtain ⟨runless, -⟩ := startsNoRun
  refine
    executed_induction (motive := fun _ executed _ => executed.filterMap nestedRun? = [])
      (fun _ _ _ => rfl) ?_ session
  intro text member command parsed session rest last later
  have noRun : nestedRun? (command, session) = none := by
    rw [nestedRun?, runless text member command parsed]
    rfl
  rw [List.filterMap_cons_none noRun]
  exact later

/-- Where the scripts in force start no run, none is started at a stop. -/
theorem Run.playedRuns_of_carried
    {session : Session}
    (carried : Licence.runless.IsCarried session)
    (goal : RunGoal) :
    playedRuns goal session = [] := by
  unfold playedRuns
  split
  · rfl
  · split
    · rename_i stopped
      exact Script.runs_of_startsNoRun (carried.fits_of_stop stopped) _
    · rfl

namespace RunCommand

/-- Before its run a command sets no breakpoint with a script. -/
theorem commands_of_permits
    {command : RunCommand}
    {kind : BreakKind}
    {location : Location}
    (permits : command.command.Permits (.place kind location)) :
    location.commands = [] := by
  cases command with
  | go address? =>
      cases permits
      rfl
  | trace detail count? =>
      cases permits
  | stepPast withRegisters =>
      cases permits
      rfl

/-- While the scripts in force start no run, the run of a command is the only one. -/
theorem runs_length_le
    {session : Session}
    (carried : Licence.runless.IsCarried session)
    (command : RunCommand) :
    (command.runs session).length ≤ 1 := by
  have kept := Licence.runless_isKept
  have lawful := kept.lawful
  have prepares : Obeys (fun before _ after => Licence.runless.Leads before after) command.prepare := by
    refine command.prepare_obeys fun edit permits before after makes => ?_
    refine Licence.leads_of_does makes.does trivial fun kind location same => ?_
    cases edit with
    | place placedKind placedAt =>
        cases same
        rw [Licence.runless, commands_of_permits permits]
        exact .intro nofun nofun
    | _ =>
        cases same
  have prepared := prepares session carried
  unfold runs
  cases came : command.prepare.run session with
  | mk result ready =>
      rw [came] at prepared
      cases result with
      | error error =>
          exact Nat.zero_le 1
      | ok goal =>
          have silent :
              (Run.stations Run.answerStop goal ready).flatMap (Run.playedRuns goal) = [] := by
            rw [List.flatMap_eq_nil_iff]
            intro station isStation
            have leads := Run.stations_obey kept.isLaw.toIsLaw kept.answerStop goal ready station isStation
            exact Run.playedRuns_of_carried (leads prepared.1).1 goal
          simp only [silent]
          exact Nat.le_refl 1

end RunCommand

/--
Every run of a command retires as many instructions as the limit says at most,
so all its runs retire as many times that at most as there are runs. These are
all the steps that the command makes. While no script in force starts a run, the
command's own run is the only one.
-/
theorem runs_keep_to_limit_each (command : RunCommand) (session : Session) :
    let runs := command.runs session
    let limit := session.monitor.config.runLimit
    (∃ moments,
      Chronicle session moments (command.after Run.answerStop session) ∧
        (moments.filterMap Moment.station?).Perm runs.flatten) ∧
      (∀ run ∈ runs, run.countP (·.step.1.isRetired) ≤ limit) ∧
      runs.flatten.countP (·.step.1.isRetired) ≤ limit * runs.length ∧
      (session.monitor.sentry.pending? = none →
        (∀ kind,
          ∀ location ∈ session.monitor.sentry.breakpoints.entries kind,
            StartsNoRun location.commands) →
          runs.length ≤ 1 ∧ runs.flatten.countP (·.step.1.isRetired) ≤ limit) := by
  intro runs limit
  have each := command.runs_retire session
  have total : runs.flatten.countP (·.step.1.isRetired) ≤ limit * runs.length := by
    rw [List.countP_flatten, Nat.mul_comm]
    have few : ∀ count ∈ runs.map (List.countP (·.step.1.isRetired)), count ≤ limit := by
      intro count member
      obtain ⟨run, isRun, rfl⟩ := List.mem_map.mp member
      exact each run isRun
    have bounded := List.sum_le_card_nsmul _ limit few
    rw [List.length_map] at bounded
    exact bounded
  refine ⟨command.runs_make_all_steps session, each, total, fun idle scripts => ?_⟩
  have alone : runs.length ≤ 1 := RunCommand.runs_length_le (.entries idle scripts) command
  refine ⟨alone, total.trans ?_⟩
  calc
    limit * runs.length ≤ limit * 1 := Nat.mul_le_mul_left limit alone
    _ = limit := Nat.mul_one limit

/-- A script that shows the registers starts no run, so the whole command keeps to the limit. -/
theorem run_with_quiet_script_keeps_to_limit :
    let session :=
      (Session.fresh { Config.default with runLimit := 3 } .initial).conduct
        [.line "bp 1 \x22r\x22"]
    ((RunCommand.go none).runs session).flatten.countP (·.step.1.isRetired) ≤ 3 := by
  intro session
  have quiet : StartsNoRun ["r"] := by
    have shows : Command.parse "r" = .ok .showRegisters := by rfl
    refine .intro ?_ ?_
    · intro text member command parsed
      rw [List.mem_singleton.mp member, shows] at parsed
      cases parsed
      rfl
    · intro text member command kind location parsed permits
      rw [List.mem_singleton.mp member, shows] at parsed
      cases parsed
      cases permits
  have idle : session.monitor.sentry.pending? = none := by decide +kernel
  have scripts :
      ∀ kind ∈ BreakKind.all,
        ∀ location ∈ session.monitor.sentry.breakpoints.entries kind,
          location.commands = ["r"] := by
    decide +kernel
  have limit : session.monitor.config.runLimit = 3 := by decide +kernel
  have keeps := (runs_keep_to_limit_each (.go none) session).2.2.2 idle ?_
  · rw [limit] at keeps
    exact keeps.2
  · intro kind location member
    rw [scripts kind (by cases kind <;> decide) location member]
    exact quiet

/-- A script that traces may trace as much as the limit says, beside the run that plays it. -/
theorem traces_in_script_exceed_limit :
    let session :=
      (Session.fresh { Config.default with runLimit := 3 } .initial).conduct
        [.line "bp 1 \x22t 3\x22"]
    session.monitor.config.runLimit = 3 ∧
      ((RunCommand.go none).runs session).flatten.countP (·.step.1.isRetired) = 6 ∧
      (session.obey "g").2.machine.cpu.cycles = 24 := by
  decide +kernel

end Monitor8080
