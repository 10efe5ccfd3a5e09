import Monitor8080.Proofs.RunUnfolding
namespace Monitor8080

/-!
# Progress of runs

A run executes an instruction with each of its steps, but for those whose fetch
a breakpoint refuses. If the script of the breakpoint lets the run go on, it
excuses the next fetch, so the step after a refused one executes an instruction
or ends the run. No script can spoil that, whatever it does before it ends.
-/

namespace Breakpoints

/-- Only the countdown stops a fetch that is excused. -/
theorem hitByExecution_of_excused
    {breakpoints : Breakpoints}
    {address : UInt16}
    (excused : breakpoints.excused? = some address)
    {hit : Hit}
    (stopped : (breakpoints.hitByExecution address).1 = some hit) :
    hit = .countdown address := by
  by_cases muted : breakpoints.isMuted
  · rw [hitByExecution_of_isMuted muted] at stopped
    cases stopped
  · rw [Bool.not_eq_true] at muted
    by_cases expired : breakpoints.countdown? = some 0
    · rw [hitByExecution_of_expired muted expired] at stopped
      cases stopped
      rfl
    · rw [hitByExecution_of_running muted expired, if_pos excused] at stopped
      cases stopped

end Breakpoints

/-! ## Nothing stays pending -/

namespace Session

/-- Where nothing is pending, nothing is pending afterwards. -/
def StaysIdle (before after : Session) : Prop :=
  before.monitor.sentry.pending? = none → after.monitor.sentry.pending? = none

instance : AllowsReports StaysIdle where
  refl _ := id
  trans first second := second ∘ first
  report same idle := by rw [same.pending?, idle]

theorem staysIdle_isLaw :
    Run.IsLawThroughout fun before _ after => before.StaysIdle after where
  clearError session := (Does.clearError session).idle
  enter session := (Does.enter session).idle
  step session := (Does.step session).idle
  stop session := (Does.stop session).idle
  removeTemporary session := (Does.removeTemporary session).idle
  mute session := (Does.mute session).idle
  unmute session := (Does.unmute session).idle
  resume session := (Does.resume session).idle
  edit _ _ _ makes := makes.does.idle

/-- Nothing is pending, and the fetch at the program counter is excused. -/
structure IsExcused (session : Session) : Prop where
  idle : session.monitor.sentry.pending? = none
  excused : session.monitor.sentry.breakpoints.excused? = some session.pc

end Session

namespace Run

/-! ## Scripts that let a run go on -/

/-- The script of an execution breakpoint excuses the next fetch if the run goes on after it. -/
theorem playScript_isExcused
    {location : Location}
    {consumed : Bool}
    {session : Session}
    (idle : session.monitor.sentry.pending? = none)
    (goesOn : (playScript .exec location consumed session).1 = .goesOn) :
    (playScript .exec location consumed session).2.IsExcused := by
  have isLaw := Session.staysIdle_isLaw
  have played : session.StaysIdle (playScript .exec location consumed session).2 :=
    isLaw.isCommandLaw.playScript .exec location consumed session
  refine ⟨played idle, ?_⟩
  unfold playScript at goesOn ⊢
  simp only at goesOn ⊢
  split
  · rename_i abandoned
    rw [if_pos abandoned] at goesOn
    cases goesOn
  · rename_i unabandoned
    rw [if_neg unabandoned] at goesOn
    split
    · rename_i stopped
      rw [if_pos stopped] at goesOn
      cases goesOn
    · rename_i unstopped
      rw [if_neg unstopped] at goesOn
      split
      · rename_i isConsumed
        rw [if_pos isConsumed] at goesOn
        cases goesOn
      · rfl

variable {handle : StopHandler} (isHandler : IsHandler handle)

include isHandler

/-- A countdown ends every run, inside a script or outside. -/
theorem IsHandler.countdown_ends
    (address : UInt16)
    (session : Session) :
    (handle (.hit (.countdown address)) session).1 = .ends := by
  cases isHandler with
  | outermost =>
      exact (endAt_spec _ session).1
  | nested =>
      exact (endAt_spec _ session).1

/-- A run goes on after an instruction that was not executed only as its next fetch is excused. -/
theorem IsHandler.isExcused
    {reason : Stop}
    (unretired : (StepEnd.break reason).isRetired = false)
    {session : Session}
    (idle : session.monitor.sentry.pending? = none)
    (goesOn : (handle reason session).1 = .goesOn) :
    (handle reason session).2.IsExcused := by
  have endless : (endAt reason session).1 ≠ .goesOn := by
    rw [(endAt_spec reason session).1]
    exact Course.noConfusion
  cases isHandler with
  | nested =>
      exact absurd goesOn endless
  | outermost =>
      cases reason with
      | port direction number byte =>
          cases unretired
      | hit reached =>
          cases reached with
          | countdown address =>
              exact absurd goesOn endless
          | entry kind location consumed =>
              have isExec : kind = .exec := by
                simpa [StepEnd.isRetired] using unretired
              subst isExec
              unfold answerStop at goesOn ⊢
              simp only at goesOn ⊢
              split
              · rename_i scriptless
                rw [if_pos scriptless] at goesOn
                exact absurd goesOn endless
              · rename_i scripted
                rw [if_neg scripted] at goesOn
                exact playScript_isExcused idle goesOn

/-! ## Steps -/

section Step

variable
  {goal : RunGoal}
  {executed : Nat}
  {session : Session}
  (goesOn : (step handle goal executed session).course = .goesOn)

include goesOn

omit isHandler in
/-- A run that goes on after an instruction that was not executed went through a stop. -/
theorem step_of_unretired
    (unretired : session.step.1.isRetired = false) :
    ∃ reason,
      session.step.1 = .break reason ∧
        (handle reason (shown goal session)).1 = .goesOn ∧
        (step handle goal executed session).session = (handle reason (shown goal session)).2 := by
  cases broken : isBroken session.step.1 session.step.2 with
  | true =>
      rw [step_of_isBroken broken] at goesOn
      cases goesOn
  | false =>
      rw [step_of_not_isBroken broken] at goesOn ⊢
      cases ended : session.step.1 with
      | cycles count =>
          rw [ended] at unretired
          cases unretired
      | fault error =>
          rw [ended] at goesOn
          cases goesOn
      | «break» reason =>
          rw [ended] at goesOn
          exact ⟨reason, rfl, goesOn, rfl⟩

/-- A step that executes nothing excuses the next fetch if the run goes on after it. -/
theorem step_isExcused
    (unretired : session.step.1.isRetired = false) :
    (step handle goal executed session).session.IsExcused := by
  obtain ⟨reason, ended, handled, same⟩ := step_of_unretired goesOn unretired
  have idle : (shown goal session).monitor.sentry.pending? = none := by
    rw [(shown_sameDuty goal session).pending?, Session.step_pending?, ended]
    rfl
  rw [ended] at unretired
  rw [same]
  exact isHandler.isExcused unretired idle handled

/-- A step whose fetch is excused executes an instruction if the run goes on after it. -/
theorem step_of_isExcused
    (excused : session.IsExcused) :
    session.step.1.isRetired := by
  by_contra notRetired
  rw [Bool.not_eq_true] at notRetired
  obtain ⟨reason, ended, handled, -⟩ := step_of_unretired goesOn notRetired
  rcases session.step_cases with ⟨hit, refused⟩ | ⟨error, failed⟩ | ⟨passed, count, done⟩
  · -- What refuses the fetch in spite of the excuse is the countdown, which ends the run.
    have stopped : (session.monitor.sentry.breakpoints.hitByExecution session.pc).1 = some hit := by
      unfold Session.fetchCheck at refused
      split at refused
      · exact refused
      · cases refused
    have expired := Breakpoints.hitByExecution_of_excused excused.excused stopped
    rw [Session.step_fst_of_refused refused, expired] at ended
    cases ended
    rw [isHandler.countdown_ends] at handled
    cases handled
  · rw [Session.step_fst_of_failed failed] at ended
    cases ended
  · rw [(Session.step_prompted_of_executed passed done excused.idle).1] at notRetired
    cases notRetired

end Step

/-! ## Runs -/

omit isHandler in
/-- Before every step but the last, a run goes on. -/
theorem Unfolds.tail
    {goal : RunGoal}
    {bound executed : Nat}
    {session station next : Session}
    {later : List Session}
    {last : Stretch}
    (unfolds : Unfolds handle goal bound executed session (station :: next :: later) last) :
    station = session ∧
      ∃ executedThen sessionThen,
        step handle goal executed session = ⟨.goesOn, executedThen, sessionThen⟩ ∧
          Unfolds handle goal bound executedThen sessionThen (next :: later) last := by
  cases unfolds with
  | goesOn unfinished stepped rest =>
      exact ⟨rfl, _, _, stepped, rest⟩

/-- Of two steps in a row, one executes an instruction, or the second one ends the run. -/
theorem Unfolds.retires_after_refusal
    {goal : RunGoal}
    {bound executed : Nat}
    {session station next : Session}
    {earlier later : List Session}
    {last : Stretch}
    (unfolds :
      Unfolds handle goal bound executed session (earlier ++ station :: next :: later) last)
    (unretired : station.step.1.isRetired = false) :
    next.step.1.isRetired ∨
      later = [] ∧ ∀ executed, (step handle goal executed next).course ≠ .goesOn := by
  induction earlier generalizing executed session with
  | nil =>
      obtain ⟨rfl, executedThen, sessionThen, stepped, rest⟩ := unfolds.tail
      have excused := step_isExcused isHandler (by rw [stepped]) unretired
      rw [stepped] at excused
      by_cases retired : next.step.1.isRetired
      · exact .inl retired
      · right
        cases rest with
        | ends unfinished ending =>
            refine ⟨rfl, fun executed goesOn => ?_⟩
            exact retired (step_of_isExcused isHandler goesOn excused)
        | goesOn unfinished steppedOn rest =>
            exact absurd (step_of_isExcused isHandler (by rw [steppedOn]) excused) retired
  | cons first earlier inductionHypothesis =>
      have several : earlier ++ station :: next :: later ≠ [] := by simp
      obtain ⟨second, others, same⟩ := List.exists_cons_of_ne_nil several
      rw [List.cons_append, same] at unfolds
      obtain ⟨-, executedThen, sessionThen, -, rest⟩ := unfolds.tail
      rw [← same] at rest
      exact inductionHypothesis rest

omit isHandler in
/-- A step comes before the steps of which there are so many wherever it goes on. -/
theorem exists_unfolds_cons
    {goal : RunGoal}
    {bound executed count : Nat}
    {session : Session}
    (unfinished : executed < bound)
    (follow :
      ∀ executedThen sessionThen,
        step handle goal executed session = ⟨.goesOn, executedThen, sessionThen⟩ →
          ∃ later last,
            Unfolds handle goal bound executedThen sessionThen later last ∧
              later.length ≤ count) :
    ∃ stations last,
      Unfolds handle goal bound executed session stations last ∧ stations.length ≤ count + 1 := by
  by_cases goesOn : (step handle goal executed session).course = .goesOn
  · cases stretch : step handle goal executed session with
    | mk course executedThen sessionThen =>
        rw [stretch] at goesOn
        obtain rfl : course = .goesOn := goesOn
        obtain ⟨later, last, rest, few⟩ := follow executedThen sessionThen stretch
        exact ⟨session :: later, last, .goesOn unfinished stretch rest, Nat.succ_le_succ few⟩
  · exact ⟨[session], _, .ends unfinished goesOn, Nat.le_add_left 1 count⟩

/--
Every run unfolds to some steps. They are two at most for each instruction that
it may execute.
-/
theorem exists_unfolds
    (goal : RunGoal)
    (bound executed : Nat)
    (session : Session) :
    ∃ stations last,
      Unfolds handle goal bound executed session stations last ∧
        stations.length ≤ 2 * (bound - executed) := by
  induction remaining : bound - executed generalizing executed session with
  | zero =>
      exact ⟨[], _, .complete (by omega), Nat.zero_le _⟩
  | succ left inductionHypothesis =>
      have unfinished : executed < bound := by omega
      have afterExecution :
          ∀ {session executedThen sessionThen},
            session.step.1.isRetired →
              step handle goal executed session = ⟨.goesOn, executedThen, sessionThen⟩ →
                ∃ later last,
                  Unfolds handle goal bound executedThen sessionThen later last ∧
                    later.length ≤ 2 * left := by
        intro session executedThen sessionThen retired stepped
        have counted := step_executed handle goal executed session (by rw [stepped])
        rw [stepped, if_pos retired] at counted
        exact inductionHypothesis executedThen sessionThen (by simp only at counted; omega)
      have fromExcused :
          ∀ {session : Session},
            session.IsExcused →
              ∃ stations last,
                Unfolds handle goal bound executed session stations last ∧
                  stations.length ≤ 2 * left + 1 := by
        intro session excused
        refine exists_unfolds_cons unfinished fun executedThen sessionThen stepped => ?_
        exact afterExecution (step_of_isExcused isHandler (by rw [stepped]) excused) stepped
      -- A step that executes nothing costs one step more, and excuses the next fetch.
      refine exists_unfolds_cons unfinished fun executedThen sessionThen stepped => ?_
      cases retired : session.step.1.isRetired with
      | true =>
          obtain ⟨later, last, rest, few⟩ := afterExecution retired stepped
          exact ⟨later, last, rest, Nat.le_succ_of_le few⟩
      | false =>
          have excused := step_isExcused isHandler (by rw [stepped]) retired
          have counted := step_executed handle goal executed session (by rw [stepped])
          rw [stepped] at excused counted
          obtain rfl : executedThen = executed := by simpa [retired] using counted
          exact fromExcused excused

/-- Nobody asks a run to stop while it makes its steps. -/
theorem Unfolds.undisturbed
    {goal : RunGoal}
    {bound : Nat}
    {session : Session}
    {stations : List Session}
    {last : Stretch}
    (unfolds : Unfolds handle goal bound 0 (enter session) stations last) :
    ∀ station ∈ stations, station.machine.stopRequested = false := by
  have isLaw := Session.staysUndisturbed_isLaw
  have handles :
      HandlesBy (fun before _ after => before.StaysUndisturbed after) handle := by
    cases isHandler with
    | outermost =>
        exact isLaw.handles
    | nested =>
        exact isLaw.toIsLaw.endAt
  exact fun station member =>
    unfolds.obeys isLaw.toIsLaw handles station member (enter_stopRequested session)

/-- A run makes the steps that it unfolds to, and nothing cuts it short. -/
theorem perform_unfolds
    (goal : RunGoal)
    (session : Session) :
    Unfolds handle goal (goal.bound session.monitor.config.runLimit) 0 (enter session)
        (performStations handle goal session) (perform handle goal session) ∧
      (performStations handle goal session).length ≤
        2 * goal.bound session.monitor.config.runLimit := by
  obtain ⟨stations, last, unfolds, few⟩ :=
    exists_unfolds isHandler goal (goal.bound session.monitor.config.runLimit) 0 (enter session)
  obtain ⟨same, sameEnd⟩ := unfolds.perform (unfolds.undisturbed isHandler) few
  rw [same, sameEnd]
  exact ⟨unfolds, few⟩

end Run

/--
A run comes to an end, outside scripts and inside: with power it unfolds to its
steps, which are two at most for each instruction that it may execute. Wherever
it goes on after a step that executed nothing, the next step executes an
instruction or ends the run.
-/
theorem runs_make_progress
    {handle : StopHandler}
    (isHandler : Run.IsHandler handle)
    (goal : RunGoal)
    (session : Session) :
    (session.machine.cpu.isPowered →
        Run.Unfolds handle goal (goal.bound session.monitor.config.runLimit) 0
          (Run.enter (Run.clearError session))
          (Run.stations handle goal session)
          (Run.perform handle goal (Run.clearError session))) ∧
      (Run.stations handle goal session).length ≤
        2 * goal.bound session.monitor.config.runLimit ∧
      ∀ earlier station next later,
        Run.stations handle goal session = earlier ++ station :: next :: later →
          station.step.1.isRetired = false →
            next.step.1.isRetired ∨
              later = [] ∧
                ∀ executed, (Run.step handle goal executed next).course ≠ .goesOn := by
  obtain ⟨unfolds, few⟩ := Run.perform_unfolds isHandler goal (Run.clearError session)
  rw [Run.clearError_config] at unfolds few
  cases powered : session.machine.cpu.isPowered with
  | false =>
      have nothing : Run.stations handle goal session = [] := by
        rw [Run.stations, powered]
        rfl
      rw [nothing]
      refine
        ⟨fun isPowered => absurd isPowered Bool.false_ne_true, Nat.zero_le _,
          fun earlier station next later same => ?_⟩
      exact absurd same.symm (by simp)
  | true =>
      have same :
          Run.stations handle goal session =
            Run.performStations handle goal (Run.clearError session) := by
        rw [Run.stations, if_pos powered]
      rw [same]
      refine ⟨fun _ => unfolds, few, fun earlier station next later split unretired => ?_⟩
      rw [split] at unfolds
      exact unfolds.retires_after_refusal isHandler unretired

/-- A run with a refused fetch in it, after which the script of the breakpoint lets it go on. -/
theorem scripted_run_makes_progress :
    let session := (Session.fresh .default .initial).conduct [.line "bp 1 \x22print 1\x22"]
    (Run.stations Run.answerStop (.quiet 3) session).map (·.step.1.isRetired) =
        [true, false, true, true] ∧
      (Run.stations Run.answerStop (.quiet 3) session).length ≤ 2 * 3 := by
  intro session
  have bound : (RunGoal.quiet 3).bound session.monitor.config.runLimit = 3 := by decide +kernel
  have progress := runs_make_progress .outermost (.quiet 3) session
  rw [bound] at progress
  exact ⟨by decide +kernel, progress.2.1⟩

end Monitor8080
