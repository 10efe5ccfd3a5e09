import Monitor8080.Proofs.RunLimit
namespace Monitor8080

/-!
# Runs without chunks

A run divides its steps into chunks and counts the chunks down. What its steps
come to is told here by the steps alone, so that nothing is left of either: a
run whose steps come to an end makes just these steps, however long its chunks
are, as long as the chunks do not run out and nobody asks it to stop.
-/

namespace Run

/--
The steps of a run from one session on, and what they come to. The run ends
when it has executed as many instructions as it may, or by a step after which
it does not go on.
-/
inductive Unfolds
    (handle : StopHandler)
    (goal : RunGoal)
    (bound : Nat) :
    (executed : Nat) → Session → List Session → Stretch → Prop where
  | complete
      {executed : Nat}
      {session : Session}
      (enough : bound ≤ executed) :
      Unfolds handle goal bound executed session [] ⟨.goesOn, executed, session⟩
  | ends
      {executed : Nat}
      {session : Session}
      (unfinished : executed < bound)
      (ending : (Run.step handle goal executed session).course ≠ .goesOn) :
      Unfolds handle goal bound executed session [session] (Run.step handle goal executed session)
  | goesOn
      {executed executedThen : Nat}
      {session sessionThen : Session}
      {later : List Session}
      {last : Stretch}
      (unfinished : executed < bound)
      (stepped : Run.step handle goal executed session = ⟨.goesOn, executedThen, sessionThen⟩)
      (rest : Unfolds handle goal bound executedThen sessionThen later last) :
      Unfolds handle goal bound executed session (session :: later) last

variable
  {handle : StopHandler}
  {goal : RunGoal}
  {bound executed : Nat}
  {session : Session}
  {stations : List Session}
  {last : Stretch}

namespace Unfolds

/-- A run that may execute more makes its first step where it is. -/
theorem head_mem
    (unfolds : Unfolds handle goal bound executed session stations last)
    (unfinished : executed < bound) :
    session ∈ stations := by
  cases unfolds with
  | complete enough =>
      exact absurd enough (Nat.not_le.mpr unfinished)
  | ends unfinished ending =>
      exact List.mem_cons_self
  | goesOn unfinished stepped rest =>
      exact List.mem_cons_self

/--
A number of steps that cannot execute more than the run may is the whole run,
or it goes on after them as it would without a break.
-/
theorem burst
    (unfolds : Unfolds handle goal bound executed session stations last)
    {steps : Nat}
    (within : steps ≤ bound - executed) :
    last.course ≠ .goesOn ∧
        burstStations handle goal steps executed session = stations ∧
        Run.burst handle goal steps executed session = last ∨
      ∃ executedThen sessionThen later,
        Run.burst handle goal steps executed session = ⟨.goesOn, executedThen, sessionThen⟩ ∧
          stations = burstStations handle goal steps executed session ++ later ∧
          later.length + steps = stations.length ∧
          Unfolds handle goal bound executedThen sessionThen later last := by
  induction unfolds generalizing steps with
  | @complete executed session enough =>
      obtain rfl : steps = 0 := by omega
      exact .inr ⟨executed, session, [], rfl, rfl, rfl, .complete enough⟩
  | @ends executed session unfinished ending =>
      cases steps with
      | zero =>
          exact .inr ⟨executed, session, _, rfl, rfl, rfl, .ends unfinished ending⟩
      | succ steps =>
          left
          rw [burstStations, Run.burst]
          cases stretch : Run.step handle goal executed session with
          | mk course executedThen sessionThen =>
              rw [stretch] at ending
              cases course with
              | goesOn =>
                  exact absurd rfl ending
              | ends =>
                  exact ⟨ending, rfl, rfl⟩
              | abandoned =>
                  exact ⟨ending, rfl, rfl⟩
  | @goesOn executed executedThen session sessionThen later last unfinished stepped rest
      inductionHypothesis =>
      cases steps with
      | zero =>
          exact .inr ⟨executed, session, _, rfl, rfl, rfl, .goesOn unfinished stepped rest⟩
      | succ steps =>
          have counted := step_executed handle goal executed session (by rw [stepped])
          have once : (if session.step.1.isRetired then 1 else 0) ≤ 1 := by
            split <;> omega
          rw [stepped] at counted
          have within : steps ≤ bound - executedThen := by
            simp only at counted
            omega
          rw [burstStations, Run.burst, stepped]
          rcases inductionHypothesis within with
            ⟨ending, same, sameEnd⟩ | ⟨executedLast, sessionLast, left, whole, split, count, unfolds⟩
          · exact .inl ⟨ending, congrArg (session :: ·) same, sameEnd⟩
          · refine .inr ⟨executedLast, sessionLast, left, whole, ?_, ?_, unfolds⟩
            · exact congrArg (session :: ·) split
            · rw [List.length_cons, ← count]
              rfl

/-- Whatever the chunks are, a run makes the steps that it unfolds to if the chunks do not run out. -/
theorem chunks
    (unfolds : Unfolds handle goal bound executed session stations last)
    (undisturbed : ∀ station ∈ stations, station.machine.stopRequested = false)
    {chunk fuel : Nat}
    (positive : 0 < chunk)
    (enough : stations.length < fuel) :
    chunkStations handle goal chunk bound fuel executed session = stations ∧
      Run.chunks handle goal chunk bound fuel executed session = last := by
  induction fuel generalizing executed session stations with
  | zero =>
      exact absurd enough (Nat.not_lt_zero _)
  | succ fuel inductionHypothesis =>
      rw [chunkStations, Run.chunks]
      by_cases complete : bound ≤ executed
      · rw [if_pos complete, if_pos complete]
        cases unfolds with
        | complete _ =>
            exact ⟨rfl, rfl⟩
        | ends unfinished _ =>
            exact absurd complete (Nat.not_le.mpr unfinished)
        | goesOn unfinished _ _ =>
            exact absurd complete (Nat.not_le.mpr unfinished)
      · have unfinished : executed < bound := Nat.not_le.mp complete
        have unrequested : ¬ session.machine.stopRequested := by
          rw [undisturbed session (unfolds.head_mem unfinished)]
          exact Bool.false_ne_true
        rw [if_neg complete, if_neg complete, if_neg unrequested, if_neg unrequested]
        rcases unfolds.burst (Nat.min_le_right chunk (bound - executed)) with
          ⟨ending, same, sameEnd⟩ | ⟨executedThen, sessionThen, later, whole, split, count, rest⟩
        · rw [same, sameEnd]
          obtain ⟨course, executedLast, sessionLast⟩ := last
          cases course with
          | goesOn =>
              exact absurd rfl ending
          | ends =>
              exact ⟨List.append_nil _, rfl⟩
          | abandoned =>
              exact ⟨List.append_nil _, rfl⟩
        · -- A chunk of one step at least leaves fewer steps to the chunks after it.
          have fewer : later.length < fuel := by omega
          have undisturbedThen : ∀ station ∈ later, station.machine.stopRequested = false := by
            intro station member
            apply undisturbed
            rw [split]
            exact List.mem_append_right _ member
          obtain ⟨sameStations, sameEnd⟩ := inductionHypothesis rest undisturbedThen fewer
          rw [whole]
          simp only
          rw [sameStations, sameEnd]
          exact ⟨split.symm, rfl⟩

/-- A run makes the steps that it unfolds to, if there are not too many for any of its chunks. -/
theorem perform
    {session : Session}
    (unfolds :
      Unfolds handle goal (goal.bound session.monitor.config.runLimit) 0 (enter session)
        stations last)
    (undisturbed : ∀ station ∈ stations, station.machine.stopRequested = false)
    (few : stations.length ≤ 2 * goal.bound session.monitor.config.runLimit) :
    performStations handle goal session = stations ∧ Run.perform handle goal session = last := by
  have positive : 0 < chunkSize session.monitor.config (enter session).machine.cpu := by
    unfold chunkSize
    exact Nat.mul_pos (by omega) (by omega)
  exact unfolds.chunks undisturbed positive (Nat.lt_succ_of_le few)

/-- A law of a run holds from where it starts up to each of its steps, and to its end. -/
theorem obeys
    (unfolds : Unfolds handle goal bound executed session stations last)
    {law : Session → Bool → Session → Prop}
    [lawful : Session.LawfulReports law]
    (isLaw : IsLaw law)
    (handles : HandlesBy law handle) :
    ∀ station ∈ stations, law session false station := by
  induction unfolds with
  | complete enough =>
      exact fun _ member => absurd member List.not_mem_nil
  | @ends executed session unfinished ending =>
      intro station member
      rw [List.mem_singleton.mp member]
      exact lawful.refl session
  | @goesOn executed executedThen session sessionThen later last unfinished stepped rest
      inductionHypothesis =>
      have before := step_obeys isLaw handles goal executed session
      rw [stepped] at before
      intro station member
      rcases List.mem_cons.mp member with rfl | isLater
      · exact lawful.refl station
      · exact lawful.trans before (inductionHypothesis station isLater)

end Unfolds

end Run

/-! ## Requests to stop -/

theorem Machine.stop_stopRequested (machine : Machine) :
    machine.stop.stopRequested = machine.stopRequested := by
  unfold stop
  split <;> rfl

/-- A run forgets what was asked before it. -/
theorem Run.enter_stopRequested (session : Session) :
    (enter session).machine.stopRequested = false := by
  unfold enter Session.updateMachine Machine.start
  simp only
  split <;> rfl

namespace Session

/-- Where nobody asks the machine to stop, nobody asks it afterwards. -/
def StaysUndisturbed (before after : Session) : Prop :=
  before.machine.stopRequested = false → after.machine.stopRequested = false

theorem StaysUndisturbed.of_same
    {before after : Session}
    (same : after.machine.stopRequested = before.machine.stopRequested) :
    before.StaysUndisturbed after :=
  same.trans

instance : AllowsReports StaysUndisturbed where
  refl _ := id
  trans first second := second ∘ first
  report same := .of_same (by rw [same.machine])

@[simp] theorem watchFor_stopRequested
    (machine : Machine)
    (kind : BreakKind)
    (location : Location) :
    (watchFor machine kind location).stopRequested = machine.stopRequested := by
  unfold watchFor
  split <;> rfl

@[simp] theorem unwatchFor_stopRequested
    (machine : Machine)
    (kind : BreakKind)
    (location : Location) :
    (unwatchFor machine kind location).stopRequested = machine.stopRequested := by
  unfold unwatchFor
  split <;> rfl

@[simp] theorem unwatchAll_stopRequested
    (machine : Machine)
    (removed : List (BreakKind × Location)) :
    (unwatchAll machine removed).stopRequested = machine.stopRequested := by
  unfold unwatchAll
  induction removed generalizing machine with
  | nil =>
      rfl
  | cons entry rest inductionHypothesis =>
      exact (inductionHypothesis _).trans (unwatchFor_stopRequested machine entry.1 entry.2)

@[simp] theorem step_stopRequested (session : Session) :
    session.step.2.machine.stopRequested = session.machine.stopRequested := by
  have executed : session.execute.2.machine.stopRequested = session.machine.stopRequested := by
    unfold execute
    split
    · rw [executeGuarded_eq]
    · rw [executeBare_eq]
  have concluded :
      session.concluded.2.machine.stopRequested = session.execute.2.machine.stopRequested := by
    unfold Session.concluded conclude
    split
    · split <;> rfl
    · rfl
    · rfl
  rw [step_eq, ← executed, ← concluded]
  rcases session.concluded.2.releaseTemporary_cases session.concluded.1 with
    unchanged | ⟨kind, location, released⟩
  · rw [unchanged]
  · rw [released, unwatchFor_stopRequested]

theorem Makes.stopRequested
    {before after : Session}
    {edit : Edit}
    (makes : before.Makes edit after) :
    after.machine.stopRequested = before.machine.stopRequested := by
  cases makes with
  | machine edit =>
      cases edit with
      | halt =>
          exact before.machine.stop_stopRequested
      | _ =>
          rfl
  | place placed =>
      rw [(placeBreakpoint_ok placed).2.2, watchFor_stopRequested]
  | remove address? =>
      obtain ⟨test, -, -, machine⟩ := before.removeBreakpoints_eq address?
      rw [machine, unwatchAll_stopRequested]
  | arm count =>
      rfl
  | checksum interval =>
      rfl

/-- Nothing that lines come down to asks the machine to stop. -/
theorem staysUndisturbed_isLaw :
    Run.IsLawThroughout fun before _ after => before.StaysUndisturbed after where
  clearError session := by
    refine .of_same ?_
    unfold Run.clearError
    split <;> rfl
  enter session _ := Run.enter_stopRequested session
  step session := .of_same session.step_stopRequested
  stop session := .of_same session.machine.stop_stopRequested
  removeTemporary session := by
    refine .of_same ?_
    rw [session.removeTemporaryBreakpoints_eq.2.2, unwatchAll_stopRequested]
  mute _ := id
  unmute _ := id
  resume _ := id
  edit _ _ _ makes := .of_same makes.stopRequested

end Session

end Monitor8080
