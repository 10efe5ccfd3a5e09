import Monitor8080.Operator.Run
namespace Monitor8080

/-!
# The stations of a run

The stations of a run are the sessions from which it makes its steps, in the
order of the steps. They are told along with the run by the recursion of the
run itself, so what one step keeps of the stations before it holds of the
stations of the whole run.
-/

namespace Run

variable (handle : StopHandler) (goal : RunGoal)

/-- The stations of a number of steps, or fewer if one of them ends the run. -/
def burstStations :
    (steps : Nat) → (executed : Nat) → Session → List Session
  | 0, _, _ => []
  | steps + 1, executed, session =>
      session ::
        match step handle goal executed session with
        | ⟨.goesOn, executed, session⟩ => burstStations steps executed session
        | _ => []

/-- The stations of chunk after chunk of steps. -/
def chunkStations (chunk bound : Nat) :
    (fuel : Nat) → (executed : Nat) → Session → List Session
  | 0, _, _ => []
  | fuel + 1, executed, session =>
      if bound ≤ executed then
        []
      else if session.machine.stopRequested then
        []
      else
        burstStations handle goal (min chunk (bound - executed)) executed session ++
          match burst handle goal (min chunk (bound - executed)) executed session with
          | ⟨.goesOn, executed, session⟩ => chunkStations chunk bound fuel executed session
          | _ => []

/-- The stations of the steps of a run. -/
def performStations (session : Session) : List Session :=
  let session := enter session
  let chunk := chunkSize session.monitor.config session.machine.cpu
  let bound := goal.bound session.monitor.config.runLimit
  chunkStations handle goal chunk bound (2 * bound + 1) 0 session

/-- The stations of a run, of which there are none without power. -/
def stations (session : Session) : List Session :=
  if session.machine.cpu.isPowered then performStations handle goal (clearError session) else []

/-! ## Induction on the steps of a run -/

section Induction

variable {handle : StopHandler} {goal : RunGoal}

/--
What holds of the stations so far and of the stretch that they come to is kept
by a step, and by the request to stop.
-/
structure Keeps
    (handle : StopHandler)
    (goal : RunGoal)
    (property : List Session → Stretch → Prop) : Prop where
  step :
    ∀ {past executed session},
      property past ⟨.goesOn, executed, session⟩ →
        property (past ++ [session]) (Run.step handle goal executed session)
  stopRequest :
    ∀ {past executed session},
      property past ⟨.goesOn, executed, session⟩ →
        property past ⟨.ends, executed, session.print "stop requested"⟩

variable {property : List Session → Stretch → Prop}

/-- What every step keeps is kept by a number of steps. -/
theorem Keeps.burst
    (keeps : Keeps handle goal property)
    {past : List Session}
    {executed : Nat}
    {session : Session}
    (before : property past ⟨.goesOn, executed, session⟩)
    (steps : Nat) :
    property (past ++ burstStations handle goal steps executed session)
      (Run.burst handle goal steps executed session) := by
  induction steps generalizing past executed session with
  | zero =>
      rw [burstStations, List.append_nil]
      exact before
  | succ steps inductionHypothesis =>
      have afterStep := keeps.step before
      rw [burstStations, Run.burst]
      cases stretch : Run.step handle goal executed session with
      | mk course executedThen sessionThen =>
          rw [stretch] at afterStep
          cases course with
          | goesOn =>
              rw [List.append_cons]
              exact inductionHypothesis afterStep
          | ends =>
              exact afterStep
          | abandoned =>
              exact afterStep

/-- What every step keeps is kept by chunk after chunk of steps. -/
theorem Keeps.chunks
    (keeps : Keeps handle goal property)
    {past : List Session}
    {executed : Nat}
    {session : Session}
    (before : property past ⟨.goesOn, executed, session⟩)
    (chunk bound fuel : Nat) :
    property (past ++ chunkStations handle goal chunk bound fuel executed session)
      (Run.chunks handle goal chunk bound fuel executed session) := by
  induction fuel generalizing past executed session with
  | zero =>
      rw [chunkStations, List.append_nil]
      exact before
  | succ fuel inductionHypothesis =>
      rw [chunkStations, Run.chunks]
      by_cases complete : bound ≤ executed
      · rw [if_pos complete, if_pos complete, List.append_nil]
        exact before
      · rw [if_neg complete, if_neg complete]
        by_cases requested : session.machine.stopRequested
        · rw [if_pos requested, if_pos requested, List.append_nil]
          exact keeps.stopRequest before
        · rw [if_neg requested, if_neg requested]
          have afterBurst := keeps.burst before (min chunk (bound - executed))
          cases stretch : Run.burst handle goal (min chunk (bound - executed)) executed session with
          | mk course executedThen sessionThen =>
              rw [stretch] at afterBurst
              cases course with
              | goesOn =>
                  rw [← List.append_assoc]
                  exact inductionHypothesis afterBurst
              | ends =>
                  rw [List.append_nil]
                  exact afterBurst
              | abandoned =>
                  rw [List.append_nil]
                  exact afterBurst

/-- What holds when a run is entered and every step keeps holds of the whole run. -/
theorem Keeps.perform
    (keeps : Keeps handle goal property)
    (session : Session)
    (entered : property [] ⟨.goesOn, 0, enter session⟩) :
    property (performStations handle goal session) (Run.perform handle goal session) := by
  simpa only [performStations, Run.perform, List.nil_append] using keeps.chunks entered _ _ _

end Induction

end Run

end Monitor8080
