import Monitor8080.Proofs.CommandBackdrops
import Monitor8080.Proofs.RunProgress
import Monitor8080.Proofs.ScriptSimulation
namespace Monitor8080

/-!
# The chunk size makes no difference

Runs divide their steps into chunks of the configured size, and nothing else
looks at the size. As every run unfolds to the same steps whatever its chunks
are, runs overlook their backdrop too, and so do scripts and lines.
-/

open Operation

/-- The same stretch in front of another backdrop. -/
def Stretch.onto (stretch : Stretch) (backdrop : Backdrop) : Stretch :=
  { stretch with session := stretch.session.onto backdrop }

namespace Run

variable {backdrop : Backdrop}

/-- What becomes of a stop is the same in front of another backdrop. -/
def HandlesOver (backdrop : Backdrop) (handle : StopHandler) : Prop :=
  ∀ reason session,
    handle reason (session.onto backdrop) =
      ((handle reason session).1, (handle reason session).2.onto backdrop)

/-- A nested run ends at every stop, in front of any backdrop. -/
theorem endAt_handlesOver : HandlesOver backdrop endAt := by
  intro reason session
  unfold endAt
  split
  · split <;> rfl
  · rfl

/-- An error that is cleared is told by the same message. -/
theorem clearError_onto (session : Session) :
    clearError (session.onto backdrop) = (clearError session).onto backdrop := by
  unfold clearError
  rw [Session.onto_machine]
  by_cases failed : session.machine.cpu.phase = .error
  · rw [if_pos failed, if_pos failed, Session.message_onto]
    rfl
  · rw [if_neg failed, if_neg failed]

theorem enter_onto (session : Session) :
    enter (session.onto backdrop) = (enter session).onto backdrop := rfl

theorem showTraced_onto
    (detail : TraceDetail)
    (listed : Listed)
    (session : Session) :
    showTraced detail listed (session.onto backdrop) =
      (showTraced detail listed session).onto backdrop :=
  session.printAll_onto backdrop _

/-- What a goal lists next is read from memory and symbols. -/
theorem upcoming?_onto
    (goal : RunGoal)
    (session : Session) :
    upcoming? goal (session.onto backdrop) = upcoming? goal session := by
  cases goal <;> rfl

/-- What is shown before a step is the same line. -/
theorem shown_onto
    (goal : RunGoal)
    (session : Session) :
    shown goal (session.onto backdrop) = (shown goal session).onto backdrop := by
  unfold shown
  rw [session.step_onto, upcoming?_onto]
  simp only
  split
  · split
    · exact showTraced_onto ..
    · rfl
  · rfl

/-! ## What is left to do after the steps -/

/-- How a run is left depends on its goal. -/
theorem leave_overlooks (goal : RunGoal) : Overlooks backdrop (leave goal) := by
  refine (Overlooks.updateMachine _).andThen fun _ => ?_
  refine Overlooks.clearTemporaryBreakpoints.andThen fun _ => ?_
  refine (Overlooks.change fun _ => rfl).andThen fun _ => ?_
  exact .choice (.change fun session => session.noticeStop_onto backdrop) (.value ())

/-- A limit that was reached is reported with the same count. -/
theorem reportLimit_overlooks
    (course : Course)
    (executed : Nat) :
    Overlooks backdrop (reportLimit course executed) :=
  (Overlooks.observe fun _ => rfl).andThen fun _ => (Overlooks.print _).choice (.value ())

/-- The end of a run looks at where it came to, not at how it was cut into chunks. -/
theorem settle_overlooks
    (goal : RunGoal)
    (isNested : Bool)
    (stretch : Stretch) :
    Overlooks backdrop (settle goal isNested stretch) := by
  have settled :
      Overlooks backdrop (do
        reportLimit stretch.course stretch.executed
        if isNested then modify Session.pointAtPC else leave goal) := by
    refine (reportLimit_overlooks _ _).andThen fun _ => ?_
    exact .choice (.change fun _ => rfl) (leave_overlooks goal)
  exact .choice ((Overlooks.failure _).andThen fun _ => settled) settled

/-! ## Steps and runs -/

section Handler

variable {handle : StopHandler} (handlesOver : HandlesOver backdrop handle)

include handlesOver

/-- A stop is reacted to alike if the handler overlooks the backdrop. -/
theorem react_onto
    (result : StepEnd)
    (session : Session) :
    react handle result (session.onto backdrop) =
      ((react handle result session).1, (react handle result session).2.onto backdrop) := by
  cases result with
  | cycles count =>
      simp only [react]
      rw [Session.onto_machine]
      by_cases stuck : isStuck session.machine.cpu
      · rw [if_pos stuck, if_pos stuck]
        rfl
      · rw [if_neg stuck, if_neg stuck]
  | «break» reason =>
      exact handlesOver reason session
  | fault error =>
      rfl

/-- One step of a run is the same in front of another backdrop. -/
theorem step_onto
    (goal : RunGoal)
    (executed : Nat)
    (session : Session) :
    step handle goal executed (session.onto backdrop) =
      (step handle goal executed session).onto backdrop := by
  have stepped := session.step_onto backdrop
  cases broken : isBroken session.step.1 session.step.2 with
  | true =>
      have brokenToo :
          isBroken (session.onto backdrop).step.1 (session.onto backdrop).step.2 := by
        rw [stepped]
        exact broken
      rw [step_of_isBroken broken, step_of_isBroken brokenToo, stepped]
      rfl
  | false =>
      have unbrokenToo :
          isBroken (session.onto backdrop).step.1 (session.onto backdrop).step.2 = false := by
        rw [stepped]
        exact broken
      rw [step_of_not_isBroken broken, step_of_not_isBroken unbrokenToo, shown_onto, stepped,
        react_onto handlesOver]
      rfl

/-- A run unfolds in front of another backdrop through the same stations, each in front of it. -/
theorem Unfolds.onto
    {goal : RunGoal}
    {bound executed : Nat}
    {session : Session}
    {stations : List Session}
    {last : Stretch}
    (unfolds : Unfolds handle goal bound executed session stations last) :
    Unfolds handle goal bound executed (session.onto backdrop) (stations.map (·.onto backdrop))
      (last.onto backdrop) := by
  induction unfolds with
  | complete enough =>
      exact .complete enough
  | @ends executed session unfinished ending =>
      rw [← step_onto handlesOver]
      refine .ends unfinished ?_
      rw [step_onto handlesOver]
      exact ending
  | @goesOn executed executedThen session sessionThen later last unfinished stepped rest
      inductionHypothesis =>
      refine .goesOn unfinished ?_ inductionHypothesis
      rw [step_onto handlesOver, stepped]
      rfl

variable (isHandler : IsHandler handle)

include isHandler

/-- The steps of a run are the same in front of another backdrop, though its chunks are not. -/
theorem perform_onto
    (goal : RunGoal)
    (session : Session) :
    perform handle goal (session.onto backdrop) = (perform handle goal session).onto backdrop := by
  obtain ⟨unfolds, few⟩ := perform_unfolds isHandler goal session
  have unfoldsOnto := unfolds.onto handlesOver
  rw [← enter_onto] at unfoldsOnto
  exact (unfoldsOnto.perform (unfoldsOnto.undisturbed isHandler) (by rwa [List.length_map])).2

/-- A run overlooks the backdrop, as the chunks that it is cut into do not show. -/
theorem run_overlooks (goal : RunGoal) : Overlooks backdrop (run handle goal) := by
  intro session
  cases powered : session.machine.cpu.isPowered with
  | false =>
      have unpoweredToo : (session.onto backdrop).machine.cpu.isPowered = false := powered
      rw [run_of_not_isPowered powered, run_of_not_isPowered unpoweredToo]
  | true =>
      have poweredToo : (session.onto backdrop).machine.cpu.isPowered := powered
      rw [run_of_isPowered powered, run_of_isPowered poweredToo, clearError_onto,
        perform_onto handlesOver isHandler]
      exact settle_overlooks goal _ _ (perform handle goal (clearError session)).session

end Handler

end Run

/-! ## Scripts -/

/-- A script comes to the same in front of another backdrop if its commands do. -/
theorem Script.execute_onto
    {backdrop : Backdrop}
    {runner : Runner}
    (runs : ∀ goal, Overlooks backdrop (runner goal))
    (commands : List String)
    (session : Session) :
    execute runner commands (session.onto backdrop) =
      ((execute runner commands session).1, (execute runner commands session).2.onto backdrop) := by
  have carries : Carries runner runner (·.onto backdrop) fun _ => True :=
    { evaluate := fun _ _ => rfl
      print := fun _ _ => rfl
      execute := fun command session _ => execute_overlooks runs command session
      keeps := fun _ _ _ => trivial }
  exact execute_carried carries commands trivial

namespace Run

variable (backdrop : Backdrop)

theorem nested_overlooks (goal : RunGoal) : Overlooks backdrop (nested goal) :=
  run_overlooks endAt_handlesOver .nested goal

/-- A script does the same in front of another backdrop, and mutes the breakpoints meanwhile. -/
theorem playScript_onto
    (kind : BreakKind)
    (location : Location)
    (consumed : Bool)
    (session : Session) :
    playScript kind location consumed (session.onto backdrop) =
      ((playScript kind location consumed session).1,
        (playScript kind location consumed session).2.onto backdrop) := by
  have played :=
    Script.execute_onto (nested_overlooks backdrop) location.commands session.mute
  have muted : (session.onto backdrop).mute = session.mute.onto backdrop := rfl
  unfold playScript
  rw [muted, played]
  cases Script.execute nested location.commands session.mute with
  | mk outcome after =>
      have unmuted : (after.onto backdrop).unmute = after.unmute.onto backdrop := rfl
      simp only
      rw [unmuted, Session.onto_machine]
      split
      · rfl
      · split
        · rfl
        · split
          · rfl
          · split <;> rfl

/-- Outside of scripts a stop is answered alike. -/
theorem answerStop_handlesOver : HandlesOver backdrop answerStop := by
  intro reason session
  cases reason with
  | port direction number byte =>
      exact endAt_handlesOver (.port direction number byte) session
  | hit reached =>
      cases reached with
      | countdown address =>
          exact endAt_handlesOver (.hit (.countdown address)) session
      | entry kind location consumed =>
          unfold answerStop
          simp only
          split
          · exact endAt_handlesOver _ session
          · exact playScript_onto backdrop kind location consumed session

theorem outermost_overlooks (goal : RunGoal) : Overlooks backdrop (outermost goal) :=
  run_overlooks (answerStop_handlesOver backdrop) .outermost goal

end Run

/-! ## Lines -/

namespace Session

/-- The session with another chunk size. -/
def withRunChunk (session : Session) (runChunk : Nat) : Session :=
  session.updateMonitor fun monitor =>
    { monitor with config := { monitor.config with runChunk := runChunk } }

theorem withRunChunk_eq
    (session : Session)
    (runChunk : Nat) :
    session.withRunChunk runChunk = session.onto { session.backdrop with runChunk := runChunk } :=
  rfl

/-- A script leaves its backdrop as it was. -/
theorem execute_backdrop
    (commands : List String)
    (session : Session) :
    (Script.execute Run.outermost commands session).2.backdrop = session.backdrop := by
  have same :=
    Script.execute_onto (Run.outermost_overlooks session.backdrop) commands session
  rw [session.onto_backdrop] at same
  rw [same]
  rfl

/-- A script comes to the same with another chunk size. -/
theorem execute_withRunChunk
    (commands : List String)
    (session : Session)
    (runChunk : Nat) :
    Script.execute Run.outermost commands (session.withRunChunk runChunk) =
      ((Script.execute Run.outermost commands session).1,
        (Script.execute Run.outermost commands session).2.withRunChunk runChunk) := by
  have same :=
    Script.execute_onto (Run.outermost_overlooks { session.backdrop with runChunk := runChunk })
      commands session
  rw [withRunChunk_eq, withRunChunk_eq, execute_backdrop]
  exact same

end Session

/--
The chunk size is unobservable: with another one, a line comes to the same
result and leaves the same session, output and machine included, but for the
chunk size itself.
-/
theorem chunk_size_is_unobservable
    (session : Session)
    (runChunk : Nat)
    (line : String) :
    (session.withRunChunk runChunk).obey line =
      ((session.obey line).1, (session.obey line).2.withRunChunk runChunk) := by
  unfold Session.obey
  simp only
  by_cases empty : (Text.trim line).isEmpty
  · rw [if_pos empty, if_pos empty]
  · have recorded :
        (session.withRunChunk runChunk).recordLine (Text.trim line) =
          (session.recordLine (Text.trim line)).withRunChunk runChunk := rfl
    rw [if_neg empty, if_neg empty, recorded, Session.execute_withRunChunk]
    cases Script.execute Run.outermost (Text.commandsOf (Text.trim line))
      (session.recordLine (Text.trim line)) with
    | mk outcome after =>
        cases outcome <;> rfl

end Monitor8080
