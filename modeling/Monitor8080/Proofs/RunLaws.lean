import Monitor8080.Proofs.CommandEdits
import Monitor8080.Proofs.ScriptFree
namespace Monitor8080

/-!
# Laws of runs and scripts

A law that holds of the few things that a run does on its own, and of what
becomes of every stop, holds of the run. A law that holds of every command in a
script holds of the script. What is left to each law is only what muting comes
to while the script of a breakpoint is executed.
-/

open Operation

namespace Run

/-- A law holds of what a run does on its own, one thing at a time. -/
structure IsLaw (law : Session → Bool → Session → Prop) : Prop where
  clearError : ∀ session, law session false (clearError session)
  enter : ∀ session, law session false (enter session)
  step : ∀ session, law session (isBroken session.step.1 session.step.2) session.step.2
  stop : ∀ session, law session false (session.updateMachine Machine.stop)
  removeTemporary :
    ∀ session,
      law session
        (0 < session.removeTemporaryBreakpoints.1
          && session.removeTemporaryBreakpoints.2.monitor.lacksHistory)
        session.removeTemporaryBreakpoints.2

/-- What a law of runs implies holds of runs as well. -/
theorem IsLaw.imp
    {law implied : Session → Bool → Session → Prop}
    (isLaw : IsLaw law)
    (implies :
      ∀ {before isAbandoned after}, law before isAbandoned after → implied before isAbandoned after) :
    IsLaw implied where
  clearError session := implies (isLaw.clearError session)
  enter session := implies (isLaw.enter session)
  step session := implies (isLaw.step session)
  stop session := implies (isLaw.stop session)
  removeTemporary session := implies (isLaw.removeTemporary session)

/-- A law holds of what becomes of a stop, together with the step that stopped. -/
def HandlesBy
    (law : Session → Bool → Session → Prop)
    (handle : StopHandler) : Prop :=
  ∀ origin session reason,
    origin.step.1 = .break reason →
      isBroken origin.step.1 origin.step.2 = false →
      origin.step.2.SameDuty session →
      law origin ((handle reason session).1 = .abandoned) (handle reason session).2

variable {law : Session → Bool → Session → Prop} [lawful : Session.LawfulReports law]

/-- What reports of a step that broke nothing is as good as the step. -/
theorem IsLaw.step_reported
    (isLaw : IsLaw law)
    {origin session : Session}
    (unbroken : isBroken origin.step.1 origin.step.2 = false)
    (same : origin.step.2.SameDuty session) :
    law origin false session := by
  have stepped := isLaw.step origin
  rw [unbroken] at stepped
  exact lawful.trans stepped (lawful.report same)

theorem IsLaw.endAt (isLaw : IsLaw law) : HandlesBy law endAt := by
  intro origin session reason stopped unbroken same
  obtain ⟨ends, sameDuty⟩ := endAt_spec reason session
  rw [ends]
  exact isLaw.step_reported unbroken (same.trans sameDuty)

/-- Leaving a run stops the engine and clears the temporary breakpoints. -/
theorem leave_obeys
    (stop : ∀ session, law session false (session.updateMachine Machine.stop))
    (removeTemporary :
      ∀ session,
        law session
          (0 < session.removeTemporaryBreakpoints.1
            && session.removeTemporaryBreakpoints.2.monitor.lacksHistory)
          session.removeTemporaryBreakpoints.2)
    (goal : RunGoal) :
    Obeys law (leave goal) := by
  refine .andThen (.change stop) fun _ => ?_
  refine .andThen (.clearTemporaryBreakpoints removeTemporary) fun _ => ?_
  refine .andThen (.change ?_) fun _ => .choice (.change ?_) (.value ())
  · exact fun session => lawful.report (.pointAtPC session)
  · exact fun session => lawful.report (.noticeStop session)

section Handler

variable (isLaw : IsLaw law) {handle : StopHandler} (handles : HandlesBy law handle)

include isLaw handles

/-- How a run goes on after a step that broke nothing. -/
theorem react_obeys
    {origin session : Session}
    (unbroken : isBroken origin.step.1 origin.step.2 = false)
    (same : origin.step.2.SameDuty session) :
    law origin ((react handle origin.step.1 session).1 = .abandoned)
      (react handle origin.step.1 session).2 := by
  have reported := isLaw.step_reported unbroken same
  cases ended : origin.step.1 with
  | cycles count =>
      unfold react
      split
      · split
        · exact lawful.trans reported (lawful.report (.print session _))
        · exact reported
      · contradiction
      · contradiction
  | «break» reason =>
      exact handles origin session reason ended unbroken same
  | fault error =>
      exact reported

theorem step_obeys
    (goal : RunGoal)
    (executed : Nat)
    (session : Session) :
    law session ((step handle goal executed session).course = .abandoned)
      (step handle goal executed session).session := by
  have stepped := isLaw.step session
  unfold step
  simp only
  split
  · rename_i broken
    rw [broken] at stepped
    exact stepped
  · rename_i unbroken
    rw [Bool.not_eq_true] at unbroken
    split
    · split
      · exact react_obeys isLaw handles unbroken (showTraced_sameDuty ..)
      · exact react_obeys isLaw handles unbroken (.refl _)
    · exact react_obeys isLaw handles unbroken (.refl _)

theorem perform_obeys
    (goal : RunGoal)
    (session : Session) :
    law session ((perform handle goal session).course = .abandoned)
      (perform handle goal session).session := by
  have keeps :
      Keeps handle goal fun _ stretch =>
        law session (stretch.course = .abandoned) stretch.session :=
    { step := fun before => lawful.trans before (step_obeys isLaw handles goal _ _)
      stopRequest := fun before => lawful.trans before (lawful.report (.print _ _)) }
  exact keeps.perform session (isLaw.enter session)

/-- A run obeys the laws of what it does on its own and of what becomes of its stops. -/
theorem run_obeys (goal : RunGoal) : Obeys law (run handle goal) := by
  intro session
  by_cases powered : session.machine.cpu.isPowered
  · have cleared := isLaw.clearError session
    have performed := perform_obeys isLaw handles goal (clearError session)
    rw [run_of_isPowered powered]
    by_cases abandoned : (perform handle goal (clearError session)).course = .abandoned
    · rw [settle_of_abandoned abandoned]
      rw [decide_eq_true abandoned] at performed
      exact lawful.trans cleared performed
    · rw [settle_of_not_abandoned abandoned]
      rw [decide_eq_false abandoned] at performed
      refine lawful.trans cleared (lawful.trans performed ?_)
      refine Obeys.andThen (reportLimit_obeys _ _) (fun _ => ?_) _
      refine .choice (.change ?_) (leave_obeys isLaw.stop isLaw.removeTemporary goal)
      exact fun session => lawful.report (.pointAtPC session)
  · rw [Bool.not_eq_true] at powered
    rw [run_of_not_isPowered powered]
    exact lawful.refl session

end Handler

end Run

/-! ## Scripts -/

namespace Script

theorem mem_of_afterElse?
    {commands rest : List String}
    (found : afterElse? commands = some rest)
    {text : String}
    (member : text ∈ rest) :
    text ∈ commands := by
  unfold afterElse? at found
  split at found
  · cases found
  · rename_i first tail dropped
    cases found
    have kept : first :: rest <:+ commands := by
      rw [← dropped]
      exact List.dropWhile_suffix _
    exact kept.subset (List.mem_cons_of_mem first member)

theorem execute_obeys
    {law : Session → Bool → Session → Prop}
    [lawful : Session.LawfulReports law]
    {runner : Runner}
    (commands : List String)
    (obeys :
      ∀ text ∈ commands,
        ∀ command,
          Command.parse text = .ok command → Obeys law (Operation.execute runner command))
    (session : Session) :
    law session ((execute runner commands session).1 = .abandoned)
      (execute runner commands session).2 := by
  fun_induction execute runner commands session with
  | case1 session =>
      exact lawful.refl session
  | case2 session text rest error notParsed =>
      exact lawful.report (.print session _)
  | case3 session text rest condition parsed error notEvaluated =>
      exact lawful.report (.print session _)
  | case4 session text rest condition parsed value evaluated holds inductionHypothesis =>
      exact inductionHypothesis fun other member => obeys other (List.mem_cons_of_mem text member)
  | case5 session text rest condition parsed value evaluated fails others found shorter
      inductionHypothesis =>
      refine inductionHypothesis fun other member => obeys other ?_
      exact List.mem_cons_of_mem text (mem_of_afterElse? found member)
  | case6 session text rest condition parsed value evaluated fails notFound =>
      exact lawful.refl session
  | case7 session text rest parsed =>
      exact lawful.refl session
  | case8 session text rest command notIf notElse parsed value after ran inductionHypothesis =>
      have executed := obeys text List.mem_cons_self command parsed session
      rw [ran] at executed
      refine lawful.trans executed (inductionHypothesis fun other member => ?_)
      exact obeys other (List.mem_cons_of_mem text member)
  | case9 session text rest command notIf notElse parsed after ran =>
      have executed := obeys text List.mem_cons_self command parsed session
      rw [ran] at executed
      exact executed
  | case10 session text rest command notIf notElse parsed error after otherError ran =>
      have executed := obeys text List.mem_cons_self command parsed session
      rw [ran, wasAbandoned_error (α := Unit) fun same => otherError same] at executed
      exact lawful.trans executed (lawful.report (.print after _))

end Script

namespace Run

/-- The script of a breakpoint is abandoned, or the breakpoints are muted no longer after it. -/
theorem playScript_cases
    (kind : BreakKind)
    (location : Location)
    (consumed : Bool)
    (session : Session) :
    let played := Script.execute nested location.commands session.mute
    (played.1 = .abandoned ∧
        playScript kind location consumed session = (.abandoned, played.2)) ∨
      played.1 ≠ .abandoned ∧
        ∃ course,
          course ≠ .abandoned ∧
            (playScript kind location consumed session = (course, played.2.unmute) ∨
              (∃ line,
                playScript kind location consumed session =
                  (course, played.2.unmute.print line)) ∨
              playScript kind location consumed session =
                (course, played.2.unmute.excuseHere)) := by
  intro played
  unfold playScript
  by_cases abandoned : played.1 = .abandoned
  · exact .inl ⟨abandoned, if_pos abandoned⟩
  · refine .inr ⟨abandoned, ?_⟩
    simp only [show (Script.execute nested location.commands session.mute) = played from rfl,
      if_neg abandoned]
    split
    · exact ⟨.ends, nofun, .inr (.inl ⟨_, rfl⟩)⟩
    · split
      · exact ⟨.ends, nofun, .inl rfl⟩
      · split
        · exact ⟨.goesOn, nofun, .inr (.inr rfl)⟩
        · exact ⟨.goesOn, nofun, .inl rfl⟩

end Run

/-! ## Lines -/

namespace Session

/-- Whether a line is abandoned: it is not empty, and its script is abandoned. -/
def abandons (session : Session) (line : String) : Bool :=
  !(Text.trim line).isEmpty &&
    (Script.execute Run.outermost (Text.commandsOf (Text.trim line))
      (session.recordLine (Text.trim line))).1 = .abandoned

theorem recordLine_sameDuty
    (session : Session)
    (line : String) :
    session.SameDuty (session.recordLine line) :=
  .of_sentry rfl rfl rfl ⟨rfl, id⟩

/-- A law holds of a line if it holds of the commands in it, and only abandonment is told at last. -/
theorem obey_obeys
    {law : Session → Bool → Session → Prop}
    [lawful : LawfulReports law]
    {line : String}
    (obeys :
      ∀ text ∈ Text.commandsOf (Text.trim line),
        ∀ command,
          Command.parse text = .ok command → Obeys law (Operation.execute Run.outermost command))
    (session : Session) :
    ∃ played,
      law session (session.abandons line) played ∧ played.SameDuty (session.obey line).2 := by
  have recorded := lawful.report (session.recordLine_sameDuty (Text.trim line))
  have played :=
    lawful.trans recorded
      (Script.execute_obeys _ obeys (session.recordLine (Text.trim line)))
  unfold obey abandons
  simp only
  split
  · rename_i empty
    rw [empty]
    exact ⟨session, lawful.refl session, .refl session⟩
  · rename_i filled
    rw [Bool.not_eq_true] at filled
    rw [filled]
    -- Of the report after a script that was abandoned the law need not hold any more.
    refine ⟨_, played, ?_⟩
    split <;> rename_i after ended <;> rw [ended]
    exact .print after _

end Session

/-! ## Laws of everything that lines come down to -/

namespace Run

/-- A law holds of what runs and breakpoint scripts do on their own. -/
structure IsScriptLaw (law : Session → Bool → Session → Prop) : Prop extends IsLaw law where
  mute : ∀ session, law session false session.mute
  unmute : ∀ session, law session false session.unmute
  resume : ∀ session, law session false session.excuseHere

/-- A law holds of every command, if what becomes of the stops of its run obeys it. -/
structure IsCommandLaw (law : Session → Bool → Session → Prop) : Prop
    extends IsScriptLaw law where
  commands :
    ∀ {handle},
      HandlesBy law handle → ∀ command, Obeys law (Operation.execute (run handle) command)
  runTo : ∀ target, (Edit.place .exec (.temporary target)).IsGranted law

/-- A law holds of all that commands, runs and scripts are made of. -/
structure IsLawThroughout (law : Session → Bool → Session → Prop) : Prop
    extends IsScriptLaw law where
  edit : ∀ edit : Edit, edit.IsGranted law

variable {law : Session → Bool → Session → Prop} [lawful : Session.LawfulReports law]

/-- A law of scripts holds of the script of a breakpoint, if it holds of its commands. -/
theorem IsScriptLaw.playScript
    (isLaw : IsScriptLaw law)
    (kind : BreakKind)
    {location : Location}
    (consumed : Bool)
    (obeys :
      ∀ text ∈ location.commands,
        ∀ command,
          Command.parse text = .ok command → Obeys law (Operation.execute nested command))
    (session : Session) :
    law session ((playScript kind location consumed session).1 = .abandoned)
      (playScript kind location consumed session).2 := by
  have muted := isLaw.mute session
  have played := lawful.trans muted (Script.execute_obeys _ obeys session.mute)
  rcases playScript_cases kind location consumed session with
    ⟨abandoned, same⟩ | ⟨unabandoned, course, goesOn, ended⟩
  · rw [same]
    rw [decide_eq_true abandoned] at played
    simpa using played
  · rw [decide_eq_false unabandoned] at played
    have unmuted := lawful.trans played (isLaw.unmute _)
    rcases ended with same | ⟨line, same⟩ | same
    · rw [same, decide_eq_false goesOn]
      exact unmuted
    · rw [same, decide_eq_false goesOn]
      exact lawful.trans unmuted (lawful.report (.print _ line))
    · rw [same, decide_eq_false goesOn]
      exact lawful.trans unmuted (isLaw.resume _)

/-- A law of runs holds of the stops they come to, if it holds of every script that is played. -/
theorem IsLaw.answerStop
    (isLaw : IsLaw law)
    (plays :
      ∀ origin session kind location consumed,
        origin.step.1 = .break (.hit (.entry kind location consumed)) →
          law origin false session →
            law origin ((playScript kind location consumed session).1 = .abandoned)
              (playScript kind location consumed session).2) :
    HandlesBy law answerStop := by
  intro origin session reason stopped unbroken same
  have ending := isLaw.endAt origin session reason stopped unbroken same
  cases reason with
  | port direction number byte =>
      exact ending
  | hit reached =>
      cases reached with
      | countdown address =>
          exact ending
      | entry kind location consumed =>
          simp only [Run.answerStop]
          split
          · exact ending
          · exact plays origin session kind location consumed stopped
              (isLaw.step_reported unbroken same)

/-! ### Laws of commands -/

namespace IsCommandLaw

variable (isLaw : IsCommandLaw law)

include isLaw

/-- Such a law holds of every script of a breakpoint. -/
theorem playScript
    (kind : BreakKind)
    (location : Location)
    (consumed : Bool)
    (session : Session) :
    law session ((Run.playScript kind location consumed session).1 = .abandoned)
      (Run.playScript kind location consumed session).2 :=
  isLaw.toIsScriptLaw.playScript kind consumed
    (fun _ _ command _ => isLaw.commands isLaw.toIsLaw.endAt command) session

theorem handles : HandlesBy law answerStop :=
  isLaw.toIsLaw.answerStop fun _ session kind location consumed _ stepped =>
    lawful.trans stepped (isLaw.playScript kind location consumed session)

theorem obey
    (line : String)
    (session : Session) :
    ∃ played,
      law session (session.abandons line) played ∧ played.SameDuty (session.obey line).2 :=
  session.obey_obeys fun _ _ command _ => isLaw.commands isLaw.handles command

end IsCommandLaw

/-! ### Laws throughout -/

namespace IsLawThroughout

variable (isLaw : IsLawThroughout law)

include isLaw

theorem commands_obey
    {handle : StopHandler}
    (handles : HandlesBy law handle)
    (command : Command) :
    Obeys law (Operation.execute (run handle) command) :=
  execute_obeys (run_obeys isLaw.toIsLaw handles) fun edit _ => isLaw.edit edit

theorem isCommandLaw : IsCommandLaw law :=
  { isLaw.toIsScriptLaw with
    commands := isLaw.commands_obey
    runTo := fun target => isLaw.edit (.place .exec (.temporary target)) }

theorem handles : HandlesBy law answerStop :=
  isLaw.isCommandLaw.handles

omit lawful in
/-- What such a law implies holds throughout as well. -/
theorem imp
    {implied : Session → Bool → Session → Prop}
    (implies :
      ∀ {before isAbandoned after}, law before isAbandoned after → implied before isAbandoned after) :
    IsLawThroughout implied :=
  { isLaw.toIsLaw.imp implies with
    mute := fun session => implies (isLaw.mute session)
    unmute := fun session => implies (isLaw.unmute session)
    resume := fun session => implies (isLaw.resume session)
    edit := fun edit before after makes => implies (isLaw.edit edit before after makes) }

theorem obey
    (line : String)
    (session : Session) :
    ∃ played,
      law session (session.abandons line) played ∧ played.SameDuty (session.obey line).2 :=
  isLaw.isCommandLaw.obey line session

end IsLawThroughout

end Run

end Monitor8080
