import Monitor8080.Proofs.ScriptDeeds
namespace Monitor8080

/-!
# Laws under a licence

A relation may hold of what runs and scripts do on their own and of the edits
that some commands make, but not of all edits. It then holds of every line that
fits, as long as the scripts in force fit as well, which they go on to do.
-/

/-- Scripts are in force as long as the breakpoints are, while nothing comes to be pending. -/
theorem Licence.IsCarried.of_same
    {licence : Licence}
    {before after : Session}
    (carried : licence.IsCarried before)
    (breakpoints : after.monitor.sentry.breakpoints = before.monitor.sentry.breakpoints)
    (pending : after.monitor.sentry.pending? = before.monitor.sentry.pending?) :
    licence.IsCarried after := by
  cases carried with
  | anything all =>
      exact .anything all
  | entries idle scripts =>
      refine .entries (pending.trans idle) ?_
      rw [breakpoints]
      exact scripts

/-- What follows from two laws of scripts is one as well. -/
theorem Run.IsScriptLaw.combine
    {first second both : Session → Session → Prop}
    (isFirst : IsScriptLaw fun before _ after => first before after)
    (isSecond : IsScriptLaw fun before _ after => second before after)
    (follows : ∀ {before after}, first before after → second before after → both before after) :
    IsScriptLaw fun before _ after => both before after where
  clearError session := follows (isFirst.clearError session) (isSecond.clearError session)
  enter session := follows (isFirst.enter session) (isSecond.enter session)
  step session := follows (isFirst.step session) (isSecond.step session)
  stop session := follows (isFirst.stop session) (isSecond.stop session)
  removeTemporary session :=
    follows (isFirst.removeTemporary session) (isSecond.removeTemporary session)
  mute session := follows (isFirst.mute session) (isSecond.mute session)
  unmute session := follows (isFirst.unmute session) (isSecond.unmute session)
  resume session := follows (isFirst.resume session) (isSecond.resume session)

namespace Licence

variable {licence : Licence} {related : Session → Session → Prop}

/-- If the scripts in force fit before, they do after, and the two sessions are related. -/
def Binds (licence : Licence) (related : Session → Session → Prop) (before after : Session) : Prop :=
  licence.IsCarried before → licence.IsCarried after ∧ related before after

theorem binds_of_leads
    {before after : Session}
    (leads : licence.Leads before after)
    (holds : related before after) :
    licence.Binds related before after :=
  fun carried => ⟨(leads carried).1, holds⟩

/-- A change that leaves alone what is checked and what is pending. -/
theorem binds_of_same
    {before after : Session}
    (breakpoints : after.monitor.sentry.breakpoints = before.monitor.sentry.breakpoints)
    (pending : after.monitor.sentry.pending? = before.monitor.sentry.pending?)
    (holds : related before after) :
    licence.Binds related before after :=
  fun carried => ⟨carried.of_same breakpoints pending, holds⟩

instance [allows : Session.AllowsReports related] :
    Session.AllowsReports (licence.Binds related) where
  refl session := fun carried => ⟨carried, allows.refl session⟩
  trans binds bindsOn := fun carried =>
    have ⟨carriedOn, holds⟩ := binds carried
    have ⟨carriedToo, holdsOn⟩ := bindsOn carriedOn
    ⟨carriedToo, allows.trans holds holdsOn⟩
  report same := binds_of_same same.breakpoints same.pending? (allows.report same)

/--
A relation holds of what runs and scripts do on their own, and of the edits of
commands that fit. Such commands set breakpoints whose scripts fit.
-/
structure Upholds (licence : Licence) (related : Session → Session → Prop) : Prop where
  kept : licence.IsKept
  own : Run.IsScriptLaw fun before _ after => related before after
  edit :
    ∀ {commands text command edit before after},
      licence.fits commands →
      text ∈ commands →
      Command.parse text = .ok command →
      command.Permits edit →
      before.Makes edit after →
      related before after

namespace Upholds

open Operation Session

variable (upholds : licence.Upholds related)

include upholds

theorem isLaw : Run.IsScriptLaw fun before _ after => licence.Binds related before after :=
  upholds.kept.isLaw.combine upholds.own binds_of_leads

variable [allows : AllowsReports related]

/-- The commands of a script that fits are bound, if the runs are. -/
theorem commands_obey
    {runner : Runner}
    (runs : ∀ goal, Obeys (fun before _ after => licence.Binds related before after) (runner goal))
    {commands : List String}
    (fits : licence.fits commands) :
    ∀ text ∈ commands,
      ∀ command,
        Command.parse text = .ok command →
          Obeys (fun before _ after => licence.Binds related before after)
            (Operation.execute runner command) := by
  intro text member command parsed
  refine execute_obeys runs fun edit permits before after makes => ?_
  refine binds_of_leads (leads_of_does makes.does ?_ ?_)
    (upholds.edit fits member parsed permits makes)
  · exact upholds.kept.permitted commands text command edit fits member parsed permits
  · intro kind location same
    cases edit with
    | place placedKind placedAt =>
        cases same
        exact upholds.kept.placed commands text command kind location fits member parsed permits
    | _ =>
        cases same

theorem answerStop :
    Run.HandlesBy (fun before _ after => licence.Binds related before after) Run.answerStop := by
  have runs := Run.run_obeys upholds.isLaw.toIsLaw upholds.isLaw.toIsLaw.endAt
  refine upholds.isLaw.toIsLaw.answerStop ?_
  intro origin session kind location consumed stopped stepped carried
  -- The script fits since the step names an entry that was there before the step.
  have obeys := upholds.commands_obey runs (carried.fits_of_stop stopped)
  exact Composes.trans stepped (upholds.isLaw.playScript kind consumed obeys session) carried

theorem obey
    {line : String}
    (fits : licence.fits (Text.commandsOf (Text.trim line)))
    (session : Session) :
    licence.Binds related session (session.obey line).2 := by
  have runs := Run.run_obeys upholds.isLaw.toIsLaw upholds.answerStop
  obtain ⟨played, obeyed, same⟩ := session.obey_obeys (upholds.commands_obey runs fits)
  exact Composes.trans obeyed (AllowsReports.report same.toSameGuard)

end Upholds

end Licence

/-! ## Scripts that pass a test -/

/-- Commands that pass a test, and set breakpoints whose scripts do. -/
inductive AllCommands (passes : Command → Bool) : List String → Prop where
  | intro
      {commands : List String}
      (passing :
        ∀ text ∈ commands, ∀ command, Command.parse text = .ok command → passes command)
      (scripts :
        ∀ text ∈ commands,
          ∀ command kind location,
            Command.parse text = .ok command →
              command.Permits (.place kind location) → AllCommands passes location.commands) :
      AllCommands passes commands

theorem AllCommands.nil (passes : Command → Bool) : AllCommands passes [] :=
  .intro nofun nofun

/-- Anything is allowed by commands that pass a test. -/
def Licence.ofTest (passes : Command → Bool) : Licence :=
  ⟨fun _ => True, AllCommands passes⟩

theorem Licence.ofTest_isKept (passes : Command → Bool) : (ofTest passes).IsKept where
  basic _ _ := trivial
  permitted _ _ _ _ _ _ _ _ := trivial
  placed := by
    rintro commands text command kind location ⟨-, scripts⟩ member parsed permits
    exact scripts text member command kind location parsed permits

/-- A relation is upheld that holds of the edits of all commands that pass a test. -/
theorem Licence.ofTest_upholds
    {passes : Command → Bool}
    {related : Session → Session → Prop}
    (own : Run.IsScriptLaw fun before _ after => related before after)
    (edits :
      ∀ {command edit before after},
        passes command → command.Permits edit → before.Makes edit after → related before after) :
    (ofTest passes).Upholds related where
  kept := ofTest_isKept passes
  own := own
  edit := by
    rintro commands text command edit before after ⟨passing, -⟩ member parsed permits makes
    exact edits (passing text member command parsed) permits makes

end Monitor8080
