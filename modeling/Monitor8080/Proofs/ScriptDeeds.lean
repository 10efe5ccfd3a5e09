import Monitor8080.Proofs.Chronicle
import Monitor8080.Proofs.RunLaws
namespace Monitor8080

/-!
# The deeds of runs, scripts and lines

A run makes steps, and what becomes of a stop may be the script of a
breakpoint, with commands and runs of its own. All of it comes down to deeds,
and so does what an operator makes of a session, line by line. Which breakpoints
are placed and which countdowns armed is up to the commands: a licence says
which deeds are allowed if every line and every script fits it.
-/

/-- Whether a deed neither places a breakpoint nor arms the countdown, so that no command is needed for it. -/
def Deed.isBasic : Deed → Bool
  | .place _ _ => false
  | .arm _ => false
  | _ => true

/-- What an edit comes down to. -/
def Edit.deed : Edit → Deed
  | .machine _ => .adjust
  | .place kind location => .place kind location
  | .remove address? => .remove address?
  | .arm count => .arm count
  | .checksum _ => .adjust

/-! ## Edits -/

theorem watches_withPortBreaks
    (memory : Memory)
    (direction : PortDirection)
    (ports : List UInt8)
    (kind : Access) :
    (memory.withPortBreaks direction ports).watches kind = memory.watches kind := by
  cases direction <;> cases kind <;> rfl

namespace MachineEdit

/-- No edit of the machine watches or releases an address. -/
theorem apply_watches
    (edit : MachineEdit)
    (machine : Machine)
    (kind : Access) :
    (edit.apply machine).memory.watches kind = machine.memory.watches kind := by
  cases edit with
  | portBreaks direction ports =>
      exact watches_withPortBreaks ..
  | halt =>
      rw [apply]
      rcases machine.stop_cases with ⟨-, same⟩ | ⟨-, ready⟩
      · rw [same]
      · rw [ready]
        rfl
  | byte address value =>
      cases kind <;> rfl
  | word address value =>
      cases kind <;> rfl
  | output port value =>
      cases kind <;> rfl
  | register name value =>
      rfl
  | flag name value =>
      rfl
  | speed count =>
      rfl

/-- No edit of the machine takes time. -/
theorem apply_cycles
    (edit : MachineEdit)
    (machine : Machine) :
    (edit.apply machine).cpu.cycles = machine.cpu.cycles := by
  cases edit with
  | register name value =>
      cases name <;> rfl
  | flag name value =>
      cases name <;> rfl
  | halt =>
      rw [apply]
      rcases machine.stop_cases with ⟨-, same⟩ | ⟨-, ready⟩
      · rw [same]
      · rw [ready]
        rfl
  | _ =>
      rfl

end MachineEdit

namespace Session

/-- What an edit makes is a deed. -/
theorem Makes.does
    {before after : Session}
    {edit : Edit}
    (makes : before.Makes edit after) :
    before.Does edit.deed after := by
  cases makes with
  | machine edit =>
      refine .adjust ⟨rfl, rfl, ?_, ?_⟩
      · exact edit.apply_watches before.machine
      · exact edit.apply_cycles before.machine
  | place placed =>
      exact .place placed
  | remove address? =>
      exact .remove before address?
  | arm count =>
      exact .arm before count
  | checksum interval =>
      refine .adjust ⟨?_, ?_, fun _ => rfl, rfl⟩
      · exact Monitor.settleHistory_breakpoints _
      · exact Monitor.settleHistory_pending? _

end Session

/-! ## The engine -/

namespace Session

/-- A change of the engine phase alone is an adjustment. -/
theorem Adjusts.of_setPhase
    {before after : Session}
    (monitor : before.SameGuard ⟨after.monitor, before.machine⟩)
    (machine :
      after.machine = before.machine ∨
        ∃ phase, after.machine = before.machine.setPhase phase) :
    before.Adjusts after := by
  refine ⟨monitor.breakpoints, monitor.pending?, ?_, ?_⟩
  · intro kind
    rcases machine with same | ⟨phase, changed⟩
    · rw [same]
    · rw [changed]
      rfl
  · rcases machine with same | ⟨phase, changed⟩
    · rw [same]
    · rw [changed]
      rfl

theorem Does.clearError (session : Session) : session.Does .adjust (Run.clearError session) := by
  have sameDuty : session.SameDuty ⟨(Run.clearError session).monitor, session.machine⟩ :=
    .of_sentry rfl (Run.clearError_config session) (Run.clearError_sentry session)
      (Run.clearError_keepsNames session)
  refine .adjust (.of_setPhase sameDuty.toSameGuard ?_)
  unfold Run.clearError
  split
  · exact .inr ⟨.ready, rfl⟩
  · exact .inl rfl

theorem Does.stop (session : Session) :
    session.Does .adjust (session.updateMachine Machine.stop) := by
  refine .adjust (.of_setPhase (.refl _) ?_)
  rcases session.machine.stop_cases with ⟨-, same⟩ | ⟨-, ready⟩
  · exact .inl same
  · exact .inr ⟨.ready, ready⟩

end Session

/-! ## Licences -/

/-- Which deeds are allowed, and which commands fit into a line or a script. -/
structure Licence where
  allows : Deed → Prop
  fits : List String → Prop

namespace Licence

def anything : Licence :=
  ⟨fun _ => True, fun _ => True⟩

/-- Commands that fit need no deeds but allowed ones, and set breakpoints whose scripts fit. -/
structure IsKept (licence : Licence) : Prop where
  basic : ∀ deed : Deed, deed.isBasic → licence.allows deed
  permitted :
    ∀ commands text command edit,
      licence.fits commands →
      text ∈ commands →
      Command.parse text = .ok command →
      command.Permits edit →
      licence.allows edit.deed
  placed :
    ∀ commands text command kind location,
      licence.fits commands →
      text ∈ commands →
      Command.parse text = .ok command →
      command.Permits (.place kind location) →
      licence.fits location.commands

/-- That anything may be done is kept by everything. -/
theorem anything_isKept : anything.IsKept :=
  ⟨fun _ _ => trivial, fun _ _ _ _ _ _ _ _ => trivial, fun _ _ _ _ _ _ _ _ _ => trivial⟩

/-- The scripts that breakpoints carry fit, as any do or as nothing is pending that was not set. -/
inductive IsCarried (licence : Licence) (session : Session) : Prop where
  | anything (all : ∀ commands, licence.fits commands)
  | entries
      (idle : session.monitor.sentry.pending? = none)
      (scripts :
        ∀ kind,
          ∀ location ∈ session.monitor.sentry.breakpoints.entries kind,
            licence.fits location.commands)

/-- Allowed deeds lead from one session to another, if all scripts in force fit. -/
def Leads (licence : Licence) (before after : Session) : Prop :=
  licence.IsCarried before →
    licence.IsCarried after ∧
      ∃ moments,
        Chronicle before moments after ∧ ∀ moment ∈ moments, licence.allows moment.deed

variable {licence : Licence}

/-- A deed brings no script into force, unless it places a breakpoint. -/
theorem IsCarried.does
    {before after : Session}
    {deed : Deed}
    (carried : licence.IsCarried before)
    (does : before.Does deed after)
    (fits : ∀ kind location, deed = .place kind location → licence.fits location.commands) :
    licence.IsCarried after := by
  cases carried with
  | anything all =>
      exact .anything all
  | entries idle scripts =>
      refine .entries (does.idle idle) fun kind location member => ?_
      by_cases places : ∃ placedKind placedAt, deed = .place placedKind placedAt
      · obtain ⟨placedKind, placedAt, rfl⟩ := places
        cases does with
        | place placed =>
            obtain ⟨added, -⟩ := Session.placeBreakpoint_ok placed
            rcases Breakpoints.mem_add added member with earlier | ⟨rfl, rfl⟩
            · exact scripts kind location earlier
            · exact fits kind location rfl
      · have unplaced : ∀ placedKind placedAt, deed ≠ .place placedKind placedAt :=
          fun placedKind placedAt same => places ⟨placedKind, placedAt, same⟩
        exact scripts kind location ((does.entries_sublist unplaced kind).subset member)

/-- The breakpoint that a step stops at carries a script that fits. -/
theorem IsCarried.fits_of_stop
    {session : Session}
    (carried : licence.IsCarried session)
    {kind : BreakKind}
    {location : Location}
    {consumed : Bool}
    (stopped : session.step.1 = .break (.hit (.entry kind location consumed))) :
    licence.fits location.commands := by
  cases carried with
  | anything all =>
      exact all location.commands
  | entries idle scripts =>
      exact scripts kind location (Session.step_names idle stopped)

/-- A deed that is allowed, with a script that fits, leads on under a licence. -/
theorem leads_of_does
    {before after : Session}
    {deed : Deed}
    (does : before.Does deed after)
    (allowed : licence.allows deed)
    (fits : ∀ kind location, deed = .place kind location → licence.fits location.commands) :
    licence.Leads before after := by
  intro carried
  refine ⟨carried.does does fits, _, .single does, ?_⟩
  intro moment member
  rw [List.mem_singleton.mp member]
  exact allowed

theorem leads_refl (session : Session) : licence.Leads session session :=
  fun carried => ⟨carried, [], .nil session, fun _ member => absurd member List.not_mem_nil⟩

/-- What leads on under a licence does so over two changes in turn. -/
theorem Leads.trans
    {first second third : Session}
    (leads : licence.Leads first second)
    (leadsOn : licence.Leads second third) :
    licence.Leads first third := by
  intro carried
  obtain ⟨carriedOn, earlier, earlierDeeds, earlierAllowed⟩ := leads carried
  obtain ⟨carriedToo, later, laterDeeds, laterAllowed⟩ := leadsOn carriedOn
  refine ⟨carriedToo, earlier ++ later, earlierDeeds.append laterDeeds, ?_⟩
  intro moment member
  rcases List.mem_append.mp member with inEarlier | inLater
  · exact earlierAllowed moment inEarlier
  · exact laterAllowed moment inLater

section Kept

variable (kept : licence.IsKept)

include kept

/-- The deeds of every run are allowed under a licence that is kept. -/
theorem IsKept.leads_of_basic
    {before after : Session}
    {deed : Deed}
    (does : before.Does deed after)
    (basic : deed.isBasic) :
    licence.Leads before after := by
  refine leads_of_does does (kept.basic deed basic) ?_
  rintro kind location rfl
  cases basic

/-- Reports are allowed under every licence. -/
theorem IsKept.leads_of_sameGuard
    {before after : Session}
    (same : before.SameGuard after) :
    licence.Leads before after :=
  kept.leads_of_basic (.adjust same.adjusts) rfl

end Kept

/-- What leads by a licence that is kept is a law of operations. -/
theorem IsKept.lawful (kept : licence.IsKept) :
    Session.LawfulReports fun before _ after => licence.Leads before after where
  refl := leads_refl
  trans := Leads.trans
  report same := kept.leads_of_sameGuard same.toSameGuard

end Licence

/-! ## Runs and scripts -/

section Kept

variable {licence : Licence} (kept : licence.IsKept)

include kept

open Operation Session

/-- What runs and scripts do on their own comes down to allowed deeds. -/
theorem Licence.IsKept.isLaw :
    Run.IsScriptLaw fun before _ after => licence.Leads before after where
  clearError session := kept.leads_of_basic (.clearError session) rfl
  enter session := kept.leads_of_basic (.enter session) rfl
  step session := kept.leads_of_basic (.step session) rfl
  stop session := kept.leads_of_basic (.stop session) rfl
  removeTemporary session := kept.leads_of_basic (.removeTemporary session) rfl
  mute session := kept.leads_of_basic (.mute session) rfl
  unmute session := kept.leads_of_basic (.unmute session) rfl
  resume session := kept.leads_of_basic (.resume session) rfl

/-- The commands of a script that fits come down to allowed deeds, if the runs do. -/
theorem Licence.IsKept.commands_obey
    {runner : Runner}
    (runs : ∀ goal, Obeys (fun before _ after => licence.Leads before after) (runner goal))
    {commands : List String}
    (fits : licence.fits commands) :
    ∀ text ∈ commands,
      ∀ command,
        Command.parse text = .ok command →
          Obeys (fun before _ after => licence.Leads before after)
            (Operation.execute runner command) := by
  have lawful := kept.lawful
  intro text member command parsed
  refine execute_obeys runs fun edit permits before after makes => ?_
  refine Licence.leads_of_does makes.does ?_ ?_
  · exact kept.permitted commands text command edit fits member parsed permits
  · intro kind location same
    cases edit with
    | place placedKind placedAt =>
        cases same
        exact kept.placed commands text command kind location fits member parsed permits
    | _ =>
        cases same

/-- A stop that is answered leads on under a licence, its script being one that fits. -/
theorem Licence.IsKept.answerStop :
    Run.HandlesBy (fun before _ after => licence.Leads before after) Run.answerStop := by
  have lawful := kept.lawful
  have runs := Run.run_obeys kept.isLaw.toIsLaw kept.isLaw.toIsLaw.endAt
  refine kept.isLaw.toIsLaw.answerStop ?_
  intro origin session kind location consumed stopped stepped carried
  -- The script fits since the step names an entry that was there before the step.
  have obeys := kept.commands_obey runs (carried.fits_of_stop stopped)
  exact stepped.trans (kept.isLaw.playScript kind consumed obeys session) carried

/-! ## Lines -/

/-- A line that fits leads on under a licence. -/
theorem Licence.IsKept.obey_leads
    {line : String}
    (fits : licence.fits (Text.commandsOf (Text.trim line)))
    (session : Session) :
    licence.Leads session (session.obey line).2 := by
  have lawful := kept.lawful
  have runs := Run.run_obeys kept.isLaw.toIsLaw kept.answerStop
  obtain ⟨played, leads, same⟩ := session.obey_obeys (kept.commands_obey runs fits)
  exact leads.trans (kept.leads_of_sameGuard same.toSameGuard)

end Kept

/-- What is done with a session from outside: a line of the operator, or one step. -/
inductive Request where
  | line (text : String)
  | step
  deriving Repr, DecidableEq

namespace Session

/-- The session after some requests, one after the other. -/
def conduct (session : Session) : List Request → Session
  | [] => session
  | .line text :: rest => conduct (session.obey text).2 rest
  | .step :: rest => conduct session.step.2 rest

end Session

/-- Requests whose lines fit come down to allowed deeds. -/
theorem Licence.IsKept.conduct_leads
    {licence : Licence}
    (kept : licence.IsKept)
    (session : Session)
    (requests : List Request)
    (fits :
      ∀ text, .line text ∈ requests → licence.fits (Text.commandsOf (Text.trim text))) :
    licence.Leads session (session.conduct requests) := by
  induction requests generalizing session with
  | nil =>
      exact leads_refl session
  | cons request rest inductionHypothesis =>
      have later :=
        fun next : Session =>
          inductionHypothesis next fun text member => fits text (List.mem_cons_of_mem _ member)
      cases request with
      | line text =>
          have obeyed := kept.obey_leads (fits text List.mem_cons_self) session
          rw [Session.conduct]
          exact obeyed.trans (later _)
      | step =>
          have stepped := kept.isLaw.step session
          rw [Session.conduct]
          exact stepped.trans (later _)

/-- What operators and hosts ask for leads on by deeds. -/
theorem Session.conduct_leads
    (session : Session)
    (requests : List Request) :
    session.Leads (session.conduct requests) := by
  have leads :=
    Licence.anything_isKept.conduct_leads session requests fun _ _ => trivial
  obtain ⟨-, moments, chronicle, -⟩ := leads (.anything fun _ => trivial)
  exact ⟨moments, chronicle⟩

end Monitor8080
