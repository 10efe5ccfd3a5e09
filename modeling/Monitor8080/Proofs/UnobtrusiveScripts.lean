import Monitor8080.Proofs.NestedRuns
namespace Monitor8080

/-!
# Scripts that leave a run alone

A script that neither runs the machine nor touches its registers nor removes
breakpoints, and sets none whose scripts do, leaves the run that plays it where
it is: with the same program counter, and with everything checked that was.
-/

open Operation

/-- Whether a command neither runs the machine nor touches its registers nor removes breakpoints. -/
def Command.isUnobtrusive : Command → Bool
  | .go _ | .stepPast _ | .trace _ _ => false
  | .register _ _ | .showRegisters => false
  | .removeBreakpoints _ => false
  | _ => true

/-- Commands that are unobtrusive, and set breakpoints whose scripts are. -/
inductive IsUnobtrusive : List String → Prop where
  | intro
      {commands : List String}
      (unobtrusive :
        ∀ text ∈ commands,
          ∀ command, Command.parse text = .ok command → command.isUnobtrusive)
      (scripts :
        ∀ text ∈ commands,
          ∀ command kind location,
            Command.parse text = .ok command →
              command.Permits (.place kind location) → IsUnobtrusive location.commands) :
      IsUnobtrusive commands

theorem IsUnobtrusive.nil : IsUnobtrusive [] :=
  .intro nofun nofun

/-- The scripts of all breakpoints are unobtrusive. -/
def Breakpoints.AreUnobtrusive (breakpoints : Breakpoints) : Prop :=
  ∀ kind, ∀ location ∈ breakpoints.entries kind, IsUnobtrusive location.commands

theorem Breakpoints.AreUnobtrusive.mono
    {fewer more : Breakpoints}
    (unobtrusive : more.AreUnobtrusive)
    (included : ∀ kind, fewer.entries kind ⊆ more.entries kind) :
    fewer.AreUnobtrusive :=
  fun kind location member => unobtrusive kind location (included kind member)

theorem Command.ofCommand?_of_isUnobtrusive
    {command : Command}
    (unobtrusive : command.isUnobtrusive) :
    RunCommand.ofCommand? command = none := by
  cases command with
  | go address? =>
      cases unobtrusive
  | stepPast withRegisters =>
      cases unobtrusive
  | trace detail count? =>
      cases unobtrusive
  | _ =>
      rfl

/-- Only setting a register by hand moves the program counter. -/
theorem MachineEdit.apply_pc
    {edit : MachineEdit}
    (noRegister : ∀ name value, edit ≠ .register name value)
    (machine : Machine) :
    (edit.apply machine).cpu.pc = machine.cpu.pc := by
  cases edit with
  | register name value =>
      exact absurd rfl (noRegister name value)
  | flag name value =>
      cases name <;> rfl
  | halt =>
      rw [apply]
      rcases machine.stop_cases with ⟨-, same⟩ | ⟨-, ready⟩
      · rw [same]
      · rw [ready]
        rfl
  | _ =>
      rfl

namespace Session

/--
The program counter is where it was, no breakpoint is gone, and what holds the
breakpoints back is the same. Scripts that are added are unobtrusive if all
were that were there before.
-/
structure LeavesAlone (before after : Session) : Prop where
  pc : after.pc = before.pc
  pending? : after.monitor.sentry.pending? = before.monitor.sentry.pending?
  muting :
    after.monitor.sentry.breakpoints.muting = before.monitor.sentry.breakpoints.muting
  excused? :
    after.monitor.sentry.breakpoints.excused? = before.monitor.sentry.breakpoints.excused?
  entries :
    ∀ kind,
      before.monitor.sentry.breakpoints.entries kind ⊆
        after.monitor.sentry.breakpoints.entries kind
  unobtrusive :
    before.monitor.sentry.breakpoints.AreUnobtrusive →
      after.monitor.sentry.breakpoints.AreUnobtrusive

theorem LeavesAlone.of_breakpoints
    {before after : Session}
    (pc : after.pc = before.pc)
    (pending? : after.monitor.sentry.pending? = before.monitor.sentry.pending?)
    (breakpoints :
      after.monitor.sentry.breakpoints = before.monitor.sentry.breakpoints) :
    before.LeavesAlone after where
  pc := pc
  pending? := pending?
  muting := by rw [breakpoints]
  excused? := by rw [breakpoints]
  entries kind := by rw [breakpoints]; exact List.Subset.refl _
  unobtrusive unobtrusive := by rwa [breakpoints]

instance : AllowsReports LeavesAlone where
  refl session := .of_breakpoints rfl rfl rfl
  trans first second :=
    { pc := second.pc.trans first.pc
      pending? := second.pending?.trans first.pending?
      muting := second.muting.trans first.muting
      excused? := second.excused?.trans first.excused?
      entries := fun kind => List.Subset.trans (first.entries kind) (second.entries kind)
      unobtrusive := second.unobtrusive ∘ first.unobtrusive }
  report same :=
    .of_breakpoints (by rw [Session.pc, same.machine, Session.pc]) same.pending? same.breakpoints

/-- Placing a breakpoint with an unobtrusive script leaves the program alone. -/
theorem LeavesAlone.of_placeBreakpoint
    {before after : Session}
    {kind : BreakKind}
    {location : Location}
    (placed : before.placeBreakpoint kind location = .ok after)
    (unobtrusive : IsUnobtrusive location.commands) :
    before.LeavesAlone after := by
  obtain ⟨added, pending, machine⟩ := placeBreakpoint_ok placed
  obtain ⟨-, muting, excused⟩ := Breakpoints.add_restraints added
  refine
    { pc := ?_
      pending? := pending
      muting := muting
      excused? := excused
      entries := fun other entry member => ?_
      unobtrusive := fun earlier other entry member => ?_ }
  · rw [Session.pc, machine, watchFor_cpu, Session.pc]
  · rcases Breakpoints.add_cases added with same | more
    · rwa [same]
    · rw [more]
      by_cases isKind : other = kind
      · subst other
        rw [Breakpoints.entries_withEntries]
        exact List.mem_append_left _ member
      · rwa [Breakpoints.entries_withEntries_of_ne isKind]
  · rcases Breakpoints.mem_add added member with isEarlier | ⟨-, rfl⟩
    · exact earlier other entry isEarlier
    · exact unobtrusive

/-- What an unobtrusive command may do beside running leaves the program alone. -/
theorem Makes.leavesAlone
    {before after : Session}
    {edit : Edit}
    {command : Command}
    (makes : before.Makes edit after)
    (permits : command.Permits edit)
    (unobtrusive : command.isUnobtrusive)
    (scripts :
      ∀ kind location,
        command.Permits (.place kind location) → IsUnobtrusive location.commands) :
    before.LeavesAlone after := by
  cases makes with
  | machine edit =>
      refine .of_breakpoints (edit.apply_pc ?_ before.machine) rfl rfl
      rintro name value rfl
      cases permits
      cases unobtrusive
  | place placed =>
      exact .of_placeBreakpoint placed (scripts _ _ permits)
  | remove address? =>
      cases permits <;> cases unobtrusive
  | arm count =>
      have breakpoints := before.startCountdown_breakpoints count
      refine
        { pc := rfl
          pending? := Monitor.settleHistory_pending? _
          muting := by rw [breakpoints]; rfl
          excused? := by rw [breakpoints]; rfl
          entries := fun kind entry member => ?_
          unobtrusive := fun earlier kind entry member => earlier kind entry ?_ }
      · rwa [breakpoints, Breakpoints.entries_startCountdown]
      · rwa [breakpoints, Breakpoints.entries_startCountdown] at member
  | checksum interval =>
      exact
        .of_breakpoints rfl (Monitor.settleHistory_pending? _)
          (Monitor.settleHistory_breakpoints _)

/-! ## Scripts -/

/-- The commands of an unobtrusive script leave the program alone, as none of them runs it. -/
theorem commands_leaveAlone
    {commands : List String}
    (script : IsUnobtrusive commands) :
    ∀ text ∈ commands,
      ∀ command,
        Command.parse text = .ok command →
          Obeys (fun before _ after => before.LeavesAlone after)
            (Operation.execute Run.nested command) := by
  obtain ⟨unobtrusive, scripts⟩ := script
  intro text member command parsed
  have isUnobtrusive := unobtrusive text member command parsed
  rw [RunCommand.execute_of_ofCommand?_eq_none
    (Command.ofCommand?_of_isUnobtrusive isUnobtrusive) Run.nested fun _ => pure ()]
  refine execute_obeys (fun _ => .value ()) fun edit permits before after makes => ?_
  exact
    makes.leavesAlone permits isUnobtrusive fun kind location =>
      scripts text member command kind location parsed

theorem script_leavesAlone
    {commands : List String}
    (script : IsUnobtrusive commands)
    (session : Session) :
    session.LeavesAlone (Script.execute Run.nested commands session).2 :=
  Script.execute_obeys commands (commands_leaveAlone script) session

/-- Unmuting after what was left alone while muted makes up for the muting. -/
theorem LeavesAlone.unmute
    {before after : Session}
    (played : before.mute.LeavesAlone after) :
    before.LeavesAlone after.unmute where
  pc := played.pc
  pending? := played.pending?
  muting := by
    change after.monitor.sentry.breakpoints.muting - 1 = _
    rw [played.muting]
    rfl
  excused? := played.excused?
  entries kind := by simpa using played.entries kind
  unobtrusive := by simpa [Breakpoints.AreUnobtrusive] using played.unobtrusive

end Session

namespace Run

/-! ## Stops -/

/--
What becomes of a stop leaves the program counter and the breakpoints. If the
run goes on, no temporary breakpoint was reached, and a fetch that was refused
is excused.
-/
structure Passes (reason : Stop) (before : Session) (reaction : Course × Session) : Prop where
  pc : reaction.2.pc = before.pc
  entries :
    ∀ kind,
      before.monitor.sentry.breakpoints.entries kind ⊆
        reaction.2.monitor.sentry.breakpoints.entries kind
  resumes :
    reaction.1 = .goesOn →
      ∃ kind location after,
        reason = .hit (.entry kind location false) ∧
          before.LeavesAlone after ∧
          reaction.2 = if kind = .exec then after.excuseHere else after

theorem endAt_passes (reason : Stop) (session : Session) :
    Passes reason session (endAt reason session) := by
  obtain ⟨ends, same⟩ := endAt_spec reason session
  refine ⟨?_, ?_, fun goesOn => absurd (ends.symm.trans goesOn) Course.noConfusion⟩
  · rw [Session.pc, same.machine, Session.pc]
  · intro kind
    rw [same.breakpoints]
    exact List.Subset.refl _

theorem playScript_passes
    (kind : BreakKind)
    {location : Location}
    (script : IsUnobtrusive location.commands)
    (consumed : Bool)
    (session : Session) :
    Passes (.hit (.entry kind location consumed)) session
      (playScript kind location consumed session) := by
  have played := Session.script_leavesAlone script session.mute
  have unmuted := played.unmute
  unfold playScript
  simp only
  split
  · -- The script that is abandoned leaves the breakpoints muted.
    exact ⟨played.pc, fun other => by simpa using played.entries other, nofun⟩
  · split
    · exact ⟨unmuted.pc, unmuted.entries, nofun⟩
    · split
      · exact ⟨unmuted.pc, unmuted.entries, nofun⟩
      · rename_i unconsumed
        rw [Bool.not_eq_true] at unconsumed
        subst consumed
        split
        · rename_i isExec
          refine ⟨unmuted.pc, fun other => by simpa using unmuted.entries other, fun _ => ?_⟩
          exact ⟨kind, location, _, rfl, unmuted, (if_pos isExec).symm⟩
        · rename_i notExec
          exact
            ⟨unmuted.pc, unmuted.entries,
              fun _ => ⟨kind, location, _, rfl, unmuted, (if_neg notExec).symm⟩⟩

/-- What becomes of a stop at an entry whose script is unobtrusive. -/
theorem answerStop_passes
    {breakpoints : Breakpoints}
    (unobtrusive : breakpoints.AreUnobtrusive)
    {reason : Stop}
    (named : reason.NamesEntryOf breakpoints)
    (session : Session) :
    Passes reason session (answerStop reason session) := by
  cases reason with
  | port direction number byte =>
      exact endAt_passes _ session
  | hit reached =>
      cases reached with
      | countdown address =>
          exact endAt_passes _ session
      | entry kind location consumed =>
          simp only [answerStop]
          split
          · exact endAt_passes _ session
          · exact playScript_passes kind (unobtrusive kind location named) consumed session

end Run
end Monitor8080
