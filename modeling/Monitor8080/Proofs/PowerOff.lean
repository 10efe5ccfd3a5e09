import Monitor8080.Proofs.EnginePhases
import Monitor8080.Proofs.ScriptDeeds
namespace Monitor8080

/-!
# A machine without power

While the power is off no run makes a step, and all that changes registers,
cycles and bytes is an edit that a command makes by hand, or a reset. Only the
host can make a step then, which executes nothing but puts the engine into its
error phase: from there on the machine counts as powered.
-/

/-! ## Changes that no instruction makes -/

/-- A change of the machine's contents that no instruction makes. -/
inductive Retouch where
  | edit (edit : MachineEdit)
  | reset
  deriving Repr, DecidableEq

def Retouch.apply : Retouch → Machine → Machine
  | .edit change => fun machine => change.apply machine
  | .reset => Machine.reset

/-- Two machines whose registers, cycles, bytes and ports are the same, though not what is watched. -/
structure Machine.SameContents (before after : Machine) : Prop where
  cpu : ∃ interrupt, after.cpu = { before.cpu with pendingInterrupt := interrupt }
  memory : after.memory.Alike before.memory

/-- A machine comes from another one by some of the permitted changes. -/
inductive Machine.Retouched (permitted : Retouch → Prop) : Machine → Machine → Prop where
  | untouched {before after : Machine} (same : before.SameContents after) :
      Retouched permitted before after
  | touched
      {before middle after : Machine}
      {retouch : Retouch}
      (allowed : permitted retouch)
      (earlier : Retouched permitted before middle)
      (same : (retouch.apply middle).SameContents after) :
      Retouched permitted before after

namespace Machine

variable {permitted : Retouch → Prop} {before middle after : Machine}

@[refl] theorem SameContents.refl (machine : Machine) : machine.SameContents machine :=
  ⟨⟨machine.cpu.pendingInterrupt, rfl⟩, .refl _⟩

theorem SameContents.trans
    (same : before.SameContents middle)
    (sameNext : middle.SameContents after) :
    before.SameContents after := by
  obtain ⟨interrupt, cpu⟩ := same.cpu
  obtain ⟨later, cpuNext⟩ := sameNext.cpu
  exact ⟨⟨later, by rw [cpuNext, cpu]⟩, sameNext.memory.trans same.memory⟩

namespace Retouched

theorem refl (machine : Machine) : Retouched permitted machine machine :=
  .untouched (.refl machine)

theorem of_apply
    {retouch : Retouch}
    (allowed : permitted retouch)
    (machine : Machine) :
    Retouched permitted machine (retouch.apply machine) :=
  .touched allowed (.refl machine) (.refl _)

theorem trans
    (retouched : Retouched permitted before middle)
    (retouchedNext : Retouched permitted middle after) :
    Retouched permitted before after := by
  -- The induction is on the later changes; only the first of them follows on those before.
  induction retouchedNext with
  | untouched same =>
      cases retouched with
      | untouched earlier =>
          exact .untouched (earlier.trans same)
      | touched allowed earlier sameBefore =>
          exact .touched allowed earlier (sameBefore.trans same)
  | touched allowed earlier same inductionHypothesis =>
      exact .touched allowed inductionHypothesis same

theorem mono
    {fewer more : Retouch → Prop}
    (retouched : Retouched fewer before after)
    (included : ∀ retouch, fewer retouch → more retouch) :
    Retouched more before after := by
  induction retouched with
  | untouched same =>
      exact .untouched same
  | touched allowed earlier same inductionHypothesis =>
      exact .touched (included _ allowed) inductionHypothesis same

/-- No such change switches the power on. -/
theorem poweredOff
    (retouched : Retouched permitted before after)
    (off : before.cpu.phase = .poweredOff) :
    after.cpu.phase = .poweredOff := by
  induction retouched with
  | untouched same =>
      obtain ⟨interrupt, cpu⟩ := same.cpu
      rw [cpu]
      exact off
  | @touched middle after retouch allowed earlier same inductionHypothesis =>
      obtain ⟨interrupt, cpu⟩ := same.cpu
      rw [cpu]
      cases retouch with
      | edit edit =>
          rcases edit.apply_phase middle with unchanged | ⟨running, -⟩
          · exact unchanged.trans inductionHypothesis
          · rw [inductionHypothesis] at running
            cases running
      | reset =>
          exact if_pos inductionHypothesis

/-- Only a reset sets the cycles back. -/
theorem cycles
    (retouched : Retouched permitted before after)
    (noReset : ¬ permitted .reset) :
    after.cpu.cycles = before.cpu.cycles := by
  induction retouched with
  | untouched same =>
      obtain ⟨interrupt, cpu⟩ := same.cpu
      rw [cpu]
  | @touched middle after retouch allowed earlier same inductionHypothesis =>
      obtain ⟨interrupt, cpu⟩ := same.cpu
      rw [cpu, ← inductionHypothesis]
      cases retouch with
      | edit edit =>
          exact edit.apply_cycles middle
      | reset =>
          exact absurd allowed noReset

end Retouched

end Machine

/-! ## Lines -/

/-- A command in a line may make a change of the machine by hand. -/
def LineEdits (line : String) (edit : MachineEdit) : Prop :=
  ∃ text ∈ Text.commandsOf (Text.trim line),
    ∃ command, Command.parse text = .ok command ∧ command.Permits (.machine edit)

namespace Session

/-- While the power is off, the machine comes to what it comes to by permitted changes. -/
def RetouchedIfOff (permitted : Retouch → Prop) (before after : Session) : Prop :=
  before.machine.cpu.phase = .poweredOff →
    Machine.Retouched permitted before.machine after.machine

instance (permitted : Retouch → Prop) : AllowsReports (RetouchedIfOff permitted) where
  refl session := fun _ => .refl session.machine
  trans first second := fun off => (first off).trans (second ((first off).poweredOff off))
  report same := fun _ => by rw [same.machine]; exact .refl _

/-- A change of what is checked does not touch the machine's contents. -/
theorem Makes.retouched
    {permitted : Retouch → Prop}
    {before after : Session}
    {edit : Edit}
    (makes : before.Makes edit after)
    (allowed : ∀ byHand, edit = .machine byHand → permitted (.edit byHand)) :
    Machine.Retouched permitted before.machine after.machine := by
  cases makes with
  | machine byHand =>
      exact .of_apply (allowed byHand rfl) before.machine
  | @place _ kind location placed =>
      rw [(placeBreakpoint_ok placed).2.2]
      refine .untouched ⟨⟨before.machine.cpu.pendingInterrupt, ?_⟩, watchFor_alike ..⟩
      rw [watchFor_cpu]
  | remove address? =>
      obtain ⟨test, -, -, machine⟩ := before.removeBreakpoints_eq address?
      rw [machine]
      refine .untouched ⟨⟨before.machine.cpu.pendingInterrupt, ?_⟩, unwatchAll_alike ..⟩
      rw [unwatchAll_cpu]
  | arm count =>
      exact .refl _
  | checksum interval =>
      exact .refl _

/-- Without power, a line touches the machine by its edits alone. -/
theorem obey_retouched
    (session : Session)
    (line : String) :
    session.RetouchedIfOff
      (fun retouch => ∃ edit, retouch = .edit edit ∧ LineEdits line edit)
      (session.obey line).2 := by
  let permitted (retouch : Retouch) : Prop := ∃ edit, retouch = .edit edit ∧ LineEdits line edit
  -- Runs fail without power, so only the edits of the commands are left.
  have runs :
      ∀ goal,
        Operation.Obeys (fun before _ after => before.RetouchedIfOff permitted after)
          (Run.outermost goal) := by
    intro goal before off
    have unpowered : before.machine.cpu.isPowered = false := by
      simp [Cpu.isPowered, off]
    rw [Run.outermost, Run.run_of_not_isPowered unpowered]
    exact .refl before.machine
  have obeys :
      ∀ text ∈ Text.commandsOf (Text.trim line),
        ∀ command,
          Command.parse text = .ok command →
            Operation.Obeys (fun before _ after => before.RetouchedIfOff permitted after)
              (Operation.execute Run.outermost command) := by
    intro text member command parsed
    refine Operation.execute_obeys runs fun edit permits before after makes off => ?_
    refine makes.retouched fun byHand same => ?_
    rw [same] at permits
    exact ⟨byHand, rfl, text, member, command, parsed, permits⟩
  obtain ⟨played, retouched, same⟩ := session.obey_obeys obeys
  intro off
  rw [same.machine]
  exact retouched off

/-- Without power, a step executes nothing and puts the engine into its error phase. -/
theorem step_of_poweredOff
    {session : Session}
    (off : session.machine.cpu.phase = .poweredOff) :
    session.step.1 = .fault .poweredOff ∧
      session.step.2.machine = session.machine.setPhase .error := by
  have failed : (Core.step session.core).1 = .error .poweredOff := by
    rw [core, Core.step_of_poweredOff off]
  have executed := execute_of_failed failed
  refine ⟨step_fst_of_failed failed, ?_⟩
  rw [step_eq, concluded, executed]
  rfl

end Session

/-! ## What hosts do -/

/-- What a host may do with a session, short of switching the power. -/
inductive HostAct where
  | request (request : Request)
  | start
  | stop
  | requestStop
  | reset
  | noticeReset
  | interrupt (vector : UInt8)
  deriving Repr, DecidableEq

/-- Whether what a host does permits a change of the machine's contents. -/
def HostAct.Permits : HostAct → Retouch → Prop
  | .request (.line text), .edit edit => LineEdits text edit
  | .reset, .reset => True
  | _, _ => False

namespace Session

/-- The session after a host has done something. -/
def undergo (session : Session) : HostAct → Session
  | .request request => session.conduct [request]
  | .start => session.updateMachine Machine.start
  | .stop => session.updateMachine Machine.stop
  | .requestStop => session.updateMachine fun machine => { machine with stopRequested := true }
  | .reset => session.updateMachine Machine.reset
  | .noticeReset => session.noticeReset
  | .interrupt vector => session.noticeInterrupt vector

theorem undergo_line (session : Session) (text : String) :
    session.undergo (.request (.line text)) = (session.obey text).2 := by
  rw [undergo, conduct, conduct]

theorem undergo_step (session : Session) :
    session.undergo (.request .step) = session.step.2 := by
  rw [undergo, conduct, conduct]

theorem undergo_staysPowered
    (session : Session)
    (act : HostAct) :
    session.StaysPowered (session.undergo act) := by
  cases act with
  | request request =>
      cases request with
      | line text =>
          obtain ⟨played, powered, same⟩ := staysPowered_isLaw.obey text session
          rw [undergo_line]
          exact Composes.trans powered (AllowsReports.report same.toSameGuard)
      | step =>
          rw [undergo_step]
          exact staysPowered_isLaw.step session
  | start =>
      refine staysPowered_of_phase ?_
      rw [undergo, updateMachine, Machine.start]
      simp only
      split
      · exact .inr EnginePhase.noConfusion
      · exact .inl rfl
  | stop =>
      exact staysPowered_isLaw.stop session
  | reset =>
      intro powered
      have on : session.machine.cpu.phase ≠ .poweredOff := of_decide_eq_true powered
      simp [undergo, updateMachine, Machine.reset, Cpu.reset, Cpu.isPowered, on]
  | requestStop =>
      exact id
  | noticeReset =>
      exact id
  | interrupt vector =>
      exact id

/-- Without power, all that a host does to the machine but steps is what it permits. -/
theorem undergo_retouched
    {session : Session}
    (off : session.machine.cpu.phase = .poweredOff)
    {act : HostAct}
    (unstepped : act ≠ .request .step) :
    Machine.Retouched act.Permits session.machine (session.undergo act).machine := by
  cases act with
  | request request =>
      cases request with
      | line text =>
          rw [undergo_line]
          refine (session.obey_retouched text off).mono ?_
          rintro retouch ⟨edit, rfl, edits⟩
          exact edits
      | step =>
          exact absurd rfl unstepped
  | start =>
      have unready : session.machine.cpu.phase ≠ .ready := by
        rw [off]
        exact EnginePhase.noConfusion
      have sameCpu : session.machine.start.cpu = session.machine.cpu := by
        rw [Machine.start, if_neg unready]
      have sameMemory : session.machine.start.memory = session.machine.memory := by
        rw [Machine.start, if_neg unready]
      refine .untouched ⟨⟨session.machine.cpu.pendingInterrupt, sameCpu⟩, ?_⟩
      rw [undergo, updateMachine, sameMemory]
  | stop =>
      have idle : session.machine.cpu.phase ≠ .running := by
        rw [off]
        exact EnginePhase.noConfusion
      have same : session.machine.stop = session.machine := by
        rw [Machine.stop, if_neg idle]
      rw [undergo, updateMachine, same]
      exact .refl session.machine
  | requestStop =>
      exact .untouched ⟨⟨session.machine.cpu.pendingInterrupt, rfl⟩, .refl _⟩
  | reset =>
      have allowed : HostAct.reset.Permits .reset := trivial
      exact .of_apply allowed session.machine
  | noticeReset =>
      exact .refl session.machine
  | interrupt vector =>
      exact .untouched ⟨⟨_, rfl⟩, .refl _⟩

def undergoAll (session : Session) (acts : List HostAct) : Session :=
  acts.foldl undergo session

theorem undergoAll_staysPowered
    (session : Session)
    (acts : List HostAct) :
    session.StaysPowered (session.undergoAll acts) := by
  induction acts generalizing session with
  | nil =>
      exact id
  | cons act rest inductionHypothesis =>
      exact Composes.trans (session.undergo_staysPowered act) (inductionHypothesis _)

theorem undergoAll_retouched
    {session : Session}
    (off : session.machine.cpu.phase = .poweredOff)
    {acts : List HostAct}
    (unstepped : .request .step ∉ acts) :
    Machine.Retouched (fun retouch => ∃ act ∈ acts, act.Permits retouch) session.machine
      (session.undergoAll acts).machine := by
  induction acts generalizing session with
  | nil =>
      exact .refl session.machine
  | cons act rest inductionHypothesis =>
      rw [List.mem_cons, not_or] at unstepped
      have first := undergo_retouched off (Ne.symm unstepped.1)
      have later := inductionHypothesis (first.poweredOff off) unstepped.2
      refine (first.mono ?_).trans (later.mono ?_)
      · exact fun retouch allowed => ⟨act, List.mem_cons_self, allowed⟩
      · rintro retouch ⟨other, member, allowed⟩
        exact ⟨other, List.mem_cons_of_mem act member, allowed⟩

/-- A step among the acts of a host ends the powered-off phase for good. -/
theorem undergoAll_isPowered_of_step
    {session : Session}
    {acts : List HostAct}
    (stepped : .request .step ∈ acts) :
    (session.undergoAll acts).machine.cpu.isPowered := by
  obtain ⟨earlier, later, rfl⟩ := List.append_of_mem stepped
  rw [undergoAll, List.foldl_append, List.foldl_cons, undergo_step]
  refine undergoAll_staysPowered _ later ?_
  generalize List.foldl undergo session earlier = here
  by_cases off : here.machine.cpu.phase = .poweredOff
  · rw [(step_of_poweredOff off).2]
    rfl
  · exact staysPowered_isLaw.step here (decide_eq_true off)

end Session

/--
A machine without power stays without it exactly as long as no host makes a
step under the monitor. Until then what becomes of it are edits that commands
make by hand, and resets. The step executes nothing, but it puts the engine
into its error phase.
-/
theorem power_stays_off_until_step
    {session : Session}
    (off : session.machine.cpu.phase = .poweredOff) :
    (∀ acts,
      (session.undergoAll acts).machine.cpu.phase = .poweredOff ↔ .request .step ∉ acts) ∧
      (∀ acts,
        .request .step ∉ acts →
          Machine.Retouched (fun retouch => ∃ act ∈ acts, act.Permits retouch) session.machine
              (session.undergoAll acts).machine ∧
            (.reset ∉ acts →
              (session.undergoAll acts).machine.cpu.cycles = session.machine.cpu.cycles)) ∧
      session.step.1 = .fault .poweredOff ∧
      session.step.2.machine = session.machine.setPhase .error := by
  refine ⟨?_, ?_, Session.step_of_poweredOff off⟩
  · intro acts
    constructor
    · intro offStill stepped
      have powered : (session.undergoAll acts).machine.cpu.isPowered :=
        Session.undergoAll_isPowered_of_step stepped
      exact of_decide_eq_true powered offStill
    · exact fun unstepped => (Session.undergoAll_retouched off unstepped).poweredOff off
  · intro acts unstepped
    have retouched := Session.undergoAll_retouched off unstepped
    refine ⟨retouched, fun unreset => retouched.cycles ?_⟩
    rintro ⟨act, member, allowed⟩
    cases act with
    | reset =>
        exact unreset member
    | request request =>
        cases request <;> exact allowed
    | _ =>
        exact allowed

/-- Starting a machine without power and going on leaves it without power. -/
theorem power_stays_off_when_started :
    let session := Session.fresh .default Machine.initial.powerOff
    (session.undergoAll [.start, .request (.line "g"), .reset]).machine.cpu.phase =
      .poweredOff := by
  intro session
  have stays := power_stays_off_until_step (show session.machine.cpu.phase = .poweredOff from rfl)
  refine (stays.1 _).mpr ?_
  decide

/-- After one step without power, the next one executes an instruction. -/
theorem second_step_without_power_executes :
    let session :=
      (Session.fresh .default Machine.initial.powerOff).undergoAll
        [.request .step, .request .step]
    session.machine.cpu.phase = .error ∧ session.pc = 1 ∧ session.machine.cpu.cycles = 4 := by
  decide +kernel

end Monitor8080
