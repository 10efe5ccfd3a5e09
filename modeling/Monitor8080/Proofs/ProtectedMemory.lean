import Monitor8080.Proofs.ControlTransfers
import Monitor8080.Proofs.LicensedLaws
import Monitor8080.Proofs.PowerOff
import Monitor8080.Proofs.RunLimit
namespace Monitor8080

/-!
# Memory that cannot be written

All that the processor writes goes through its bus, which passes over read-only
blocks and those where nothing is mapped. So no step alters a byte there or the
type of a block, and no run does, unless a script edits memory by hand.
-/

/-! ## Memory -/

namespace Memory

/-- An address is in a read-only block, or in one where nothing is mapped. -/
def IsProtected (memory : Memory) (address : UInt16) : Prop :=
  memory.blockKind address = .rom ∨ memory.blockKind address = .unmapped

theorem isProtected_iff {memory : Memory} {address : UInt16} :
    memory.IsProtected address ↔ (memory.blockKind address).isWritable = false := by
  unfold IsProtected
  cases memory.blockKind address <;> decide

/-- Every block has the type that it had, and every protected address the byte that it had. -/
structure KeepsProtected (before after : Memory) : Prop where
  blocks : after.blocks = before.blocks
  bytes : ∀ address, before.IsProtected address → after.byte address = before.byte address

namespace KeepsProtected

variable {before middle after : Memory}

@[refl] theorem refl (memory : Memory) : memory.KeepsProtected memory :=
  ⟨rfl, fun _ _ => rfl⟩

theorem of_alike (alike : after.Alike before) : before.KeepsProtected after :=
  ⟨alike.blocks, fun address _ => alike.byte_eq address⟩

theorem isProtected_iff (keeps : before.KeepsProtected after) (address : UInt16) :
    after.IsProtected address ↔ before.IsProtected address := by
  rw [IsProtected, IsProtected, blockKind, blockKind, keeps.blocks]

theorem trans
    (keeps : before.KeepsProtected middle)
    (keepsOn : middle.KeepsProtected after) :
    before.KeepsProtected after := by
  refine ⟨keepsOn.blocks.trans keeps.blocks, fun address isProtected => ?_⟩
  rw [keepsOn.bytes address ((keeps.isProtected_iff address).mpr isProtected),
    keeps.bytes address isProtected]

/-- A write takes effect in writable blocks only, and nowhere but at its address. -/
theorem write (memory : Memory) (address : UInt16) (value : UInt8) :
    memory.KeepsProtected (memory.write address value) := by
  unfold Memory.write
  split
  · rename_i writable
    refine ⟨rfl, fun other isProtected => ?_⟩
    rw [byte_setByte, if_neg]
    rintro rfl
    rw [Memory.isProtected_iff, writable] at isProtected
    cases isProtected
  · exact .refl memory

theorem output (memory : Memory) (port value : UInt8) :
    memory.KeepsProtected (memory.output port value) :=
  ⟨rfl, fun _ _ => rfl⟩

/-- No access of an instruction alters what is protected. -/
theorem isInvariant (memory : Memory) : BusInvariant memory.KeepsProtected :=
  .of_accesses
    (fun _ _ keeps => keeps)
    (fun bus address value keeps => keeps.trans (.write bus address value))
    (fun _ _ keeps => keeps)
    (fun bus port value keeps => keeps.trans (.output bus port value))

end KeepsProtected

end Memory

/-! ## Steps -/

/-- A step of the processor keeps what is protected, whatever it executes or delivers. -/
theorem Core.step_keepsProtected (core : Core Memory) :
    core.bus.KeepsProtected (Core.step core).2.bus := by
  refine (Memory.KeepsProtected.isInvariant core.bus).step (fun _ => .refl _) fun _ => ?_
  rw [Memory.fetch_snd]

theorem Machine.stop_keepsProtected (machine : Machine) :
    machine.memory.KeepsProtected machine.stop.memory := by
  rcases machine.stop_cases with ⟨-, same⟩ | ⟨-, ready⟩
  · rw [same]
  · rw [ready]
    exact .refl _

namespace Session

/-- What is protected in memory is kept, and so are the block types. -/
def KeepsProtected (before after : Session) : Prop :=
  before.machine.memory.KeepsProtected after.machine.memory

instance : AllowsReports KeepsProtected where
  refl session := .refl session.machine.memory
  trans keeps keepsOn := Memory.KeepsProtected.trans keeps keepsOn
  report same := by rw [KeepsProtected, same.machine]

theorem SameProgram.keepsProtected
    {before after : Session}
    (same : before.SameProgram after) :
    before.KeepsProtected after :=
  .of_alike same.memory

/-- A step under the monitor keeps what is protected, with guarded accesses or without. -/
theorem step_keepsProtected (session : Session) : session.KeepsProtected session.step.2 := by
  rcases session.step_cases with ⟨hit, refused⟩ | ⟨error, failed⟩ | ⟨passed, count, executed⟩
  · exact .of_alike (step_core_of_refused refused).memory
  · exact .of_alike (step_core_of_failed failed).memory
  · exact (Core.step_keepsProtected session.core).trans
      (.of_alike (step_core_of_executed passed executed).2)

theorem removeTemporary_keepsProtected (session : Session) :
    session.KeepsProtected session.removeTemporaryBreakpoints.2 := by
  rw [KeepsProtected, session.removeTemporaryBreakpoints_eq.2.2]
  exact .of_alike (unwatchAll_alike _ _)

/-- What runs and scripts do on their own keeps what is protected. -/
theorem keepsProtected_isLaw :
    Run.IsScriptLaw fun before _ after => before.KeepsProtected after where
  clearError session := (Run.clearError_sameProgram session).keepsProtected
  enter session := (Run.enter_sameProgram session).keepsProtected
  step session := session.step_keepsProtected
  stop session := session.machine.stop_keepsProtected
  removeTemporary session := session.removeTemporary_keepsProtected
  mute _ := .refl _
  unmute _ := .refl _
  resume _ := .refl _

end Session

/-! ## Edits -/

/-- Whether an edit puts bytes into memory, wherever that is. -/
def MachineEdit.isOfMemory : MachineEdit → Bool
  | .byte _ _ | .word _ _ => true
  | _ => false

/-- Whether a command edits memory by hand. -/
def Command.isMemoryEdit : Command → Bool
  | .edit _ _ _ => true
  | _ => false

theorem Command.Permits.isMemoryEdit
    {command : Command}
    {edit : MachineEdit}
    (permits : command.Permits (.machine edit))
    (ofMemory : edit.isOfMemory) :
    command.isMemoryEdit := by
  cases permits with
  | byte unit text values address value | word unit text values address value =>
      rfl
  | _ =>
      cases ofMemory

theorem MachineEdit.apply_keepsProtected
    {edit : MachineEdit}
    (elsewhere : edit.isOfMemory = false)
    (machine : Machine) :
    machine.memory.KeepsProtected (edit.apply machine).memory := by
  cases edit with
  | byte address value | word address value =>
      cases elsewhere
  | output port value =>
      exact .output machine.memory port value
  | portBreaks direction ports =>
      cases direction <;> exact ⟨rfl, fun _ _ => rfl⟩
  | halt =>
      exact machine.stop_keepsProtected
  | register name value | flag name value | speed count =>
      exact .refl _

/-- An edit that puts no bytes into memory keeps what is protected there. -/
theorem Session.Makes.keepsProtected
    {before after : Session}
    {edit : Edit}
    (makes : before.Makes edit after)
    (elsewhere : ∀ byHand, edit = .machine byHand → byHand.isOfMemory = false) :
    before.KeepsProtected after := by
  cases makes with
  | machine byHand =>
      exact byHand.apply_keepsProtected (elsewhere byHand rfl) before.machine
  | @place _ kind location placed =>
      rw [Session.KeepsProtected, (placeBreakpoint_ok placed).2.2]
      exact .of_alike (watchFor_alike ..)
  | remove address? =>
      obtain ⟨test, -, -, machine⟩ := before.removeBreakpoints_eq address?
      rw [Session.KeepsProtected, machine]
      exact .of_alike (unwatchAll_alike ..)
  | arm count | checksum interval =>
      exact .refl _

/-! ## Scripts -/

/-- Commands that edit no memory by hand, and set breakpoints whose scripts do not. -/
def SparesMemory : List String → Prop :=
  AllCommands fun command => !command.isMemoryEdit

/-- Commands that only run the machine edit no memory, whatever breakpoints they set. -/
theorem SparesMemory.of_runs
    {commands : List String}
    (runs :
      ∀ text ∈ commands,
        ∀ command, Command.parse text = .ok command → (RunCommand.ofCommand? command).isSome) :
    SparesMemory commands := by
  have named :
      ∀ text ∈ commands,
        ∀ command,
          Command.parse text = .ok command →
            ∃ runCommand : RunCommand, runCommand.command = command := by
    intro text member command parsed
    obtain ⟨runCommand, isRun⟩ := Option.isSome_iff_exists.mp (runs text member command parsed)
    exact ⟨runCommand, RunCommand.command_of_ofCommand? isRun⟩
  constructor
  · intro text member command parsed
    obtain ⟨runCommand, rfl⟩ := named text member command parsed
    cases runCommand <;> rfl
  · intro text member command kind location parsed permits
    obtain ⟨runCommand, rfl⟩ := named text member command parsed
    rw [RunCommand.commands_of_permits permits]
    exact .nil _

def Licence.editless : Licence :=
  .ofTest fun command => !command.isMemoryEdit

/-- Without edits of memory by hand, all that happens keeps what is protected there. -/
theorem Licence.editless_upholds : editless.Upholds Session.KeepsProtected := by
  refine ofTest_upholds Session.keepsProtected_isLaw ?_
  intro command edit before after elsewhere permits makes
  refine makes.keepsProtected ?_
  rintro byHand rfl
  rw [Bool.eq_false_iff]
  intro ofMemory
  rw [permits.isMemoryEdit ofMemory] at elsewhere
  cases elsewhere

/-! ## What hosts do -/

/-- What a host does edits no memory by hand, if it is a line. -/
def HostAct.SparesMemory : HostAct → Prop
  | .request (.line text) => Monitor8080.SparesMemory (Text.commandsOf (Text.trim text))
  | _ => True

namespace Session

/-- While the scripts in force spare memory, so does what a host does. -/
abbrev Spares (before after : Session) : Prop :=
  Licence.editless.Binds KeepsProtected before after

/-- What leaves alone what is checked, what is pending and memory spares memory. -/
theorem Spares.of_same
    {before after : Session}
    (breakpoints : after.monitor.sentry.breakpoints = before.monitor.sentry.breakpoints)
    (pending : after.monitor.sentry.pending? = before.monitor.sentry.pending?)
    (memory : after.machine.memory = before.machine.memory) :
    before.Spares after :=
  Licence.binds_of_same breakpoints pending (by rw [KeepsProtected, memory])

theorem undergo_spares
    (session : Session)
    {act : HostAct}
    (spares : act.SparesMemory) :
    session.Spares (session.undergo act) := by
  have isLaw := Licence.editless_upholds.isLaw
  cases act with
  | request request =>
      cases request with
      | line text =>
          rw [undergo_line]
          exact Licence.editless_upholds.obey spares session
      | step =>
          rw [undergo_step]
          exact isLaw.step session
  | start =>
      refine .of_same rfl rfl ?_
      unfold undergo updateMachine Machine.start
      simp only
      split <;> rfl
  | stop =>
      exact isLaw.stop session
  | requestStop | reset =>
      exact .of_same rfl rfl rfl
  | noticeReset =>
      let cleared : Session :=
        session.updateMonitor fun monitor =>
          { monitor with
            sentry := { monitor.sentry with history := monitor.sentry.history.clear }
            dumpCursor := Location.unset }
      have clears : session.Spares cleared := .of_same rfl rfl rfl
      have tells : cleared.SameDuty session.noticeReset :=
        (SameDuty.pointAtPC cleared).trans (.message _ _ _)
      exact Composes.trans clears (AllowsReports.report tells.toSameGuard)
  | interrupt vector =>
      let requested : Session :=
        session.updateMachine fun machine =>
          { machine with cpu := machine.cpu.requestInterrupt vector }
      have requests : session.Spares requested := .of_same rfl rfl rfl
      have tells : requested.SameDuty (session.noticeInterrupt vector) := .message _ _ _
      exact Composes.trans requests (AllowsReports.report tells.toSameGuard)

theorem undergoAll_spares
    (session : Session)
    {acts : List HostAct}
    (spares : ∀ act ∈ acts, act.SparesMemory) :
    session.Spares (session.undergoAll acts) := by
  induction acts generalizing session with
  | nil =>
      exact Composes.refl session
  | cons act rest inductionHypothesis =>
      have first := session.undergo_spares (spares act List.mem_cons_self)
      have later :=
        inductionHypothesis (session.undergo act) fun other member =>
          spares other (List.mem_cons_of_mem act member)
      exact Composes.trans first later

end Session

/--
No step of the processor alters a byte of a read-only block or of one where
nothing is mapped, or the type of a block. Nor does anything that a host does,
in steps, interrupts and lines one after the other, as long as no line and no
script of a breakpoint edits memory by hand. Lines that only run the machine do
not.
-/
theorem protected_memory_is_not_altered :
    (∀ core : Core Memory, core.bus.KeepsProtected (Core.step core).2.bus) ∧
      (∀ text,
        (∀ part ∈ Text.commandsOf (Text.trim text),
          ∀ command, Command.parse part = .ok command → (RunCommand.ofCommand? command).isSome) →
          HostAct.SparesMemory (.request (.line text))) ∧
      ∀ (session : Session) (acts : List HostAct),
        session.monitor.sentry.pending? = none →
          (∀ kind,
            ∀ location ∈ session.monitor.sentry.breakpoints.entries kind,
              SparesMemory location.commands) →
            (∀ act ∈ acts, act.SparesMemory) →
              session.machine.memory.KeepsProtected (session.undergoAll acts).machine.memory := by
  refine ⟨Core.step_keepsProtected, fun text runs => .of_runs runs, ?_⟩
  intro session acts idle scripts spares
  exact (session.undergoAll_spares spares (.entries idle scripts)).2

/-- A machine with a program in read-only memory that stores words across its ends. -/
def Machine.storesAcrossEnds : Machine :=
  { Machine.initial with
    memory :=
      (Memory.empty.load 0
        [0x31, 0x01, 0x04, 0x21, 0x34, 0x12, 0xE5, 0x22, 0xFF, 0xFF]).setBlockKind 0 1 .rom }

/--
A push across the end of a read-only block and a store around the end of the
address space write one byte of each word, and leave the other one. The trace
comes upon a breakpoint whose script shows the registers.
-/
theorem stores_across_ends_spare_protected :
    let session :=
      (Session.fresh .default .storesAcrossEnds).conduct [.line "bp 6 \x22r\x22"]
    let after := session.undergoAll [.request (.line "t 3"), .interrupt 2, .request .step]
    after.pc = 10 ∧
      after.machine.memory.byte 0x400 = 0x12 ∧
      session.machine.memory.IsProtected 0x3FF ∧
      session.machine.memory.IsProtected 0 ∧
      session.machine.memory.KeepsProtected after.machine.memory := by
  intro session after
  obtain ⟨-, runs, keeps⟩ := protected_memory_is_not_altered
  have traces : HostAct.SparesMemory (.request (.line "t 3")) := by
    refine runs "t 3" fun part member command parsed => ?_
    have single : Text.commandsOf (Text.trim "t 3") = ["t 3"] := by decide +kernel
    have isTrace : Command.parse "t 3" = .ok (.trace .plain (some "3")) := by rfl
    rw [single, List.mem_singleton] at member
    rw [member, isTrace] at parsed
    cases parsed
    rfl
  have quiet : SparesMemory ["r"] := by
    have shows : Command.parse "r" = .ok .showRegisters := by rfl
    refine .intro ?_ ?_
    · intro text member command parsed
      rw [List.mem_singleton.mp member, shows] at parsed
      cases parsed
      rfl
    · intro text member command kind location parsed permits
      rw [List.mem_singleton.mp member, shows] at parsed
      cases parsed
      cases permits
  have scripts :
      ∀ kind ∈ BreakKind.all,
        ∀ location ∈ session.monitor.sentry.breakpoints.entries kind,
          location.commands = ["r"] := by
    decide +kernel
  have spares :
      ∀ act ∈ [HostAct.request (.line "t 3"), .interrupt 2, .request .step],
        act.SparesMemory := by
    rw [List.forall_mem_cons, List.forall_mem_cons, List.forall_mem_singleton]
    exact ⟨traces, trivial, trivial⟩
  have kept := keeps session _ (by decide +kernel) ?_ spares
  · exact
      ⟨by decide +kernel, by decide +kernel, .inl (by decide +kernel), .inl (by decide +kernel),
        kept⟩
  · intro kind location member
    rw [scripts kind (by cases kind <;> decide) location member]
    exact quiet

end Monitor8080
