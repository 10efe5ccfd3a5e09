import Monitor8080.Operator.Script
import Monitor8080.Proofs.OperationEffects
namespace Monitor8080

/-!
# The edits that commands make

Beside its runs and what it prints, a command changes a session in a few ways
only: it edits the machine by hand, or it changes what is checked. Which of
these edits a command may make is read off the command, so a law that holds of
the edits and of the runs holds of the command.
-/

/-- A change of the machine by hand. -/
inductive MachineEdit where
  | byte (address : UInt16) (value : UInt8)
  | word (address value : UInt16)
  | output (port value : UInt8)
  | portBreaks (direction : PortDirection) (ports : List UInt8)
  | register (name : RegisterName) (value : UInt16)
  | flag (name : FlagName) (value : Bool)
  | speed (count : Nat)
  | halt
  deriving Repr, DecidableEq

/-- The machine after an edit. -/
def MachineEdit.apply (edit : MachineEdit) (machine : Machine) : Machine :=
  match edit with
  | .byte address value =>
      { machine with memory := machine.memory.setByte address value }.refresh
  | .word address value =>
      { machine with memory := machine.memory.setWord address value }.refresh
  | .output port value => { machine with memory := machine.memory.output port value }
  | .portBreaks direction ports =>
      { machine with memory := machine.memory.withPortBreaks direction ports }
  | .register name value => { machine with cpu := machine.cpu.set name value }
  | .flag name value => { machine with cpu := machine.cpu.withFlag name value }
  | .speed count => { machine with cpu := { machine.cpu with speed := count } }
  | .halt => machine.stop

/-- A change of the machine by hand, or of what is checked. -/
inductive Edit where
  | machine (edit : MachineEdit)
  | place (kind : BreakKind) (location : Location)
  | remove (address? : Option UInt16)
  | arm (count : Nat)
  | checksum (interval : Nat)
  deriving Repr, DecidableEq

/-- Whether an edit changes what is checked, for which the history may have to be recorded. -/
def Edit.isCheck : Edit → Bool
  | .machine _ => false
  | _ => true

/-- An edit and what it comes to. -/
inductive Session.Makes : Session → Edit → Session → Prop where
  | machine (session : Session) (edit : MachineEdit) :
      Makes session (.machine edit) (session.updateMachine edit.apply)
  | place
      {before after : Session}
      {kind : BreakKind}
      {location : Location}
      (placed : before.placeBreakpoint kind location = .ok after) :
      Makes before (.place kind location) after
  | remove (session : Session) (address? : Option UInt16) :
      Makes session (.remove address?) (session.removeBreakpoints address?).2
  | arm (session : Session) (count : Nat) :
      Makes session (.arm count) (session.updateMonitor (·.startCountdown count))
  | checksum (session : Session) (interval : Nat) :
      Makes session (.checksum interval) (session.updateMonitor (·.restartChecksum interval))

/-- A law holds of an edit, which is abandoned if it leaves the history without room. -/
def Edit.IsGranted
    (law : Session → Bool → Session → Prop)
    (edit : Edit) : Prop :=
  ∀ before after,
    before.Makes edit after → law before (edit.isCheck && after.monitor.lacksHistory) after

/-- A command may make an edit, beside or before its run. -/
inductive Command.Permits : Command → Edit → Prop where
  | place (kind : BreakKind) (text : String) (target : UInt16) :
      Permits (.setBreakpoint kind text none) (.place kind (.ofAddress target))
  | placeScript (kind : BreakKind) (text script : String) (target : UInt16) :
      Permits (.setBreakpoint kind text (some script))
        (.place kind ((Location.ofAddress target).withScript script (Text.commandsOf script)))
  | runTo (text : String) (target : UInt16) :
      Permits (.go (some text)) (.place .exec (.temporary target))
  | stepPast (withRegisters : Bool) (target : UInt16) :
      Permits (.stepPast withRegisters) (.place .exec (.temporary target))
  | remove (text : String) (target : UInt16) :
      Permits (.removeBreakpoints (some text)) (.remove (some target))
  | clear : Permits (.removeBreakpoints none) (.remove none)
  | disarm : Permits (.removeBreakpoints none) (.arm 0)
  | arm (text : String) (count : Nat) : Permits (.countDown (some text)) (.arm count)
  | checksum (arguments : List String) (interval : Nat) :
      Permits (.options arguments) (.checksum interval)
  | speed (arguments : List String) (count : Nat) :
      Permits (.options arguments) (.machine (.speed count))
  | portBreaks (direction : PortDirection) (port? : Option String) (ports : List UInt8) :
      Permits (.togglePort direction port?) (.machine (.portBreaks direction ports))
  | byte (unit : MemoryUnit) (text : String) (values : List String) (address : UInt16)
      (value : UInt8) :
      Permits (.edit unit text values) (.machine (.byte address value))
  | word (unit : MemoryUnit) (text : String) (values : List String) (address value : UInt16) :
      Permits (.edit unit text values) (.machine (.word address value))
  | output (portText byteText : String) (port value : UInt8) :
      Permits (.writePort portText byteText) (.machine (.output port value))
  | register (text valueText : String) (name : RegisterName) (value : UInt16) :
      Permits (.register text (some valueText)) (.machine (.register name value))
  | flag (text valueText : String) (name : FlagName) (value : Bool) :
      Permits (.register text (some valueText)) (.machine (.flag name value))
  | halt : Permits .halt (.machine .halt)

namespace Operation

open Session (SameDuty)

section Law

variable {law : Session → Bool → Session → Prop} [lawful : Session.LawfulReports law]

/-! ## Changes -/

omit lawful in
/-- A change of the machine by hand does what the edit does. -/
theorem updateMachine_obeys
    {update : Machine → Machine}
    (edited :
      ∀ machine,
        ∃ edit : MachineEdit,
          (Edit.machine edit).IsGranted law ∧ update machine = edit.apply machine) :
    Obeys law (updateMachine update) := by
  refine .change fun session => ?_
  obtain ⟨edit, granted, same⟩ := edited session.machine
  have changed : session.updateMachine update = session.updateMachine edit.apply :=
    congrArg (Session.mk session.monitor) same
  rw [changed]
  exact granted _ _ (.machine session edit)

/-- A breakpoint that is placed is one edit. -/
theorem placeBreakpoint_obeys
    {kind : BreakKind}
    {location : Location}
    (granted : (Edit.place kind location).IsGranted law) :
    Obeys law (placeBreakpoint kind location) :=
  .placeBreakpoint fun placed => granted _ _ (.place placed)

omit lawful in
/-- Breakpoints that are cleared are one edit. -/
theorem clearBreakpointsAt_obeys
    {address? : Option UInt16}
    (granted : (Edit.remove address?).IsGranted law) :
    Obeys law (clearBreakpointsAt address?) :=
  .clearBreakpointsAt fun session => granted _ _ (.remove session address?)

omit lawful in
/-- A countdown that is armed is one edit. -/
theorem startCountdown_obeys
    {count : Nat}
    (granted : (Edit.arm count).IsGranted law) :
    Obeys law (updateChecks (·.startCountdown count)) :=
  .updateChecks fun session => granted _ _ (.arm session count)

/-! ## Breakpoints -/

/-- Setting a breakpoint places it at the address of a text, with its script if there is one. -/
theorem setBreakpoint_obeys
    {kind : BreakKind}
    {text : String}
    {script? : Option String}
    (grants :
      ∀ edit, (Command.setBreakpoint kind text script?).Permits edit → edit.IsGranted law) :
    Obeys law (setBreakpoint kind text script?) := by
  refine (Obeys.address text).andThen fun target => ?_
  cases script? with
  | none =>
      exact placeBreakpoint_obeys (grants _ (.place kind text target))
  | some script =>
      exact placeBreakpoint_obeys (grants _ (.placeScript kind text script target))

/-- Without a text all breakpoints go, and the countdown with them; else those at one address. -/
theorem removeBreakpoints_obeys
    {text? : Option String}
    (grants :
      ∀ edit, (Command.removeBreakpoints text?).Permits edit → edit.IsGranted law) :
    Obeys law (removeBreakpoints text?) := by
  cases text? with
  | none =>
      refine (clearBreakpointsAt_obeys (grants _ .clear)).andThen fun count => ?_
      exact (startCountdown_obeys (grants _ .disarm)).andThen fun _ => .print _
  | some text =>
      refine (Obeys.address text).andThen fun target => ?_
      refine .andThen (clearBreakpointsAt_obeys (grants _ (.remove text target))) fun count => ?_
      exact .choice (.failure nofun) (.value ())

/-- A countdown is shown, or armed by one edit. -/
theorem countDown_obeys
    {count? : Option String}
    (grants : ∀ edit, (Command.countDown count?).Permits edit → edit.IsGranted law) :
    Obeys law (countDown count?) := by
  cases count? with
  | none =>
      refine (Obeys.observe _).andThen fun countdown? => ?_
      cases countdown? with
      | none =>
          exact .print _
      | some left =>
          exact .print _
  | some text =>
      exact (Obeys.count text).andThen fun number => startCountdown_obeys (grants _ (.arm ..))

/-- Ports are listed, or one edit of the machine switches or clears them. -/
theorem togglePort_obeys
    {direction : PortDirection}
    {port? : Option String}
    (grants :
      ∀ edit, (Command.togglePort direction port?).Permits edit → edit.IsGranted law) :
    Obeys law (togglePort direction port?) := by
  have granted := fun ports => grants _ (.portBreaks direction port? ports)
  unfold togglePort
  split
  · exact (Obeys.observe _).andThen fun ports => .printAllOr _ _
  · exact updateMachine_obeys fun machine => ⟨_, granted [], rfl⟩
  · refine (Obeys.port _).andThen fun number => ?_
    refine .andThen (updateMachine_obeys fun machine => ⟨_, granted _, rfl⟩) fun _ => ?_
    exact (Obeys.observe _).andThen fun isSet => .message _ _

/-! ## Listings -/

/-- A dump prints and moves its cursor. -/
theorem dump_obeys
    (unit : MemoryUnit)
    (address? length? : Option String) :
    Obeys law (dump unit address? length?) := by
  refine (Obeys.observe _).andThen fun dumpCursor => ?_
  refine (Obeys.place address? dumpCursor).andThen fun cursor => ?_
  refine (Obeys.observe _).andThen fun dumpBytes => ?_
  refine (Obeys.countOr dumpBytes length?).andThen fun length => ?_
  refine (Obeys.observe _).andThen fun dump => ?_
  refine (Obeys.printAll dump.lines).andThen fun _ => ?_
  exact .updateMonitor fun _ => SameDuty.of_sentry rfl rfl rfl ⟨rfl, id⟩

/-- A listing prints and moves its cursor, whether it is of a count or of a range. -/
theorem disassemble_obeys (address? end? : Option String) :
    Obeys law (disassemble address? end?) := by
  refine (Obeys.observe _).andThen fun codeCursor => ?_
  refine (Obeys.place address? codeCursor).andThen fun cursor => ?_
  have shown :
      ∀ extract : Extract,
        Obeys law (do
          printAll extract.lines
          updateMonitor fun monitor =>
            { monitor with codeCursor := { cursor with address? := some extract.next } }) :=
    fun extract =>
      (Obeys.printAll _).andThen fun _ =>
        .updateMonitor fun _ => SameDuty.of_sentry rfl rfl rfl ⟨rfl, id⟩
  cases end? with
  | none =>
      exact (Obeys.observe _).andThen shown
  | some text =>
      exact (Obeys.address text).andThen fun stop => (Obeys.observe _).andThen shown

/-- Assembling changes the cursor alone, since nothing can be assembled. -/
theorem assemble_obeys
    (address? mnemonic? : Option String)
    (operands : List String) :
    Obeys law (assemble address? mnemonic? operands) := by
  refine (Obeys.observe _).andThen fun assembleCursor => ?_
  refine (Obeys.place address? assembleCursor).andThen fun cursor => ?_
  refine (Obeys.print _).andThen fun _ => ?_
  exact .updateMonitor fun _ => SameDuty.of_sentry rfl rfl rfl ⟨rfl, id⟩

theorem dumpMap_obeys : Obeys law dumpMap :=
  (Obeys.observe _).andThen fun _ => .printAll _

/-! ## Inspecting -/

/-- The history is only listed. -/
theorem listHistory_obeys (back? limit? : Option String) :
    Obeys law (listHistory back? limit?) := by
  refine (Obeys.observe _).andThen fun isOn => .guarded nofun ?_
  refine (Obeys.observe _).andThen fun unassembleCount => ?_
  refine (Obeys.countOr unassembleCount back?).andThen fun back => ?_
  have shown :
      ∀ chosen : Nat × HistoryFilter,
        Obeys law (do
          let addresses ← observe fun session =>
            session.monitor.sentry.history.entries back chosen.1
          printAllOr "history empty"
            (← observe fun session => historyLines session addresses chosen.2)) :=
    fun chosen =>
      (Obeys.observe _).andThen fun _ => (Obeys.observe _).andThen fun _ => .printAllOr _ _
  cases limit? with
  | none =>
      exact (Obeys.value _).andThen shown
  | some text =>
      simp only
      split
      · exact (Obeys.value _).andThen shown
      · exact (Obeys.count text).andThen fun number => (Obeys.value _).andThen shown

/-- The counts of opcodes are listed, or forgotten as the duty allows. -/
theorem frequencies_obeys (isClear : Bool) : Obeys law (frequencies isClear) := by
  refine .choice ?_ ?_
  · exact .updateMonitor fun session =>
      ⟨⟨rfl, rfl, rfl⟩, rfl, ⟨rfl, rfl, rfl⟩, .inr rfl, ⟨rfl, id⟩⟩
  · refine (Obeys.observe _).andThen fun dialect => ?_
    exact (Obeys.observe _).andThen fun counts => .printAllOr _ _

/-- The call chain is only listed. -/
theorem listCalls_obeys
    (withSymbols : Bool)
    (count? : Option String) :
    Obeys law (listCalls withSymbols count?) := by
  refine (Obeys.observe _).andThen fun maxStackFrames => ?_
  refine (Obeys.countOr maxStackFrames count?).andThen fun number => ?_
  exact (Obeys.observe _).andThen fun frames => .printAllOr _ _

theorem describeAddress_obeys (text : String) : Obeys law (describeAddress text) := by
  refine (Obeys.address text).andThen fun target => ?_
  exact (Obeys.observe _).andThen fun symbols => .printAll _

theorem listNames_obeys (start? : Option String) : Obeys law (listNames start?) :=
  (Obeys.observe _).andThen fun _ => .printAllOr _ _

/-! ## Showing and setting -/

/-- Values are stored one by one, each by an edit of the machine. -/
theorem editFrom_obeys
    {unit : MemoryUnit}
    {text : String}
    {values : List String}
    (grants : ∀ edit, (Command.edit unit text values).Permits edit → edit.IsGranted law)
    (target : UInt16)
    (texts : List String) :
    Obeys law (editFrom unit target texts) := by
  induction texts generalizing target with
  | nil =>
      exact .value ()
  | cons text texts inductionHypothesis =>
      have told :
          ∀ (session : Session) (edit : MachineEdit) (text : String),
            (Edit.machine edit).IsGranted law →
              law session false ((session.updateMachine edit.apply).message .mem text) := by
        intro session edit text granted
        have edited := granted _ _ (.machine session edit)
        exact lawful.trans edited (lawful.report (.message _ .mem text))
      have byWord :
          Obeys law (do
            let value ← word text
            modify (·.editWord target value)
            editFrom unit (target + 2) texts) := by
        refine (Obeys.word text).andThen fun value => ?_
        refine .andThen (.change fun session => ?_) fun _ => inductionHypothesis _
        exact told session (.word target value) _ (grants _ (.word ..))
      have byByte :
          Obeys law (do
            let value ← byte text
            modify (·.editByte target value)
            editFrom unit (target + 1) texts) := by
        refine (Obeys.byte text).andThen fun value => ?_
        refine .andThen (.change fun session => ?_) fun _ => inductionHypothesis _
        exact told session (.byte target value) _ (grants _ (.byte ..))
      cases unit with
      | word =>
          exact byWord
      | byte =>
          exact byByte
      | doubleWord =>
          exact byByte

/-- An edit of memory stores its values from an address on. -/
theorem edit_obeys
    {unit : MemoryUnit}
    {text : String}
    {values : List String}
    (grants : ∀ edit, (Command.edit unit text values).Permits edit → edit.IsGranted law) :
    Obeys law (edit unit text values) :=
  (Obeys.address text).andThen fun target => editFrom_obeys grants target values

theorem readPort_obeys (text : String) : Obeys law (readPort text) := by
  refine (Obeys.port text).andThen fun number => ?_
  exact (Obeys.observe _).andThen fun value => .print _

/-- A byte written to a port is an edit of the machine. -/
theorem writePort_obeys
    {portText byteText : String}
    (grants :
      ∀ edit, (Command.writePort portText byteText).Permits edit → edit.IsGranted law) :
    Obeys law (writePort portText byteText) := by
  refine (Obeys.port portText).andThen fun number => ?_
  refine (Obeys.byte byteText).andThen fun value => ?_
  refine .andThen (updateMachine_obeys fun machine => ?_) fun _ => .message _ _
  exact ⟨_, grants _ (.output portText byteText number value), rfl⟩

/-- Setting a register is an edit, and showing it a report. -/
theorem accessRegister_obeys
    {name : String}
    {value? : Option String}
    (grants : ∀ edit, (Command.register name value?).Permits edit → edit.IsGranted law)
    (register : RegisterName) :
    Obeys law (accessRegister name register value?) := by
  cases value? with
  | none =>
      exact (Obeys.observe _).andThen fun value => .print _
  | some text =>
      refine (Obeys.valueWithin _ _ _ text).andThen fun value => ?_
      refine .andThen (updateMachine_obeys fun machine => ?_) fun _ => .message _ _
      exact ⟨_, grants _ (.register name text register (Expr.toAddress value)), rfl⟩

/-- A flag is shown, or set by an edit of the machine. -/
theorem accessFlag_obeys
    {name : String}
    {value? : Option String}
    (grants : ∀ edit, (Command.register name value?).Permits edit → edit.IsGranted law)
    (flag : FlagName) :
    Obeys law (accessFlag name flag value?) := by
  cases value? with
  | none =>
      exact (Obeys.observe _).andThen fun value => .print _
  | some text =>
      refine (Obeys.evaluate text).andThen fun value => ?_
      exact updateMachine_obeys fun machine => ⟨_, grants _ (.flag name text flag (value != 0)), rfl⟩

/-- A register is one that the processor has, or a flag, else the command fails. -/
theorem register_obeys
    {name : String}
    {value? : Option String}
    (grants : ∀ edit, (Command.register name value?).Permits edit → edit.IsGranted law) :
    Obeys law (register name value?) := by
  unfold register
  split
  · exact accessRegister_obeys grants _
  · exact accessFlag_obeys grants _
  · exact .failure nofun

theorem showRegisters_obeys : Obeys law showRegisters :=
  (Obeys.observe _).andThen fun _ => .print _

theorem printValue_obeys (text : String) : Obeys law (printValue text) :=
  (Obeys.evaluate text).andThen fun _ => .print _

theorem variableValue_obeys (name : String) : Obeys law (variableValue name) := by
  refine (Obeys.observe _).andThen fun value? => ?_
  cases value? with
  | none =>
      exact .failure nofun
  | some value =>
      exact .value value

/-- Variables are apart from what is checked. -/
theorem accessVariables_obeys (access : VariableCommand) :
    Obeys law (accessVariables access) := by
  cases access with
  | list =>
      exact (Obeys.observe _).andThen fun bindings => .printAllOr _ _
  | «show» name =>
      exact (variableValue_obeys name).andThen fun value => .print _
  | delete name =>
      refine (variableValue_obeys name).andThen fun value => ?_
      exact .updateMonitor fun _ => SameDuty.of_sentry rfl rfl rfl ⟨rfl, (·.erase name)⟩
  | assign name text =>
      refine (Obeys.evaluate text).andThen fun value => ?_
      exact .updateMonitor fun _ => SameDuty.of_sentry rfl rfl rfl ⟨rfl, (·.insert name value)⟩

/-- Options change settings, the checksum or the speed, the last two by an edit each. -/
theorem options_obeys
    {arguments : List String}
    (grants : ∀ edit, (Command.options arguments).Permits edit → edit.IsGranted law) :
    Obeys law (options arguments) := by
  unfold options
  split
  · exact .ofSession fun session => lawful.report (.printAll session _)
  · exact .updateMonitor fun _ => SameDuty.of_sentry rfl rfl rfl ⟨rfl, id⟩
  · exact .updateMonitor fun _ => SameDuty.of_sentry rfl rfl rfl ⟨rfl, id⟩
  · refine (Obeys.count _).andThen fun interval => ?_
    exact .updateChecks fun session => grants _ (.checksum arguments _) _ _ (.checksum session _)
  · refine (Obeys.count _).andThen fun speed => ?_
    exact updateMachine_obeys fun machine => ⟨_, grants _ (.speed arguments _), rfl⟩
  · exact .failure nofun

/-- Topics are switched without any other change. -/
theorem switchTopic_sameDuty
    (monitor : Monitor)
    (machine : Machine)
    (topic : Topic)
    (isWanted : Bool) :
    SameDuty ⟨monitor, machine⟩ ⟨monitor.switchTopic topic isWanted, machine⟩ :=
  ⟨⟨rfl, rfl, rfl⟩, rfl, ⟨rfl, rfl, rfl⟩, .refl _, ⟨rfl, id⟩⟩

/-- Topics are switched without a change of the duty. -/
theorem switchTopics_sameDuty
    (monitor : Monitor)
    (machine : Machine)
    (isWanted : Bool)
    (topics : List Topic) :
    SameDuty ⟨monitor, machine⟩
      ⟨topics.foldl (fun monitor topic => monitor.switchTopic topic isWanted) monitor, machine⟩ := by
  induction topics generalizing monitor with
  | nil =>
      exact .refl _
  | cons topic rest inductionHypothesis =>
      exact (switchTopic_sameDuty monitor machine topic isWanted).trans (inductionHypothesis _)

/-- Messages are listed or switched, topic by topic. -/
theorem messages_obeys
    (topic? : Option String)
    (enable? : Option Bool) :
    Obeys law (messages topic? enable?) := by
  refine (Obeys.observe _).andThen fun mask => ?_
  cases topic? with
  | none =>
      exact .printAll _
  | some text =>
      refine .choice ?_ ?_
      · exact .updateMonitor fun session => switchTopics_sameDuty session.monitor session.machine _ _
      · split
        · exact .updateMonitor fun session => switchTopic_sameDuty session.monitor session.machine _ _
        · exact .failure nofun

/-- A halt is an edit of the machine. -/
theorem halt_obeys
    (grants : ∀ edit, Command.halt.Permits edit → edit.IsGranted law) :
    Obeys law halt := by
  refine .andThen (updateMachine_obeys fun machine => ⟨_, grants _ .halt, rfl⟩) fun _ => ?_
  exact (Obeys.observe _).andThen fun pc => .message _ _

/-! ## Every command -/

section Runner

variable {runner : Runner} (runs : ∀ goal, Obeys law (runner goal))

include runs

/-- Going on may set a breakpoint before it runs. -/
theorem go_obeys
    {address? : Option String}
    (grants : ∀ edit, (Command.go address?).Permits edit → edit.IsGranted law) :
    Obeys law (go runner address?) := by
  cases address? with
  | none =>
      exact (Obeys.value ()).andThen fun _ => runs .go
  | some text =>
      refine (Obeys.address text).andThen fun target => ?_
      have placed := placeBreakpoint_obeys (grants _ (.runTo text target))
      exact placed.andThen fun _ => runs .go

/-- Stepping past an instruction may set a breakpoint before it runs. -/
theorem stepPast_obeys
    {withRegisters : Bool}
    (grants : ∀ edit, (Command.stepPast withRegisters).Permits edit → edit.IsGranted law) :
    Obeys law (stepPast runner withRegisters) := by
  have ending : Obeys law (if withRegisters then showRegisters else pure ()) :=
    .choice showRegisters_obeys (.value ())
  refine (Obeys.observe _).andThen fun decoded => ?_
  refine .choice ?_ ?_
  · have placed := placeBreakpoint_obeys (grants _ (.stepPast withRegisters decoded.next))
    exact placed.andThen fun _ => (runs .go).andThen fun _ => ending
  · refine (runs _).andThen fun _ => ?_
    refine .andThen (.change fun session => ?_) fun _ => ending
    exact lawful.report (.printAll session _)

/-- A law that holds of the runs and of the edits that a command permits holds of the command. -/
theorem execute_obeys
    {command : Command}
    (grants : ∀ edit, command.Permits edit → edit.IsGranted law) :
    Obeys law (execute runner command) := by
  cases command with
  | help =>
      exact .printAll _
  | assemble address? mnemonic? operands =>
      exact assemble_obeys address? mnemonic? operands
  | setBreakpoint kind address script? =>
      exact setBreakpoint_obeys grants
  | removeBreakpoints address? =>
      exact removeBreakpoints_obeys grants
  | listBreakpoints =>
      exact (Obeys.observe _).andThen fun lines => .printAllOr _ _
  | countDown count? =>
      exact countDown_obeys grants
  | togglePort direction port? =>
      exact togglePort_obeys grants
  | dump unit address? length? =>
      exact dump_obeys unit address? length?
  | listHistory back? filter? =>
      exact listHistory_obeys back? filter?
  | dumpMap =>
      exact dumpMap_obeys
  | edit unit address values =>
      exact edit_obeys grants
  | frequencies isClear =>
      exact frequencies_obeys isClear
  | go address? =>
      exact go_obeys runs grants
  | halt =>
      exact halt_obeys grants
  | readPort port =>
      exact readPort_obeys port
  | writePort port byte =>
      exact writePort_obeys grants
  | listCalls withSymbols count? =>
      exact listCalls_obeys withSymbols count?
  | describeAddress address =>
      exact describeAddress_obeys address
  | listNames start? =>
      exact listNames_obeys start?
  | messages topic? enable? =>
      exact messages_obeys topic? enable?
  | stepPast withRegisters =>
      exact stepPast_obeys runs grants
  | print text =>
      exact printValue_obeys text
  | showRegisters =>
      exact showRegisters_obeys
  | register name value? =>
      exact register_obeys grants
  | options arguments =>
      exact options_obeys grants
  | trace detail count? =>
      exact (Obeys.countOr 1 count?).andThen fun count => runs _
  | disassemble address? end? =>
      exact disassemble_obeys address? end?
  | onVariables access =>
      exact accessVariables_obeys access
  | ifTrue condition =>
      exact .failure nofun
  | orElse =>
      exact .failure nofun

end Runner

end Law

end Operation
end Monitor8080
