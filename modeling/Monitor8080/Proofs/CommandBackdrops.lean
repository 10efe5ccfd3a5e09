import Monitor8080.Operator.Script
import Monitor8080.Proofs.Backdrop
namespace Monitor8080.Operation

/-!
# Commands in front of a backdrop

Every command overlooks its backdrop, if the runs that it starts do. The
commands are gone through one by one, as each looks at something else.
-/

variable {backdrop : Backdrop}

/-! ## Breakpoints -/

/-- A breakpoint is set at the address of a text, whatever its script. -/
theorem setBreakpoint_overlooks
    (kind : BreakKind)
    (text : String)
    (script? : Option String) :
    Overlooks backdrop (setBreakpoint kind text script?) := by
  refine (Overlooks.address text).andThen fun target => ?_
  cases script? with
  | none =>
      exact .placeBreakpoint _ _
  | some script =>
      exact .placeBreakpoint _ _

/-- Without a text all breakpoints go, and the countdown too. -/
theorem removeBreakpoints_overlooks (text? : Option String) :
    Overlooks backdrop (removeBreakpoints text?) := by
  cases text? with
  | none =>
      refine (Overlooks.clearBreakpointsAt none).andThen fun count => ?_
      exact (Overlooks.startCountdown 0).andThen fun _ => .print _
  | some text =>
      refine (Overlooks.address text).andThen fun target => ?_
      refine (Overlooks.clearBreakpointsAt _).andThen fun count => ?_
      exact .choice (.failure _) (.value ())

/-- The entries and the countdown are listed from the sentry. -/
theorem listBreakpoints_overlooks : Overlooks backdrop listBreakpoints :=
  (Overlooks.observe fun _ => rfl).andThen fun lines => .printAllOr _ lines

/-- A countdown is shown or armed. -/
theorem countDown_overlooks (count? : Option String) :
    Overlooks backdrop (countDown count?) := by
  cases count? with
  | none =>
      refine (Overlooks.observe fun _ => rfl).andThen fun countdown? => ?_
      cases countdown? with
      | none =>
          exact .print _
      | some left =>
          exact .print _
  | some text =>
      exact (Overlooks.count text).andThen fun number => .startCountdown _

/-- Ports are listed, all cleared or one of them switched, in memory only. -/
theorem togglePort_overlooks
    (direction : PortDirection)
    (port? : Option String) :
    Overlooks backdrop (togglePort direction port?) := by
  unfold togglePort
  split
  · exact (Overlooks.observe fun _ => rfl).andThen fun ports => .printAllOr _ _
  · exact .updateMachine _
  · refine (Overlooks.port _).andThen fun number => ?_
    refine (Overlooks.updateMachine _).andThen fun _ => ?_
    exact (Overlooks.observe fun _ => rfl).andThen fun isSet => .message _ _

/-! ## Listings -/

/-- A dump reads its length from the configuration, beside the chunk size and not from it. -/
theorem dump_overlooks
    (unit : MemoryUnit)
    (address? length? : Option String) :
    Overlooks backdrop (dump unit address? length?) := by
  refine (Overlooks.observe fun _ => rfl).andThen fun dumpCursor => ?_
  refine (Overlooks.place address? dumpCursor).andThen fun cursor => ?_
  refine (Overlooks.observe fun _ => rfl).andThen fun dumpBytes => ?_
  refine (Overlooks.countOr dumpBytes length?).andThen fun length => ?_
  refine (Overlooks.observe fun _ => rfl).andThen fun dump => ?_
  refine (Overlooks.printAll dump.lines).andThen fun _ => ?_
  exact .updateMonitor fun _ => rfl

/-- A listing is of a count from the configuration, or of a range. -/
theorem disassemble_overlooks (address? end? : Option String) :
    Overlooks backdrop (disassemble address? end?) := by
  refine (Overlooks.observe fun _ => rfl).andThen fun codeCursor => ?_
  refine (Overlooks.place address? codeCursor).andThen fun cursor => ?_
  have shown :
      ∀ extract : Extract,
        Overlooks backdrop (do
          printAll extract.lines
          updateMonitor fun monitor =>
            { monitor with codeCursor := { cursor with address? := some extract.next } }) :=
    fun extract => (Overlooks.printAll _).andThen fun _ => .updateMonitor fun _ => rfl
  cases end? with
  | none =>
      refine (Overlooks.observe fun session => ?_).andThen shown
      exact session.listCount_onto backdrop _ _
  | some text =>
      refine (Overlooks.address text).andThen fun stop => ?_
      refine (Overlooks.observe fun session => ?_).andThen shown
      exact session.listWithin_onto backdrop _ _ _ _

theorem assemble_overlooks
    (address? mnemonic? : Option String)
    (operands : List String) :
    Overlooks backdrop (assemble address? mnemonic? operands) := by
  refine (Overlooks.observe fun _ => rfl).andThen fun assembleCursor => ?_
  refine (Overlooks.place address? assembleCursor).andThen fun cursor => ?_
  refine (Overlooks.print _).andThen fun _ => ?_
  exact .updateMonitor fun _ => rfl

theorem dumpMap_overlooks : Overlooks backdrop dumpMap :=
  (Overlooks.observe fun _ => rfl).andThen fun _ => .printAll _

/-! ## Inspecting -/

/-- The history is listed from the sentry, and each address in it from memory. -/
theorem listHistory_overlooks (back? limit? : Option String) :
    Overlooks backdrop (listHistory back? limit?) := by
  refine (Overlooks.observe fun _ => rfl).andThen fun isOn => .guarded ?_
  refine (Overlooks.observe fun _ => rfl).andThen fun unassembleCount => ?_
  refine (Overlooks.countOr unassembleCount back?).andThen fun back => ?_
  have shown :
      ∀ chosen : Nat × HistoryFilter,
        Overlooks backdrop (do
          let addresses ← observe fun session =>
            session.monitor.sentry.history.entries back chosen.1
          printAllOr "history empty"
            (← observe fun session => historyLines session addresses chosen.2)) :=
    fun chosen =>
      (Overlooks.observe fun _ => rfl).andThen fun _ =>
        (Overlooks.observe fun _ => rfl).andThen fun _ => .printAllOr _ _
  cases limit? with
  | none =>
      exact (Overlooks.value _).andThen shown
  | some text =>
      simp only
      split
      · exact (Overlooks.value _).andThen shown
      · exact (Overlooks.count text).andThen fun number => (Overlooks.value _).andThen shown

/-- How often opcodes were executed is counted by the sentry. -/
theorem frequencies_overlooks (isClear : Bool) : Overlooks backdrop (frequencies isClear) := by
  refine .choice ?_ ?_
  · exact .updateMonitor fun _ => rfl
  · refine (Overlooks.observe fun _ => rfl).andThen fun dialect => ?_
    exact (Overlooks.observe fun _ => rfl).andThen fun counts => .printAllOr _ _

/-- The call chain is traced through memory with the symbols at hand. -/
theorem listCalls_overlooks
    (withSymbols : Bool)
    (count? : Option String) :
    Overlooks backdrop (listCalls withSymbols count?) := by
  refine (Overlooks.observe fun _ => rfl).andThen fun maxStackFrames => ?_
  refine (Overlooks.countOr maxStackFrames count?).andThen fun number => ?_
  exact (Overlooks.observe fun _ => rfl).andThen fun frames => .printAllOr _ _

/-- An address is described by the symbols around it. -/
theorem describeAddress_overlooks (text : String) :
    Overlooks backdrop (describeAddress text) := by
  refine (Overlooks.address text).andThen fun target => ?_
  exact (Overlooks.observe fun _ => rfl).andThen fun symbols => .printAll _

/-- Names are listed from the symbol table. -/
theorem listNames_overlooks (start? : Option String) : Overlooks backdrop (listNames start?) :=
  (Overlooks.observe fun _ => rfl).andThen fun _ => .printAllOr _ _

/-! ## Showing and setting -/

/-- Values are evaluated one after the other, each after the one before it was stored. -/
theorem editFrom_overlooks
    (unit : MemoryUnit)
    (target : UInt16)
    (texts : List String) :
    Overlooks backdrop (editFrom unit target texts) := by
  induction texts generalizing target with
  | nil =>
      exact .value ()
  | cons text texts inductionHypothesis =>
      have byByte :
          Overlooks backdrop (do
            let value ← byte text
            modify (·.editByte target value)
            editFrom unit (target + 1) texts) := by
        refine (Overlooks.byte text).andThen fun value => ?_
        refine .andThen (.change fun session => ?_) fun _ => inductionHypothesis _
        exact session.editByte_onto backdrop target value
      cases unit with
      | word =>
          refine (Overlooks.word text).andThen fun value => ?_
          refine .andThen (.change fun session => ?_) fun _ => inductionHypothesis _
          exact session.editWord_onto backdrop target value
      | byte =>
          exact byByte
      | doubleWord =>
          exact byByte

theorem readPort_overlooks (text : String) : Overlooks backdrop (readPort text) := by
  refine (Overlooks.port text).andThen fun number => ?_
  exact (Overlooks.observe fun _ => rfl).andThen fun value => .print _

/-- A byte written to a port is told by a message. -/
theorem writePort_overlooks (portText byteText : String) :
    Overlooks backdrop (writePort portText byteText) := by
  refine (Overlooks.port portText).andThen fun number => ?_
  refine (Overlooks.byte byteText).andThen fun value => ?_
  exact (Overlooks.updateMachine _).andThen fun _ => .message _ _

/-- A register is shown, or set to a value in its bounds. -/
theorem accessRegister_overlooks
    (name : String)
    (register : RegisterName)
    (value? : Option String) :
    Overlooks backdrop (accessRegister name register value?) := by
  cases value? with
  | none =>
      exact (Overlooks.observe fun _ => rfl).andThen fun value => .print _
  | some text =>
      refine (Overlooks.valueWithin _ _ _ text).andThen fun value => ?_
      exact (Overlooks.updateMachine _).andThen fun _ => .message _ _

/-- A flag is shown, or becomes whether a value is not zero. -/
theorem accessFlag_overlooks
    (name : String)
    (flag : FlagName)
    (value? : Option String) :
    Overlooks backdrop (accessFlag name flag value?) := by
  cases value? with
  | none =>
      exact (Overlooks.observe fun _ => rfl).andThen fun value => .print _
  | some text =>
      exact (Overlooks.evaluate text).andThen fun value => .updateMachine _

/-- A name is that of a register or of a flag, else the command fails. -/
theorem register_overlooks
    (name : String)
    (value? : Option String) :
    Overlooks backdrop (register name value?) := by
  unfold register
  split
  · exact accessRegister_overlooks _ _ _
  · exact accessFlag_overlooks _ _ _
  · exact .failure _

theorem showRegisters_overlooks : Overlooks backdrop showRegisters :=
  (Overlooks.observe fun _ => rfl).andThen fun _ => .print _

/-- A value is printed in the forms that it has. -/
theorem printValue_overlooks (text : String) : Overlooks backdrop (printValue text) :=
  (Overlooks.evaluate text).andThen fun _ => .print _

/-- A variable is defined or it is not. -/
theorem variableValue_overlooks (name : String) : Overlooks backdrop (variableValue name) := by
  refine (Overlooks.observe fun _ => rfl).andThen fun value? => ?_
  cases value? with
  | none =>
      exact .failure _
  | some value =>
      exact .value value

/-- Variables are listed, shown, deleted or assigned. -/
theorem accessVariables_overlooks (access : VariableCommand) :
    Overlooks backdrop (accessVariables access) := by
  cases access with
  | list =>
      exact (Overlooks.observe fun _ => rfl).andThen fun bindings => .printAllOr _ _
  | «show» name =>
      exact (variableValue_overlooks name).andThen fun value => .print _
  | delete name =>
      exact (variableValue_overlooks name).andThen fun value => .updateMonitor fun _ => rfl
  | assign name text =>
      exact (Overlooks.evaluate text).andThen fun value => .updateMonitor fun _ => rfl

/-- Of the configuration an option changes the parts that are not in the backdrop. -/
theorem options_overlooks (arguments : List String) :
    Overlooks backdrop (options arguments) := by
  unfold options
  split
  · exact .ofSession fun session => Overlooks.printAll _ session
  · exact .updateMonitor fun _ => rfl
  · exact .updateMonitor fun _ => rfl
  · refine (Overlooks.count _).andThen fun interval => .updateChecks fun monitor => ?_
    exact monitor.restartChecksum_onto backdrop _
  · exact (Overlooks.count _).andThen fun speed => .updateMachine _
  · exact .failure _

/-- Which topics are shown is no part of the backdrop. -/
theorem messages_overlooks
    (topic? : Option String)
    (enable? : Option Bool) :
    Overlooks backdrop (messages topic? enable?) := by
  refine (Overlooks.observe fun _ => rfl).andThen fun mask => ?_
  cases topic? with
  | none =>
      exact .printAll _
  | some text =>
      refine .choice ?_ ?_
      · exact .updateMonitor fun _ => rfl
      · split
        · exact .updateMonitor fun _ => rfl
        · exact .failure _

/-- A halt is a matter of the processor. -/
theorem halt_overlooks : Overlooks backdrop halt := by
  refine (Overlooks.updateMachine _).andThen fun _ => ?_
  exact (Overlooks.observe fun _ => rfl).andThen fun pc => .message _ _

/-! ## Every command -/

section Runner

variable {runner : Runner} (runs : ∀ goal, Overlooks backdrop (runner goal))

include runs

/-- A run to an address places its entry before it starts. -/
theorem go_overlooks (address? : Option String) : Overlooks backdrop (go runner address?) := by
  cases address? with
  | none =>
      exact (Overlooks.value ()).andThen fun _ => runs .go
  | some text =>
      refine (Overlooks.address text).andThen fun target => ?_
      exact (Overlooks.placeBreakpoint _ _).andThen fun _ => runs .go

/-- A call is run past with a temporary entry, anything else is traced. -/
theorem stepPast_overlooks (withRegisters : Bool) :
    Overlooks backdrop (stepPast runner withRegisters) := by
  have ending : Overlooks backdrop (if withRegisters then showRegisters else pure ()) :=
    .choice showRegisters_overlooks (.value ())
  refine (Overlooks.observe fun _ => rfl).andThen fun decoded => .choice ?_ ?_
  · refine (Overlooks.placeBreakpoint _ _).andThen fun _ => ?_
    exact (runs .go).andThen fun _ => ending
  · refine (runs _).andThen fun _ => .andThen (.change fun session => ?_) fun _ => ending
    exact session.showCurrent_onto backdrop

/-- A command overlooks its backdrop if the runs do that it may start. -/
theorem execute_overlooks (command : Command) :
    Overlooks backdrop (execute runner command) := by
  cases command with
  | help =>
      exact .printAll _
  | assemble address? mnemonic? operands =>
      exact assemble_overlooks address? mnemonic? operands
  | setBreakpoint kind address script? =>
      exact setBreakpoint_overlooks kind address script?
  | removeBreakpoints address? =>
      exact removeBreakpoints_overlooks address?
  | listBreakpoints =>
      exact listBreakpoints_overlooks
  | countDown count? =>
      exact countDown_overlooks count?
  | togglePort direction port? =>
      exact togglePort_overlooks direction port?
  | dump unit address? length? =>
      exact dump_overlooks unit address? length?
  | listHistory back? filter? =>
      exact listHistory_overlooks back? filter?
  | dumpMap =>
      exact dumpMap_overlooks
  | edit unit address values =>
      exact (Overlooks.address address).andThen fun target => editFrom_overlooks unit target values
  | frequencies isClear =>
      exact frequencies_overlooks isClear
  | go address? =>
      exact go_overlooks runs address?
  | halt =>
      exact halt_overlooks
  | readPort port =>
      exact readPort_overlooks port
  | writePort port byte =>
      exact writePort_overlooks port byte
  | listCalls withSymbols count? =>
      exact listCalls_overlooks withSymbols count?
  | describeAddress address =>
      exact describeAddress_overlooks address
  | listNames start? =>
      exact listNames_overlooks start?
  | messages topic? enable? =>
      exact messages_overlooks topic? enable?
  | stepPast withRegisters =>
      exact stepPast_overlooks runs withRegisters
  | print text =>
      exact printValue_overlooks text
  | showRegisters =>
      exact showRegisters_overlooks
  | register name value? =>
      exact register_overlooks name value?
  | options arguments =>
      exact options_overlooks arguments
  | trace detail count? =>
      exact (Overlooks.countOr 1 count?).andThen fun count => runs _
  | disassemble address? end? =>
      exact disassemble_overlooks address? end?
  | onVariables access =>
      exact accessVariables_overlooks access
  | ifTrue condition =>
      exact .failure _
  | orElse =>
      exact .failure _

end Runner

end Monitor8080.Operation
