import Monitor8080.Proofs.Bookkeeping
import Monitor8080.Proofs.ExecutionStops
import Monitor8080.Proofs.RunTargets
namespace Monitor8080

/-!
# What a trace shows

A trace decodes the instruction at the program counter before each step and
shows it after the step if that executed anything. So its instruction lines are
those of the steps that retired, in their order. They are the instructions that
were fetched unless a step accepted an interrupt or found the processor halted:
such a step retires too, and the trace shows the instruction at the program
counter for it, which was not executed.
-/

/-- A line that a run without scripts prints. -/
inductive RunLine where
  | label (name : String)
  | instruction (decoded : Decoded)
  | registers (cpu : Cpu)
  | portNote (direction : PortDirection) (port byte : UInt8)
  | checksum (value : Checksum) (cycles : Nat)
  | fault (error : StepError)
  | historySwitch (isOn : Bool)
  | stopped (reason : Stop)
  | halted (address : UInt16)
  | stopRequested
  | limitReached (limit : Nat)
  | errorCleared

namespace RunLine

def text : RunLine → String
  | .label name => name ++ ":"
  | .instruction decoded => decoded.line
  | .registers cpu => "    " ++ cpu.line
  | .portNote direction port byte => direction.note port byte
  | .checksum value cycles => value.line cycles
  | .fault error => "fault: " ++ error.message
  | .historySwitch isOn => if isOn then "history enabled" else "history disabled"
  | .stopped reason => reason.text
  | .halted address => "halted at " ++ Text.hexWord address
  | .stopRequested => "stop requested"
  | .limitReached limit => "run limit of " ++ toString limit ++ " instructions reached"
  | .errorCleared => "clearing error state"

/-- The instruction that a line shows, if it is an instruction line. -/
def decoded? : RunLine → Option Decoded
  | .instruction decoded => some decoded
  | _ => none

/-- The address on a line, if it is an instruction line. -/
def address? (line : RunLine) : Option UInt16 :=
  line.decoded?.map Decoded.address

/-- Texts that are no instruction lines can be told as such lines. -/
theorem exists_of_texts
    {texts : List String}
    (told : ∀ text ∈ texts, ∃ line : RunLine, line.text = text ∧ line.decoded? = none) :
    ∃ lines : List RunLine, lines.map RunLine.text = texts ∧ lines.filterMap decoded? = [] := by
  induction texts with
  | nil =>
      exact ⟨[], rfl, rfl⟩
  | cons text rest inductionHypothesis =>
      obtain ⟨line, isText, unshown⟩ := told text List.mem_cons_self
      obtain ⟨lines, areTexts, noneShown⟩ :=
        inductionHypothesis fun other member => told other (List.mem_cons_of_mem text member)
      exact ⟨line :: lines, by rw [List.map_cons, isText, areTexts],
        by rw [List.filterMap_cons_none unshown, noneShown]⟩

end RunLine

/-- Whether a trace in some detail shows an instruction that was executed. -/
def TraceDetail.shows (detail : TraceDetail) (decoded : Decoded) : Bool :=
  detail ≠ .calls || decoded.isCall

namespace Session

/-- Between two sessions exactly these lines were printed. -/
def Prints
    (before : Session)
    (lines : List RunLine)
    (after : Session) : Prop :=
  after.monitor.output.toList = before.monitor.output.toList ++ lines.map RunLine.text

/-- The lines printed between two sessions show these instructions and no other ones. -/
def Shows
    (before : Session)
    (shown : List Decoded)
    (after : Session) : Prop :=
  ∃ lines, before.Prints lines after ∧ lines.filterMap RunLine.decoded? = shown

namespace Shows

theorem of_output
    {before after : Session}
    (output : after.monitor.output = before.monitor.output) :
    before.Shows [] after :=
  ⟨[], by rw [Prints, output, List.map_nil, List.append_nil], rfl⟩

theorem refl (session : Session) : session.Shows [] session :=
  of_output rfl

theorem trans
    {first second third : Session}
    {shown shownNext : List Decoded}
    (shows : first.Shows shown second)
    (showsNext : second.Shows shownNext third) :
    first.Shows (shown ++ shownNext) third := by
  obtain ⟨lines, printed, rfl⟩ := shows
  obtain ⟨linesNext, printedNext, rfl⟩ := showsNext
  refine ⟨lines ++ linesNext, ?_, List.filterMap_append⟩
  rw [Prints, printedNext, printed, List.map_append, List.append_assoc]

theorem of_texts
    {before after : Session}
    {texts : List String}
    (output : after.monitor.output.toList = before.monitor.output.toList ++ texts)
    (told : ∀ text ∈ texts, ∃ line : RunLine, line.text = text ∧ line.decoded? = none) :
    before.Shows [] after := by
  obtain ⟨lines, areTexts, noneShown⟩ := RunLine.exists_of_texts told
  exact ⟨lines, by rw [Prints, output, areTexts], noneShown⟩

theorem print
    (session : Session)
    (line : RunLine)
    (unshown : line.decoded? = none) :
    session.Shows [] (session.print line.text) :=
  of_texts Array.toList_push fun _ member =>
    ⟨line, (List.mem_singleton.mp member).symm, unshown⟩

theorem message
    (session : Session)
    (topic : Topic)
    (line : RunLine)
    (unshown : line.decoded? = none) :
    session.Shows [] (session.message topic line.text) := by
  unfold Session.message Monitor.message
  simp only [updateMonitor]
  split
  · exact .print session line unshown
  · exact .refl session

theorem settleHistory
    (monitor : Monitor)
    (machine settled : Machine) :
    Shows ⟨monitor, machine⟩ [] ⟨monitor.settleHistory, settled⟩ := by
  obtain ⟨texts, printed, switches⟩ := monitor.settleHistory_output
  refine of_texts printed fun text member => ?_
  rcases switches text member with rfl | rfl
  · exact ⟨.historySwitch true, rfl, rfl⟩
  · exact ⟨.historySwitch false, rfl, rfl⟩

end Shows

instance : Composes fun before after => before.Shows [] after where
  refl := .refl
  trans := .trans

/-! ## One step -/

/-- A step shows no instruction, only what it has to tell of ports, checksums and faults. -/
theorem step_shows
    {session : Session}
    (tidy : session.monitor.sentry.Tidy) :
    session.Shows [] session.step.2 := by
  obtain ⟨closing, printed, told⟩ := session.step_output
  rw [List.append_assoc, List.append_assoc] at printed
  refine .of_texts printed fun text member => ?_
  rcases List.mem_append.mp member with isNote | rest
  · rcases session.execute_notes text isNote with earlier | ⟨direction, port, byte, rfl⟩
    · rw [tidy.noted] at earlier
      cases earlier
    · exact ⟨.portNote direction port byte, rfl, rfl⟩
  · rcases List.mem_append.mp rest with isChecksum | isClosing
    · obtain ⟨-, line⟩ : _ ∧ _ = text := by
        simpa [checksumLine?, Option.mem_toList, ite_eq_iff] using isChecksum
      exact ⟨.checksum _ _, line, rfl⟩
    · rcases told text isClosing with rfl | rfl | ⟨error, rfl⟩
      · exact ⟨.historySwitch true, rfl, rfl⟩
      · exact ⟨.historySwitch false, rfl, rfl⟩
      · exact ⟨.fault error, rfl, rfl⟩

@[simp] theorem listedAt_address
    (session : Session)
    (address : UInt16) :
    (session.listedAt address).decoded.address = address := by
  unfold listedAt
  simp only
  split <;> rfl

/-- A listed instruction stands on one line, below the name of the symbol there, if there is one. -/
theorem listedAt_lines
    (session : Session)
    (address : UInt16) :
    ∃ lines : List RunLine,
      (session.listedAt address).lines = lines.map RunLine.text ∧
        lines.filterMap RunLine.decoded? = [(session.listedAt address).decoded] := by
  unfold listedAt
  simp only
  cases session.monitor.symbols.exactAt? address with
  | none =>
      exact ⟨[.instruction _], rfl, rfl⟩
  | some symbol =>
      exact ⟨[.label symbol.name, .instruction _], rfl, rfl⟩

/-- The instruction that a trace shows for a step, if it shows one. -/
def traced? (session : Session) (detail : TraceDetail) : Option Decoded :=
  if session.step.1.isRetired && !Run.isBroken session.step.1 session.step.2
      && detail.shows (session.listedAt session.pc).decoded then
    some (session.listedAt session.pc).decoded
  else
    none

/-- A trace that is not of calls alone shows every step that retires, where history has room. -/
theorem traced?_of_hasRoom
    {session : Session}
    {detail : TraceDetail}
    (whole : detail ≠ .calls)
    (room : session.monitor.sentry.history.hasRoom) :
    (session.traced? detail).map Decoded.address =
      if session.step.1.isRetired then some session.pc else none := by
  unfold traced?
  rw [isBroken_of_hasRoom room]
  cases session.step.1.isRetired <;> simp [TraceDetail.shows, whole]

end Session

namespace Run

/-! ## A step of a run -/

/-- Where a trace shows an instruction that was listed, it shows this one alone. -/
theorem showTraced_shows
    (detail : TraceDetail)
    (earlier : Session)
    (address : UInt16)
    (session : Session) :
    session.Shows
      (if detail.shows (earlier.listedAt address).decoded then
        [(earlier.listedAt address).decoded] else [])
      (showTraced detail (earlier.listedAt address) session) := by
  obtain ⟨lines, listed, shown⟩ := earlier.listedAt_lines address
  have printed :
      (showTraced detail (earlier.listedAt address) session).monitor.output.toList =
        session.monitor.output.toList ++
          traceLines detail (earlier.listedAt address) session.machine.cpu :=
    session.monitor.printAll_output _
  cases detail with
  | plain =>
      rw [traceLines, listed] at printed
      exact ⟨lines, printed, shown⟩
  | registers =>
      rw [traceLines, listed] at printed
      refine ⟨lines ++ [.registers session.machine.cpu], ?_, ?_⟩
      · rw [Session.Prints, List.map_append]
        exact printed
      · rw [List.filterMap_append, shown]
        rfl
  | calls =>
      cases isCall : (earlier.listedAt address).decoded.isCall with
      | true =>
          rw [traceLines, isCall, if_pos rfl, listed] at printed
          exact ⟨lines, printed, by simpa [TraceDetail.shows, isCall] using shown⟩
      | false =>
          rw [traceLines, isCall, if_neg Bool.false_ne_true] at printed
          exact ⟨[], printed, by simp [TraceDetail.shows, isCall]⟩

section Step

variable
  {handle : StopHandler}
  (isHandler : IsHandler handle)
  {session : Session}
  (scriptFree : session.monitor.sentry.breakpoints.ScriptFree)

include isHandler scriptFree

/-- After a step without scripts, nothing is done but to print lines that show no instruction. -/
theorem react_shows
    (idle : session.monitor.sentry.pending? = none)
    (session' : Session) :
    session'.SameDuty (react handle session.step.1 session').2 ∧
      session'.Shows [] (react handle session.step.1 session').2 := by
  cases ended : session.step.1 with
  | cycles count =>
      unfold react
      split
      · split
        · exact ⟨.print session' _, .print session' (.halted session'.pc) rfl⟩
        · exact ⟨.refl session', .refl session'⟩
      · contradiction
      · contradiction
  | «break» reason =>
      have named := Session.step_names idle ended
      rw [react, isHandler.eq_endAt named scriptFree session']
      refine ⟨(endAt_spec reason session').2, ?_⟩
      have told : session'.Shows [] (session'.print reason.text) :=
        .print session' (.stopped reason) rfl
      unfold endAt
      split
      · split
        · exact .refl session'
        · exact told
      · exact told
  | fault error =>
      exact ⟨.refl session', .refl session'⟩

/-- A step of a trace shows the instruction at the program counter if the step retired. -/
theorem step_shows
    (tidy : session.monitor.sentry.Tidy)
    (detail : TraceDetail)
    (count executed : Nat) :
    session.step.2.SameDuty (step handle (.trace detail count) executed session).session ∧
      session.Shows (session.traced? detail).toList
        (step handle (.trace detail count) executed session).session := by
  have reacts := react_shows isHandler scriptFree tidy.idle
  have stepped := Session.step_shows tidy
  unfold step Session.traced?
  simp only [upcoming?]
  split
  · rename_i broken
    simp only [broken]
    exact ⟨.refl _, by simpa using stepped⟩
  · rename_i unbroken
    split
    · rename_i retired
      have traced := showTraced_shows detail session session.pc session.step.2
      obtain ⟨same, reacted⟩ :=
        reacts (showTraced detail (session.listedAt session.pc) session.step.2)
      refine ⟨(showTraced_sameDuty _ _ _).trans same, ?_⟩
      have shows := (stepped.trans traced).trans reacted
      simp only [List.nil_append, List.append_nil] at shows
      cases shown : detail.shows (session.listedAt session.pc).decoded with
      | true =>
          simpa [retired, unbroken, shown] using shows
      | false =>
          simpa [shown] using shows
    · rename_i unretired
      obtain ⟨same, reacted⟩ := reacts session.step.2
      exact ⟨same, by simpa [unretired] using stepped.trans reacted⟩

end Step

/-! ## The whole run -/

/-- What the steps of a trace keep: what was printed so far shows the stations that retired. -/
structure Traced
    (detail : TraceDetail)
    (first : Session)
    (past : List Session)
    (stretch : Stretch) : Prop where
  scriptFree : stretch.session.monitor.sentry.breakpoints.ScriptFree
  tidy : stretch.session.monitor.sentry.Tidy
  room :
    first.monitor.sentry.history.hasRoom →
      stretch.session.monitor.sentry.history.hasRoom ∧
        ∀ station ∈ past, station.monitor.sentry.history.hasRoom
  shows : first.Shows (past.filterMap (·.traced? detail)) stretch.session

theorem keeps_traced
    {handle : StopHandler}
    (isHandler : IsHandler handle)
    (detail : TraceDetail)
    (count : Nat)
    (first : Session) :
    Keeps handle (.trace detail count) (Traced detail first) where
  step := by
    intro past executed session before
    obtain ⟨same, shows⟩ :=
      step_shows isHandler before.scriptFree before.tidy detail count executed
    refine
      { scriptFree := ?_
        tidy := ?_
        room := ?_
        shows := ?_ }
    · rw [same.breakpoints]
      exact before.scriptFree.mono fun kind => (Session.entries_step_sublist kind).subset
    · exact same.records.tidy same.pending? (Session.step_tidy before.tidy.idle)
    · intro room
      obtain ⟨roomNow, roomBefore⟩ := before.room room
      refine ⟨same.records.hasRoom (Session.step_hasRoom roomNow), ?_⟩
      intro station member
      rcases List.mem_append.mp member with earlier | here
      · exact roomBefore station earlier
      · rw [List.mem_singleton.mp here]
        exact roomNow
    · rw [List.filterMap_append]
      have whole := before.shows.trans shows
      cases traced : session.traced? detail with
      | none =>
          simpa [traced] using whole
      | some decoded =>
          simpa [traced] using whole
  stopRequest := by
    intro past executed session before
    have shows := before.shows.trans (.print session .stopRequested rfl)
    rw [List.append_nil] at shows
    exact
      { scriptFree := before.scriptFree
        tidy := ⟨before.tidy.idle, before.tidy.noted, before.tidy.shown⟩
        room := before.room
        shows := shows }

/-! ## Around the steps -/

theorem clearError_shows (session : Session) : session.Shows [] (clearError session) := by
  unfold clearError
  split
  · exact .message session .cpu .errorCleared rfl
  · exact .refl session

theorem removeTemporaryBreakpoints_shows (session : Session) :
    session.Shows [] session.removeTemporaryBreakpoints.2 := by
  unfold Session.removeTemporaryBreakpoints
  simp only
  split
  · exact .refl session
  · exact .settleHistory (session.monitor.withBreakpoints _) session.machine _

open Operation in
/-- What is left to do after the steps of a trace shows no instruction. -/
theorem settle_shows
    (detail : TraceDetail)
    (count : Nat)
    (isNested : Bool)
    (stretch : Stretch) :
    Follows (fun before after => before.Shows [] after)
      (settle (.trace detail count) isNested stretch) := by
  have limit :
      Obeys (fun before _ after => before.Shows [] after)
        (reportLimit stretch.course stretch.executed) := by
    refine (Obeys.observe _).andThen fun limit => ?_
    exact .choice
      (.change fun session => .print session (.limitReached limit) rfl) (.value _)
  have points :
      Obeys (fun before _ after => before.Shows [] after) (modify Session.pointAtPC) :=
    .change fun session => .of_output rfl
  have leaves :
      Obeys (fun before _ after => before.Shows [] after) (leave (.trace detail count)) := by
    refine .andThen (.change fun session => .of_output rfl) fun _ => ?_
    refine .andThen (.clearTemporaryBreakpoints removeTemporaryBreakpoints_shows) fun _ => ?_
    exact points.andThen fun _ => .value _
  intro session
  by_cases abandoned : stretch.course = .abandoned
  · rw [settle_of_abandoned abandoned]
    exact .refl session
  · rw [settle_of_not_abandoned abandoned]
    exact (limit.andThen fun _ => points.choice leaves) session

/-- What a trace prints shows the stations that retired. -/
theorem run_shows
    {handle : StopHandler}
    (isHandler : IsHandler handle)
    (detail : TraceDetail)
    (count : Nat)
    {session : Session}
    (scriptFree : session.monitor.sentry.breakpoints.ScriptFree)
    (tidy : session.monitor.sentry.Tidy) :
    session.Shows
        ((stations handle (.trace detail count) session).filterMap (·.traced? detail))
        ((run handle (.trace detail count)).run session).2 ∧
      (session.monitor.sentry.history.hasRoom →
        ∀ station ∈ stations handle (.trace detail count) session,
          station.monitor.sentry.history.hasRoom) := by
  cases powered : session.machine.cpu.isPowered with
  | false =>
      rw [run_of_not_isPowered powered, stations, powered]
      exact ⟨.refl session, fun _ _ member => absurd member List.not_mem_nil⟩
  | true =>
      rw [run_of_isPowered powered, stations, if_pos powered]
      have entered :
          Traced detail (enter (clearError session)) []
            ⟨.goesOn, 0, enter (clearError session)⟩ := by
        have same := clearError_sentry session
        refine
          { scriptFree := ?_
            tidy := ?_
            room := fun room => ⟨room, fun _ member => absurd member List.not_mem_nil⟩
            shows := .refl _ }
        · rw [enter_breakpoints, same]
          intro kind location member
          refine scriptFree kind location ?_
          cases kind <;> exact member
        · rw [← same] at tidy
          exact ⟨tidy.idle, tidy.noted, tidy.shown⟩
      have whole := (keeps_traced isHandler detail count _).perform _ entered
      have cleared : session.Shows [] (enter (clearError session)) := clearError_shows session
      have settled :=
        settle_shows detail count (clearError session).machine.isRunning
          (perform handle (.trace detail count) (clearError session))
          (perform handle (.trace detail count) (clearError session)).session
      constructor
      · have shows := (cleared.trans whole.shows).trans settled
        rwa [List.nil_append, List.append_nil] at shows
      · intro room
        rw [← clearError_sentry session] at room
        exact (whole.room room).2

end Run

namespace RunCommand

/-- Before a trace nothing is done but to work out how many instructions it is of. -/
theorem prepare_trace
    (detail : TraceDetail)
    (count? : Option String)
    (session : Session) :
    (∃ error, (trace detail count?).prepare.run session = (.error error, session)) ∨
      ∃ count, (trace detail count?).prepare.run session = (.ok (.trace detail count), session) := by
  have looks :
      Operation.Obeys (fun before _ after => after = before) (Operation.countOr 1 count?) :=
    .countOr 1 count?
  have unchanged := looks session
  unfold prepare
  rcases Operation.run_bind_cases (Operation.countOr 1 count?)
      (fun count => (pure (.trace detail count) : Operation RunGoal)) session with
    ⟨error, middle, came, whole⟩ | ⟨count, middle, came, whole⟩
  · rw [came] at unchanged
    subst unchanged
    exact .inl ⟨error, whole⟩
  · rw [came] at unchanged
    subst unchanged
    exact .inr ⟨count, whole⟩

theorem after_shows
    {handle : StopHandler}
    (isHandler : Run.IsHandler handle)
    (detail : TraceDetail)
    (count? : Option String)
    {session : Session}
    (scriptFree : session.monitor.sentry.breakpoints.ScriptFree)
    (tidy : session.monitor.sentry.Tidy) :
    session.Shows
        (((trace detail count?).stations handle session).filterMap (·.traced? detail))
        ((trace detail count?).after handle session) ∧
      (session.monitor.sentry.history.hasRoom →
        ∀ station ∈ (trace detail count?).stations handle session,
          station.monitor.sentry.history.hasRoom) := by
  unfold stations after
  rw [execute_eq]
  rcases prepare_trace detail count? session with ⟨error, came⟩ | ⟨count, came⟩
  · rw [Operation.run_bind, came]
    exact ⟨.refl session, fun _ _ member => absurd member List.not_mem_nil⟩
  · rw [Operation.run_bind, came]
    have ran := Run.run_shows isHandler detail count scriptFree tidy
    -- A trace ends with its run, be it that the run fails or not.
    rcases Operation.run_bind_cases (Run.run handle (.trace detail count))
        (fun _ => (trace detail count?).finish (.trace detail count)) session with
      ⟨error, last, failed, whole⟩ | ⟨value, last, succeeded, whole⟩
    · simp only [whole]
      rwa [failed] at ran
    · simp only [whole]
      rwa [succeeded] at ran

end RunCommand

/-- A trace that is not of calls alone shows the addresses of all stations that retired. -/
theorem Session.traced_addresses
    {detail : TraceDetail}
    (whole : detail ≠ .calls)
    {stations : List Session}
    (room : ∀ station ∈ stations, station.monitor.sentry.history.hasRoom) :
    (stations.filterMap (·.traced? detail)).map Decoded.address =
      (stations.filter (·.step.1.isRetired)).map Session.pc := by
  induction stations with
  | nil =>
      rfl
  | cons station rest inductionHypothesis =>
      have here := traced?_of_hasRoom whole (room station List.mem_cons_self)
      have later :=
        inductionHypothesis fun other member => room other (List.mem_cons_of_mem station member)
      rw [List.map_filterMap] at later ⊢
      rw [List.filterMap_cons, List.filter_cons, here, later]
      cases station.step.1.isRetired <;> rfl

/-- What retired is what was fetched if nothing retired without a fetch. -/
theorem Session.retired_eq_accepted_iff (stations : List Session) :
    (stations.filter (·.step.1.isRetired)).map Session.pc =
        (stations.filter (·.acceptsFetch)).map Session.pc ↔
      ∀ station ∈ stations, station.step.1.isRetired → station.machine.cpu.isFetching := by
  have within :
      stations.filter (·.acceptsFetch) =
        (stations.filter (·.step.1.isRetired)).filter (·.machine.cpu.isFetching) := by
    rw [List.filter_filter]
    rfl
  constructor
  · intro same station member retired
    have lengths := congrArg List.length same
    rw [List.length_map, List.length_map, within] at lengths
    exact List.length_filter_eq_length_iff.mp lengths.symm station
      (List.mem_filter.mpr ⟨member, retired⟩)
  · intro fetched
    rw [within]
    refine congrArg (List.map Session.pc) (List.filter_eq_self.mpr ?_).symm
    intro station member
    obtain ⟨isStation, retired⟩ := List.mem_filter.mp member
    exact fetched station isStation retired

/--
The instruction lines of a trace are those of the steps that retired, decoded
before each step and in the order of the steps: a refused fetch or a fault
shows none. Where the history has room, their addresses are those of the
accepted fetches exactly if every step that retired fetched its instruction.
-/
theorem trace_shows_retired_steps
    {handle : StopHandler}
    (isHandler : Run.IsHandler handle)
    (detail : TraceDetail)
    (count? : Option String)
    (session : Session)
    (scriptFree : session.monitor.sentry.breakpoints.ScriptFree)
    (tidy : session.monitor.sentry.Tidy) :
    ∃ lines,
      session.Prints lines ((RunCommand.trace detail count?).after handle session) ∧
        lines.filterMap RunLine.decoded? =
          ((RunCommand.trace detail count?).stations handle session).filterMap
            (·.traced? detail) ∧
        (detail ≠ .calls →
          session.monitor.sentry.history.hasRoom →
            (lines.filterMap RunLine.address? =
                (((RunCommand.trace detail count?).stations handle session).filter
                  (·.acceptsFetch)).map Session.pc ↔
              ∀ station ∈ (RunCommand.trace detail count?).stations handle session,
                station.step.1.isRetired → station.machine.cpu.isFetching)) := by
  obtain ⟨⟨lines, printed, shown⟩, roomy⟩ :=
    RunCommand.after_shows isHandler detail count? scriptFree tidy
  refine ⟨lines, printed, shown, fun whole room => ?_⟩
  have addresses : lines.filterMap RunLine.address? = _ :=
    List.map_filterMap.symm.trans (congrArg (List.map Decoded.address) shown)
  rw [addresses, Session.traced_addresses whole (roomy room)]
  exact Session.retired_eq_accepted_iff _

/-- A trace up to a watched address shows the instruction that reached it, and no further one. -/
theorem trace_to_watched_address_shows_both :
    let session :=
      (Session.fresh .default .initial).conduct [.line "e 0 0 3A 0 10 76", .line "br 1000"]
    session.monitor.sentry.breakpoints.ScriptFree ∧
      session.monitor.sentry.Tidy ∧
      session.monitor.sentry.history.hasRoom ∧
      ∃ lines,
        session.Prints lines
            ((RunCommand.trace .registers (some "7")).after Run.answerStop session) ∧
          lines.filterMap RunLine.address? = [0, 1] := by
  intro session
  have scriptFree : session.monitor.sentry.breakpoints.ScriptFree := by
    intro kind
    cases kind <;> decide +kernel
  have tidy : session.monitor.sentry.Tidy :=
    ⟨by decide +kernel, by decide +kernel, by decide +kernel⟩
  have room : session.monitor.sentry.history.hasRoom := by
    decide +kernel
  obtain ⟨lines, printed, -, accepted⟩ :=
    trace_shows_retired_steps .outermost .registers (some "7") session scriptFree tidy
  have fetched :
      ∀ station ∈ (RunCommand.trace .registers (some "7")).stations Run.answerStop session,
        station.step.1.isRetired → station.machine.cpu.isFetching := by
    decide +kernel
  refine ⟨scriptFree, tidy, room, lines, printed, ?_⟩
  rw [(accepted nofun room).mpr fetched]
  decide +kernel

/-- A step that accepts an interrupt shows the instruction at the program counter, which is not executed. -/
theorem interrupt_shows_unexecuted_instruction :
    let session :=
      ((Session.fresh .default .initial).conduct [.line "r if=1"]).noticeInterrupt 7
    let command := RunCommand.trace .plain none
    session.monitor.output.toList = [] ∧
      (command.after Run.answerStop session).monitor.output.toList = ["0000 00        NOP"] ∧
      ((command.stations Run.answerStop session).filter (·.acceptsFetch)).map Session.pc = [] ∧
      (command.after Run.answerStop session).pc = 0x38 := by
  decide +kernel

end Monitor8080
