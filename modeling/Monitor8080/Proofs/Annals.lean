import Monitor8080.Proofs.Bookkeeping
import Monitor8080.Proofs.WatchBalance
import Monitor8080.Monitor.Snapshot
namespace Monitor8080

/-!
# Annals of what is recorded

As far as records go, all that operators and hosts do with a session comes down
to steps and to a few ways of looking after what was recorded. The annals tell
them in their order, each with the sessions before and after it.
-/

theorem Session.fresh_tidy (config : Config) (machine : Machine) :
    (fresh config machine).monitor.sentry.Tidy :=
  (Monitor.settleHistory_records _).tidy (Monitor.settleHistory_pending? _) ⟨rfl, rfl, rfl⟩

theorem Session.fresh_history (config : Config) (machine : Machine) :
    (fresh config machine).monitor.sentry.history =
      (History.ofCapacity config.historyCapacity).settle
        (fresh config machine).monitor.wantsHistory := by
  rw [fresh, Monitor.ofConfig, Monitor.settleHistory_history, Monitor.settleHistory_wantsHistory]

/-- A way of looking after what was recorded, apart from steps. -/
inductive Upkeep where
  /-- What is checked may have changed, and the history is settled. -/
  | settle
  /-- The checksum starts over, shown after every so many fetches, and the history is settled. -/
  | restart (interval : Nat)
  /-- The addresses are removed from the history. -/
  | clear
  /-- Every opcode count is set to zero. -/
  | forget
  /-- Nothing that was recorded changes, nor what the history is wanted for. -/
  | keep
  deriving Repr, DecidableEq

namespace Upkeep

/-- What becomes of the history, which is wanted afterwards or is not. -/
def history (upkeep : Upkeep) (isWanted : Bool) (history : History) : History :=
  match upkeep with
  | .settle => history.settle isWanted
  | .restart _ => history.settle isWanted
  | .clear => history.clear
  | .forget => history.forgetFrequencies
  | .keep => history

/-- What becomes of the checksum. -/
def checksum (upkeep : Upkeep) (checksum : Checksum) : Checksum :=
  match upkeep with
  | .restart interval => .ofInterval interval
  | _ => checksum

/-- Whether the history is settled. -/
def settles : Upkeep → Bool
  | .settle => true
  | .restart _ => true
  | _ => false

section Lemmas

variable {upkeep : Upkeep} (isWanted : Bool) (history : History) (checksum : Checksum)

theorem history_of_settles (settles : upkeep.settles) :
    upkeep.history isWanted history = history.settle isWanted := by
  cases upkeep with
  | settle =>
      rfl
  | restart interval =>
      rfl
  | _ =>
      cases settles

theorem isOn_history_of_not_settles (unsettled : upkeep.settles = false) :
    (upkeep.history isWanted history).isOn = history.isOn := by
  cases upkeep with
  | settle =>
      cases unsettled
  | restart interval =>
      cases unsettled
  | clear =>
      exact Option.isSome_map
  | forget =>
      rfl
  | keep =>
      rfl

@[simp] theorem capacity_history (upkeep : Upkeep) :
    (upkeep.history isWanted history).capacity = history.capacity := by
  cases upkeep with
  | settle =>
      exact History.capacity_settle history isWanted
  | restart interval =>
      exact History.capacity_settle history isWanted
  | _ =>
      rfl

theorem counts_history (remembers : upkeep ≠ .forget) :
    (upkeep.history isWanted history).counts = history.counts := by
  cases upkeep with
  | settle =>
      exact History.counts_settle history isWanted
  | restart interval =>
      exact History.counts_settle history isWanted
  | clear =>
      rfl
  | forget =>
      exact absurd rfl remembers
  | keep =>
      rfl

/-- Unless the checksum starts over, it stays. -/
theorem checksum_eq_self (goesOn : ∀ interval, upkeep ≠ .restart interval) :
    upkeep.checksum checksum = checksum := by
  cases upkeep with
  | restart interval =>
      exact absurd rfl (goesOn interval)
  | _ =>
      rfl

end Lemmas

end Upkeep

/-- What was recorded is looked after in some way. -/
structure Session.Maintains (before : Session) (upkeep : Upkeep) (after : Session) : Prop where
  config : after.monitor.config = before.monitor.config
  history :
    after.monitor.sentry.history =
      upkeep.history after.monitor.wantsHistory before.monitor.sentry.history
  checksum : after.monitor.sentry.checksum = upkeep.checksum before.monitor.sentry.checksum
  pending? : after.monitor.sentry.pending? = before.monitor.sentry.pending?
  notes : after.monitor.sentry.notes = before.monitor.sentry.notes
  waiting :
    upkeep.settles = false →
      after.monitor.sentry.breakpoints.isWaiting = before.monitor.sentry.breakpoints.isWaiting

/-- No upkeep leaves anything to print. -/
theorem Session.Maintains.tidy
    {before after : Session}
    {upkeep : Upkeep}
    (maintains : before.Maintains upkeep after)
    (tidy : before.monitor.sentry.Tidy) :
    after.monitor.sentry.Tidy := by
  refine ⟨maintains.pending?.trans tidy.idle, maintains.notes.trans tidy.noted, ?_⟩
  rw [maintains.checksum]
  cases upkeep with
  | restart interval =>
      rfl
  | _ =>
      exact tidy.shown

/-- What was done, with the session before it and the one after it; it is a step if it is no upkeep. -/
structure Entry where
  before : Session
  upkeep? : Option Upkeep
  after : Session

/-- What leads from one session to another, in the order in which it was done. -/
inductive Annals (first : Session) : List Entry → Session → Prop where
  | nil : Annals first [] first
  | step
      {entries : List Entry}
      {session : Session}
      (earlier : Annals first entries session) :
      Annals first (entries ++ [⟨session, none, session.step.2⟩]) session.step.2
  | upkeep
      {entries : List Entry}
      {before after : Session}
      {upkeep : Upkeep}
      (earlier : Annals first entries before)
      (maintains : before.Maintains upkeep after) :
      Annals first (entries ++ [⟨before, some upkeep, after⟩]) after

namespace Annals

theorem append
    {first middle last : Session}
    {earlier later : List Entry}
    (earlierAnnals : Annals first earlier middle)
    (laterAnnals : Annals middle later last) :
    Annals first (earlier ++ later) last := by
  induction laterAnnals with
  | nil =>
      rw [List.append_nil]
      exact earlierAnnals
  | step before inductionHypothesis =>
      rw [← List.append_assoc]
      exact .step inductionHypothesis
  | upkeep before maintains inductionHypothesis =>
      rw [← List.append_assoc]
      exact .upkeep inductionHypothesis maintains

/-- Nothing is pending and nothing is left to print between what was done. -/
theorem tidy
    {first last : Session}
    {entries : List Entry}
    (annals : Annals first entries last)
    (tidy : first.monitor.sentry.Tidy) :
    last.monitor.sentry.Tidy := by
  induction annals with
  | nil =>
      exact tidy
  | step earlier inductionHypothesis =>
      exact Session.step_tidy inductionHypothesis.idle
  | upkeep earlier maintains inductionHypothesis =>
      exact maintains.tidy inductionHypothesis

/-- Nothing is pending between what was done. -/
theorem idle
    {first last : Session}
    {entries : List Entry}
    (annals : Annals first entries last)
    (idle : first.monitor.sentry.pending? = none) :
    last.monitor.sentry.pending? = none := by
  induction annals with
  | nil =>
      exact idle
  | step earlier inductionHypothesis =>
      exact Session.step_idle inductionHypothesis
  | upkeep earlier maintains inductionHypothesis =>
      exact maintains.pending?.trans inductionHypothesis

/-- The settings stay as they are. -/
theorem config
    {first last : Session}
    {entries : List Entry}
    (annals : Annals first entries last) :
    last.monitor.config = first.monitor.config := by
  induction annals with
  | nil =>
      rfl
  | step earlier inductionHypothesis =>
      exact (Session.step_config _).trans inductionHypothesis
  | upkeep earlier maintains inductionHypothesis =>
      exact maintains.config.trans inductionHypothesis

end Annals

/-! ## What lines come down to -/

namespace Session

/-- There are annals from one session to another. -/
def Endures (before after : Session) : Prop :=
  ∃ entries, Annals before entries after

namespace Endures

variable {before after : Session}

theorem refl (session : Session) : session.Endures session :=
  ⟨[], .nil⟩

theorem trans
    {middle : Session}
    (endures : before.Endures middle)
    (enduresOn : middle.Endures after) :
    before.Endures after := by
  obtain ⟨earlier, earlierAnnals⟩ := endures
  obtain ⟨later, laterAnnals⟩ := enduresOn
  exact ⟨earlier ++ later, earlierAnnals.append laterAnnals⟩

theorem of_maintains
    (upkeep : Upkeep)
    (maintains : before.Maintains upkeep after) :
    before.Endures after :=
  ⟨_, .upkeep .nil maintains⟩

theorem of_step (session : Session) : session.Endures session.step.2 :=
  ⟨_, .step .nil⟩

/-- A change that touches neither the records nor what is checked. -/
theorem of_sentry
    (config : after.monitor.config = before.monitor.config)
    (history : after.monitor.sentry.history = before.monitor.sentry.history)
    (checksum : after.monitor.sentry.checksum = before.monitor.sentry.checksum)
    (pending : after.monitor.sentry.pending? = before.monitor.sentry.pending?)
    (notes : after.monitor.sentry.notes = before.monitor.sentry.notes)
    (waiting :
      after.monitor.sentry.breakpoints.isWaiting =
        before.monitor.sentry.breakpoints.isWaiting) :
    before.Endures after :=
  of_maintains .keep ⟨config, history, checksum, pending, notes, fun _ => waiting⟩

/-- What keeps the sentry's duty keeps the records, or forgets how often opcodes were fetched. -/
theorem of_sameDuty (same : before.SameDuty after) : before.Endures after := by
  have waiting :
      after.monitor.sentry.breakpoints.isWaiting =
        before.monitor.sentry.breakpoints.isWaiting := by
    rw [same.breakpoints]
  rcases same.history with kept | forgotten
  · exact
      of_sentry same.config kept same.records.checksum same.pending? same.records.notes waiting
  · exact
      of_maintains .forget
        ⟨same.config, forgotten, same.records.checksum, same.pending?, same.records.notes,
          fun _ => waiting⟩

/-- A change of what is checked, after which the history is settled. -/
theorem of_settleHistory
    {monitor : Monitor}
    (settled : after.monitor = monitor.settleHistory)
    (config : monitor.config = before.monitor.config)
    (history : monitor.sentry.history = before.monitor.sentry.history)
    (pending : monitor.sentry.pending? = before.monitor.sentry.pending?)
    (notes : monitor.sentry.notes = before.monitor.sentry.notes)
    (checksum :
      ∃ upkeep : Upkeep,
        upkeep.settles ∧
          monitor.sentry.checksum = upkeep.checksum before.monitor.sentry.checksum) :
    before.Endures after := by
  obtain ⟨upkeep, settles, checksum⟩ := checksum
  obtain ⟨other, sentry⟩ := monitor.settleHistory_sentry
  have settledHistory := monitor.settleHistory_history
  refine of_maintains upkeep ⟨?_, ?_, ?_, ?_, ?_, ?_⟩
  · rw [settled, Monitor.settleHistory_config, config]
  · rw [settled, settledHistory, Monitor.settleHistory_wantsHistory, history,
      upkeep.history_of_settles _ _ settles]
  · rw [settled, sentry, ← checksum]
  · rw [settled, Monitor.settleHistory_pending?, pending]
  · rw [settled, sentry, notes]
  · intro unsettled
    rw [settles] at unsettled
    cases unsettled

theorem of_makes
    {edit : Edit}
    (makes : before.Makes edit after) :
    before.Endures after := by
  cases makes with
  | machine edit =>
      exact of_sentry rfl rfl rfl rfl rfl rfl
  | place placed =>
      obtain ⟨added, monitor, -, config, sentry, rfl⟩ := placeBreakpoint_eq placed
      refine of_settleHistory rfl config ?_ ?_ ?_ ⟨.settle, rfl, ?_⟩
      · rw [sentry]
      · rw [sentry]
      · rw [sentry]
      · rw [sentry]
        rfl
  | remove address? =>
      cases address? <;> exact of_settleHistory rfl rfl rfl rfl rfl ⟨.settle, rfl, rfl⟩
  | arm count =>
      exact of_settleHistory rfl rfl rfl rfl rfl ⟨.settle, rfl, rfl⟩
  | checksum interval =>
      exact of_settleHistory rfl rfl rfl rfl rfl ⟨.restart interval, rfl, rfl⟩

theorem of_removeTemporary (session : Session) :
    session.Endures session.removeTemporaryBreakpoints.2 := by
  unfold removeTemporaryBreakpoints
  simp only
  split
  · exact refl session
  · exact of_settleHistory rfl rfl rfl rfl rfl ⟨.settle, rfl, rfl⟩

end Endures

instance : LawfulReports fun before _ after => before.Endures after where
  refl := .refl
  trans := .trans
  report := .of_sameDuty

/-- Everything that lines come down to is told by annals. -/
theorem endures_isLaw : Run.IsLawThroughout fun before _ after => before.Endures after where
  clearError session := by
    have sentry := Run.clearError_sentry session
    refine .of_sentry (Run.clearError_config session) ?_ ?_ ?_ ?_ ?_ <;> rw [sentry]
  enter session := .of_sentry rfl rfl rfl rfl rfl rfl
  step session := .of_step session
  stop session := .of_sentry rfl rfl rfl rfl rfl rfl
  removeTemporary session := .of_removeTemporary session
  mute session := .of_sentry rfl rfl rfl rfl rfl rfl
  unmute session := .of_sentry rfl rfl rfl rfl rfl rfl
  resume session := .of_sentry rfl rfl rfl rfl rfl rfl
  edit edit before after makes := .of_makes makes

end Session

/-! ## What hosts call for -/

/-- What such a law relates one after another is related, whether or not it was abandoned. -/
theorem Session.LawfulReports.related_trans
    {related : Session → Session → Prop}
    (lawful : LawfulReports fun before _ after => related before after)
    {first second third : Session}
    (holds : related first second)
    (holdsNext : related second third) :
    related first third :=
  @Lawful.trans _ lawful.toLawful _ _ _ false holds holdsNext

namespace Run.IsLawThroughout

variable
  {related : Session → Session → Prop}
  [lawful : Session.LawfulReports fun before _ after => related before after]
  (isLaw : IsLawThroughout fun before _ after => related before after)

include isLaw

/-- A law that asks for nothing of what was abandoned holds of every line. -/
theorem holds_of_obey (session : Session) (line : String) :
    related session (session.obey line).2 := by
  obtain ⟨played, holds, same⟩ := isLaw.obey line session
  exact lawful.related_trans holds (lawful.report same)

theorem holds_of_conduct (session : Session) (requests : List Request) :
    related session (session.conduct requests) := by
  induction requests generalizing session with
  | nil =>
      exact lawful.refl session
  | cons request rest inductionHypothesis =>
      cases request with
      | line text =>
          rw [Session.conduct]
          exact lawful.related_trans (isLaw.holds_of_obey session text) (inductionHypothesis _)
      | step =>
          rw [Session.conduct]
          exact lawful.related_trans (isLaw.step session) (inductionHypothesis _)

theorem holds_of_answer (session : Session) (call : HostCall) :
    related session (session.answer call) := by
  cases call with
  | request request =>
      exact isLaw.holds_of_conduct session [request]
  | place kind location =>
      cases came : session.placeBreakpoint kind location with
      | ok placed =>
          simp only [Session.answer, came]
          exact isLaw.edit (.place kind location) session placed (.place came)
      | error error =>
          simp only [Session.answer, came]
          exact lawful.refl session
  | remove address? =>
      exact isLaw.edit (.remove address?) session _ (.remove session address?)
  | removeTemporary =>
      exact isLaw.removeTemporary session

end Run.IsLawThroughout

/-! ## What hosts do -/

/-- What a host does with a session, while the settings stay as they are. -/
inductive Dealing where
  | call (call : HostCall)
  | arm (count : Nat)
  | restartChecksum (interval : Nat)
  | settleHistory
  | print (line : String)
  | message (topic : Topic) (text : String)
  | drain
  | switchTopic (topic : Topic) (isWanted : Bool)
  | editByte (address : UInt16) (value : UInt8)
  | editWord (address value : UInt16)
  | restore (table : SlotTable)
  | setSymbols (symbols : SymbolTable)
  | noticePower (isOn : Bool)
  | noticeReset
  | noticeStop
  | noticeInterrupt (vector : UInt8)
  /-- Whatever the host does with the machine itself. -/
  | machine (change : Machine → Machine)

namespace Session

def deal (session : Session) : Dealing → Session
  | .call call => session.answer call
  | .arm count => session.updateMonitor (·.startCountdown count)
  | .restartChecksum interval => session.updateMonitor (·.restartChecksum interval)
  | .settleHistory => session.updateMonitor (·.settleHistory)
  | .print line => session.print line
  | .message topic text => session.message topic text
  | .drain => session.updateMonitor (·.drain.2)
  | .switchTopic topic isWanted => session.updateMonitor (·.switchTopic topic isWanted)
  | .editByte address value => session.editByte address value
  | .editWord address value => session.editWord address value
  | .restore table =>
      match session.monitor.restore table with
      | .ok monitor => ⟨monitor, session.machine⟩
      | .error _ => session
  | .setSymbols symbols => session.updateMonitor ({ · with symbols := symbols })
  | .noticePower isOn => session.noticePower isOn
  | .noticeReset => session.noticeReset
  | .noticeStop => session.noticeStop
  | .noticeInterrupt vector => session.noticeInterrupt vector
  | .machine change => session.updateMachine change

def dealAll (session : Session) (dealings : List Dealing) : Session :=
  dealings.foldl deal session

theorem noticeReset_endures (session : Session) : session.Endures session.noticeReset := by
  let cleared : Session :=
    session.updateMonitor fun monitor =>
      { monitor with
        sentry := { monitor.sentry with history := monitor.sentry.history.clear }
        dumpCursor := Location.unset }
  have clears : session.Endures cleared :=
    .of_maintains .clear ⟨rfl, rfl, rfl, rfl, rfl, fun _ => rfl⟩
  have tells : cleared.SameDuty session.noticeReset :=
    (SameDuty.pointAtPC cleared).trans (.message _ _ _)
  exact clears.trans (.of_sameDuty tells)

/-- Whatever a host does is told by annals. -/
theorem deal_endures (session : Session) (dealing : Dealing) :
    session.Endures (session.deal dealing) := by
  -- What changes the machine alone is no report, but it touches no records.
  have machineOnly :
      ∀ change : Machine → Machine, session.Endures (session.updateMachine change) :=
    fun change => .of_sentry rfl rfl rfl rfl rfl rfl
  have toldThen :
      ∀ (change : Machine → Machine) (topic : Topic) (text : String),
        session.Endures ((session.updateMachine change).message topic text) :=
    fun change topic text => (machineOnly change).trans (.of_sameDuty (.message _ topic text))
  cases dealing with
  | call call =>
      exact endures_isLaw.holds_of_answer session call
  | arm count =>
      exact .of_makes (.arm session count)
  | restartChecksum interval =>
      exact .of_makes (.checksum session interval)
  | settleHistory =>
      exact .of_settleHistory rfl rfl rfl rfl rfl ⟨.settle, rfl, rfl⟩
  | print line =>
      exact .of_sameDuty (.print session line)
  | message topic text =>
      exact .of_sameDuty (.message session topic text)
  | drain =>
      exact .of_sentry rfl rfl rfl rfl rfl rfl
  | switchTopic topic isWanted =>
      exact .of_sentry rfl rfl rfl rfl rfl rfl
  | editByte address value =>
      unfold deal editByte
      exact toldThen _ _ _
  | editWord address value =>
      unfold deal editWord
      exact toldThen _ _ _
  | restore table =>
      cases stored : Snapshot.ofSlots table with
      | ok snapshot =>
          simp only [deal, Monitor.restore, stored]
          exact .of_sentry rfl rfl rfl rfl rfl rfl
      | error error =>
          simp only [deal, Monitor.restore, stored]
          exact .refl session
  | setSymbols symbols =>
      exact .of_sentry rfl rfl rfl rfl rfl rfl
  | noticePower isOn =>
      have told := SameDuty.message session .cpu (if isOn then "power on" else "power off")
      cases isOn with
      | true =>
          exact .of_sameDuty (told.trans (.pointAtPC _))
      | false =>
          exact .of_sameDuty told
  | noticeReset =>
      exact session.noticeReset_endures
  | noticeStop =>
      exact .of_sameDuty (.noticeStop session)
  | noticeInterrupt vector =>
      unfold deal noticeInterrupt
      exact toldThen _ _ _
  | machine change =>
      exact machineOnly change

theorem dealAll_endures (session : Session) (dealings : List Dealing) :
    session.Endures (session.dealAll dealings) := by
  induction dealings generalizing session with
  | nil =>
      exact .refl session
  | cons dealing rest inductionHypothesis =>
      exact (session.deal_endures dealing).trans (inductionHypothesis _)

end Session

end Monitor8080
