import Monitor8080.Proofs.OperationEffects
namespace Monitor8080

/-!
# What goes on in front of a backdrop

The chunk size and the operator lines remembered are a backdrop: no command
looks at either, so what a command does in front of one backdrop it does in
front of any other, and each is left as it was. That is told here of all that
commands other than runs come down to.
-/

/-- What no command looks at. -/
structure Backdrop where
  runChunk : Nat
  commandHistory : List String

/-- The monitor in front of another backdrop. -/
def Monitor.onto (monitor : Monitor) (backdrop : Backdrop) : Monitor :=
  { monitor with
    config := { monitor.config with runChunk := backdrop.runChunk }
    commandHistory := backdrop.commandHistory }

namespace Session

def backdrop (session : Session) : Backdrop :=
  ⟨session.monitor.config.runChunk, session.monitor.commandHistory⟩

/-- The session in front of another backdrop. -/
def onto (session : Session) (backdrop : Backdrop) : Session :=
  ⟨session.monitor.onto backdrop, session.machine⟩

/-- A session in front of its own backdrop is that session. -/
theorem onto_backdrop (session : Session) : session.onto session.backdrop = session := rfl

/-- The machine is not part of the backdrop. -/
@[simp] theorem onto_machine (session : Session) (backdrop : Backdrop) :
    (session.onto backdrop).machine = session.machine := rfl

@[simp] theorem onto_sentry (session : Session) (backdrop : Backdrop) :
    (session.onto backdrop).monitor.sentry = session.monitor.sentry := rfl

end Session

/-! ## Reports -/

namespace Monitor

variable (monitor : Monitor) (backdrop : Backdrop)

@[simp] theorem onto_sentry : (monitor.onto backdrop).sentry = monitor.sentry := rfl

/-- Output does not depend on the backdrop, line by line. -/
theorem printAll_onto (lines : List String) :
    (monitor.onto backdrop).printAll lines = (monitor.printAll lines).onto backdrop := by
  induction lines generalizing monitor with
  | nil =>
      rfl
  | cons line rest inductionHypothesis =>
      exact inductionHypothesis (monitor.print line)

/-- Whether a topic is shown is told by settings that are not in the backdrop. -/
theorem message_onto
    (topic : Topic)
    (text : String) :
    (monitor.onto backdrop).message topic text = (monitor.message topic text).onto backdrop := by
  unfold message
  rw [onto_sentry]
  split <;> rfl

/-- Recording is wanted by the checks, never by the backdrop. -/
theorem settleHistory_onto :
    (monitor.onto backdrop).settleHistory = monitor.settleHistory.onto backdrop := by
  have sameWish : (monitor.onto backdrop).wantsHistory = monitor.wantsHistory := rfl
  simp only [settleHistory, sameWish, onto_sentry]
  split
  · rfl
  · rw [← message_onto]
    rfl

/-- A countdown started in front of another backdrop settles the same history. -/
theorem startCountdown_onto (count : Nat) :
    (monitor.onto backdrop).startCountdown count =
      (monitor.startCountdown count).onto backdrop := by
  unfold startCountdown
  rw [← settleHistory_onto]
  rfl

/-- A checksum restarted in front of another backdrop settles the same history. -/
theorem restartChecksum_onto (interval : Nat) :
    (monitor.onto backdrop).restartChecksum interval =
      (monitor.restartChecksum interval).onto backdrop := by
  unfold restartChecksum
  rw [← settleHistory_onto]
  rfl

/-- The notes of a step are told in the same lines. -/
theorem tellNotes_onto : (monitor.onto backdrop).tellNotes = monitor.tellNotes.onto backdrop := by
  unfold tellNotes
  rw [onto_sentry]
  split
  · rfl
  · rw [← printAll_onto]
    rfl

/-- A checksum that is due is noted all the same. -/
theorem flushChecksum_onto (cycles : Nat) :
    (monitor.onto backdrop).flushChecksum cycles =
      (monitor.flushChecksum cycles).onto backdrop := by
  unfold flushChecksum
  rw [onto_sentry]
  split <;> rfl

end Monitor

namespace Session

variable (session : Session) (backdrop : Backdrop)

theorem printAll_onto (lines : List String) :
    (session.onto backdrop).updateMonitor (·.printAll lines) =
      (session.updateMonitor (·.printAll lines)).onto backdrop :=
  congrArg (Session.mk · session.machine) (session.monitor.printAll_onto backdrop lines)

theorem message_onto
    (topic : Topic)
    (text : String) :
    (session.onto backdrop).message topic text = (session.message topic text).onto backdrop :=
  congrArg (Session.mk · session.machine) (session.monitor.message_onto backdrop topic text)

/-- The instruction to be executed is shown in the same lines. -/
theorem showCurrent_onto :
    (session.onto backdrop).showCurrent = session.showCurrent.onto backdrop :=
  printAll_onto session backdrop _

/-- A stop is noticed by the same message. -/
theorem noticeStop_onto :
    (session.onto backdrop).noticeStop = session.noticeStop.onto backdrop := by
  unfold noticeStop
  rw [message_onto]
  exact showCurrent_onto _ backdrop

/-- A byte that is edited lands in the machine, and its message before the backdrop. -/
theorem editByte_onto
    (address : UInt16)
    (value : UInt8) :
    (session.onto backdrop).editByte address value =
      (session.editByte address value).onto backdrop := by
  unfold editByte
  simp only
  rw [← message_onto]
  rfl

theorem editWord_onto (address value : UInt16) :
    (session.onto backdrop).editWord address value =
      (session.editWord address value).onto backdrop := by
  unfold editWord
  simp only
  rw [← message_onto]
  rfl

/-! ## Breakpoints -/

/-- A breakpoint is placed, or refused, by the entries alone. -/
theorem placeBreakpoint_onto
    (kind : BreakKind)
    (location : Location) :
    (session.onto backdrop).placeBreakpoint kind location =
      (session.placeBreakpoint kind location).map (·.onto backdrop) := by
  unfold placeBreakpoint
  rw [onto_sentry]
  cases session.monitor.sentry.breakpoints.add kind location with
  | error error =>
      rfl
  | ok breakpoints =>
      simp only [Except.map]
      congr 2
      rw [← Monitor.settleHistory_onto]
      congr 1
      split
      · rw [← Monitor.message_onto]
        rfl
      · rfl

/-- As many breakpoints are removed. -/
theorem removeBreakpoints_onto (address? : Option UInt16) :
    (session.onto backdrop).removeBreakpoints address? =
      ((session.removeBreakpoints address?).1,
        (session.removeBreakpoints address?).2.onto backdrop) := by
  unfold removeBreakpoints onto
  simp only [← Monitor.settleHistory_onto]
  rfl

/-- As many temporary breakpoints are removed, if there are any. -/
theorem removeTemporaryBreakpoints_onto :
    (session.onto backdrop).removeTemporaryBreakpoints =
      (session.removeTemporaryBreakpoints.1,
        session.removeTemporaryBreakpoints.2.onto backdrop) := by
  unfold removeTemporaryBreakpoints
  rw [onto_sentry]
  simp only
  by_cases nothing : session.monitor.sentry.breakpoints.removeTemporary.1.isEmpty
  · rw [if_pos nothing, if_pos nothing]
  · rw [if_neg nothing, if_neg nothing]
    unfold onto
    simp only [← Monitor.settleHistory_onto]
    rfl

/-! ## Steps -/

/-- The processor executes, with checks or without, as the sentry and the machine tell. -/
theorem execute_onto :
    (session.onto backdrop).execute =
      (session.execute.1, session.execute.2.onto backdrop) := by
  unfold execute
  rw [onto_sentry, onto_machine]
  by_cases needed : session.monitor.sentry.isNeeded session.machine.memory
  · rw [if_pos needed, if_pos needed]
    rfl
  · rw [if_neg needed, if_neg needed]
    rfl

/-- What a step has noted is flushed alike. -/
theorem flush_onto : (session.onto backdrop).flush = session.flush.onto backdrop := by
  unfold flush onto
  simp only [← Monitor.flushChecksum_onto, ← Monitor.tellNotes_onto]

/-- How a step ends is told by its outcome and the checks. -/
theorem conclude_onto (outcome : Except StepError Nat) :
    (session.onto backdrop).conclude outcome =
      ((session.conclude outcome).1, (session.conclude outcome).2.onto backdrop) := by
  unfold conclude
  cases outcome with
  | ok count =>
      simp only [onto_sentry]
      split <;> rfl
  | error error =>
      cases error <;> rfl

/-- A temporary entry that stopped a step is released alike. -/
theorem releaseTemporary_onto (result : StepEnd) :
    (session.onto backdrop).releaseTemporary result =
      (session.releaseTemporary result).onto backdrop := by
  unfold releaseTemporary
  split
  · split
    · unfold onto
      rw [Monitor.settleHistory_onto]
    · rfl
  · rfl

/-- A step ends in the same way, and leaves the backdrop as it was. -/
theorem step_onto :
    (session.onto backdrop).step = (session.step.1, session.step.2.onto backdrop) := by
  unfold step
  simp only [execute_onto, flush_onto, conclude_onto, releaseTemporary_onto]

/-! ## Listings -/

theorem listedAt_onto (address : UInt16) :
    (session.onto backdrop).listedAt address = session.listedAt address := rfl

/-- A listing by count has the same lines, as each instruction is listed from memory and symbols. -/
theorem listCount_onto
    (address : UInt16)
    (count : Nat) :
    (session.onto backdrop).listCount address count = session.listCount address count := by
  induction count generalizing address with
  | zero =>
      rfl
  | succ count inductionHypothesis =>
      simp only [listCount, listedAt_onto, inductionHypothesis]

/-- A listing up to an address has the same lines, and ends at the same place. -/
theorem listWithin_onto
    (start distance address : UInt16)
    (fuel : Nat) :
    (session.onto backdrop).listWithin start distance address fuel =
      session.listWithin start distance address fuel := by
  induction fuel generalizing address with
  | zero =>
      rfl
  | succ fuel inductionHypothesis =>
      simp only [listWithin, listedAt_onto, inductionHypothesis]

end Session

/-! ## Operations -/

namespace Operation

/-- An operation does the same in front of another backdrop, and leaves it as it was. -/
def Overlooks
    (backdrop : Backdrop)
    (operation : Operation α) : Prop :=
  ∀ session : Session,
    operation.run (session.onto backdrop) =
      ((operation.run session).1, (operation.run session).2.onto backdrop)

namespace Overlooks

variable {backdrop : Backdrop}

/-- A value alone looks at nothing. -/
theorem value (value : α) : Overlooks backdrop (pure value : Operation α) :=
  fun _ => rfl

theorem failure (error : MonitorError) : Overlooks backdrop (throw error : Operation α) :=
  fun _ => rfl

/-- What follows something that overlooks its backdrop is done in front of that backdrop too. -/
theorem andThen
    {operation : Operation α}
    {next : α → Operation β}
    (first : Overlooks backdrop operation)
    (second : ∀ value, Overlooks backdrop (next value)) :
    Overlooks backdrop (operation >>= next) := by
  intro session
  rw [run_bind, run_bind, first session]
  cases operation.run session with
  | mk result middle =>
      cases result with
      | ok value =>
          exact second value middle
      | error error =>
          rfl

/-- A view overlooks the backdrop if it shows the same in front of any other. -/
theorem observe
    {view : Session → α}
    (same : ∀ session : Session, view (session.onto backdrop) = view session) :
    Overlooks backdrop (observe view) := by
  intro session
  rw [run_observe, run_observe, same]

/-- A change overlooks the backdrop if it may be made before or after the backdrop is replaced. -/
theorem change
    {change : Session → Session}
    (same :
      ∀ session : Session, change (session.onto backdrop) = (change session).onto backdrop) :
    Overlooks backdrop (modify change : Operation Unit) := by
  intro session
  rw [run_modify, run_modify, same]

/-- A part that depends on the whole session overlooks what it overlooks from each session on. -/
theorem ofSession
    {next : Session → Operation α}
    (same :
      ∀ session : Session,
        (next (session.onto backdrop)).run (session.onto backdrop) =
          (((next session).run session).1, ((next session).run session).2.onto backdrop)) :
    Overlooks backdrop (get >>= next) := by
  intro session
  rw [run_bind, run_bind]
  exact same session

theorem choice
    {condition : Prop}
    [Decidable condition]
    {first second : Operation α}
    (firstOverlooks : Overlooks backdrop first)
    (secondOverlooks : Overlooks backdrop second) :
    Overlooks backdrop (if condition then first else second) := by
  split
  · exact firstOverlooks
  · exact secondOverlooks

/-! ### Arguments -/

theorem ofExcept (result : Except MonitorError α) : Overlooks backdrop (ofExcept result) := by
  cases result with
  | error error =>
      exact failure error
  | ok value =>
      exact Overlooks.value value

/-- An expression means what variables, registers, symbols and memory tell. -/
theorem evaluate (text : String) : Overlooks backdrop (evaluate text) :=
  (observe fun _ => rfl).andThen fun result => ofExcept result

theorem address (text : String) : Overlooks backdrop (address text) :=
  (observe fun _ => rfl).andThen fun result => ofExcept result

/-- A check that fails before the rest looks at no more than the rest. -/
theorem guarded
    {condition : Prop}
    [Decidable condition]
    {error : MonitorError}
    {next : Unit → Operation α}
    (nextOverlooks : Overlooks backdrop (next ())) :
    Overlooks backdrop (if condition then throw error >>= next else next ()) :=
  choice ((failure error).andThen fun _ => nextOverlooks) nextOverlooks

/-- A value is in bounds or out of them, in front of any backdrop. -/
theorem valueWithin
    (low high : Int64)
    (complaint text : String) :
    Overlooks backdrop (valueWithin low high complaint text) := by
  exact (evaluate text).andThen fun result => guarded (value result)

/-- A count is an expression that is not negative. -/
theorem count (text : String) : Overlooks backdrop (count text) := by
  exact (evaluate text).andThen fun result => guarded (value _)

/-- A count that is not given has its default. -/
theorem countOr
    (default : Nat)
    (text? : Option String) :
    Overlooks backdrop (countOr default text?) := by
  cases text? with
  | none =>
      exact value default
  | some text =>
      exact count text

theorem byte (text : String) : Overlooks backdrop (byte text) :=
  (valueWithin _ _ _ text).andThen fun _ => value _

theorem word (text : String) : Overlooks backdrop (word text) :=
  (valueWithin _ _ _ text).andThen fun _ => value _

theorem port (text : String) : Overlooks backdrop (port text) :=
  (valueWithin _ _ _ text).andThen fun _ => value _

/-- A place is an address that a text means, a cursor or the next instruction. -/
theorem place
    (text? : Option String)
    (cursor : Location) :
    Overlooks backdrop (place text? cursor) := by
  cases text? with
  | none =>
      exact (value cursor).choice ((observe fun _ => rfl).andThen fun _ => value _)
  | some text =>
      exact (address text).andThen fun _ => value _

/-! ### Reports -/

theorem print (line : String) : Overlooks backdrop (print line) :=
  change fun _ => rfl

theorem printAll (lines : List String) : Overlooks backdrop (printAll lines) :=
  change fun session => session.printAll_onto backdrop lines

/-- Lines are printed, or the one that stands for none. -/
theorem printAllOr
    (line : String)
    (lines : List String) :
    Overlooks backdrop (printAllOr line lines) :=
  (print line).choice (printAll lines)

theorem message
    (topic : Topic)
    (text : String) :
    Overlooks backdrop (message topic text) :=
  change fun session => session.message_onto backdrop topic text

/-- A change of the monitor overlooks the backdrop if it leaves it where it is. -/
theorem updateMonitor
    {update : Monitor → Monitor}
    (same :
      ∀ monitor : Monitor, update (monitor.onto backdrop) = (update monitor).onto backdrop) :
    Overlooks backdrop (updateMonitor update) :=
  change fun session => congrArg (Session.mk · session.machine) (same session.monitor)

/-- A change of the machine alone has no backdrop. -/
theorem updateMachine (update : Machine → Machine) :
    Overlooks backdrop (updateMachine update) :=
  change fun _ => rfl

/-! ### Breakpoints -/

/-- Whether the history has room is told by the sentry. -/
theorem requireHistory : Overlooks backdrop requireHistory :=
  (observe fun _ => rfl).andThen fun _ => (failure _).choice (value ())

/-- Checks are changed before the history is looked at, neither in the backdrop. -/
theorem updateChecks
    {update : Monitor → Monitor}
    (same :
      ∀ monitor : Monitor, update (monitor.onto backdrop) = (update monitor).onto backdrop) :
    Overlooks backdrop (updateChecks update) :=
  (updateMonitor same).andThen fun _ => requireHistory

/-- A countdown overlooks the backdrop, with the history that it needs. -/
theorem startCountdown (count : Nat) :
    Overlooks backdrop (Operation.updateChecks (·.startCountdown count)) :=
  updateChecks fun monitor => monitor.startCountdown_onto backdrop count

/-- A breakpoint is placed, or refused, in front of any backdrop alike. -/
theorem placeBreakpoint
    (kind : BreakKind)
    (location : Location) :
    Overlooks backdrop (placeBreakpoint kind location) := by
  refine ofSession fun session => ?_
  rw [session.placeBreakpoint_onto backdrop]
  cases session.placeBreakpoint kind location with
  | error error =>
      rfl
  | ok after =>
      exact requireHistory after

/-- Breakpoints are cleared and counted, and then the history must have room. -/
theorem clearBreakpointsAt (address? : Option UInt16) :
    Overlooks backdrop (clearBreakpointsAt address?) := by
  refine andThen (fun session => ?_) fun count => requireHistory.andThen fun _ => value count
  exact
    congrArg (fun came => (Except.ok came.1, came.2))
      (session.removeBreakpoints_onto backdrop address?)

/-- Where no temporary breakpoint was cleared, the history is not looked at. -/
theorem clearTemporaryBreakpoints : Overlooks backdrop clearTemporaryBreakpoints := by
  refine andThen (fun session => ?_) fun count => requireHistory.choice (value ())
  exact
    congrArg (fun came => (Except.ok came.1, came.2))
      (session.removeTemporaryBreakpoints_onto backdrop)

end Overlooks

end Operation

end Monitor8080
