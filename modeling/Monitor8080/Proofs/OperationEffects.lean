import Monitor8080.Proofs.MonitorFrames
namespace Monitor8080

/-!
# Effects of operations

What an operation does to the session is told by a law: it relates the session
before it to the one after it, and may tell apart whether the operation was
abandoned. A law that holds of doing nothing, and of one thing after another
unless the first one was abandoned, carries over from the parts of an operation
to the whole.
-/

namespace Session

/-! ## What reports leave alone -/

/-- Two sessions with the same machine in which the same is checked and the same is pending. -/
structure SameGuard (before after : Session) : Prop where
  machine : after.machine = before.machine
  breakpoints : after.monitor.sentry.breakpoints = before.monitor.sentry.breakpoints
  pending? : after.monitor.sentry.pending? = before.monitor.sentry.pending?

namespace SameGuard

@[refl] theorem refl (session : Session) : session.SameGuard session :=
  ⟨rfl, rfl, rfl⟩

/-- The same guard is the same over two changes in turn. -/
theorem trans
    {first second third : Session}
    (same : first.SameGuard second)
    (sameNext : second.SameGuard third) :
    first.SameGuard third :=
  ⟨sameNext.machine.trans same.machine, sameNext.breakpoints.trans same.breakpoints,
    sameNext.pending?.trans same.pending?⟩

end SameGuard

end Session

/-- The same is left to print, and the history asks for as much room. -/
structure Sentry.SameRecords (before after : Sentry) : Prop where
  notes : after.notes = before.notes
  checksum : after.checksum = before.checksum
  capacity : after.history.capacity = before.history.capacity

namespace Sentry.SameRecords

@[refl] theorem refl (sentry : Sentry) : sentry.SameRecords sentry :=
  ⟨rfl, rfl, rfl⟩

/-- Records that are the same over two changes in turn are the same. -/
theorem trans
    {first second third : Sentry}
    (same : first.SameRecords second)
    (sameNext : second.SameRecords third) :
    first.SameRecords third :=
  ⟨sameNext.notes.trans same.notes, sameNext.checksum.trans same.checksum,
    sameNext.capacity.trans same.capacity⟩

end Sentry.SameRecords

/-- A history is what it was, or has only forgotten how often each opcode was fetched. -/
def History.Recalls (before after : History) : Prop :=
  after = before ∨ after = before.forgetFrequencies

namespace History.Recalls

@[refl] theorem refl (history : History) : history.Recalls history :=
  .inl rfl

/-- Counts that were forgotten once are not told from counts that were forgotten twice. -/
theorem trans
    {first second third : History}
    (recalls : first.Recalls second)
    (recallsNext : second.Recalls third) :
    first.Recalls third := by
  rcases recalls with rfl | rfl
  · exact recallsNext
  · rcases recallsNext with rfl | rfl
    · exact .inr rfl
    · exact .inr rfl

end History.Recalls

namespace Session

/--
The same guard with the same settings, the same to record and to print, and
what is recorded. The symbols stay, and the variables stay in order.
-/
structure SameDuty (before after : Session) : Prop extends before.SameGuard after where
  config : after.monitor.config = before.monitor.config
  records : before.monitor.sentry.SameRecords after.monitor.sentry
  history : before.monitor.sentry.history.Recalls after.monitor.sentry.history
  names : before.monitor.KeepsNames after.monitor

namespace SameDuty

@[refl] theorem refl (session : Session) : session.SameDuty session :=
  ⟨.refl session, rfl, .refl _, .refl _, .refl _⟩

/-- The duty stays the same over two changes in turn. -/
theorem trans
    {first second third : Session}
    (same : first.SameDuty second)
    (sameNext : second.SameDuty third) :
    first.SameDuty third :=
  ⟨same.toSameGuard.trans sameNext.toSameGuard, sameNext.config.trans same.config,
    same.records.trans sameNext.records, same.history.trans sameNext.history,
    same.names.trans sameNext.names⟩

/-- A change of the monitor that keeps the settings and the sentry keeps its duty. -/
theorem of_sentry
    {before after : Session}
    (machine : after.machine = before.machine)
    (config : after.monitor.config = before.monitor.config)
    (sentry : after.monitor.sentry = before.monitor.sentry)
    (names : before.monitor.KeepsNames after.monitor) :
    before.SameDuty after :=
  ⟨⟨machine, by rw [sentry], by rw [sentry]⟩, config, by rw [sentry], by rw [sentry], names⟩

/-- Output is no part of the duty. -/
theorem print (session : Session) (line : String) : session.SameDuty (session.print line) :=
  .of_sentry rfl rfl rfl ⟨rfl, id⟩

theorem printAll (session : Session) (lines : List String) :
    session.SameDuty (session.updateMonitor (·.printAll lines)) :=
  .of_sentry rfl (Monitor.printAll_config ..) (Monitor.printAll_sentry ..) (.printAll ..)

/-- Whether a message is shown depends on settings, and leaves them as they are. -/
theorem message (session : Session) (topic : Topic) (text : String) :
    session.SameDuty (session.message topic text) :=
  .of_sentry rfl (Monitor.message_config ..) (Session.message_sentry ..) (.message ..)

/-- Cursors are no part of the duty. -/
theorem pointAtPC (session : Session) : session.SameDuty session.pointAtPC :=
  .of_sentry rfl rfl rfl ⟨rfl, id⟩

theorem showCurrent (session : Session) : session.SameDuty session.showCurrent :=
  .printAll session _

/-- A stop is noticed by output alone. -/
theorem noticeStop (session : Session) : session.SameDuty session.noticeStop :=
  (message session _ _).trans (.showCurrent _)

end SameDuty

/-! ## Laws -/

/-- A relation that holds of doing nothing, and of one thing after another. -/
class Composes (related : Session → Session → Prop) : Prop where
  refl : ∀ session, related session session
  trans :
    ∀ {first second third},
      related first second →
      related second third →
      related first third

instance : Composes fun before after => after = before where
  refl _ := rfl
  trans same sameNext := sameNext.trans same

/-- A relation that also holds of whatever keeps the machine and what is checked. -/
class AllowsReports (related : Session → Session → Prop) : Prop extends Composes related where
  report : ∀ {before after}, before.SameGuard after → related before after

/--
A law, which tells apart by its flag whether something was abandoned. It holds
of doing nothing, and of one thing after another that was not abandoned.
-/
class Lawful (law : Session → Bool → Session → Prop) : Prop where
  refl : ∀ session, law session false session
  trans :
    ∀ {first second third isAbandoned},
      law first false second →
      law second isAbandoned third →
      law first isAbandoned third

/-- A law that also holds of whatever keeps the machine and the sentry's duty. -/
class LawfulReports (law : Session → Bool → Session → Prop) : Prop extends Lawful law where
  report : ∀ {before after}, before.SameDuty after → law before false after

instance {related : Session → Session → Prop} [composes : Composes related] :
    Lawful fun before _ after => related before after where
  refl := composes.refl
  trans := composes.trans

instance {related : Session → Session → Prop} [allows : AllowsReports related] :
    LawfulReports fun before _ after => related before after where
  report same := allows.report same.toSameGuard

end Session

namespace Operation

/-- Two parts of an operation, one after the other unless the first one fails. -/
theorem run_bind
    (operation : Operation α)
    (next : α → Operation β)
    (session : Session) :
    (operation >>= next).run session =
      match operation.run session with
      | (.ok value, middle) => (next value).run middle
      | (.error error, middle) => (.error error, middle) := by
  rw [ExceptT.run_bind]
  simp only [bind, StateT.bind]
  cases came : operation.run session with
  | mk result middle =>
      cases result <;> rfl

/-- Of two parts the first one fails, or the second one goes on from where it left the session. -/
theorem run_bind_cases
    (operation : Operation α)
    (next : α → Operation β)
    (session : Session) :
    (∃ error middle,
      operation.run session = (.error error, middle) ∧
        (operation >>= next).run session = (.error error, middle)) ∨
      ∃ value middle,
        operation.run session = (.ok value, middle) ∧
          (operation >>= next).run session = (next value).run middle := by
  rw [run_bind]
  cases operation.run session with
  | mk result middle =>
      cases result with
      | ok value =>
          exact .inr ⟨value, middle, rfl, rfl⟩
      | error error =>
          exact .inl ⟨error, middle, rfl, rfl⟩

/-- A view is looked at without a change. -/
@[simp] theorem run_observe (view : Session → α) (session : Session) :
    (observe view).run session = (.ok (view session), session) := rfl

@[simp] theorem run_get (session : Session) :
    (get : Operation Session).run session = (.ok session, session) := rfl

/-- A change is made, and nothing else comes of it. -/
@[simp] theorem run_modify (change : Session → Session) (session : Session) :
    (modify change : Operation Unit).run session = (.ok (), change session) := rfl

/-- An expression that has a value is evaluated to it, which changes nothing. -/
theorem run_evaluate
    {session : Session}
    {text : String}
    {value : Int64}
    (evaluated : session.monitor.evaluate session.machine text = .ok value) :
    (evaluate text).run session = (.ok value, session) := by
  rw [evaluate, run_bind, run_observe]
  simp only [evaluated]
  rfl

/-- A text that means an address is read as it, which changes nothing. -/
theorem run_address
    {session : Session}
    {text : String}
    {target : UInt16}
    (means : session.monitor.addressOf session.machine text = .ok target) :
    (address text).run session = (.ok target, session) := by
  rw [address, run_bind, run_observe]
  simp only [means]
  rfl

/-- Whether an operation was abandoned, by what came of it. -/
def wasAbandoned : Except MonitorError α → Bool
  | .error .historyTooLong => true
  | _ => false

/-- Only the lack of room for the history abandons an operation. -/
theorem wasAbandoned_error
    {error : MonitorError}
    (ordinary : error ≠ .historyTooLong) :
    wasAbandoned (.error error : Except MonitorError α) = false := by
  cases error <;> first | rfl | exact absurd rfl ordinary

/-- Requiring the history does nothing, or abandons what is under way. -/
theorem requireHistory_run (session : Session) :
    requireHistory.run session =
      (if session.monitor.lacksHistory then .error .historyTooLong else .ok (), session) := by
  unfold requireHistory
  rw [run_bind, run_observe]
  cases session.monitor.lacksHistory <;> rfl

/-- The law holds of an operation, from whatever session and whatever comes of it. -/
def Obeys
    (law : Session → Bool → Session → Prop)
    (operation : Operation α) : Prop :=
  ∀ session, law session (wasAbandoned (operation.run session).1) (operation.run session).2

namespace Obeys

variable {law : Session → Bool → Session → Prop} [lawful : Session.Lawful law]

/-! ## Parts of operations -/

/-- A value alone does nothing. -/
theorem value (value : α) : Obeys law (pure value : Operation α) :=
  fun session => lawful.refl session

/-- An ordinary failure does nothing and abandons nothing. -/
theorem failure
    {error : MonitorError}
    (ordinary : error ≠ .historyTooLong) :
    Obeys law (throw error : Operation α) := by
  intro session
  have unabandoned := wasAbandoned_error (α := α) ordinary
  change law session (wasAbandoned (.error error : Except MonitorError α)) session
  rw [unabandoned]
  exact lawful.refl session

/-- What the second part does comes after what the first one does, if that does not fail. -/
theorem andThen
    {operation : Operation α}
    {next : α → Operation β}
    (first : Obeys law operation)
    (second : ∀ value, Obeys law (next value)) :
    Obeys law (operation >>= next) := by
  intro session
  have before := first session
  rcases run_bind_cases operation next session with
    ⟨error, middle, came, whole⟩ | ⟨value, middle, came, whole⟩
  · rw [came] at before
    rw [whole]
    cases error <;> exact before
  · rw [came] at before
    rw [whole]
    exact lawful.trans before (second value middle)

theorem observe (view : Session → α) : Obeys law (observe view) :=
  fun session => lawful.refl session

omit lawful in
/-- A change obeys the laws that hold of it in every session. -/
theorem change
    {change : Session → Session}
    (changed : ∀ session, law session false (change session)) :
    Obeys law (modify change : Operation Unit) :=
  changed

omit lawful in
/-- A part that depends on the whole session does what it does from that session on. -/
theorem ofSession
    {next : Session → Operation α}
    (obeys :
      ∀ session,
        law session (wasAbandoned ((next session).run session).1) ((next session).run session).2) :
    Obeys law (get >>= next) := by
  intro session
  rw [run_bind]
  exact obeys session

omit lawful in
/-- Either part is done, by a condition that is decided before. -/
theorem choice
    {condition : Prop}
    [Decidable condition]
    {first second : Operation α}
    (firstObeys : Obeys law first)
    (secondObeys : Obeys law second) :
    Obeys law (if condition then first else second) := by
  split
  · exact firstObeys
  · exact secondObeys

/-- A check either fails in an ordinary way or lets the rest be done. -/
theorem guarded
    {condition : Prop}
    [Decidable condition]
    {error : MonitorError}
    {next : Unit → Operation α}
    (ordinary : error ≠ .historyTooLong)
    (nextObeys : Obeys law (next ())) :
    Obeys law (if condition then throw error >>= next else next ()) :=
  choice (andThen (failure ordinary) fun _ => nextObeys) nextObeys

/-! ## Arguments -/

/-- A value that may be an ordinary failure instead does nothing. -/
theorem ofExcept
    {result : Except MonitorError α}
    (ordinary : wasAbandoned result = false) :
    Obeys law (ofExcept result) := by
  cases result with
  | error error =>
      refine failure ?_
      rintro rfl
      cases ordinary
  | ok value =>
      exact Obeys.value value

/-- An expression never fails for lack of room. -/
theorem wasAbandoned_evaluate
    (session : Session)
    (text : String) :
    wasAbandoned (session.monitor.evaluate session.machine text) = false := by
  unfold Monitor.evaluate
  split <;> rfl

/-- An address text never fails for lack of room. -/
theorem wasAbandoned_addressOf
    (session : Session)
    (text : String) :
    wasAbandoned (session.monitor.addressOf session.machine text) = false := by
  have evaluated := wasAbandoned_evaluate session text
  unfold Monitor.addressOf
  split
  · rfl
  · split
    · rename_i error failed
      rw [failed] at evaluated
      cases error <;> first | rfl | cases evaluated
    · split <;> rfl

theorem evaluate (text : String) : Obeys law (evaluate text) := by
  refine ofSession fun session => ?_
  exact ofExcept (wasAbandoned_evaluate session text) session

theorem address (text : String) : Obeys law (address text) := by
  refine ofSession fun session => ?_
  exact ofExcept (wasAbandoned_addressOf session text) session

/-- A value out of its bounds is an ordinary failure. -/
theorem valueWithin
    (low high : Int64)
    (complaint text : String) :
    Obeys law (valueWithin low high complaint text) := by
  exact (evaluate text).andThen fun result => guarded nofun (value result)

theorem count (text : String) : Obeys law (count text) := by
  exact (evaluate text).andThen fun result => guarded nofun (value _)

/-- A count that is not given has its default, and one that is given is an expression. -/
theorem countOr
    (default : Nat)
    (text? : Option String) :
    Obeys law (countOr default text?) := by
  cases text? with
  | none =>
      exact value default
  | some text =>
      exact count text

theorem byte (text : String) : Obeys law (byte text) :=
  andThen (valueWithin _ _ _ text) fun _ => value _

theorem word (text : String) : Obeys law (word text) :=
  andThen (valueWithin _ _ _ text) fun _ => value _

theorem port (text : String) : Obeys law (port text) :=
  andThen (valueWithin _ _ _ text) fun _ => value _

/-- A place is looked up and changes nothing. -/
theorem place
    (text? : Option String)
    (cursor : Location) :
    Obeys law (place text? cursor) := by
  cases text? with
  | none =>
      exact (value cursor).choice ((observe _).andThen fun _ => value _)
  | some text =>
      exact (address text).andThen fun _ => value _

end Obeys

/-! ## Breakpoints -/

namespace Obeys

variable {law : Session → Bool → Session → Prop} [lawful : Session.Lawful law]

omit lawful in
/-- What requires the history is abandoned if the history is wanted and has no room. -/
private theorem requiring
    {before after : Session}
    {next : Unit → Operation α}
    (done : law before after.monitor.lacksHistory after)
    (ends : ∃ value, next () = pure value) :
    law before (wasAbandoned ((requireHistory >>= next).run after).1)
      ((requireHistory >>= next).run after).2 := by
  obtain ⟨value, returns⟩ := ends
  rw [run_bind, requireHistory_run]
  cases lacks : after.monitor.lacksHistory with
  | true =>
      rw [lacks] at done
      exact done
  | false =>
      rw [lacks] at done
      simp only [Bool.false_eq_true, ↓reduceIte, returns]
      exact done

/-- Placing a breakpoint does what it does to the session, if that is no error. -/
theorem placeBreakpoint
    {kind : BreakKind}
    {location : Location}
    (placed :
      ∀ {before after},
        before.placeBreakpoint kind location = .ok after →
          law before after.monitor.lacksHistory after) :
    Obeys law (placeBreakpoint kind location) := by
  refine ofSession fun session => ?_
  cases came : session.placeBreakpoint kind location with
  | error error =>
      refine failure ?_ session
      unfold Session.placeBreakpoint at came
      split at came
      · rename_i refusal added
        cases came
        cases refusal <;> exact nofun
      · cases came
  | ok after =>
      rw [run_bind, ← bind_pure requireHistory]
      exact requiring (placed came) ⟨(), rfl⟩

omit lawful in
/-- Clearing breakpoints obeys what their removal does, which may leave the history without room. -/
theorem clearBreakpointsAt
    {address? : Option UInt16}
    (removed :
      ∀ session : Session,
        law session (session.removeBreakpoints address?).2.monitor.lacksHistory
          (session.removeBreakpoints address?).2) :
    Obeys law (clearBreakpointsAt address?) := by
  intro session
  unfold Operation.clearBreakpointsAt
  rw [run_bind]
  exact requiring (removed session) ⟨(session.removeBreakpoints address?).1, rfl⟩

omit lawful in
/-- Clearing temporary breakpoints looks at the history only if some were removed. -/
theorem clearTemporaryBreakpoints
    (removed :
      ∀ session : Session,
        law session
          (0 < session.removeTemporaryBreakpoints.1
            && session.removeTemporaryBreakpoints.2.monitor.lacksHistory)
          session.removeTemporaryBreakpoints.2) :
    Obeys law clearTemporaryBreakpoints := by
  intro session
  have done := removed session
  unfold Operation.clearTemporaryBreakpoints
  rw [run_bind]
  change
    law session
      (wasAbandoned ((if 0 < session.removeTemporaryBreakpoints.1 then requireHistory
        else pure ()).run session.removeTemporaryBreakpoints.2).1)
      ((if 0 < session.removeTemporaryBreakpoints.1 then requireHistory
        else pure ()).run session.removeTemporaryBreakpoints.2).2
  by_cases any : 0 < session.removeTemporaryBreakpoints.1
  · rw [decide_eq_true any, Bool.true_and] at done
    rw [if_pos any, ← bind_pure requireHistory]
    exact requiring done ⟨(), rfl⟩
  · rw [decide_eq_false any, Bool.false_and] at done
    rw [if_neg any]
    exact done

omit lawful in
/-- A change of what is checked is abandoned if the history is wanted and has no room. -/
theorem updateChecks
    {update : Monitor → Monitor}
    (updated :
      ∀ session : Session,
        law session (session.updateMonitor update).monitor.lacksHistory
          (session.updateMonitor update)) :
    Obeys law (updateChecks update) := by
  intro session
  unfold Operation.updateChecks
  rw [run_bind, run_modify, ← bind_pure requireHistory]
  exact requiring (updated session) ⟨(), rfl⟩

end Obeys

/-! ## Reports -/

namespace Obeys

variable {law : Session → Bool → Session → Prop} [lawful : Session.LawfulReports law]

theorem print (line : String) : Obeys law (print line) :=
  change fun session => lawful.report (.print session line)

theorem printAll (lines : List String) : Obeys law (printAll lines) :=
  change fun session => lawful.report (.printAll session lines)

/-- Lines are printed, or the one that stands for none. -/
theorem printAllOr
    (line : String)
    (lines : List String) :
    Obeys law (printAllOr line lines) :=
  (print line).choice (printAll lines)

/-- A message is a report. -/
theorem message
    (topic : Topic)
    (text : String) :
    Obeys law (message topic text) :=
  change fun session => lawful.report (.message session topic text)

/-- A change of the monitor that keeps the sentry's duty is as good as a report. -/
theorem updateMonitor
    {update : Monitor → Monitor}
    (same : ∀ session : Session, session.SameDuty (session.updateMonitor update)) :
    Obeys law (updateMonitor update) :=
  change fun session => lawful.report (same session)

end Obeys

/-! ## Relations -/

/-- The session before an operation and the one after it are related, whatever comes of it. -/
def Follows
    (related : Session → Session → Prop)
    (operation : Operation α) : Prop :=
  ∀ session, related session (operation.run session).2

/-- A relation is a law that does not tell apart what was abandoned. -/
theorem Follows.of_obeys
    {related : Session → Session → Prop}
    {operation : Operation α}
    (obeys : Obeys (fun before _ after => related before after) operation) :
    Follows related operation :=
  obeys

end Operation

end Monitor8080
