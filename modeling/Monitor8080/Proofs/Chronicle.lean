import Monitor8080.Proofs.RunCommands
namespace Monitor8080

/-!
# Chronicles

What operators and hosts do with a session comes down to a few kinds of deeds:
steps, changes that leave alone what is checked, and one kind for each way in
which breakpoints change. A chronicle tells the deeds in their order, each with
the session in which it was done.
-/

/-- A kind of change to a session. -/
inductive Deed where
  /-- A step under the monitor. -/
  | step
  /-- Anything that leaves alone what is checked, and the cycles counted. -/
  | adjust
  | place (kind : BreakKind) (location : Location)
  | remove (address? : Option UInt16)
  | removeTemporary
  | arm (count : Nat)
  /-- The beginning of a run. -/
  | enter
  | mute
  | unmute
  /-- The end of the script of an execution breakpoint, after which the run goes on. -/
  | resume
  deriving Repr, DecidableEq

namespace Session

/-- What is checked, watched and pending is as it was, and so are the cycles counted. -/
structure Adjusts (before after : Session) : Prop where
  breakpoints : after.monitor.sentry.breakpoints = before.monitor.sentry.breakpoints
  pending? : after.monitor.sentry.pending? = before.monitor.sentry.pending?
  watches : ∀ kind, after.machine.memory.watches kind = before.machine.memory.watches kind
  cycles : after.machine.cpu.cycles = before.machine.cpu.cycles

/-- A deed and what it comes to. -/
inductive Does : Session → Deed → Session → Prop where
  | step (session : Session) : Does session .step session.step.2
  | adjust {before after : Session} (adjusts : before.Adjusts after) :
      Does before .adjust after
  | place
      {before after : Session}
      {kind : BreakKind}
      {location : Location}
      (placed : before.placeBreakpoint kind location = .ok after) :
      Does before (.place kind location) after
  | remove (session : Session) (address? : Option UInt16) :
      Does session (.remove address?) (session.removeBreakpoints address?).2
  | removeTemporary (session : Session) :
      Does session .removeTemporary session.removeTemporaryBreakpoints.2
  | arm (session : Session) (count : Nat) :
      Does session (.arm count) (session.updateMonitor (·.startCountdown count))
  | enter (session : Session) : Does session .enter (Run.enter session)
  | mute (session : Session) : Does session .mute session.mute
  | unmute (session : Session) : Does session .unmute session.unmute
  | resume (session : Session) : Does session .resume session.excuseHere

/-- No deed leaves something pending where nothing was. -/
theorem Does.idle
    {before after : Session}
    {deed : Deed}
    (does : before.Does deed after)
    (idle : before.monitor.sentry.pending? = none) :
    after.monitor.sentry.pending? = none := by
  cases does with
  | step =>
      exact step_idle idle
  | adjust adjusts =>
      rw [adjusts.pending?, idle]
  | place placed =>
      obtain ⟨-, pending, -⟩ := placeBreakpoint_ok placed
      rw [pending, idle]
  | remove address? =>
      obtain ⟨test, -, pending, -⟩ := before.removeBreakpoints_eq address?
      rw [pending, idle]
  | removeTemporary =>
      rw [before.removeTemporaryBreakpoints_eq.2.1, idle]
  | arm count =>
      rw [updateMonitor, Monitor.startCountdown, Monitor.settleHistory_pending?]
      exact idle
  | enter =>
      exact idle
  | mute =>
      exact idle
  | unmute =>
      exact idle
  | resume =>
      exact idle

@[simp] theorem mute_breakpoints (session : Session) :
    session.mute.monitor.sentry.breakpoints = session.monitor.sentry.breakpoints.mute :=
  rfl

@[simp] theorem unmute_breakpoints (session : Session) :
    session.unmute.monitor.sentry.breakpoints = session.monitor.sentry.breakpoints.unmute :=
  rfl

@[simp] theorem excuseHere_breakpoints (session : Session) :
    session.excuseHere.monitor.sentry.breakpoints =
      session.monitor.sentry.breakpoints.excuse session.pc :=
  rfl

/-- No deed adds an entry, unless it places a breakpoint. -/
theorem Does.entries_sublist
    {before after : Session}
    {deed : Deed}
    (does : before.Does deed after)
    (unplaced : ∀ kind location, deed ≠ .place kind location)
    (kind : BreakKind) :
    (after.monitor.sentry.breakpoints.entries kind).Sublist
      (before.monitor.sentry.breakpoints.entries kind) := by
  cases does with
  | step =>
      exact before.entries_step_sublist kind
  | adjust adjusts =>
      simp only [adjusts.breakpoints, List.Sublist.refl]
  | place placed =>
      exact absurd rfl (unplaced _ _)
  | remove address? =>
      obtain ⟨test, filtered, -⟩ := before.removeBreakpoints_eq address?
      rw [filtered, Breakpoints.entries_without]
      exact List.filter_sublist
  | removeTemporary =>
      rw [before.removeTemporaryBreakpoints_eq.1, Breakpoints.entries_without]
      exact List.filter_sublist
  | arm count =>
      simp only [startCountdown_breakpoints, Breakpoints.entries_startCountdown, List.Sublist.refl]
  | enter =>
      simp only [Run.enter_breakpoints, Breakpoints.entries_excuse, List.Sublist.refl]
  | mute =>
      simp only [mute_breakpoints, Breakpoints.entries_mute, List.Sublist.refl]
  | unmute =>
      simp only [unmute_breakpoints, Breakpoints.entries_unmute, List.Sublist.refl]
  | resume =>
      simp only [excuseHere_breakpoints, Breakpoints.entries_excuse, List.Sublist.refl]

end Session

/-- A session that nothing was done with yet. -/
def Session.fresh (config : Config) (machine : Machine) : Session :=
  ⟨Monitor.ofConfig config, machine⟩

@[simp] theorem Session.fresh_breakpoints (config : Config) (machine : Machine) :
    (fresh config machine).monitor.sentry.breakpoints = .empty :=
  Monitor.settleHistory_breakpoints _

@[simp] theorem Session.fresh_pending? (config : Config) (machine : Machine) :
    (fresh config machine).monitor.sentry.pending? = none :=
  Monitor.settleHistory_pending? _

/-- A deed with the session in which it was done. -/
structure Moment where
  session : Session
  deed : Deed

/-- The deeds that lead from one session to another, in their order. -/
inductive Chronicle : Session → List Moment → Session → Prop where
  | nil (session : Session) : Chronicle session [] session
  | cons
      {first second last : Session}
      {deed : Deed}
      {rest : List Moment}
      (does : first.Does deed second)
      (later : Chronicle second rest last) :
      Chronicle first (⟨first, deed⟩ :: rest) last

namespace Chronicle

/-- One deed is a chronicle. -/
theorem single
    {before after : Session}
    {deed : Deed}
    (does : before.Does deed after) :
    Chronicle before [⟨before, deed⟩] after :=
  .cons does (.nil after)

/-- Of two chronicles the second one goes on where the first one ends. -/
theorem append
    {first middle last : Session}
    {earlier later : List Moment}
    (earlierDeeds : Chronicle first earlier middle)
    (laterDeeds : Chronicle middle later last) :
    Chronicle first (earlier ++ later) last := by
  induction earlierDeeds with
  | nil session =>
      exact laterDeeds
  | cons does rest inductionHypothesis =>
      exact .cons does (inductionHypothesis laterDeeds)

/-- Nothing is pending after deeds that began with nothing pending. -/
theorem idle
    {first last : Session}
    {moments : List Moment}
    (chronicle : Chronicle first moments last)
    (idle : first.monitor.sentry.pending? = none) :
    last.monitor.sentry.pending? = none := by
  induction chronicle with
  | nil session =>
      exact idle
  | cons does later inductionHypothesis =>
      exact inductionHypothesis (does.idle idle)

end Chronicle

namespace Session

def Leads (before after : Session) : Prop :=
  ∃ moments, Chronicle before moments after

/-- What keeps the machine and what is checked is an adjustment. -/
theorem SameGuard.adjusts
    {before after : Session}
    (same : before.SameGuard after) :
    before.Adjusts after where
  breakpoints := same.breakpoints
  pending? := same.pending?
  watches kind := by rw [same.machine]
  cycles := by rw [same.machine]

end Session

end Monitor8080
