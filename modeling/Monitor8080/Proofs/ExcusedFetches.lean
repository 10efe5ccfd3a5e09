import Monitor8080.Proofs.ExecutionStops
import Monitor8080.Proofs.ScriptDeeds
namespace Monitor8080

/-!
# Which fetch is excused

The beginning of a run and the end of a script excuse the next fetch at the
program counter, and only a fetch that is checked uses the excuse up. A run
that never fetches leaves it behind, and so does a fetch that nothing checks:
a breakpoint that is set there later does not stop the next fetch.
-/

namespace Breakpoints

variable {breakpoints : Breakpoints} {address : UInt16}

/-- Whether the check of a fetch uses the excuse up: neither muting nor the countdown comes before it. -/
def usesExcuse (breakpoints : Breakpoints) : Bool :=
  !breakpoints.isMuted && breakpoints.countdown? ≠ some 0

/-- The check of a fetch uses the excuse up, or keeps it. -/
theorem hitByExecution_excused? :
    (breakpoints.hitByExecution address).2.excused? =
      if breakpoints.usesExcuse then none else breakpoints.excused? := by
  by_cases muted : breakpoints.isMuted
  · simp [hitByExecution_of_isMuted muted, usesExcuse, muted]
  · rw [Bool.not_eq_true] at muted
    by_cases expired : breakpoints.countdown? = some 0
    · simp [hitByExecution_of_expired muted expired, usesExcuse, expired]
    · have uses : breakpoints.usesExcuse := by
        simp [usesExcuse, muted, expired]
      rw [hitByExecution_of_running muted expired, if_pos uses]
      split
      · rfl
      · exact withEntries_excused? _

end Breakpoints

namespace Session

/-- Whether a step uses the excuse up. -/
def usesExcuse (session : Session) : Bool :=
  session.checksFetch && session.monitor.sentry.breakpoints.usesExcuse

/-- A step uses the excuse up, or keeps it. -/
theorem step_excused? (session : Session) :
    session.step.2.monitor.sentry.breakpoints.excused? =
      if session.usesExcuse then none else session.monitor.sentry.breakpoints.excused? := by
  have checked :
      session.fetchCheck.2.excused? =
        if session.usesExcuse then none else session.monitor.sentry.breakpoints.excused? := by
    unfold fetchCheck usesExcuse
    cases session.checksFetch with
    | true =>
        simpa using Breakpoints.hitByExecution_excused?
    | false =>
        rfl
  rcases session.step_cases with ⟨hit, refused⟩ | ⟨error, failed⟩ | ⟨passed, count, executed⟩
  · rw [step_breakpoints_of_refused refused, checked]
  · have unchecked : session.checksFetch = false := by
      rcases Core.step_error_cases failed with ⟨poweredOff, -⟩ | ⟨-, unmapped, -⟩
      · have poweredOff : session.machine.cpu.phase = .poweredOff := poweredOff
        simp [checksFetch, Cpu.isFetching, Cpu.isPowered, poweredOff]
      · have unmapped : session.machine.memory.fetch? session.pc = none := unmapped
        simp [checksFetch, unmapped]
    rw [step_breakpoints_of_failed failed, usesExcuse, unchecked]
    rfl
  · have sameExcuse := congrArg Breakpoints.excused? (step_forFetches_of_passed passed)
    exact Eq.trans sameExcuse checked

end Session

/-- The address whose next fetch is excused after a deed, by the one excused before. -/
def Moment.excuse (excused? : Option UInt16) (moment : Moment) : Option UInt16 :=
  match moment.deed with
  | .enter => some moment.session.pc
  | .resume => some moment.session.pc
  | .step => if moment.session.usesExcuse then none else excused?
  | _ => excused?

/-- The address whose next fetch is excused after some deeds, if nothing was excused before. -/
def excuseAfter (moments : List Moment) : Option UInt16 :=
  moments.foldl Moment.excuse none

namespace Session

/-- A deed excuses what its kind tells. -/
theorem Does.excused?
    {before after : Session}
    {deed : Deed}
    (does : before.Does deed after) :
    after.monitor.sentry.breakpoints.excused? =
      Moment.excuse before.monitor.sentry.breakpoints.excused? ⟨before, deed⟩ := by
  cases does with
  | step =>
      exact step_excused? before
  | adjust adjusts =>
      rw [adjusts.breakpoints]
      rfl
  | place placed =>
      obtain ⟨added, -⟩ := placeBreakpoint_ok placed
      exact (Breakpoints.add_restraints added).2.2
  | remove address? =>
      obtain ⟨test, filtered, -⟩ := before.removeBreakpoints_eq address?
      rw [filtered]
      rfl
  | removeTemporary =>
      rw [before.removeTemporaryBreakpoints_eq.1]
      rfl
  | arm count =>
      rw [startCountdown_breakpoints]
      rfl
  | enter =>
      rw [Run.enter_breakpoints]
      rfl
  | mute =>
      rfl
  | unmute =>
      rfl
  | resume =>
      rfl

end Session

namespace Chronicle

/-- After some deeds that is excused which they tell, and nothing else. -/
theorem excused?
    {first last : Session}
    {moments : List Moment}
    (chronicle : Chronicle first moments last) :
    last.monitor.sentry.breakpoints.excused? =
      moments.foldl Moment.excuse first.monitor.sentry.breakpoints.excused? := by
  induction chronicle with
  | nil session =>
      rfl
  | cons does later inductionHypothesis =>
      rw [inductionHypothesis, does.excused?]
      rfl

end Chronicle

namespace Session

/-! ## Steps at execution breakpoints -/

/--
A step that an execution breakpoint has to stop, if its fetch is not excused:
it fetches an opcode where the breakpoint is, and neither muting nor a
countdown comes before the breakpoint.
-/
structure IsDue (session : Session) : Prop where
  audible : session.monitor.sentry.breakpoints.isMuted = false
  unlimited : session.monitor.sentry.breakpoints.countdown? = none
  powered : session.machine.cpu.phase ≠ .poweredOff
  undisturbed : session.machine.cpu.deliverable? = none
  awake : session.machine.cpu.halted = false
  mapped : (session.machine.memory.fetch? session.pc).isSome
  atBreakpoint : session.AtBreakpoint

/-- A step that stops at an execution breakpoint at the program counter. -/
def StopsAtBreakpoint (session : Session) : Prop :=
  ∃ location consumed,
    session.step.1 = .break (.hit (.entry .exec location consumed)) ∧
      location ∈ session.monitor.sentry.breakpoints.exec ∧
      location.address? = some session.pc

/-- A step that is due stops at the breakpoint exactly if its fetch is not excused. -/
theorem IsDue.stopsAtBreakpoint_iff
    {session : Session}
    (due : session.IsDue)
    (idle : session.monitor.sentry.pending? = none) :
    session.StopsAtBreakpoint ↔
      session.monitor.sentry.breakpoints.excused? ≠ some session.pc := by
  have checked : session.checksFetch := by
    obtain ⟨opcode, mapped⟩ := Option.isSome_iff_exists.mp due.mapped
    have fetching : session.machine.cpu.isFetching :=
      Cpu.isFetching_iff.mpr ⟨due.powered, due.undisturbed, due.awake⟩
    exact checksFetch_iff.mpr
      ⟨isNeeded_of_hasEntry due.atBreakpoint, fetching, opcode, mapped⟩
  have running : session.monitor.sentry.breakpoints.countdown? ≠ some 0 := by
    rw [due.unlimited]
    exact nofun
  have check :
      session.fetchCheck =
        if session.monitor.sentry.breakpoints.excused? = some session.pc then
          (none, session.monitor.sentry.breakpoints.counted)
        else
          session.monitor.sentry.breakpoints.counted.hitWithin .exec session.pc 1 := by
    rw [fetchCheck, if_pos checked,
      Breakpoints.hitByExecution_of_running due.audible running]
  constructor
  · rintro ⟨location, consumed, stopped, -⟩ excused
    have passed : session.fetchCheck.1 = none := by
      rw [check, if_pos excused]
    cases stepped : (Core.step session.core).1 with
    | error error =>
        rw [step_fst_of_failed stepped] at stopped
        cases stopped
    | ok count =>
        have retired := (step_prompted_of_executed passed stepped idle).1
        rw [stopped] at retired
        cases retired
  · intro unexcused
    have occupied :
        session.monitor.sentry.breakpoints.counted.HasEntry .exec session.pc :=
      due.atBreakpoint
    obtain ⟨location, consumed, hit, member, here⟩ :=
      Breakpoints.hitWithin_of_hasEntry occupied
    have refused : session.fetchCheck.1 = some (.entry .exec location consumed) := by
      rw [check, if_neg unexcused, hit]
    exact ⟨location, consumed, step_fst_of_refused refused, member, here⟩

end Session

/--
Whatever operators and hosts do comes down to deeds. After any deeds, a step
that is due at an execution breakpoint stops there, exactly unless the last
beginning of a run or end of a script was at this very address and no fetch
has used its excuse up since.
-/
theorem due_step_stops_iff_not_excused
    (config : Config)
    (machine : Machine) :
    (∀ requests,
      ∃ moments,
        Chronicle (.fresh config machine) moments
          ((Session.fresh config machine).conduct requests)) ∧
      ∀ moments session,
        Chronicle (.fresh config machine) moments session →
          session.IsDue →
            (session.StopsAtBreakpoint ↔ excuseAfter moments ≠ some session.pc) := by
  refine ⟨(Session.fresh config machine).conduct_leads, ?_⟩
  intro moments session chronicle due
  have idle := chronicle.idle (Session.fresh_pending? config machine)
  have excused := chronicle.excused?
  rw [Session.fresh_breakpoints] at excused
  rw [due.stopsAtBreakpoint_iff idle, excused]
  rfl

/-- A breakpoint that is set at the first instruction stops the first step. -/
theorem due_step_stops_at_first_instruction :
    ∃ session,
      (Session.fresh .default .initial).placeBreakpoint .exec (.ofAddress 0) = .ok session ∧
        session.IsDue ∧
        session.StopsAtBreakpoint := by
  obtain ⟨session, placed⟩ :
      ∃ session,
        (Session.fresh .default .initial).placeBreakpoint .exec (.ofAddress 0) =
          .ok session :=
    ⟨_, rfl⟩
  obtain ⟨added, -, sameMachine⟩ := Session.placeBreakpoint_ok placed
  have breakpoints :
      session.monitor.sentry.breakpoints =
        { Breakpoints.empty with exec := [.ofAddress 0] } := by
    rw [Session.fresh_breakpoints] at added
    exact (Except.ok.inj added).symm
  have machine : session.machine = .initial := sameMachine
  have due : session.IsDue :=
    { audible := by rw [breakpoints]; rfl
      unlimited := by rw [breakpoints]; rfl
      powered := by rw [machine]; decide
      undisturbed := by rw [machine]; rfl
      awake := by rw [machine]; rfl
      mapped := by rw [Session.pc, machine]; decide +kernel
      atBreakpoint := by
        rw [Session.AtBreakpoint, Session.pc, machine, breakpoints]
        exact ⟨.ofAddress 0, List.mem_singleton.mpr rfl, rfl⟩ }
  refine ⟨session, placed, due, ?_⟩
  refine
    ((due_step_stops_iff_not_excused .default .initial).2 _ session
      (.single (.place placed)) due).mpr ?_
  exact nofun

/--
A run of no instructions leaves its excuse behind: a breakpoint that is set
there afterwards does not stop the next step.
-/
theorem leftover_excuse_hides_breakpoint :
    ((Session.fresh .default .initial).conduct [.line "t 0", .line "bp 0"]).IsDue ∧
      ((Session.fresh .default .initial).conduct [.line "t 0", .line "bp 0"]).step.1 =
        .cycles 4 := by
  constructor
  · exact
      { audible := by decide +kernel
        unlimited := by decide +kernel
        powered := by decide +kernel
        undisturbed := by decide +kernel
        awake := by decide +kernel
        mapped := by decide +kernel
        atBreakpoint := by
          unfold Session.AtBreakpoint Breakpoints.HasEntry
          decide +kernel }
  · decide +kernel

end Monitor8080
