import Monitor8080.Proofs.ExcusedFetches
namespace Monitor8080

/-!
# What the countdown counts

An armed countdown goes down with every attempt to fetch an opcode, accepted or
not. A fetch that an execution breakpoint refuses is attempted again when
execution goes on, and is counted again: the countdown is about instructions
only as long as no breakpoint refuses one.
-/

/-- What is left of a countdown after one more attempt; it is disarmed when nothing was left. -/
def Breakpoints.tick : Option Nat → Option Nat
  | some (left + 1) => some left
  | _ => none

/-- What is left of a countdown after some attempts. -/
def Breakpoints.remaining (count attempts : Nat) : Option Nat :=
  if attempts ≤ count then some (count - attempts) else none

namespace Breakpoints

variable {breakpoints : Breakpoints} {address : UInt16}

@[simp] theorem withEntries_countdown? (kind : BreakKind) (locations : List Location) :
    (breakpoints.withEntries kind locations).countdown? = breakpoints.countdown? := by
  cases kind <;> rfl

theorem tick_remaining (count attempts : Nat) :
    tick (remaining count attempts) = remaining count (attempts + 1) := by
  unfold remaining
  by_cases more : attempts < count
  · obtain ⟨left, same⟩ := Nat.exists_eq_add_of_lt more
    rw [if_pos (Nat.le_of_lt more), if_pos (show attempts + 1 ≤ count from more)]
    have here : count - attempts = left + 1 := by omega
    have after : count - (attempts + 1) = left := by omega
    rw [here, after]
    rfl
  · have beyond : ¬ attempts + 1 ≤ count := more
    rw [if_neg beyond]
    split
    · have nothing : count - attempts = 0 := by omega
      rw [nothing]
      rfl
    · rfl

theorem remaining_eq_zero_iff (count attempts : Nat) :
    remaining count attempts = some 0 ↔ attempts = count := by
  unfold remaining
  split
  · rw [Option.some.injEq]
    omega
  · simp only [reduceCtorEq, false_iff]
    omega

/-- The check of a fetch is an attempt, unless the breakpoints are muted. -/
theorem hitByExecution_countdown? :
    (breakpoints.hitByExecution address).2.countdown? =
      if breakpoints.isMuted then breakpoints.countdown? else tick breakpoints.countdown? := by
  by_cases muted : breakpoints.isMuted
  · rw [hitByExecution_of_isMuted muted, if_pos muted]
  · rw [if_neg muted]
    rw [Bool.not_eq_true] at muted
    by_cases expired : breakpoints.countdown? = some 0
    · rw [hitByExecution_of_expired muted expired, expired]
      rfl
    · have counted : breakpoints.counted.countdown? = tick breakpoints.countdown? := by
        cases left : breakpoints.countdown? with
        | none =>
            simp [Breakpoints.counted, left, tick]
        | some number =>
            obtain ⟨less, rfl⟩ :=
              Nat.exists_eq_succ_of_ne_zero fun zero => expired (left.trans (congrArg some zero))
            simp [Breakpoints.counted, left, tick]
      rw [hitByExecution_of_running muted expired]
      split
      · exact counted
      · exact (withEntries_countdown? _ _).trans counted

/-- The countdown stops the check of a fetch exactly when nothing is left. -/
theorem hitByExecution_eq_countdown_iff {place : UInt16} :
    (breakpoints.hitByExecution address).1 = some (.countdown place) ↔
      place = address ∧ breakpoints.isMuted = false ∧ breakpoints.countdown? = some 0 := by
  constructor
  · intro stopped
    by_cases muted : breakpoints.isMuted
    · rw [hitByExecution_of_isMuted muted] at stopped
      cases stopped
    · rw [Bool.not_eq_true] at muted
      by_cases expired : breakpoints.countdown? = some 0
      · rw [hitByExecution_of_expired muted expired] at stopped
        cases stopped
        exact ⟨rfl, muted, expired⟩
      · rw [hitByExecution_of_running muted expired] at stopped
        split at stopped
        · cases stopped
        · have occupied : breakpoints.counted.HasEntry .exec address :=
            hitWithin_isSome_iff.mp (by rw [stopped]; rfl)
          obtain ⟨location, consumed, named, -⟩ := hitWithin_of_hasEntry occupied
          rw [stopped] at named
          cases named
  · rintro ⟨rfl, audible, expired⟩
    rw [hitByExecution_of_expired audible expired]

end Breakpoints

namespace Session

/-! ## Attempts -/

/-- Whether a step attempts to fetch an opcode while the breakpoints are not muted. -/
def attemptsFetch (session : Session) : Bool :=
  session.machine.cpu.isFetching
    && (session.machine.memory.fetch? session.pc).isSome
    && !session.monitor.sentry.breakpoints.isMuted

/-- Whether an execution breakpoint refuses the fetch of a step. -/
def refusesFetch (session : Session) : Bool :=
  match session.step.1 with
  | .break (.hit (.entry .exec _ _)) => true
  | _ => false

variable {session : Session}

theorem attemptsFetch_of_failed
    {error : StepError}
    (failed : (Core.step session.core).1 = .error error) :
    session.attemptsFetch = false := by
  rcases Core.step_error_cases failed with ⟨poweredOff, -⟩ | ⟨-, unmapped, -⟩
  · have poweredOff : session.machine.cpu.phase = .poweredOff := poweredOff
    simp [attemptsFetch, Cpu.isFetching, Cpu.isPowered, poweredOff]
  · have unmapped : session.machine.memory.fetch? session.pc = none := unmapped
    simp [attemptsFetch, unmapped]

/-- While a countdown is armed, the fetch of a step is checked if it is attempted. -/
theorem checksFetch_of_armed
    (armed : session.monitor.sentry.breakpoints.countdown?.isSome)
    (attempts : session.attemptsFetch) :
    session.checksFetch := by
  simp only [attemptsFetch, Bool.and_eq_true] at attempts
  have needed : session.monitor.sentry.isNeeded session.machine.memory := by
    simp [Sentry.isNeeded, Breakpoints.isWaiting, armed]
  simp only [checksFetch, needed, attempts.1, Bool.and_true]

/-- A step takes one from the countdown exactly if it attempts a fetch. -/
theorem step_countdown? (session : Session) :
    session.step.2.monitor.sentry.breakpoints.countdown? =
      if session.attemptsFetch then Breakpoints.tick session.monitor.sentry.breakpoints.countdown?
      else session.monitor.sentry.breakpoints.countdown? := by
  have checked :
      session.fetchCheck.2.countdown? =
        if session.attemptsFetch then
          Breakpoints.tick session.monitor.sentry.breakpoints.countdown?
        else session.monitor.sentry.breakpoints.countdown? := by
    unfold fetchCheck
    split
    · rename_i checks
      obtain ⟨-, fetching, opcode, mapped⟩ := checksFetch_iff.mp checks
      have attempts :
          session.attemptsFetch = !session.monitor.sentry.breakpoints.isMuted := by
        simp [attemptsFetch, fetching, mapped]
      rw [Breakpoints.hitByExecution_countdown?, attempts]
      cases session.monitor.sentry.breakpoints.isMuted <;> rfl
    · rename_i unchecked
      split
      · rename_i attempts
        cases armed : session.monitor.sentry.breakpoints.countdown? with
        | none =>
            rfl
        | some left =>
            exact absurd (checksFetch_of_armed (by rw [armed]; rfl) attempts) unchecked
      · rfl
  rcases session.step_cases with ⟨hit, refused⟩ | ⟨error, failed⟩ | ⟨passed, count, executed⟩
  · rw [step_breakpoints_of_refused refused, checked]
  · rw [step_breakpoints_of_failed failed, attemptsFetch_of_failed failed]
    rfl
  · have sameCountdown := congrArg Breakpoints.countdown? (step_forFetches_of_passed passed)
    exact Eq.trans sameCountdown checked

/-- A step ends at the countdown exactly if it attempts a fetch when nothing is left. -/
theorem step_eq_countdown_iff
    (idle : session.monitor.sentry.pending? = none)
    (address : UInt16) :
    session.step.1 = .break (.hit (.countdown address)) ↔
      address = session.pc ∧
        session.attemptsFetch ∧ session.monitor.sentry.breakpoints.countdown? = some 0 := by
  constructor
  · intro ended
    rcases session.step_cases with ⟨hit, refused⟩ | ⟨error, failed⟩ | ⟨passed, count, executed⟩
    · rw [step_fst_of_refused refused] at ended
      cases ended
      unfold fetchCheck at refused
      split at refused
      · rename_i checks
        obtain ⟨-, fetching, opcode, mapped⟩ := checksFetch_iff.mp checks
        obtain ⟨here, audible, expired⟩ :=
          Breakpoints.hitByExecution_eq_countdown_iff.mp refused
        exact ⟨here, by simp [attemptsFetch, fetching, mapped, audible], expired⟩
      · cases refused
    · rw [step_fst_of_failed failed] at ended
      cases ended
    · have retired := (step_prompted_of_executed passed executed idle).1
      rw [ended] at retired
      cases retired
  · rintro ⟨rfl, attempts, expired⟩
    have checks := checksFetch_of_armed (by rw [expired]; rfl) attempts
    have audible : session.monitor.sentry.breakpoints.isMuted = false := by
      simp only [attemptsFetch, Bool.and_eq_true, Bool.not_eq_true'] at attempts
      exact attempts.2
    refine step_fst_of_refused ?_
    rw [fetchCheck, if_pos checks]
    exact Breakpoints.hitByExecution_eq_countdown_iff.mpr ⟨rfl, audible, expired⟩

/-- A step that ends at the countdown executes nothing and disarms it. -/
theorem step_of_countdown
    (idle : session.monitor.sentry.pending? = none)
    {address : UInt16}
    (ended : session.step.1 = .break (.hit (.countdown address))) :
    session.step.2.core.Alike session.core ∧
      session.step.2.monitor.sentry.breakpoints.countdown? = none := by
  obtain ⟨-, attempts, expired⟩ := (step_eq_countdown_iff idle address).mp ended
  constructor
  · refine step_core_of_not_isRetired idle ?_
    rw [ended]
    rfl
  · rw [step_countdown?, if_pos attempts, expired]
    rfl

/-- While something is left, a step attempts what it fetches and what a breakpoint refuses. -/
theorem attemptsFetch_eq
    (idle : session.monitor.sentry.pending? = none)
    (running :
      session.attemptsFetch → session.monitor.sentry.breakpoints.countdown? ≠ some 0) :
    (if session.attemptsFetch then 1 else 0) =
      (if !session.monitor.sentry.breakpoints.isMuted && session.acceptsFetch then 1 else 0) +
        if session.refusesFetch then 1 else 0 := by
  rcases session.step_cases with ⟨hit, refused⟩ | ⟨error, failed⟩ | ⟨passed, count, executed⟩
  · have ended := step_fst_of_refused refused
    have attempts : session.attemptsFetch := by
      unfold fetchCheck at refused
      split at refused
      · rename_i checks
        obtain ⟨-, fetching, opcode, mapped⟩ := checksFetch_iff.mp checks
        have audible : session.monitor.sentry.breakpoints.isMuted = false := by
          by_contra muted
          rw [Bool.not_eq_false] at muted
          rw [Breakpoints.hitByExecution_of_isMuted muted] at refused
          cases refused
        simp [attemptsFetch, fetching, mapped, audible]
      · cases refused
    -- The countdown itself refuses no fetch while something is left.
    rcases refused_names refused with rfl | ⟨location, consumed, rfl, -⟩
    · exact absurd ((step_eq_countdown_iff idle session.pc).mp ended).2.2 (running attempts)
    · simp [acceptsFetch, refusesFetch, ended, StepEnd.isRetired, attempts]
  · have ended := step_fst_of_failed failed
    simp [acceptsFetch, refusesFetch, ended, StepEnd.isRetired, attemptsFetch_of_failed failed]
  · have retired := (step_prompted_of_executed passed executed idle).1
    have unrefused : session.refusesFetch = false := by
      unfold refusesFetch
      split
      · rename_i ended
        rw [ended] at retired
        cases retired
      · rfl
    rw [unrefused]
    by_cases fetching : session.machine.cpu.isFetching
    · have accepted : session.acceptsFetch := by
        rw [acceptsFetch, fetching, retired]
        rfl
      simp [attemptsFetch, accepted, mapped_of_acceptsFetch accepted, fetching]
    · simp [attemptsFetch, acceptsFetch, fetching]

end Session

/-! ## Chronicles of attempts -/

namespace Moment

/-- Whether a deed attempts to fetch an opcode while the breakpoints are not muted. -/
def attemptsFetch (moment : Moment) : Bool :=
  moment.deed = .step && moment.session.attemptsFetch

/-- Whether a deed fetches an opcode while the breakpoints are not muted. -/
def acceptsFetch (moment : Moment) : Bool :=
  moment.deed = .step
    && (!moment.session.monitor.sentry.breakpoints.isMuted && moment.session.acceptsFetch)

/-- Whether a deed is refused a fetch by an execution breakpoint. -/
def refusesFetch (moment : Moment) : Bool :=
  moment.deed = .step && moment.session.refusesFetch

end Moment

/-- No deed arms the countdown, or disarms it. -/
def Unarmed (moments : List Moment) : Prop :=
  ∀ moment ∈ moments, ∀ count, moment.deed ≠ .arm count

theorem Session.Does.countdown?
    {before after : Session}
    {deed : Deed}
    (does : before.Does deed after)
    (unarmed : ∀ count, deed ≠ .arm count) :
    after.monitor.sentry.breakpoints.countdown? =
      if Moment.attemptsFetch ⟨before, deed⟩ then
        Breakpoints.tick before.monitor.sentry.breakpoints.countdown?
      else before.monitor.sentry.breakpoints.countdown? := by
  cases does with
  | step =>
      rw [step_countdown?]
      simp [Moment.attemptsFetch]
  | adjust adjusts =>
      rw [adjusts.breakpoints]
      rfl
  | place placed =>
      obtain ⟨added, -⟩ := placeBreakpoint_ok placed
      exact (Breakpoints.add_restraints added).1
  | remove address? =>
      obtain ⟨test, filtered, -⟩ := before.removeBreakpoints_eq address?
      rw [filtered]
      rfl
  | removeTemporary =>
      rw [before.removeTemporaryBreakpoints_eq.1]
      rfl
  | arm count =>
      exact absurd rfl (unarmed count)
  | enter =>
      rw [Run.enter_breakpoints]
      rfl
  | mute =>
      rfl
  | unmute =>
      rfl
  | resume =>
      rfl

theorem Session.Does.remaining
    {before after : Session}
    {deed : Deed}
    (does : before.Does deed after)
    (unarmed : ∀ count, deed ≠ .arm count)
    {count attempts : Nat}
    (armed :
      before.monitor.sentry.breakpoints.countdown? = Breakpoints.remaining count attempts) :
    after.monitor.sentry.breakpoints.countdown? =
      Breakpoints.remaining count
        (attempts + if Moment.attemptsFetch ⟨before, deed⟩ then 1 else 0) := by
  rw [does.countdown? unarmed, armed]
  split
  · exact Breakpoints.tick_remaining count attempts
  · rfl

/-- While something is left, a deed attempts what it fetches and what a breakpoint refuses. -/
theorem Moment.attempts_eq
    (moment : Moment)
    (idle : moment.session.monitor.sentry.pending? = none)
    (running :
      moment.attemptsFetch → moment.session.monitor.sentry.breakpoints.countdown? ≠ some 0) :
    (if moment.attemptsFetch then 1 else 0) =
      (if moment.acceptsFetch then 1 else 0) + if moment.refusesFetch then 1 else 0 := by
  by_cases steps : moment.deed = .step
  · simp only [attemptsFetch, acceptsFetch, refusesFetch, steps, decide_true, Bool.true_and]
      at running ⊢
    exact Session.attemptsFetch_eq idle running
  · simp [attemptsFetch, acceptsFetch, refusesFetch, steps]

namespace Chronicle

variable {first last : Session} {moments : List Moment} {count attempts : Nat}

theorem countdown?
    (chronicle : Chronicle first moments last)
    (unarmed : Unarmed moments)
    (armed :
      first.monitor.sentry.breakpoints.countdown? = Breakpoints.remaining count attempts) :
    last.monitor.sentry.breakpoints.countdown? =
      Breakpoints.remaining count (attempts + moments.countP (·.attemptsFetch)) := by
  induction chronicle generalizing attempts with
  | nil session =>
      exact armed
  | cons does later inductionHypothesis =>
      have unarmedLater := fun moment member => unarmed moment (List.mem_cons_of_mem _ member)
      have left := does.remaining (unarmed _ List.mem_cons_self) armed
      rw [inductionHypothesis unarmedLater left, List.countP_cons]
      congr 1
      omega

/-- Until nothing is left, every attempt is a fetch that is accepted or that a breakpoint refuses. -/
theorem attempts_eq
    (chronicle : Chronicle first moments last)
    (unarmed : Unarmed moments)
    (idle : first.monitor.sentry.pending? = none)
    (armed :
      first.monitor.sentry.breakpoints.countdown? = Breakpoints.remaining count attempts)
    (inTime : attempts + moments.countP (·.attemptsFetch) ≤ count) :
    moments.countP (·.attemptsFetch) =
      moments.countP (·.acceptsFetch) + moments.countP (·.refusesFetch) := by
  -- The deeds so far take part in the induction: an attempt in time finds something left.
  induction chronicle generalizing attempts with
  | nil session =>
      rfl
  | @cons before middle last deed rest does later inductionHypothesis =>
      have unarmedLater := fun moment member => unarmed moment (List.mem_cons_of_mem _ member)
      have left := does.remaining (unarmed _ List.mem_cons_self) armed
      rw [List.countP_cons] at inTime
      have sooner := inductionHypothesis unarmedLater (does.idle idle) left (by omega)
      have running :
          Moment.attemptsFetch ⟨before, deed⟩ →
            before.monitor.sentry.breakpoints.countdown? ≠ some 0 := by
        intro attempted
        rw [if_pos attempted] at inTime
        rw [armed, Ne, Breakpoints.remaining_eq_zero_iff]
        omega
      have accounted := Moment.attempts_eq ⟨before, deed⟩ idle running
      rw [List.countP_cons, List.countP_cons, List.countP_cons, sooner]
      omega

end Chronicle

/-! ## Lines that spare the countdown -/

/-- Commands that neither arm the countdown nor disarm it, and set breakpoints whose scripts do not. -/
inductive SparesCountdown : List String → Prop where
  | intro
      {commands : List String}
      (unarmed :
        ∀ text ∈ commands,
          ∀ command count,
            Command.parse text = .ok command → ¬ command.Permits (.arm count))
      (scripts :
        ∀ text ∈ commands,
          ∀ command kind location,
            Command.parse text = .ok command →
              command.Permits (.place kind location) → SparesCountdown location.commands) :
      SparesCountdown commands

def Licence.sparing : Licence :=
  ⟨fun deed => ∀ count, deed ≠ .arm count, SparesCountdown⟩

/-- Only commands arm the countdown and disarm it. -/
theorem Licence.sparing_isKept : sparing.IsKept where
  basic deed basic := by
    rintro count rfl
    cases basic
  permitted := by
    rintro commands text command edit ⟨unarmed, -⟩ member parsed permits count same
    cases edit with
    | arm number =>
        exact unarmed text member command number parsed permits
    | _ =>
        cases same
  placed := by
    rintro commands text command kind location ⟨-, scripts⟩ member parsed permits
    exact scripts text member command kind location parsed permits

/--
The countdown expires at the attempt to fetch an opcode that comes after as
many attempts as it was armed with, whatever runs they are divided into. It
stops before the instruction, and is disarmed. Until then every attempt was a
fetch that was accepted or one that an execution breakpoint refused: the
countdown counts instructions exactly if no breakpoint refuses a fetch.
-/
theorem countdown_expires_after_attempts
    {config : Config}
    {machine : Machine}
    {earlier : List Moment}
    {session : Session}
    (reached : Chronicle (.fresh config machine) earlier session)
    {count : Nat}
    (positive : 0 < count) :
    (∀ moments here,
      Chronicle (session.updateMonitor (·.startCountdown count)) moments here →
        Unarmed moments →
          (∀ address,
            here.step.1 = .break (.hit (.countdown address)) ↔
              address = here.pc ∧
                here.attemptsFetch ∧ moments.countP (·.attemptsFetch) = count) ∧
            (∀ address,
              here.step.1 = .break (.hit (.countdown address)) →
                here.step.2.core.Alike here.core ∧
                  here.step.2.monitor.sentry.breakpoints.countdown? = none) ∧
            (moments.countP (·.attemptsFetch) ≤ count →
              moments.countP (·.attemptsFetch) =
                moments.countP (·.acceptsFetch) + moments.countP (·.refusesFetch))) ∧
      ((∀ kind,
        ∀ location ∈ session.monitor.sentry.breakpoints.entries kind,
          SparesCountdown location.commands) →
        ∀ requests,
          (∀ text, .line text ∈ requests → SparesCountdown (Text.commandsOf (Text.trim text))) →
            ∃ moments,
              Unarmed moments ∧
                Chronicle (session.updateMonitor (·.startCountdown count)) moments
                  ((session.updateMonitor (·.startCountdown count)).conduct requests)) := by
  have idle := (reached.append (.single (.arm session count))).idle (Session.fresh_pending? _ _)
  have breakpoints :
      (session.updateMonitor (·.startCountdown count)).monitor.sentry.breakpoints =
        session.monitor.sentry.breakpoints.startCountdown count := by
    rw [Session.updateMonitor, Monitor.startCountdown, Monitor.settleHistory_breakpoints]
    rfl
  have armed :
      (session.updateMonitor (·.startCountdown count)).monitor.sentry.breakpoints.countdown? =
        Breakpoints.remaining count 0 := by
    rw [breakpoints, Breakpoints.startCountdown, Breakpoints.remaining,
      if_neg (Nat.pos_iff_ne_zero.mp positive), if_pos (Nat.zero_le count), Nat.sub_zero]
  refine ⟨?_, ?_⟩
  · intro moments here chronicle unarmed
    have idleHere := chronicle.idle idle
    have left := chronicle.countdown? unarmed armed
    rw [Nat.zero_add] at left
    refine ⟨?_, ?_, ?_⟩
    · intro address
      rw [Session.step_eq_countdown_iff idleHere, left, Breakpoints.remaining_eq_zero_iff]
    · exact fun address => Session.step_of_countdown idleHere
    · intro inTime
      exact chronicle.attempts_eq unarmed idle armed (by omega)
  · intro scripts requests spare
    have carried :
        Licence.sparing.IsCarried (session.updateMonitor (·.startCountdown count)) := by
      refine .entries idle fun kind location member => scripts kind location ?_
      rw [breakpoints] at member
      cases kind <;> exact member
    obtain ⟨-, moments, chronicle, allowed⟩ :=
      Licence.sparing_isKept.conduct_leads _ requests spare carried
    exact ⟨moments, allowed, chronicle⟩

/-- A countdown of two stops the third fetch, if no breakpoint refuses one. -/
theorem countdown_of_two_stops_third_fetch :
    let armed := (Session.fresh .default .initial).updateMonitor (·.startCountdown 2)
    armed.step.2.step.2.step.1 = .break (.hit (.countdown 2)) ∧
      ∃ moments, Unarmed moments ∧ Chronicle armed moments (armed.conduct [.line "g"]) := by
  intro armed
  have expires :=
    countdown_expires_after_attempts (.nil (.fresh .default .initial)) (Nat.zero_lt_succ 1)
  constructor
  · have unarmed : Unarmed [⟨armed, .step⟩, ⟨armed.step.2, .step⟩] := by
      intro moment member
      simp only [List.mem_cons, List.not_mem_nil, or_false] at member
      rcases member with rfl | rfl <;> exact nofun
    have twoSteps := Chronicle.cons (.step armed) (.single (.step armed.step.2))
    refine ((expires.1 _ _ twoSteps unarmed).1 2).mpr ?_
    decide +kernel
  · refine expires.2 (fun kind location member => ?_) [.line "g"] fun text member => ?_
    · rw [Session.fresh_breakpoints] at member
      cases kind <;> cases member
    · obtain rfl : text = "g" := by simpa using member
      have commands : Text.commandsOf (Text.trim "g") = ["g"] := by decide +kernel
      have goes : Command.parse "g" = .ok (.go none) := by rfl
      rw [commands]
      refine .intro ?_ ?_
      · intro other member command number parsed permits
        rw [List.mem_singleton.mp member, goes] at parsed
        cases parsed
        cases permits
      · intro other member command kind location parsed permits
        rw [List.mem_singleton.mp member, goes] at parsed
        cases parsed
        cases permits

/-- A fetch that a breakpoint refuses is counted: a countdown of three expires after two instructions. -/
theorem refused_fetch_is_counted :
    let session :=
      (Session.fresh .default .initial).conduct
        [.line "bn 3", .line "bp 1", .line "g", .line "t 1"]
    session.machine.cpu.cycles = 8 ∧
      session.step.1 = .break (.hit (.countdown 2)) := by
  decide +kernel

end Monitor8080
