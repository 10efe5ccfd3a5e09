import Mathlib.Data.List.DropRight
import Monitor8080.Proofs.Annals
import Monitor8080.Proofs.Countdown
namespace Monitor8080

/-!
# When the history is recorded

The history is recorded while anything is checked: it is settled whenever a
breakpoint comes or goes, when the countdown is armed and when the checksum
starts over. Only the countdown that runs out is forgotten, and the history
goes on being recorded until it is settled next.
-/

/-! ## What waits after a step -/

namespace Breakpoints

variable {breakpoints other : Breakpoints} {kind : BreakKind} {location : Location}

theorem isEmpty_of_mem (member : location ∈ breakpoints.entries kind) :
    breakpoints.isEmpty = false := by
  rw [Bool.eq_false_iff]
  intro empty
  rw [entries_of_isEmpty empty kind] at member
  cases member

theorem isEmpty_congr (same : ∀ kind, breakpoints.entries kind = other.entries kind) :
    breakpoints.isEmpty = other.isEmpty := by
  have sameExec : breakpoints.exec = other.exec := same .exec
  have sameRead : breakpoints.read = other.read := same .read
  have sameWrite : breakpoints.write = other.write := same .write
  rw [isEmpty, sameExec, sameRead, sameWrite, isEmpty]

/-- A check takes no permanent entry away. -/
theorem mem_hitWithin
    {length : Nat}
    {checked : BreakKind}
    {address : UInt16}
    (member : location ∈ breakpoints.entries kind)
    (permanent : location.isTemporary = false) :
    location ∈ (breakpoints.hitWithin checked address length).2.entries kind := by
  by_cases same : kind = checked
  · subst checked
    simp [hitWithin, member, permanent]
  · rw [hitWithin, entries_withEntries_of_ne same]
    exact member

/-- A check of a fetch takes no permanent entry away, and none at all unless it names one. -/
theorem entries_hitByExecution_cases (address : UInt16) :
    (∀ kind, (breakpoints.hitByExecution address).2.entries kind = breakpoints.entries kind) ∨
      ∃ location consumed,
        (breakpoints.hitByExecution address).1 = some (.entry .exec location consumed) ∧
          ∀ kind,
            ∀ entry ∈ breakpoints.entries kind,
              entry.isTemporary = false →
                entry ∈ (breakpoints.hitByExecution address).2.entries kind := by
  by_cases muted : breakpoints.isMuted
  · left
    rw [hitByExecution_of_isMuted muted]
    exact fun kind => rfl
  · rw [Bool.not_eq_true] at muted
    by_cases expired : breakpoints.countdown? = some 0
    · left
      rw [hitByExecution_of_expired muted expired]
      intro kind
      cases kind <;> rfl
    · have counted : ∀ kind, breakpoints.counted.entries kind = breakpoints.entries kind := by
        intro kind
        cases kind <;> rfl
      rw [hitByExecution_of_running muted expired]
      split
      · exact .inl counted
      · by_cases occupied : breakpoints.counted.HasEntry .exec address
        · right
          obtain ⟨location, consumed, hit, -⟩ := hitWithin_of_hasEntry occupied
          refine ⟨location, consumed, hit, fun kind entry member permanent => ?_⟩
          rw [← counted] at member
          exact mem_hitWithin member permanent
        · left
          rw [hitWithin_of_not_hasEntry occupied]
          exact counted

end Breakpoints

/--
What the accesses of an instruction spare: every permanent entry, and every
entry at all unless a hit is pending.
-/
structure Sentry.Spares (origin : Breakpoints) (sentry : Sentry) : Prop where
  permanent :
    ∀ kind,
      ∀ entry ∈ origin.entries kind,
        entry.isTemporary = false → entry ∈ sentry.breakpoints.entries kind
  unhit :
    (∀ hit, sentry.pending? ≠ some (.hit hit)) →
      ∀ kind, sentry.breakpoints.entries kind = origin.entries kind

namespace Sentry.Spares

variable {origin : Breakpoints} {sentry : Sentry}

theorem of_breakpoints (same : sentry.breakpoints = origin) : sentry.Spares origin := by
  subst same
  exact ⟨fun _ _ member _ => member, fun _ _ => rfl⟩

theorem noteAccess
    (spares : sentry.Spares origin)
    (kind : Access)
    (address : UInt16) :
    (sentry.noteAccess kind address).Spares origin := by
  cases pending : sentry.pending? with
  | some reason =>
      have unchanged : sentry.noteAccess kind address = sentry := by
        simp only [Sentry.noteAccess, pending]
      rw [unchanged]
      exact spares
  | none =>
      have untouched : ∀ kind, sentry.breakpoints.entries kind = origin.entries kind :=
        spares.unhit fun hit same => by rw [pending] at same; cases same
      rcases Sentry.noteAccess_cases pending kind address with
        ⟨-, unchanged⟩ | ⟨location, consumed, -, noted, left⟩
      · refine ⟨?_, fun _ => ?_⟩
        · rw [unchanged]
          exact spares.permanent
        · rw [unchanged]
          exact untouched
      · refine ⟨fun other entry member permanent => ?_, fun unhit => absurd noted (unhit _)⟩
        rw [left]
        rw [← untouched] at member
        exact Breakpoints.mem_hitWithin member permanent

theorem notePort
    (spares : sentry.Spares origin)
    (isBreak : Bool)
    (direction : PortDirection)
    (port byte : UInt8) :
    (sentry.notePort isBreak direction port byte).Spares origin := by
  refine ⟨?_, fun unhit => ?_⟩
  · rw [Sentry.notePort_breakpoints]
    exact spares.permanent
  · rw [Sentry.notePort_breakpoints]
    refine spares.unhit fun hit same => ?_
    rcases sentry.notePort_pending? isBreak direction port byte with kept | ⟨nothing, -⟩
    · exact unhit hit (kept.trans same)
    · rw [nothing] at same
      cases same

end Sentry.Spares

/-- Whether a step ended as the countdown ran out. -/
def StepEnd.expiresCountdown : StepEnd → Bool
  | .break (.hit (.countdown _)) => true
  | _ => false

namespace Session

variable {session : Session}

/-- The check of a fetch changes the entries only if it names one, and takes no permanent one away. -/
theorem entries_fetchCheck_cases (session : Session) :
    (∀ kind,
      session.fetchCheck.2.entries kind = session.monitor.sentry.breakpoints.entries kind) ∨
      ∃ location consumed,
        session.fetchCheck.1 = some (.entry .exec location consumed) ∧
          ∀ kind,
            ∀ entry ∈ session.monitor.sentry.breakpoints.entries kind,
              entry.isTemporary = false → entry ∈ session.fetchCheck.2.entries kind := by
  unfold fetchCheck
  split
  · exact Breakpoints.entries_hitByExecution_cases session.pc
  · exact .inl fun kind => rfl

theorem execute_spares (passed : session.fetchCheck.1 = none) :
    session.execute.2.monitor.sentry.Spares session.fetchCheck.2 := by
  refine execute_keeps passed ?_ fun sentry same _ => .of_breakpoints same
  exact Guarded.invariant_of_notes (fun _ kind address before => before.noteAccess kind address)
    fun _ isBreak direction port byte before => before.notePort isBreak direction port byte

/-- An instruction changes the entries only if it hits one of them, which stays if it is permanent. -/
theorem entries_execute_cases
    (passed : session.fetchCheck.1 = none)
    (idle : session.monitor.sentry.pending? = none) :
    (∀ kind,
      session.execute.2.monitor.sentry.breakpoints.entries kind =
        session.monitor.sentry.breakpoints.entries kind) ∨
      ∃ kind location consumed,
        session.execute.2.monitor.sentry.pending? = some (.hit (.entry kind location consumed)) ∧
          location ∈ session.monitor.sentry.breakpoints.entries kind ∧
          (location.isTemporary = false →
            location ∈ session.execute.2.monitor.sentry.breakpoints.entries kind) := by
  have untouched :
      ∀ kind,
        session.fetchCheck.2.entries kind = session.monitor.sentry.breakpoints.entries kind := by
    rcases session.entries_fetchCheck_cases with untouched | ⟨location, consumed, named, -⟩
    · exact untouched
    · rw [passed] at named
      cases named
  have spares := execute_spares passed
  by_cases hits : ∃ hit, session.execute.2.monitor.sentry.pending? = some (.hit hit)
  · obtain ⟨hit, pending⟩ := hits
    obtain ⟨retired, named, -⟩ := execute_isPromptedBy passed idle _ pending
    cases hit with
    | countdown address =>
        cases retired
    | entry kind location consumed =>
        have member : location ∈ session.fetchCheck.2.entries kind := named
        refine .inr ⟨kind, location, consumed, pending, ?_, spares.permanent kind location member⟩
        rw [← untouched]
        exact member
  · left
    intro kind
    rw [spares.unhit fun hit same => hits ⟨hit, same⟩, untouched]

/-- A step changes the entries only if it ends at one of them, which stays if it is permanent. -/
theorem entries_step_cases (idle : session.monitor.sentry.pending? = none) :
    (∀ kind,
      session.step.2.monitor.sentry.breakpoints.entries kind =
        session.monitor.sentry.breakpoints.entries kind) ∨
      ∃ kind location consumed,
        session.step.1 = .break (.hit (.entry kind location consumed)) ∧
          location ∈ session.monitor.sentry.breakpoints.entries kind ∧
          (location.isTemporary = false →
            location ∈ session.step.2.monitor.sentry.breakpoints.entries kind) := by
  rcases session.step_cases with ⟨hit, refused⟩ | ⟨error, failed⟩ | ⟨passed, count, executed⟩
  · rw [step_breakpoints_of_refused refused, step_fst_of_refused refused]
    rcases session.entries_fetchCheck_cases with untouched | ⟨location, consumed, named, spared⟩
    · exact .inl untouched
    · right
      rw [refused] at named
      cases named
      rcases refused_names refused with isCountdown | ⟨_, _, same, member, -⟩
      · cases isCountdown
      · cases same
        exact ⟨.exec, location, consumed, rfl, member, spared .exec location member⟩
  · rw [step_breakpoints_of_failed failed]
    exact .inl fun kind => rfl
  · rw [step_breakpoints, step_fst_of_executed passed executed]
    rcases entries_execute_cases passed idle with same | ⟨kind, location, consumed, pending, hits⟩
    · exact .inl same
    · rw [pending]
      exact .inr ⟨kind, location, consumed, rfl, hits⟩

/-- A step that neither releases a temporary breakpoint nor ends the countdown leaves waiting what was. -/
theorem step_isWaiting
    (idle : session.monitor.sentry.pending? = none)
    (holds : session.step.1.releasesTemporary = false)
    (counts : session.step.1.expiresCountdown = false) :
    session.step.2.monitor.sentry.breakpoints.isWaiting =
      session.monitor.sentry.breakpoints.isWaiting := by
  have sameEmpty :
      session.step.2.monitor.sentry.breakpoints.isEmpty =
        session.monitor.sentry.breakpoints.isEmpty := by
    rcases entries_step_cases idle with same | ⟨kind, location, consumed, ended, member, stays⟩
    · exact Breakpoints.isEmpty_congr same
    · rw [ended] at holds
      rw [Breakpoints.isEmpty_of_mem member, Breakpoints.isEmpty_of_mem (stays holds)]
  have sameArmed :
      session.step.2.monitor.sentry.breakpoints.countdown?.isSome =
        session.monitor.sentry.breakpoints.countdown?.isSome := by
    rw [step_countdown?]
    split
    · rename_i attempts
      cases armed : session.monitor.sentry.breakpoints.countdown? with
      | none =>
          rfl
      | some left =>
          cases left with
          | zero =>
              have ended := (step_eq_countdown_iff idle session.pc).mpr ⟨rfl, attempts, armed⟩
              rw [ended] at counts
              cases counts
          | succ left =>
              rfl
    · rfl
  rw [Breakpoints.isWaiting, sameEmpty, sameArmed, Breakpoints.isWaiting]

/-- A countdown that runs out was waited for. -/
theorem wantsHistory_of_expires
    (idle : session.monitor.sentry.pending? = none)
    (expires : session.step.1.expiresCountdown) :
    session.monitor.wantsHistory := by
  have ended : ∃ address, session.step.1 = .break (.hit (.countdown address)) := by
    revert expires
    unfold StepEnd.expiresCountdown
    split
    · rename_i address ended
      exact fun _ => ⟨address, ended⟩
    · nofun
  obtain ⟨address, ended⟩ := ended
  obtain ⟨-, -, armed⟩ := (step_eq_countdown_iff idle address).mp ended
  simp [Monitor.wantsHistory, Breakpoints.isWaiting, armed]

end Session

/-! ## What is recorded without being wanted -/

namespace Entry

/-- Whether the history is settled. -/
def settles (entry : Entry) : Bool :=
  match entry.upkeep? with
  | some upkeep => upkeep.settles
  | none => entry.before.step.1.releasesTemporary

/-- Whether the countdown runs out. -/
def expires (entry : Entry) : Bool :=
  entry.upkeep?.isNone && entry.before.step.1.expiresCountdown

end Entry

/-- Whether the countdown ran out since the history was last settled. -/
def isStale (entries : List Entry) : Bool :=
  (entries.rtakeWhile (!·.settles)).any Entry.expires

theorem isStale_concat (entries : List Entry) (entry : Entry) :
    isStale (entries ++ [entry]) = (!entry.settles && (isStale entries || entry.expires)) := by
  cases settles : entry.settles with
  | true =>
      rw [isStale, List.rtakeWhile_concat_neg _ _ _ (by simp [settles])]
      rfl
  | false =>
      rw [isStale, List.rtakeWhile_concat_pos _ _ _ (by simp [settles])]
      simp [isStale]

namespace History

variable {history : History} {isWanted : Bool}

theorem hasRoom_congr {other : History} (same : history.capacity = other.capacity) :
    history.hasRoom = other.hasRoom := by
  rw [hasRoom, same, hasRoom]

/-- What is recorded only if there is room for it is recorded exactly if it is wanted, once settled. -/
theorem isOn_settle (fits : history.isOn → history.hasRoom) :
    (history.settle isWanted).isOn = ((history.settle isWanted).hasRoom && isWanted) := by
  rw [hasRoom_congr (capacity_settle history isWanted), settle]
  cases room : history.hasRoom with
  | true =>
      simp
  | false =>
      have off : history.isOn = false := by
        rw [Bool.eq_false_iff]
        intro isOn
        rw [fits isOn] at room
        cases room
      cases isWanted with
      | true =>
          exact off
      | false =>
          exact isOn_enable history false

end History

theorem Monitor.wantsHistory_congr
    {monitor other : Monitor}
    (config : monitor.config = other.config)
    (waiting :
      monitor.sentry.breakpoints.isWaiting = other.sentry.breakpoints.isWaiting)
    (interval : monitor.sentry.checksum.interval = other.sentry.checksum.interval) :
    monitor.wantsHistory = other.wantsHistory := by
  rw [wantsHistory, config, waiting, interval, wantsHistory]

theorem Checksum.interval_recordIf (checksum : Checksum) (fetched? : Option (UInt16 × UInt8)) :
    (checksum.recordIf fetched?).interval = checksum.interval := by
  cases fetched? with
  | none =>
      rfl
  | some fetch =>
      simp only [recordIf, record]
      split
      · rfl
      · split <;> rfl

namespace Session

/--
The history has a capacity, and it is recorded exactly if there is room for it
and it is wanted, or was when the countdown ran out.
-/
structure Gated (capacity : Nat) (stale : Bool) (session : Session) : Prop where
  capacity : session.monitor.sentry.history.capacity = capacity
  isOn :
    session.monitor.sentry.history.isOn =
      (session.monitor.sentry.history.hasRoom && (session.monitor.wantsHistory || stale))

namespace Gated

variable {capacity : Nat} {stale : Bool} {session : Session}

theorem hasRoom_of_isOn
    (gated : session.Gated capacity stale)
    (isOn : session.monitor.sentry.history.isOn) :
    session.monitor.sentry.history.hasRoom := by
  rw [gated.isOn, Bool.and_eq_true] at isOn
  exact isOn.1

/-- Once settled, the history is recorded exactly if it is wanted and there is room. -/
theorem settled
    {after : Session}
    {history : History}
    (isSettled :
      after.monitor.sentry.history = history.settle after.monitor.wantsHistory)
    (ofCapacity : history.capacity = capacity)
    (fits : history.isOn → history.hasRoom) :
    after.Gated capacity false := by
  constructor
  · rw [isSettled, History.capacity_settle, ofCapacity]
  · rw [isSettled, Bool.or_false]
    exact History.isOn_settle fits

theorem fresh (config : Config) (machine : Machine) :
    (fresh config machine).Gated (History.ofCapacity config.historyCapacity).capacity false :=
  settled (fresh_history config machine) rfl nofun

/-- Where nothing is settled, all stays as it is unless the history is wanted no more. -/
theorem unsettled
    {after : Session}
    {expires : Bool}
    (gated : session.Gated capacity stale)
    (ofCapacity :
      after.monitor.sentry.history.capacity = session.monitor.sentry.history.capacity)
    (isOn : after.monitor.sentry.history.isOn = session.monitor.sentry.history.isOn)
    (wanted :
      (after.monitor.wantsHistory || expires) = (session.monitor.wantsHistory || expires))
    (expiring : expires → session.monitor.wantsHistory) :
    after.Gated capacity (stale || expires) := by
  constructor
  · exact ofCapacity.trans gated.capacity
  · have absorbed :
        (session.monitor.wantsHistory || expires) = session.monitor.wantsHistory := by
      cases expires with
      | true =>
          rw [expiring rfl, Bool.or_true]
      | false =>
          exact Bool.or_false _
    rw [isOn, gated.isOn, History.hasRoom_congr ofCapacity, Bool.or_comm stale, ← Bool.or_assoc,
      wanted, absorbed]

theorem step
    (gated : session.Gated capacity stale)
    (idle : session.monitor.sentry.pending? = none) :
    session.step.2.Gated capacity
      (!session.step.1.releasesTemporary && (stale || session.step.1.expiresCountdown)) := by
  have history := session.step_history
  have fits :
      (session.monitor.sentry.history.recordIf session.fetched?).isOn →
        (session.monitor.sentry.history.recordIf session.fetched?).hasRoom := by
    rw [History.isOn_recordIf, History.hasRoom_congr (History.capacity_recordIf _ _)]
    exact gated.hasRoom_of_isOn
  cases releases : session.step.1.releasesTemporary with
  | true =>
      rw [releases] at history
      exact settled history ((History.capacity_recordIf _ _).trans gated.capacity) fits
  | false =>
      rw [releases] at history
      have ofCapacity :
          session.step.2.monitor.sentry.history.capacity =
            session.monitor.sentry.history.capacity := by
        rw [history]
        exact History.capacity_recordIf _ _
      have isOn :
          session.step.2.monitor.sentry.history.isOn = session.monitor.sentry.history.isOn := by
        rw [history]
        exact History.isOn_recordIf _ _
      refine gated.unsettled ofCapacity isOn ?_ ?_
      · cases expires : session.step.1.expiresCountdown with
        | true =>
            rw [Bool.or_true, Bool.or_true]
        | false =>
            rw [Monitor.wantsHistory_congr session.step_config
              (step_isWaiting idle releases expires)]
            rw [step_checksum]
            exact Checksum.interval_recordIf _ _
      · intro expires
        exact wantsHistory_of_expires idle expires

theorem maintains
    {after : Session}
    {upkeep : Upkeep}
    (gated : session.Gated capacity stale)
    (maintains : session.Maintains upkeep after) :
    after.Gated capacity (!upkeep.settles && stale) := by
  cases settles : upkeep.settles with
  | true =>
      have isSettled :
          after.monitor.sentry.history =
            session.monitor.sentry.history.settle after.monitor.wantsHistory := by
        rw [maintains.history, upkeep.history_of_settles _ _ settles]
      exact settled isSettled gated.capacity gated.hasRoom_of_isOn
  | false =>
      have ofCapacity :
          after.monitor.sentry.history.capacity = session.monitor.sentry.history.capacity := by
        rw [maintains.history, Upkeep.capacity_history]
      have isOn : after.monitor.sentry.history.isOn = session.monitor.sentry.history.isOn := by
        rw [maintains.history, upkeep.isOn_history_of_not_settles _ _ settles]
      have checksum : after.monitor.sentry.checksum = session.monitor.sentry.checksum := by
        rw [maintains.checksum, upkeep.checksum_eq_self]
        rintro interval rfl
        cases settles
      have wanted : after.monitor.wantsHistory = session.monitor.wantsHistory :=
        Monitor.wantsHistory_congr maintains.config (maintains.waiting settles) (by rw [checksum])
      have kept := gated.unsettled ofCapacity isOn (congrArg (· || false) wanted) nofun
      rw [Bool.or_false] at kept
      exact kept

/-- Whatever is done, the history is recorded as the annals say. -/
theorem annals
    {first last : Session}
    {entries : List Entry}
    (annals : Annals first entries last)
    (tidy : first.monitor.sentry.Tidy)
    (gated : first.Gated capacity false) :
    last.Gated capacity (isStale entries) := by
  induction annals with
  | nil =>
      exact gated
  | step earlier inductionHypothesis =>
      rw [isStale_concat]
      exact inductionHypothesis.step (earlier.tidy tidy).idle
  | upkeep earlier maintains inductionHypothesis =>
      have maintained := inductionHypothesis.maintains maintains
      rw [← Bool.or_false (isStale _)] at maintained
      rw [isStale_concat]
      exact maintained

end Gated

end Session

/--
After whatever operators and hosts do, and after each step of it, the history is
recorded exactly if there is room for it and it is wanted, unless the countdown
ran out since it was last settled; then it goes on being recorded.
-/
theorem history_recorded_iff_wanted_or_stale (config : Config) (machine : Machine) :
    (∀ dealings,
      ∃ entries,
        Annals (.fresh config machine) entries ((Session.fresh config machine).dealAll dealings)) ∧
      ∀ entries session,
        Annals (.fresh config machine) entries session →
          session.monitor.config = config ∧
            session.monitor.sentry.history.isOn =
              ((History.ofCapacity config.historyCapacity).hasRoom &&
                (session.monitor.wantsHistory || isStale entries)) := by
  refine ⟨fun dealings => Session.dealAll_endures _ dealings, fun entries session annals => ?_⟩
  have gated :=
    Session.Gated.annals annals (Session.fresh_tidy config machine) (.fresh config machine)
  refine ⟨?_, ?_⟩
  · rw [annals.config]
    exact Monitor.settleHistory_config _
  · rw [gated.isOn, History.hasRoom_congr gated.capacity]

/-- With a breakpoint the history is recorded. -/
theorem history_recorded_with_breakpoint :
    let session := (Session.fresh .default .initial).dealAll [.call (.request (.line "bp 1"))]
    session.monitor.sentry.history.isOn = true := by
  intro session
  obtain ⟨told, recorded⟩ := history_recorded_iff_wanted_or_stale .default .initial
  obtain ⟨entries, annals⟩ := told [.call (.request (.line "bp 1"))]
  have wanted : session.monitor.wantsHistory = true := by decide +kernel
  have room : (History.ofCapacity Config.default.historyCapacity).hasRoom = true := by decide
  rw [(recorded entries session annals).2, wanted, room]
  rfl

/-- Nothing is checked any more once the countdown ran out, yet the history is recorded. -/
theorem expired_countdown_leaves_history_recorded :
    let session :=
      (Session.fresh .default .initial).dealAll
        ([.line "bn 2", .step, .step, .step].map fun request => .call (.request request))
    session.monitor.sentry.history.isOn = true ∧ session.monitor.wantsHistory = false := by
  decide +kernel

end Monitor8080
