import Monitor8080.Proofs.HistoryGating
import Monitor8080.Proofs.UnobtrusiveScripts
namespace Monitor8080

/-!
# Going on to an address

A run to an address sets a temporary breakpoint there, which no script that
leaves the run alone removes. Only the first fetch of the run can be excused at
the address. At any later one the temporary breakpoint is reached, and the run
ends even if the script of a permanent one beside it would have gone on.
-/

open Operation

namespace Breakpoints

variable {breakpoints : Breakpoints} {address : UInt16}

/-- A fetch that an entry stops takes the temporary entries there away, if there are any. -/
theorem hitByExecution_entry
    {location : Location}
    {consumed : Bool}
    (stopped :
      (breakpoints.hitByExecution address).1 = some (.entry .exec location consumed)) :
    (consumed ↔ 0 < breakpoints.temporaries .exec address) ∧
      (breakpoints.hitByExecution address).2.exec =
        breakpoints.exec.filter fun entry => !entry.isTemporaryAt address := by
  by_cases muted : breakpoints.isMuted
  · rw [hitByExecution_of_isMuted muted] at stopped
    cases stopped
  · rw [Bool.not_eq_true] at muted
    by_cases expired : breakpoints.countdown? = some 0
    · rw [hitByExecution_of_expired muted expired] at stopped
      cases stopped
    · rw [hitByExecution_of_running muted expired] at stopped ⊢
      split at stopped
      · cases stopped
      · rename_i unexcused
        rw [if_neg unexcused]
        exact
          ⟨(hitWithin_consumed stopped).2.2.1,
            entries_hitWithin_one breakpoints.counted .exec address⟩

/-- There is a temporary execution breakpoint at an address. -/
def AwaitsFetch (breakpoints : Breakpoints) (address : UInt16) : Prop :=
  ∃ entry ∈ breakpoints.exec, entry.isTemporaryAt address

theorem AwaitsFetch.hasEntry (awaits : breakpoints.AwaitsFetch address) :
    breakpoints.HasEntry .exec address := by
  obtain ⟨entry, member, isThere⟩ := awaits
  simp only [Location.isTemporaryAt, Bool.and_eq_true, decide_eq_true_eq] at isThere
  exact ⟨entry, member, isThere.1⟩

/-- A temporary entry that is added is there, if it was not before. -/
theorem awaitsFetch_add
    {added : Breakpoints}
    (succeeded : breakpoints.add .exec (.temporary address) = .ok added) :
    added.AwaitsFetch address := by
  by_cases present : breakpoints.AwaitsFetch address
  · rcases add_cases succeeded with rfl | rfl
    · exact present
    · obtain ⟨entry, member, isThere⟩ := present
      exact ⟨entry, List.mem_append_left _ member, isThere⟩
  · have notPresent :
        ¬ (breakpoints.entries .exec).any fun entry =>
          entry.address? = some address ∧
            entry.isTemporary = (Location.temporary address).isTemporary := by
      rw [List.any_eq_true]
      rintro ⟨entry, member, same⟩
      obtain ⟨isHere, isTemporary⟩ := of_decide_eq_true same
      refine present ⟨entry, member, ?_⟩
      simp [Location.isTemporaryAt, isHere, isTemporary, Location.temporary]
    unfold add at succeeded
    split at succeeded
    · cases succeeded
    · rename_i here isHere
      cases isHere
      simp only [if_neg notPresent] at succeeded
      cases succeeded
      refine ⟨_, List.mem_append_right _ (List.mem_singleton.mpr rfl), ?_⟩
      simp [Location.isTemporaryAt, Location.temporary]

end Breakpoints

namespace Session

variable {session : Session} {target : UInt16}

/-- A step that an entry refuses without consuming one leaves the execution breakpoints as they were. -/
theorem step_of_unconsumed
    {location : Location}
    (refused : session.fetchCheck.1 = some (.entry .exec location false))
    (awaits : session.monitor.sentry.breakpoints.AwaitsFetch target) :
    session.pc ≠ target ∧ session.step.2.monitor.sentry.breakpoints.AwaitsFetch target := by
  obtain ⟨entry, member, isThere⟩ := awaits
  have check :
      session.fetchCheck = session.monitor.sentry.breakpoints.hitByExecution session.pc := by
    unfold fetchCheck at refused ⊢
    split at refused
    · rename_i checked
      rw [if_pos checked]
    · cases refused
  rw [step_breakpoints_of_refused refused, check]
  rw [check] at refused
  obtain ⟨consumed, left⟩ := Breakpoints.hitByExecution_entry refused
  have elsewhere : session.pc ≠ target := by
    rintro rfl
    refine absurd (consumed.mpr ?_) Bool.false_ne_true
    exact List.countP_pos_iff.mpr ⟨entry, member, isThere⟩
  refine ⟨elsewhere, entry, ?_, isThere⟩
  rw [left, List.mem_filter]
  refine ⟨member, ?_⟩
  simp only [Location.isTemporaryAt, Bool.and_eq_true, decide_eq_true_eq] at isThere
  simp [Location.isTemporaryAt, isThere, elsewhere.symm]

/-- A step that nothing refuses leaves the execution breakpoints as they were. -/
theorem step_exec_of_passed (passed : session.fetchCheck.1 = none) :
    session.step.2.monitor.sentry.breakpoints.exec = session.monitor.sentry.breakpoints.exec := by
  have sameExec := congrArg Breakpoints.exec (step_forFetches_of_passed passed)
  change session.step.2.monitor.sentry.breakpoints.exec = session.fetchCheck.2.exec at sameExec
  rw [sameExec]
  rcases session.entries_fetchCheck_cases with same | ⟨location, consumed, named, -⟩
  · exact same .exec
  · rw [passed] at named
    cases named

end Session

/-- No permanent breakpoint is gone. -/
def Session.SparesPermanent (before after : Session) : Prop :=
  ∀ kind,
    ∀ entry ∈ before.monitor.sentry.breakpoints.entries kind,
      entry.isTemporary = false → entry ∈ after.monitor.sentry.breakpoints.entries kind

instance : Session.AllowsReports Session.SparesPermanent where
  refl _ _ _ member _ := member
  trans first second kind entry member permanent :=
    second kind entry (first kind entry member permanent) permanent
  report same kind entry member _ := by rwa [same.breakpoints]

namespace Run

/-! ## Steps on the way -/

/-- A step of a run, with what becomes of the stop that it may end at. -/
structure Moves (session : Session) (stretch : Stretch) : Prop where
  pc : stretch.session.pc = session.step.2.pc
  entries :
    ∀ kind,
      session.step.2.monitor.sentry.breakpoints.entries kind ⊆
        stretch.session.monitor.sentry.breakpoints.entries kind
  goesOn :
    stretch.course = .goesOn →
      (∃ count, session.step.1 = .cycles count) ∧ session.step.2.LeavesAlone stretch.session ∨
        ∃ kind location after,
          session.step.1 = .break (.hit (.entry kind location false)) ∧
            session.step.2.LeavesAlone after ∧
            stretch.session = if kind = .exec then after.excuseHere else after

theorem step_moves
    {session : Session}
    (idle : session.monitor.sentry.pending? = none)
    (unobtrusive : session.monitor.sentry.breakpoints.AreUnobtrusive)
    (goal : RunGoal)
    (executed : Nat) :
    Moves session (step answerStop goal executed session) := by
  cases broken : isBroken session.step.1 session.step.2 with
  | true =>
      rw [step_of_isBroken broken]
      exact ⟨rfl, fun kind => List.Subset.refl _, fun goesOn => Course.noConfusion goesOn⟩
  | false =>
      have shows : session.step.2.LeavesAlone (shown goal session) :=
        Session.AllowsReports.report (shown_sameDuty goal session).toSameGuard
      rw [step_of_not_isBroken broken]
      cases ended : session.step.1 with
      | cycles count =>
          simp only [react]
          split
          · exact ⟨shows.pc, shows.entries, fun goesOn => Course.noConfusion goesOn⟩
          · exact ⟨shows.pc, shows.entries, fun _ => .inl ⟨⟨count, ended⟩, shows⟩⟩
      | «break» reason =>
          have named := Session.step_names idle ended
          have passes := answerStop_passes unobtrusive named (shown goal session)
          refine ⟨passes.pc.trans shows.pc, fun kind => ?_, fun goesOn => .inr ?_⟩
          · exact List.Subset.trans (shows.entries kind) (passes.entries kind)
          · obtain ⟨kind, location, after, rfl, left, same⟩ := passes.resumes goesOn
            exact ⟨kind, location, after, ended, Session.Composes.trans shows left, same⟩
      | fault error =>
          exact ⟨shows.pc, shows.entries, fun goesOn => Course.noConfusion goesOn⟩

/-- What a run to an address finds at each of its stations. -/
structure IsSetFor (target : UInt16) (session : Session) : Prop where
  idle : session.monitor.sentry.pending? = none
  audible : session.monitor.sentry.breakpoints.isMuted = false
  unobtrusive : session.monitor.sentry.breakpoints.AreUnobtrusive
  awaits : session.monitor.sentry.breakpoints.AwaitsFetch target

/--
What holds while a run that began at one address is on its way to another one:
if a fetch is excused at the target, it is the first one, and the run began there.
-/
structure IsBound
    (start target : UInt16)
    (past : List Session)
    (session : Session) : Prop extends IsSetFor target session where
  excuse :
    session.monitor.sentry.breakpoints.excused? = some target →
      start = target ∧ ∀ earlier ∈ past, earlier.machine.cpu.isFetching = false

section OnTheWay

variable {start target : UInt16} {past : List Session} {session : Session}

theorem IsSetFor.leftAlone
    {after : Session}
    (isSet : IsSetFor target session)
    (left : session.LeavesAlone after) :
    IsSetFor target after where
  idle := left.pending?.trans isSet.idle
  audible := by
    rw [Breakpoints.isMuted, left.muting]
    exact isSet.audible
  unobtrusive := left.unobtrusive isSet.unobtrusive
  awaits := by
    obtain ⟨entry, member, isThere⟩ := isSet.awaits
    exact ⟨entry, left.entries .exec member, isThere⟩

theorem IsSetFor.step
    (isSet : IsSetFor target session)
    (awaits : session.step.2.monitor.sentry.breakpoints.AwaitsFetch target) :
    IsSetFor target session.step.2 where
  idle := Session.step_idle isSet.idle
  audible := by
    rw [Breakpoints.isMuted, Session.step_muting]
    exact isSet.audible
  unobtrusive :=
    isSet.unobtrusive.mono fun kind => (Session.entries_step_sublist kind).subset
  awaits := awaits

/-- An excuse for another address is none for the target. -/
theorem IsSetFor.excusedHere
    (isSet : IsSetFor target session)
    (elsewhere : session.pc ≠ target) :
    IsBound start target past session.excuseHere where
  idle := isSet.idle
  audible := isSet.audible
  unobtrusive := by simpa [Breakpoints.AreUnobtrusive] using isSet.unobtrusive
  awaits := isSet.awaits
  excuse excused := absurd (Option.some.inj excused) elsewhere

theorem IsBound.leftAlone
    {after : Session}
    (bound : IsBound start target past session)
    (left : session.LeavesAlone after) :
    IsBound start target past after where
  toIsSetFor := bound.toIsSetFor.leftAlone left
  excuse := by
    rw [left.excused?]
    exact bound.excuse

/-- A step that executes something uses the excuse up if it fetches an opcode. -/
theorem IsBound.step_of_retired
    (bound : IsBound start target past session)
    (retired : session.step.1.isRetired) :
    IsBound start target (past ++ [session]) session.step.2 := by
  have sameExec := Session.step_exec_of_passed (Session.fetchCheck_of_isRetired retired)
  obtain ⟨entry, member, isThere⟩ := bound.awaits
  have stays : entry ∈ session.step.2.monitor.sentry.breakpoints.exec := by rwa [sameExec]
  refine ⟨bound.toIsSetFor.step ⟨entry, stays, isThere⟩, fun excused => ?_⟩
  have unfetched : session.machine.cpu.isFetching = false := by
    by_contra fetching
    rw [Bool.not_eq_false] at fetching
    have accepted : session.acceptsFetch := Bool.and_eq_true_iff.mpr ⟨fetching, retired⟩
    rcases Session.step_excused_of_acceptsFetch bound.audible accepted with usedUp | noEntries
    · rw [usedUp] at excused
      cases excused
    · rw [noEntries] at stays
      cases stays
  rw [Session.step_excused_of_not_isFetching unfetched retired] at excused
  obtain ⟨beginsHere, before⟩ := bound.excuse excused
  refine ⟨beginsHere, fun earlier member => ?_⟩
  rcases List.mem_append.mp member with isBefore | isLast
  · exact before earlier isBefore
  · rw [List.mem_singleton.mp isLast]
    exact unfetched

/-- A step that ends at an entry without consuming one retires, or was refused elsewhere. -/
theorem IsSetFor.step_of_unconsumed
    (isSet : IsSetFor target session)
    {kind : BreakKind}
    {location : Location}
    (stopped : session.step.1 = .break (.hit (.entry kind location false))) :
    kind ≠ .exec ∧ session.step.1.isRetired ∨
      kind = .exec ∧ session.pc ≠ target ∧ session.step.2.pc = session.pc ∧
        session.step.2.monitor.sentry.breakpoints.AwaitsFetch target := by
  rcases session.step_cases with ⟨hit, refused⟩ | ⟨error, failed⟩ | ⟨passed, count, executed⟩
  · right
    have unexecuted := Session.step_core_of_refused refused
    rw [Session.step_fst_of_refused refused] at stopped
    cases stopped
    rcases Session.refused_names refused with isCountdown | ⟨_, _, same, -⟩
    · cases isCountdown
    · cases same
      obtain ⟨elsewhere, awaits⟩ := Session.step_of_unconsumed refused isSet.awaits
      exact ⟨rfl, elsewhere, Session.SameProgram.pc_eq unexecuted, awaits⟩
  · rw [Session.step_fst_of_failed failed] at stopped
    cases stopped
  · left
    have retired := (Session.step_prompted_of_executed passed executed isSet.idle).1
    refine ⟨?_, retired⟩
    rintro rfl
    rw [stopped] at retired
    cases retired

/-- While a run goes on, it stays on its way. -/
theorem IsBound.step
    (bound : IsBound start target past session)
    {goal : RunGoal}
    {executed : Nat}
    (goesOn : (Run.step answerStop goal executed session).course = .goesOn) :
    IsBound start target (past ++ [session]) (Run.step answerStop goal executed session).session := by
  have moves := step_moves bound.idle bound.unobtrusive goal executed
  rcases moves.goesOn goesOn with ⟨⟨count, ended⟩, left⟩ | ⟨kind, location, after, stopped, left, same⟩
  · have retired : session.step.1.isRetired := by
      rw [ended]
      rfl
    exact (bound.step_of_retired retired).leftAlone left
  · rw [same]
    rcases bound.toIsSetFor.step_of_unconsumed stopped with
      ⟨notExec, retired⟩ | ⟨isExec, elsewhere, samePc, awaits⟩
    · rw [if_neg notExec]
      exact (bound.step_of_retired retired).leftAlone left
    · rw [if_pos isExec]
      refine ((bound.toIsSetFor.step awaits).leftAlone left).excusedHere ?_
      rwa [left.pc, samePc]

/-- At the target a fetch is accepted only if the run began there and it is the first one. -/
theorem IsBound.first_of_acceptsFetch
    (bound : IsBound start target past session)
    (here : session.pc = target)
    (accepted : session.acceptsFetch) :
    start = target ∧ ∀ earlier ∈ past, earlier.machine.cpu.isFetching = false := by
  subst target
  exact bound.excuse (Session.excused_of_acceptsFetch bound.audible accepted bound.awaits.hasEntry)

end OnTheWay

/-! ## The whole run -/

/-- What a run to an address keeps of its stations. -/
structure Arrives
    (origin : Session)
    (target : UInt16)
    (past : List Session)
    (stretch : Stretch) : Prop where
  bound : stretch.course = .goesOn → IsBound origin.pc target past stretch.session
  spared : ∀ station ∈ origin :: past, station.SparesPermanent stretch.session
  quiet : ∀ station ∈ past, playedRuns .go station = []
  arrived :
    ∀ before station later,
      past = before ++ station :: later →
        station.machine.cpu.isFetching →
          station.pc = target →
            (origin.pc = target ∧
              ∀ earlier ∈ before, earlier.machine.cpu.isFetching = false) ∨
              station.acceptsFetch = false ∧
                later = [] ∧ stretch.course ≠ .goesOn ∧ stretch.session.pc = target

end Run

/-- An operation that places a breakpoint and does not fail has placed it. -/
theorem Operation.placeBreakpoint_ok
    {kind : BreakKind}
    {location : Location}
    {session after : Session}
    (came : (placeBreakpoint kind location).run session = (.ok (), after)) :
    session.placeBreakpoint kind location = .ok after := by
  rw [placeBreakpoint, run_bind, run_get] at came
  cases placed : session.placeBreakpoint kind location with
  | error error =>
      simp only [placed] at came
      cases came
  | ok placedSession =>
      simp only [placed] at came
      change requireHistory.run placedSession = _ at came
      rw [requireHistory_run] at came
      cases lacks : placedSession.monitor.lacksHistory with
      | true =>
          rw [lacks] at came
          cases came
      | false =>
          rw [lacks] at came
          cases came
          rfl

namespace RunCommand

variable {session : Session} {text : String} {target : UInt16}

/-- A run to an address is entered with a breakpoint there, and excuses the fetch where it begins. -/
theorem enter_isBound
    {prepared : Session}
    (left : session.LeavesAlone prepared)
    (isSet : Run.IsSetFor target prepared) :
    Run.IsBound session.pc target [] (Run.enter (Run.clearError prepared)) := by
  have samePc : (Run.clearError prepared).pc = session.pc :=
    (Run.clearError_sameProgram prepared).pc_eq.trans left.pc
  have breakpoints :
      (Run.enter (Run.clearError prepared)).monitor.sentry.breakpoints =
        prepared.monitor.sentry.breakpoints.excuse session.pc := by
    rw [Run.enter_breakpoints, Run.clearError_sentry, samePc]
  exact
    { idle := by
        rw [Run.enter_pending?, Run.clearError_sentry]
        exact isSet.idle
      audible := by
        rw [breakpoints]
        exact isSet.audible
      unobtrusive := by
        simpa [breakpoints, Breakpoints.AreUnobtrusive] using isSet.unobtrusive
      awaits := by
        rw [breakpoints]
        exact isSet.awaits
      excuse := by
        rw [breakpoints]
        intro excused
        exact ⟨Option.some.inj excused, fun earlier member => absurd member List.not_mem_nil⟩ }

theorem isSetFor_of_leavesAlone
    {prepared : Session}
    (left : session.LeavesAlone prepared)
    (unobtrusive : session.monitor.sentry.breakpoints.AreUnobtrusive)
    (audible : session.monitor.sentry.breakpoints.isMuted = false)
    (idle : session.monitor.sentry.pending? = none)
    (awaits : prepared.monitor.sentry.breakpoints.AwaitsFetch target) :
    Run.IsSetFor target prepared where
  idle := left.pending?.trans idle
  audible := by
    rw [Breakpoints.isMuted, left.muting]
    exact audible
  unobtrusive := left.unobtrusive unobtrusive
  awaits := awaits

end RunCommand

namespace Session

end Session

end Monitor8080
