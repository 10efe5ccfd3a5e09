import Monitor8080.Proofs.ScriptFree
namespace Monitor8080

/-!
# Execution breakpoints are neither missed nor invented

A run excuses the fetch at the address where it begins, and every fetch that is
checked uses the excuse up. So a run without scripts fetches an opcode where an
execution breakpoint is only at its very beginning, and it stops at one without
executing what is there.
-/

namespace Breakpoints

variable {breakpoints : Breakpoints} {address : UInt16}

/-- A fetch that passes uses the excuse up, and is excused if an entry is there. -/
theorem hitByExecution_passed
    (audible : breakpoints.isMuted = false)
    (passed : (breakpoints.hitByExecution address).1 = none) :
    (breakpoints.hitByExecution address).2.excused? = none ∧
      (breakpoints.HasEntry .exec address → breakpoints.excused? = some address) := by
  have running : breakpoints.countdown? ≠ some 0 := by
    intro expired
    rw [hitByExecution_of_expired audible expired] at passed
    cases passed
  rw [hitByExecution_of_running audible running] at passed ⊢
  split
  · rename_i excused
    exact ⟨rfl, fun _ => excused⟩
  · rename_i unexcused
    rw [if_neg unexcused] at passed
    have free : ¬ breakpoints.counted.HasEntry .exec address := by
      rw [← hitWithin_isSome_iff, passed]
      exact Bool.false_ne_true
    rw [hitWithin_of_not_hasEntry free]
    exact ⟨rfl, fun occupied => absurd occupied free⟩

end Breakpoints

namespace Session

/-- Whether a step fetches an opcode that nothing refuses. -/
def acceptsFetch (session : Session) : Bool :=
  session.machine.cpu.isFetching && session.step.1.isRetired

/-- There is an execution breakpoint at the program counter. -/
def AtBreakpoint (session : Session) : Prop :=
  session.monitor.sentry.breakpoints.HasEntry .exec session.pc

variable {session : Session}

/-- A step that retired passed the check of its fetch. -/
theorem fetchCheck_of_isRetired (retired : session.step.1.isRetired) :
    session.fetchCheck.1 = none := by
  cases checked : session.fetchCheck.1 with
  | none =>
      rfl
  | some hit =>
      rw [not_isRetired_of_refused checked] at retired
      cases retired

/-- An opcode is fetched only where memory is mapped. -/
theorem mapped_of_acceptsFetch (accepted : session.acceptsFetch) :
    (session.machine.memory.fetch? session.pc).isSome := by
  obtain ⟨fetching, retired⟩ := Bool.and_eq_true_iff.mp accepted
  obtain ⟨count, stepped, -⟩ := step_of_isRetired retired
  cases mapped : session.machine.memory.fetch? session.pc with
  | some opcode =>
      rfl
  | none =>
      rw [core, Core.step_of_isFetching fetching] at stepped
      simp only [Bus.fetch, show session.machine.cpu.pc = session.pc from rfl, mapped] at stepped
      cases stepped

/-- A fetch that is accepted was checked, if anything is. -/
theorem checksFetch_of_acceptsFetch
    (accepted : session.acceptsFetch)
    (needed : session.monitor.sentry.isNeeded session.machine.memory) :
    session.checksFetch := by
  obtain ⟨opcode, mapped⟩ := Option.isSome_iff_exists.mp (mapped_of_acceptsFetch accepted)
  obtain ⟨fetching, -⟩ := Bool.and_eq_true_iff.mp accepted
  exact checksFetch_iff.mpr ⟨needed, fetching, opcode, mapped⟩

section Accepted

variable
  (audible : session.monitor.sentry.breakpoints.isMuted = false)
  (accepted : session.acceptsFetch)

include audible accepted

/-- An opcode is fetched at an execution breakpoint only if the fetch is excused. -/
theorem excused_of_acceptsFetch (atBreakpoint : session.AtBreakpoint) :
    session.monitor.sentry.breakpoints.excused? = some session.pc := by
  have retired := (Bool.and_eq_true_iff.mp accepted).2
  have checked := checksFetch_of_acceptsFetch accepted (isNeeded_of_hasEntry atBreakpoint)
  have passed := fetchCheck_of_isRetired retired
  rw [fetchCheck, if_pos checked] at passed
  exact (Breakpoints.hitByExecution_passed audible passed).2 atBreakpoint

/-- After a fetch that is accepted nothing is excused, or there are no execution breakpoints. -/
theorem step_excused_of_acceptsFetch :
    session.step.2.monitor.sentry.breakpoints.excused? = none ∨
      session.step.2.monitor.sentry.breakpoints.exec = [] := by
  have retired := (Bool.and_eq_true_iff.mp accepted).2
  have passed := fetchCheck_of_isRetired retired
  by_cases needed : session.monitor.sentry.isNeeded session.machine.memory
  · left
    have checked := checksFetch_of_acceptsFetch accepted needed
    have sameExcuse :=
      congrArg Breakpoints.excused? (step_forFetches_of_passed passed)
    change session.step.2.monitor.sentry.breakpoints.excused? = _ at sameExcuse
    rw [sameExcuse]
    rw [fetchCheck, if_pos checked] at passed ⊢
    exact (Breakpoints.hitByExecution_passed audible passed).1
  · right
    have noEntries : session.monitor.sentry.breakpoints.exec = [] := by
      cases empty : session.monitor.sentry.breakpoints.isEmpty with
      | true =>
          exact Breakpoints.entries_of_isEmpty empty .exec
      | false =>
          simp [Sentry.isNeeded, Breakpoints.isWaiting, empty] at needed
    have fewer := session.entries_step_sublist .exec
    exact List.sublist_nil.mp (noEntries ▸ fewer)

end Accepted

/-- A step that fetches nothing and retires excuses what was excused. -/
theorem step_excused_of_not_isFetching
    (unfetched : session.machine.cpu.isFetching = false)
    (retired : session.step.1.isRetired) :
    session.step.2.monitor.sentry.breakpoints.excused? =
      session.monitor.sentry.breakpoints.excused? := by
  have sameExcuse :=
    congrArg Breakpoints.excused?
      (step_forFetches_of_passed (fetchCheck_of_isRetired retired))
  have unchecked : session.checksFetch = false := by
    simp [checksFetch, unfetched]
  rw [fetchCheck, unchecked] at sameExcuse
  exact sameExcuse

end Session

namespace Run

/-- While a run that began at an address goes on, its first fetch at most is excused. -/
def ExcusesBeginning
    (start : UInt16)
    (past : List Session)
    (session : Session) : Prop :=
  session.monitor.sentry.breakpoints.excused? = none ∨
    session.monitor.sentry.breakpoints.exec = [] ∨
    session.monitor.sentry.breakpoints.excused? = some start ∧
      ∀ earlier ∈ past, earlier.machine.cpu.isFetching = false

/-- A step that retires uses the excuse up if it fetches an opcode, and else keeps it. -/
theorem ExcusesBeginning.step
    {start : UInt16}
    {past : List Session}
    {session : Session}
    (excuses : ExcusesBeginning start past session)
    (audible : session.monitor.sentry.breakpoints.isMuted = false)
    (retired : session.step.1.isRetired) :
    ExcusesBeginning start (past ++ [session]) session.step.2 := by
  cases fetching : session.machine.cpu.isFetching with
  | true =>
      have accepted : session.acceptsFetch :=
        Bool.and_eq_true_iff.mpr ⟨fetching, retired⟩
      rcases Session.step_excused_of_acceptsFetch audible accepted with usedUp | noEntries
      · exact .inl usedUp
      · exact .inr (.inl noEntries)
  | false =>
      have sameExcuse := Session.step_excused_of_not_isFetching fetching retired
      rcases excuses with nothing | noEntries | ⟨beginning, unfetched⟩
      · exact .inl (sameExcuse.trans nothing)
      · have fewer := session.entries_step_sublist .exec
        exact .inr (.inl (List.sublist_nil.mp (noEntries ▸ fewer)))
      · refine .inr (.inr ⟨sameExcuse.trans beginning, ?_⟩)
        intro earlier member
        rcases List.mem_append.mp member with before | here
        · exact unfetched earlier before
        · rw [List.mem_singleton.mp here]
          exact fetching

end Run

end Monitor8080
