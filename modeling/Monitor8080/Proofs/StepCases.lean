import Monitor8080.Proofs.GuardedStep
namespace Monitor8080

/-!
# How a step under the monitor ends

A step is refused by the check of its fetch, fails as it would on bare memory,
or executes what it would execute on bare memory. Only in the last case does
the program go on.
-/

namespace Session

variable {session : Session}

/-! ## Refused steps -/

section Refused

variable {hit : Hit} (refused : session.fetchCheck.1 = some hit)

include refused

theorem step_fst_of_refused : session.step.1 = .break (.hit hit) := by
  rw [step_fst, execute_of_refused refused]
  rfl

theorem step_core_of_refused : session.step.2.core.Alike session.core := by
  have sameCpu := session.step_cpu
  have alike := session.step_memory_alike
  rw [step_fst_of_refused refused, execute_of_refused refused] at sameCpu
  rw [execute_of_refused refused] at alike
  exact ⟨congrArg (·.inPhase .ready) sameCpu, alike⟩

theorem step_breakpoints_of_refused :
    session.step.2.monitor.sentry.breakpoints = session.fetchCheck.2 := by
  rw [step_breakpoints, execute_of_refused refused]
  rfl

/-- A check stops a fetch for the countdown, or for an execution breakpoint at the program counter. -/
theorem refused_names :
    hit = .countdown session.pc ∨
      ∃ location consumed,
        hit = .entry .exec location consumed ∧
          location ∈ session.monitor.sentry.breakpoints.exec ∧
          location.address? = some session.pc := by
  unfold fetchCheck at refused
  split at refused
  · exact Breakpoints.hitByExecution_names refused
  · cases refused

/-- A refused step has executed nothing. -/
theorem not_isRetired_of_refused : session.step.1.isRetired = false := by
  rw [step_fst_of_refused refused]
  rcases refused_names refused with rfl | ⟨location, consumed, rfl, -⟩ <;> rfl

end Refused

/-! ## Failing steps -/

section Failed

variable {error : StepError} (failed : (Core.step session.core).1 = .error error)

include failed

/-- A step that fails changes nothing at the processor. -/
theorem execute_of_failed : session.execute = (.error error, session) := by
  have bare : Core.step session.core = (.error error, session.core) := by
    rcases Core.step_error_cases failed with
      ⟨poweredOff, rfl⟩ | ⟨fetching, unmapped, rfl⟩
    · exact Core.step_of_poweredOff poweredOff
    · have nothing : session.machine.memory.fetch? session.pc = none := unmapped
      refine (Core.step_of_isFetching fetching).trans ?_
      simp only [Bus.fetch, core, show session.machine.cpu.pc = session.pc from rfl, nothing]
  have guarded : Core.step session.guardedCore = (.error error, session.guardedCore) := by
    rcases Core.step_error_cases failed with
      ⟨poweredOff, rfl⟩ | ⟨fetching, unmapped, rfl⟩
    · exact Core.step_of_poweredOff poweredOff
    · have nothing : session.machine.memory.fetch? session.pc = none := unmapped
      refine (Core.step_of_isFetching fetching).trans ?_
      rw [core, show session.machine.cpu.pc = session.pc from rfl,
        Guarded.fetch_of_unmapped nothing]
      rfl
  unfold execute
  split
  · rw [executeGuarded_eq, guarded]
    rfl
  · rw [executeBare_eq, bare]
    rfl

theorem step_fst_of_failed : session.step.1 = .fault error := by
  rw [step_fst, execute_of_failed failed]
  rcases Core.step_error_cases failed with ⟨-, rfl⟩ | ⟨-, -, rfl⟩ <;> rfl

/-- A step that fails leaves the core as it was, but for the engine phase. -/
theorem step_core_of_failed : session.step.2.core.Alike session.core := by
  have sameCpu := session.step_cpu
  have alike := session.step_memory_alike
  rw [step_fst_of_failed failed, execute_of_failed failed] at sameCpu
  rw [execute_of_failed failed] at alike
  exact ⟨congrArg (·.inPhase .ready) sameCpu, alike⟩

theorem step_breakpoints_of_failed :
    session.step.2.monitor.sentry.breakpoints = session.monitor.sentry.breakpoints := by
  rw [step_breakpoints, execute_of_failed failed]

end Failed

/-! ## Steps that execute something -/

section Executed

variable
  (passed : session.fetchCheck.1 = none)
  {count : Nat}
  (executed : (Core.step session.core).1 = .ok count)

include passed executed

/-- A step that executes something ends with its cycles, or with the reason that it left pending. -/
theorem step_fst_of_executed :
    session.step.1 = StepEnd.ofOutcome session.execute.2.monitor.sentry.pending? (.ok count) := by
  rw [step_fst, (execute_of_passed passed).1, executed]

/-- A step that executes something leads to where it leads on bare memory. -/
theorem step_core_of_executed :
    session.step.2.machine.cpu = (Core.step session.core).2.cpu ∧
      session.step.2.machine.memory.Alike (Core.step session.core).2.bus := by
  obtain ⟨-, sameCpu, alike⟩ := execute_of_passed passed
  have noFault : session.step.1.isFault = false := by
    rw [step_fst_of_executed passed executed]
    cases session.execute.2.monitor.sentry.pending? <;> rfl
  constructor
  · rw [step_cpu, noFault]
    exact sameCpu
  · exact session.step_memory_alike.trans alike

omit executed in
/-- A step that nothing refuses changes what is checked for fetches as its own check does. -/
theorem step_forFetches_of_passed :
    session.step.2.monitor.sentry.breakpoints.forFetches = session.fetchCheck.2.forFetches := by
  rw [step_breakpoints]
  exact (execute_descendsFrom passed).forFetches

/--
What ends a step that executes something comes after the instruction and names
an entry, which is gone if it was temporary.
-/
theorem step_prompted_of_executed (idle : session.monitor.sentry.pending? = none) :
    session.step.1.isRetired ∧
      ∀ reason,
        session.step.1 = .break reason →
          reason.NamesEntryOf session.monitor.sentry.breakpoints ∧
            reason.IsReleasedFrom session.step.2.monitor.sentry.breakpoints := by
  rw [step_fst_of_executed passed executed, step_breakpoints]
  cases pending : session.execute.2.monitor.sentry.pending? with
  | none =>
      refine ⟨rfl, ?_⟩
      rintro reason ⟨⟩
  | some reason =>
      obtain ⟨retired, named, released⟩ := execute_isPromptedBy passed idle reason pending
      refine ⟨retired, ?_⟩
      rintro reason ⟨⟩
      exact ⟨named.mono fun kind => (entries_fetchCheck_sublist kind).subset, released⟩

end Executed

/-! ## Any step -/

/-- A step that is not refused executes what it would execute on bare memory, or fails like it. -/
theorem step_cases (session : Session) :
    (∃ hit, session.fetchCheck.1 = some hit) ∨
      (∃ error, (Core.step session.core).1 = .error error) ∨
      session.fetchCheck.1 = none ∧ ∃ count, (Core.step session.core).1 = .ok count := by
  cases checked : session.fetchCheck.1 with
  | some hit =>
      exact .inl ⟨hit, rfl⟩
  | none =>
      cases stepped : (Core.step session.core).1 with
      | error error =>
          exact .inr (.inl ⟨error, rfl⟩)
      | ok count =>
          exact .inr (.inr ⟨rfl, count, rfl⟩)

/-- A step that retired did what it does on bare memory. -/
theorem step_of_isRetired (retired : session.step.1.isRetired) :
    ∃ count,
      (Core.step session.core).1 = .ok count ∧
        session.step.2.machine.cpu = (Core.step session.core).2.cpu ∧
        session.step.2.machine.memory.Alike (Core.step session.core).2.bus := by
  rcases session.step_cases with ⟨hit, refused⟩ | ⟨error, failed⟩ | ⟨passed, count, executed⟩
  · rw [not_isRetired_of_refused refused] at retired
    cases retired
  · rw [step_fst_of_failed failed] at retired
    cases retired
  · exact ⟨count, executed, step_core_of_executed passed executed⟩

/-- Between steps nothing is pending, and a step that did not retire has executed nothing. -/
theorem step_core_of_not_isRetired
    (idle : session.monitor.sentry.pending? = none)
    (unretired : session.step.1.isRetired = false) :
    session.step.2.core.Alike session.core := by
  rcases session.step_cases with ⟨hit, refused⟩ | ⟨error, failed⟩ | ⟨passed, count, executed⟩
  · exact step_core_of_refused refused
  · exact step_core_of_failed failed
  · rw [(step_prompted_of_executed passed executed idle).1] at unretired
    cases unretired

theorem step_idle (idle : session.monitor.sentry.pending? = none) :
    session.step.2.monitor.sentry.pending? = none := by
  rw [step_pending?]
  split
  · rename_i faulted
    rcases session.step_cases with ⟨hit, refused⟩ | ⟨error, failed⟩ | ⟨passed, count, executed⟩
    · rw [step_fst_of_refused refused] at faulted
      cases faulted
    · rw [execute_of_failed failed]
      exact idle
    · rw [step_fst_of_executed passed executed] at faulted
      cases pending : session.execute.2.monitor.sentry.pending? with
      | none =>
          rfl
      | some reason =>
          rw [pending] at faulted
          cases faulted
  · rfl

/-- The reason that a step ends with names an entry there was before. -/
theorem step_names
    (idle : session.monitor.sentry.pending? = none)
    {reason : Stop}
    (ended : session.step.1 = .break reason) :
    reason.NamesEntryOf session.monitor.sentry.breakpoints := by
  rcases session.step_cases with ⟨hit, refused⟩ | ⟨error, failed⟩ | ⟨passed, count, executed⟩
  · rw [step_fst_of_refused refused] at ended
    cases ended
    rcases refused_names refused with rfl | ⟨location, consumed, rfl, member, -⟩
    · trivial
    · exact member
  · rw [step_fst_of_failed failed] at ended
    cases ended
  · exact ((step_prompted_of_executed passed executed idle).2 reason ended).1

/-- A step neither mutes the breakpoints nor ends their muting. -/
@[simp] theorem step_muting :
    session.step.2.monitor.sentry.breakpoints.muting =
      session.monitor.sentry.breakpoints.muting := by
  rcases session.step_cases with ⟨hit, refused⟩ | ⟨error, failed⟩ | ⟨passed, count, executed⟩
  · rw [step_breakpoints_of_refused refused, fetchCheck_muting]
  · rw [step_breakpoints_of_failed failed]
  · have sameMuting := congrArg Breakpoints.muting (step_forFetches_of_passed passed)
    exact Eq.trans sameMuting fetchCheck_muting

theorem entries_step_sublist (kind : BreakKind) :
    (session.step.2.monitor.sentry.breakpoints.entries kind).Sublist
      (session.monitor.sentry.breakpoints.entries kind) := by
  rcases session.step_cases with ⟨hit, refused⟩ | ⟨error, failed⟩ | ⟨passed, count, executed⟩
  · rw [step_breakpoints_of_refused refused]
    exact entries_fetchCheck_sublist kind
  · simp only [step_breakpoints_of_failed failed, List.Sublist.refl]
  · rw [step_breakpoints]
    exact ((execute_descendsFrom passed).fewer kind).trans (entries_fetchCheck_sublist kind)

end Session

end Monitor8080
