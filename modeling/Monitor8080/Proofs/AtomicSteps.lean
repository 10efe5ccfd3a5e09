import Monitor8080.Proofs.ControlTransfers
import Monitor8080.Proofs.HistoryGating
namespace Monitor8080

/-!
# Steps execute something or change nothing

A step that retires lets cycles pass, whatever it executes. A step that does
not retire was refused or failed. It leaves the machine as it was, but for the
phase of the engine, and nothing of it is recorded. Where it reached a temporary
breakpoint, the history may no longer be wanted afterwards.
-/

/-! ## Cycles -/

namespace Instruction

theorem cycles_pos (instruction : Instruction) : 0 < instruction.cycles := by
  unfold cycles
  split <;> exact Nat.succ_pos _

/-- An instruction leaves it to the step to count its cycles. -/
theorem executed_cycles
    (instruction : Instruction)
    (cpu : Cpu)
    (memory : Memory) :
    (instruction.executed cpu memory).cpu.cycles = cpu.cycles := by
  cases instruction with
  | loadWordImmediate register | incrementWord register | decrementWord register
  | addToHL register =>
      cases register <;> rfl
  | push register | pop register =>
      cases register <;> rfl
  | increment operand | decrement operand | arithmetic op operand | loadImmediate operand =>
      cases operand <;> rfl
  | move destination source =>
      cases destination <;> cases source <;> rfl
  | storeIndirect pointer | loadIndirect pointer =>
      cases pointer <;> rfl
  | jumpIf condition =>
      rw [executed_jumpIf]
      split <;> rfl
  | callIf condition =>
      rw [executed_callIf]
      split <;> rfl
  | returnIf condition =>
      rw [executed_returnIf]
      split <;> rfl
  | _ =>
      rfl

end Instruction

/-- A step that is made lasts some cycles, which are counted. -/
theorem Core.step_cycles
    {core : Core Memory}
    {count : Nat}
    (stepped : (Core.step core).1 = .ok count) :
    (Core.step core).2.cpu.cycles = core.cpu.cycles + count ∧ 0 < count := by
  obtain ⟨cpu, memory⟩ := core
  by_cases poweredOff : cpu.phase = .poweredOff
  · rw [step_of_poweredOff poweredOff] at stepped
    cases stepped
  · cases delivered : cpu.deliverable? with
    | some vector =>
        rw [step_of_deliverable poweredOff delivered] at stepped ⊢
        cases stepped
        exact ⟨rfl, by decide⟩
    | none =>
        cases halted : cpu.halted with
        | true =>
            rw [step_of_halted poweredOff delivered halted] at stepped ⊢
            cases stepped
            exact ⟨rfl, by decide⟩
        | false =>
            have fetching := Cpu.isFetching_iff.mpr ⟨poweredOff, delivered, halted⟩
            rw [step_of_isFetching fetching] at stepped ⊢
            cases mapped : memory.fetch? cpu.pc with
            | none =>
                simp only [Bus.fetch, mapped] at stepped
                cases stepped
            | some opcode =>
                simp only [Bus.fetch, mapped] at stepped ⊢
                cases stepped
                have counted :=
                  (Instruction.ofOpcode opcode).executed_cycles cpu memory
                refine ⟨?_, Nat.add_pos_left (Instruction.cycles_pos _) _⟩
                exact congrArg (· + _) counted

namespace Session

variable {session : Session}

/-! ## Steps that do not retire -/

/-- A step that does not retire fetched nothing that was recorded. -/
theorem fetched?_of_not_isRetired
    (idle : session.monitor.sentry.pending? = none)
    (unretired : session.step.1.isRetired = false) :
    session.fetched? = none := by
  rcases session.step_cases with ⟨hit, refused⟩ | ⟨error, failed⟩ | ⟨passed, count, executed⟩
  · exact fetched?_of_refused refused
  · rcases Core.step_error_cases failed with ⟨poweredOff, -⟩ | ⟨-, unmapped, -⟩
    · apply fetched?_of_not_isFetching
      simp [Cpu.isFetching, Cpu.isPowered, show session.machine.cpu.phase = _ from poweredOff]
    · apply fetched?_of_unchecked
      simp [checksFetch, show session.machine.memory.fetch? session.pc = none from unmapped]
  · rw [(step_prompted_of_executed passed executed idle).1] at unretired
    cases unretired

/-- What the monitor concludes changes the machine only by the error phase. -/
theorem conclude_machine
    (session : Session)
    (outcome : Except StepError Nat) :
    (session.conclude outcome).2.machine =
      if (session.conclude outcome).1.isFault then session.machine.setPhase .error
      else session.machine := by
  unfold conclude
  cases outcome with
  | ok count =>
      cases session.monitor.sentry.pending? <;> rfl
  | error error =>
      cases error <;> rfl

/-- Nothing is unwatched after a step that does not retire: no watch is needed for a fetch. -/
theorem releaseTemporary_machine
    (session : Session)
    {result : StepEnd}
    (unretired : result.isRetired = false) :
    (session.releaseTemporary result).machine = session.machine := by
  cases result with
  | cycles count =>
      rfl
  | fault error =>
      rfl
  | «break» reason =>
      cases reason with
      | port direction number byte =>
          rfl
      | hit reached =>
          cases reached with
          | countdown address =>
              rfl
          | entry kind location consumed =>
              cases kind with
              | exec =>
                  unfold releaseTemporary
                  simp only
                  split <;> rfl
              | read =>
                  cases unretired
              | write =>
                  cases unretired

/-- A step that does not retire leaves the machine as it was, but for the error phase of a fault. -/
theorem step_machine_of_not_isRetired
    (idle : session.monitor.sentry.pending? = none)
    (unretired : session.step.1.isRetired = false) :
    session.step.2.machine =
      if session.step.1.isFault then session.machine.setPhase .error else session.machine := by
  have unmoved : session.execute.2.machine = session.machine := by
    rcases session.step_cases with ⟨hit, refused⟩ | ⟨error, failed⟩ | ⟨passed, count, executed⟩
    · rw [execute_of_refused refused]
      rfl
    · rw [execute_of_failed failed]
    · rw [(step_prompted_of_executed passed executed idle).1] at unretired
      cases unretired
  rw [step_eq] at unretired ⊢
  rw [releaseTemporary_machine _ unretired, concluded, conclude_machine, flush_machine, unmoved]

/-- A temporary breakpoint that a step reached was waited for, so the history was wanted. -/
theorem wantsHistory_of_releases
    (idle : session.monitor.sentry.pending? = none)
    (releases : session.step.1.releasesTemporary) :
    session.monitor.wantsHistory := by
  have reached :
      ∃ kind location consumed, session.step.1 = .break (.hit (.entry kind location consumed)) := by
    revert releases
    unfold StepEnd.releasesTemporary
    split
    · rename_i kind location consumed ended
      exact fun _ => ⟨kind, location, consumed, ended⟩
    · nofun
  obtain ⟨kind, location, consumed, ended⟩ := reached
  have member : location ∈ session.monitor.sentry.breakpoints.entries kind := step_names idle ended
  simp [Monitor.wantsHistory, Breakpoints.isWaiting, Breakpoints.isEmpty_of_mem member]

/-- Where the history is recorded exactly if it is to be, releasing a breakpoint starts no new one. -/
theorem Gated.settle_cases
    {capacity : Nat}
    {stale : Bool}
    (gated : session.Gated capacity stale)
    (wanted : session.monitor.wantsHistory)
    (isWanted : Bool) :
    session.monitor.sentry.history.settle isWanted = session.monitor.sentry.history ∨
      session.monitor.sentry.history.settle isWanted =
        { session.monitor.sentry.history with ring? := none } := by
  cases isWanted with
  | false =>
      rcases session.monitor.sentry.history.enable_cases false with ⟨same, -⟩ | ⟨-, released⟩
      · exact .inl same
      · exact .inr released
  | true =>
      left
      have recorded := gated.isOn
      rw [wanted, Bool.true_or, Bool.and_true] at recorded
      unfold History.settle
      split
      · rfl
      · rename_i roomy
        have isOn : session.monitor.sentry.history.isOn = true := by
          rw [recorded]
          simpa using roomy
        rw [← isOn]
        exact History.enable_isOn _

/-- A step that executed nothing, by what it left as it was and what it may have changed. -/
structure StepsInVain (session : Session) : Prop where
  machine :
    session.step.2.machine =
      if session.step.1.isFault then session.machine.setPhase .error else session.machine
  checksum :
    session.step.2.monitor.sentry.checksum = session.monitor.sentry.checksum
  history :
    session.step.2.monitor.sentry.history = session.monitor.sentry.history ∨
      session.step.1.releasesTemporary ∧
        session.step.2.monitor.sentry.history =
          { session.monitor.sentry.history with ring? := none }
  breakpoints :
    session.step.1.isFault →
      session.step.2.monitor.sentry.breakpoints = session.monitor.sentry.breakpoints

/-- A step that does not retire executes nothing, in whatever state the history is kept. -/
theorem Gated.stepsInVain
    {capacity : Nat}
    {stale : Bool}
    (gated : session.Gated capacity stale)
    (tidy : session.monitor.sentry.Tidy)
    (unretired : session.step.1.isRetired = false) :
    session.StepsInVain := by
  have unrecorded := fetched?_of_not_isRetired tidy.idle unretired
  refine
    { machine := step_machine_of_not_isRetired tidy.idle unretired
      checksum := ?_
      history := ?_
      breakpoints := ?_ }
  · rw [step_checksum, unrecorded]
    change { session.monitor.sentry.checksum with isDue := false } = _
    rw [← tidy.shown]
  · have recorded := session.step_history
    rw [unrecorded] at recorded
    simp only [History.recordIf] at recorded
    cases releases : session.step.1.releasesTemporary with
    | false =>
        rw [releases] at recorded
        exact .inl recorded
    | true =>
        rw [releases] at recorded
        rw [recorded]
        have wanted := wantsHistory_of_releases tidy.idle releases
        rcases gated.settle_cases wanted session.step.2.monitor.wantsHistory with same | released
        · exact .inl same
        · exact .inr ⟨rfl, released⟩
  · intro faulted
    rcases session.step_cases with ⟨hit, refused⟩ | ⟨error, failed⟩ | ⟨passed, count, executed⟩
    · rw [step_fst_of_refused refused] at faulted
      cases faulted
    · exact step_breakpoints_of_failed failed
    · rw [(step_prompted_of_executed passed executed tidy.idle).1] at unretired
      cases unretired

/-- A step that retires lets cycles pass. -/
theorem cycles_of_isRetired (retired : session.step.1.isRetired) :
    session.machine.cpu.cycles < session.step.2.machine.cpu.cycles := by
  obtain ⟨count, stepped, sameCpu, -⟩ := step_of_isRetired retired
  obtain ⟨counted, positive⟩ := Core.step_cycles stepped
  rw [sameCpu, counted]
  exact Nat.lt_add_of_pos_right positive

theorem StepsInVain.cycles (inVain : session.StepsInVain) :
    session.step.2.machine.cpu.cycles = session.machine.cpu.cycles := by
  rw [inVain.machine]
  split <;> rfl

end Session

/--
After whatever operators and hosts do, and at each step of it, a step retires
exactly if it lets cycles pass. A step that does not retire leaves the machine
and what is recorded as they were, but for the error phase of a fault and for a
history that a temporary breakpoint releases; a fault leaves the breakpoints too.
-/
theorem steps_retire_or_execute_nothing (config : Config) (machine : Machine) :
    (∀ dealings,
      ∃ entries,
        Annals (.fresh config machine) entries ((Session.fresh config machine).dealAll dealings)) ∧
      ∀ entries session,
        Annals (.fresh config machine) entries session →
          (session.step.1.isRetired ↔
              session.machine.cpu.cycles < session.step.2.machine.cpu.cycles) ∧
            (session.step.1.isRetired = false → session.StepsInVain) := by
  refine ⟨fun dealings => Session.dealAll_endures _ dealings, fun entries session annals => ?_⟩
  have fresh := Session.fresh_tidy config machine
  have gated := Session.Gated.annals annals fresh (.fresh config machine)
  have vain : session.step.1.isRetired = false → session.StepsInVain :=
    gated.stepsInVain (annals.tidy fresh)
  refine ⟨⟨Session.cycles_of_isRetired, fun passed => ?_⟩, vain⟩
  cases retired : session.step.1.isRetired with
  | true =>
      rfl
  | false =>
      rw [(vain retired).cycles] at passed
      exact absurd passed (Nat.lt_irrefl _)

/-- A step that a temporary breakpoint refuses releases the history, and executes nothing. -/
theorem refused_step_releases_history :
    let session :=
      ((Session.fresh .default .initial).dealAll
        [.call (.place .exec (.temporary 1)), .call (.request .step)])
    session.monitor.sentry.history.isOn = true ∧
      session.step.1.isRetired = false ∧
      session.step.2.monitor.sentry.history.isOn = false ∧
      session.step.2.machine.cpu.cycles = 4 ∧
      session.StepsInVain := by
  intro session
  obtain ⟨told, atomic⟩ := steps_retire_or_execute_nothing .default .initial
  obtain ⟨entries, annals⟩ :=
    told [.call (.place .exec (.temporary 1)), .call (.request .step)]
  have unretired : session.step.1.isRetired = false := by
    decide +kernel
  refine ⟨by decide +kernel, unretired, by decide +kernel, by decide +kernel, ?_⟩
  exact (atomic entries session annals).2 unretired

end Monitor8080
