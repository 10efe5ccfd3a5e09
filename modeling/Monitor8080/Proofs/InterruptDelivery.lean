import Monitor8080.Proofs.Transparency
namespace Monitor8080

/-!
# Delivery of interrupts

A request for an interrupt waits until a step finds interrupts enabled, whatever
the steps before it do. That step takes it instead of executing an instruction,
and no later step takes it again.
-/

/-! ## Steps -/

/-- What no instruction has a way to: the request for an interrupt, and the speed. -/
def Cpu.latent (cpu : Cpu) : Option (Fin 8) × Nat :=
  (cpu.pendingInterrupt, cpu.speed)

namespace Instruction

open Exec

variable {σ : Type} [Bus σ]

theorem execute_latent
    (instruction : Instruction)
    (core : Core σ) :
    (instruction.execute core).2.cpu.latent = core.cpu.latent := by
  cases instruction with
  | loadWordImmediate register | incrementWord register | decrementWord register
  | addToHL register =>
      cases register <;> rfl
  | push register | pop register =>
      cases register <;> rfl
  | increment operand | decrement operand | arithmetic op operand | loadImmediate operand =>
      cases operand <;> rfl
  | move destination source =>
      cases destination <;> cases source <;> rfl
  | storeIndirect pointer | loadIndirect pointer =>
      cases pointer <;> rfl
  | jumpIf condition =>
      change
        ((if condition.holds core.cpu.flags then do
            jumpTo (nextWord core).1
            return 0
          else
            return 0 : Exec σ Nat) (nextWord core).2).2.cpu.latent = _
      split <;> rfl
  | callIf condition =>
      change
        ((if condition.holds core.cpu.flags then do
            pushWord (← ofCpu Cpu.pc)
            jumpTo (nextWord core).1
            return takenCycles
          else
            return 0 : Exec σ Nat) (nextWord core).2).2.cpu.latent = _
      split <;> rfl
  | returnIf condition =>
      change
        ((if condition.holds core.cpu.flags then do
            jumpTo (← popWord)
            return takenCycles
          else
            return 0 : Exec σ Nat) core).2.cpu.latent = _
      split <;> rfl
  | _ =>
      rfl

end Instruction

namespace Core

variable {σ : Type} [Bus σ]

/--
The core after an interrupt: the program counter is on the stack and the restart
address in its place, interrupts are disabled, and a halt is over.
-/
def interrupted (core : Core σ) (number : Fin 8) : Core σ :=
  let top := core.cpu.sp - 2
  { cpu :=
      { core.cpu with
        pc := UInt16.ofNat (8 * number.val)
        sp := top
        interruptsEnabled := false
        halted := false
        pendingInterrupt := none
        cycles := core.cpu.cycles + 11 }
    bus :=
      Bus.write (Bus.write core.bus top (lowByte core.cpu.pc)) (top + 1) (highByte core.cpu.pc) }

/--
A step without regard to interrupts: a halted processor passes the time, and
another one executes the instruction that it fetches, if it can be fetched.
-/
def proceed (core : Core σ) : Except StepError Nat × Core σ :=
  if core.cpu.halted then
    (.ok haltCycles, ⟨core.cpu.tick haltCycles, core.bus⟩)
  else
    match Bus.fetch core.bus core.cpu.pc with
    | (.opcode opcode, bus) => executeOpcode opcode core.cpu bus
    | (.unmapped, bus) => (.error (.unmappedFetch core.cpu.pc), ⟨core.cpu, bus⟩)
    | (.refused, bus) => (.error (.refusedFetch core.cpu.pc), ⟨core.cpu, bus⟩)

section Step

variable {core : Core σ} (powered : core.cpu.isPowered)

include powered

theorem step_of_pending
    {number : Fin 8}
    (enabled : core.cpu.interruptsEnabled = true)
    (pending : core.cpu.pendingInterrupt = some number) :
    core.step = (.ok 11, core.interrupted number) := by
  obtain ⟨cpu, bus⟩ := core
  have deliverable : cpu.deliverable? = some number := by
    rw [Cpu.deliverable?, if_pos enabled, pending]
  rw [step_of_deliverable (of_decide_eq_true powered) deliverable]
  rfl

theorem step_eq_proceed (undisturbed : core.cpu.deliverable? = none) :
    core.step = core.proceed := by
  obtain ⟨cpu, bus⟩ := core
  have powered : cpu.phase ≠ .poweredOff := of_decide_eq_true powered
  cases halted : cpu.halted with
  | true =>
      rw [step_of_halted powered undisturbed halted, proceed, if_pos halted]
  | false =>
      have awake : ¬cpu.halted = true := by
        rw [halted]
        exact Bool.false_ne_true
      rw [step_of_isFetching (Cpu.isFetching_iff.mpr ⟨powered, undisturbed, halted⟩), proceed]
      exact (if_neg awake).symm

omit powered in
theorem proceed_latent : core.proceed.2.cpu.latent = core.cpu.latent := by
  rw [proceed]
  split
  · rfl
  · split
    · exact Instruction.execute_latent ..
    · rfl
    · rfl

omit powered in
theorem proceed_pendingInterrupt :
    core.proceed.2.cpu.pendingInterrupt = core.cpu.pendingInterrupt :=
  congrArg Prod.fst proceed_latent

/-- A step with interrupts enabled leaves no request behind, and another one leaves it as it is. -/
theorem step_pendingInterrupt :
    core.step.2.cpu.pendingInterrupt =
      if core.cpu.interruptsEnabled then none else core.cpu.pendingInterrupt := by
  cases enabled : core.cpu.interruptsEnabled with
  | false =>
      have undisturbed : core.cpu.deliverable? = none := by
        simp [Cpu.deliverable?, enabled]
      rw [step_eq_proceed powered undisturbed, proceed_pendingInterrupt]
      rfl
  | true =>
      cases pending : core.cpu.pendingInterrupt with
      | some number =>
          rw [step_of_pending powered enabled pending]
          rfl
      | none =>
          have undisturbed : core.cpu.deliverable? = none := by
            simp [Cpu.deliverable?, pending]
          rw [step_eq_proceed powered undisturbed, proceed_pendingInterrupt, pending]
          rfl

omit powered in
theorem step_speed : core.step.2.cpu.speed = core.cpu.speed := by
  by_cases powered : core.cpu.isPowered
  · cases pending : core.cpu.deliverable? with
    | some number =>
        obtain ⟨cpu, bus⟩ := core
        rw [step_of_deliverable (of_decide_eq_true powered) pending]
        rfl
    | none =>
        rw [step_eq_proceed powered pending]
        exact congrArg Prod.snd proceed_latent
  · obtain ⟨cpu, bus⟩ := core
    have poweredOff : cpu.phase = .poweredOff := by
      simpa [Cpu.isPowered] using powered
    rw [step_of_poweredOff poweredOff]

end Step

end Core

/-! ## Runs -/

/--
What may become of a processor between two steps: registers, flags and all else
may be set, but no interrupt is requested or taken back, and the power stays.
-/
structure Cpu.KeepsRequest (before after : Cpu) : Prop where
  pendingInterrupt : after.pendingInterrupt = before.pendingInterrupt
  isPowered : after.isPowered = before.isPowered

namespace Core

variable {σ : Type} [Bus σ]

/-- The cores that the steps of a run find, one after the other, with no request between the steps. -/
def IsRun (run : Nat → Core σ) : Prop :=
  ∀ count, (run count).step.2.cpu.KeepsRequest (run (count + 1)).cpu

/-- Steps with nothing between them make a run. -/
theorem isRun_of_steps
    {run : Nat → Core σ}
    (steps : ∀ count, run (count + 1) = (run count).step.2) :
    IsRun run := by
  intro count
  rw [steps]
  exact ⟨rfl, rfl⟩

/-- The step is the first one that finds interrupts enabled. -/
structure IsFirstEnabled (run : Nat → Core σ) (count : Nat) : Prop where
  enabled : (run count).cpu.interruptsEnabled = true
  disabledBefore : ∀ earlier < count, (run earlier).cpu.interruptsEnabled = false

section Run

variable
  {run : Nat → Core σ}
  (goesOn : IsRun run)
  (powered : (run 0).cpu.isPowered)

include goesOn powered

theorem IsRun.isPowered (count : Nat) : (run count).cpu.isPowered := by
  induction count with
  | zero =>
      exact powered
  | succ count inductionHypothesis =>
      rw [(goesOn count).isPowered, Cpu.isPowered, step_phase]
      exact inductionHypothesis

theorem IsRun.pendingInterrupt_succ (count : Nat) :
    (run (count + 1)).cpu.pendingInterrupt =
      if (run count).cpu.interruptsEnabled then none
      else (run count).cpu.pendingInterrupt := by
  rw [(goesOn count).pendingInterrupt, step_pendingInterrupt (goesOn.isPowered powered count)]

/-- The request waits as long as interrupts are disabled. -/
theorem IsRun.pendingInterrupt_of_disabled
    {count : Nat}
    (disabled : ∀ earlier < count, (run earlier).cpu.interruptsEnabled = false) :
    (run count).cpu.pendingInterrupt = (run 0).cpu.pendingInterrupt := by
  induction count with
  | zero =>
      rfl
  | succ count inductionHypothesis =>
      rw [goesOn.pendingInterrupt_succ powered, disabled count (Nat.lt_succ_self count)]
      exact inductionHypothesis fun earlier before =>
        disabled earlier (Nat.lt_succ_of_lt before)

/-- After a step with interrupts enabled no request is left. -/
theorem IsRun.pendingInterrupt_of_enabled
    {count later : Nat}
    (enabled : (run count).cpu.interruptsEnabled = true)
    (after : count < later) :
    (run later).cpu.pendingInterrupt = none := by
  obtain ⟨more, rfl⟩ := Nat.exists_eq_add_of_lt after
  clear after
  induction more with
  | zero =>
      rw [Nat.add_zero, goesOn.pendingInterrupt_succ powered, enabled]
      rfl
  | succ more inductionHypothesis =>
      rw [← Nat.add_assoc, goesOn.pendingInterrupt_succ powered, inductionHypothesis, ite_self]

/-- Only the first step that finds interrupts enabled finds a request that it can take. -/
theorem IsRun.deliverable?_eq_none
    {count : Nat}
    (notFirst : ¬IsFirstEnabled run count) :
    (run count).cpu.deliverable? = none := by
  rw [Cpu.deliverable?]
  split
  · rename_i enabled
    by_cases before : ∃ earlier < count, (run earlier).cpu.interruptsEnabled = true
    · obtain ⟨earlier, before, enabledBefore⟩ := before
      exact goesOn.pendingInterrupt_of_enabled powered enabledBefore before
    · refine absurd ⟨enabled, fun earlier earlierThan => ?_⟩ notFirst
      exact Bool.eq_false_iff.mpr fun enabledBefore =>
        before ⟨earlier, earlierThan, enabledBefore⟩
  · rfl

end Run

/--
A request for an interrupt is delivered exactly once along a run. It waits as
long as the steps find interrupts disabled, whatever they execute. The first
step that finds them enabled takes it and does nothing else, and it is gone from
then on. Every other step goes by the program alone.
-/
theorem interrupt_is_delivered_exactly_once
    {cpu : Cpu}
    {vector : UInt8}
    {run : Nat → Core σ}
    (powered : cpu.isPowered)
    (requested : (run 0).cpu = cpu.requestInterrupt vector)
    (goesOn : IsRun run) :
    (∀ count,
      (∀ earlier < count, (run earlier).cpu.interruptsEnabled = false) →
        (run count).cpu.pendingInterrupt = some (Fin.ofNat 8 vector.toNat)) ∧
      (∀ count,
        IsFirstEnabled run count →
          (run count).step = (.ok 11, (run count).interrupted (Fin.ofNat 8 vector.toNat)) ∧
            ∀ later, count < later → (run later).cpu.pendingInterrupt = none) ∧
      ∀ count, ¬IsFirstEnabled run count → (run count).step = (run count).proceed := by
  have poweredFirst : (run 0).cpu.isPowered := by
    rw [requested]
    exact powered
  have pendingFirst :
      (run 0).cpu.pendingInterrupt = some (Fin.ofNat 8 vector.toNat) := by
    rw [requested]
    rfl
  refine ⟨?_, ?_, ?_⟩
  · intro count disabled
    rw [goesOn.pendingInterrupt_of_disabled poweredFirst disabled, pendingFirst]
  · intro count first
    have pending := goesOn.pendingInterrupt_of_disabled poweredFirst first.disabledBefore
    rw [pendingFirst] at pending
    refine ⟨step_of_pending (goesOn.isPowered poweredFirst count) first.enabled pending, ?_⟩
    exact fun later after => goesOn.pendingInterrupt_of_enabled poweredFirst first.enabled after
  · intro count notFirst
    exact
      step_eq_proceed (goesOn.isPowered poweredFirst count)
        (goesOn.deliverable?_eq_none poweredFirst notFirst)

end Core

/-- A core with the request for a restart, about to enable interrupts. -/
def Core.enabling : Core Memory :=
  ⟨{ Cpu.initial with sp := 0x0100 }.requestInterrupt 0x0D, Memory.empty.setByte 0 0xFB⟩

/-- The step after the one that enables interrupts takes the request, of which the low three bits count. -/
theorem request_is_taken_after_enabling :
    (Core.enabling.afterSteps 1).cpu.pendingInterrupt = some 5 ∧
      (Core.enabling.afterSteps 1).step = (.ok 11, (Core.enabling.afterSteps 1).interrupted 5) ∧
      (Core.enabling.afterSteps 2).cpu.pc = 0x28 ∧
      (Core.enabling.afterSteps 2).bus.byte 0x00FE = 0x01 ∧
      ∀ later, 1 < later → (Core.enabling.afterSteps later).cpu.pendingInterrupt = none := by
  have disabledBefore :
      ∀ earlier < 1, (Core.enabling.afterSteps earlier).cpu.interruptsEnabled = false := by
    intro earlier before
    rw [Nat.lt_one_iff.mp before]
    rfl
  have first : Core.IsFirstEnabled Core.enabling.afterSteps 1 :=
    ⟨by decide +kernel, disabledBefore⟩
  have powered : { Cpu.initial with sp := 0x0100 }.isPowered := by
    decide
  have requested :
      (Core.enabling.afterSteps 0).cpu =
        { Cpu.initial with sp := 0x0100 }.requestInterrupt 0x0D :=
    rfl
  have goesOn : Core.IsRun Core.enabling.afterSteps :=
    Core.isRun_of_steps fun _ => rfl
  obtain ⟨waits, taken, -⟩ :=
    Core.interrupt_is_delivered_exactly_once powered requested goesOn
  exact
    ⟨waits 1 disabledBefore, (taken 1 first).1, by decide +kernel, by decide +kernel,
      (taken 1 first).2⟩

end Monitor8080
