import Monitor8080.Proofs.DecodedFlow
import Monitor8080.Proofs.Transparency
namespace Monitor8080

/-!
# Calls that were not returned from

A program is followed step by step, with the calls that it made and has not
returned from, the latest first. In a balanced program each return goes through
the word that the latest of these calls pushed, which it finds where the call
left it. So when the outermost call has been returned from, control is behind
it and the stack pointer is where it was before.
-/

/-- A call that is not made leaves the stack pointer alone. -/
theorem Instruction.stackPointer_of_not_isTaken
    {instruction : Instruction}
    {cpu : Cpu}
    (memory : Memory)
    (calls : instruction.isCall)
    (notTaken : instruction.isTaken cpu.flags = false) :
    instruction.stackPointer cpu memory = cpu.sp := by
  cases instruction with
  | callIf condition =>
      have fails : condition.holds cpu.flags = false := notTaken
      rw [stackPointer, fails]
      rfl
  | call | restart vector =>
      cases notTaken
  | _ =>
      cases calls

/-- A call that was made: the stack pointer before it, and the address that it pushed. -/
structure PendingCall where
  stackPointer : UInt16
  returnAddress : UInt16
  deriving Repr, DecidableEq

namespace Core

/-- The instruction that the next step executes, if it executes one. -/
def upcoming? (core : Core Memory) : Option Instruction :=
  if core.cpu.isFetching then (core.bus.fetch? core.cpu.pc).map .ofOpcode else none

/-- The call that the next step makes. -/
def callMade? (core : Core Memory) : Option PendingCall :=
  (core.upcoming?.filter fun instruction =>
      instruction.isCall && instruction.isTaken core.cpu.flags).map fun instruction =>
    ⟨core.cpu.sp, core.cpu.pc + UInt16.ofNat instruction.length⟩

/-- Whether the next step returns from a call. -/
def returns (core : Core Memory) : Bool :=
  core.upcoming?.any fun instruction =>
    instruction.isReturn && instruction.isTaken core.cpu.flags

/-- The calls that are pending after the next step, the latest first. -/
def pendingAfter (core : Core Memory) (pending : List PendingCall) : List PendingCall :=
  match core.callMade? with
  | some call => call :: pending
  | none => if core.returns then pending.tail else pending

/-- The calls made in a number of steps that were not returned from, the latest first. -/
def pendingCalls (core : Core Memory) : Nat → List PendingCall
  | 0 => []
  | count + 1 => (core.afterSteps count).pendingAfter (core.pendingCalls count)

/-- A return finds on top of the stack the word that the latest pending call pushed. -/
def ReturnsThrough (core : Core Memory) (pending : List PendingCall) : Prop :=
  core.returns →
    ∀ call ∈ pending.head?,
      core.cpu.sp = call.stackPointer - 2 ∧
        core.bus.readWord core.cpu.sp = call.returnAddress

instance (core : Core Memory) (pending : List PendingCall) :
    Decidable (core.ReturnsThrough pending) :=
  inferInstanceAs <| Decidable <|
    core.returns →
      ∀ call ∈ pending.head?,
        core.cpu.sp = call.stackPointer - 2 ∧
          core.bus.readWord core.cpu.sp = call.returnAddress

/-- In a number of steps each return goes through the word that its own call pushed. -/
def IsBalanced (core : Core Memory) (steps : Nat) : Prop :=
  ∀ count < steps, (core.afterSteps count).ReturnsThrough (core.pendingCalls count)

instance (core : Core Memory) (steps : Nat) : Decidable (core.IsBalanced steps) :=
  inferInstanceAs <| Decidable <|
    ∀ count < steps, (core.afterSteps count).ReturnsThrough (core.pendingCalls count)

section Steps

variable {core : Core Memory}

theorem upcoming?_eq_some_iff
    {instruction : Instruction} :
    core.upcoming? = some instruction ↔
      core.cpu.isFetching ∧
        ∃ opcode, core.bus.fetch? core.cpu.pc = some opcode ∧ .ofOpcode opcode = instruction := by
  rw [upcoming?]
  split
  · rename_i fetching
    simp only [Option.map_eq_some_iff, fetching, true_and]
  · rename_i unfetching
    simp [unfetching]

theorem callMade?_eq_some_iff
    {call : PendingCall} :
    core.callMade? = some call ↔
      ∃ instruction,
        core.upcoming? = some instruction ∧
          instruction.isCall ∧
          instruction.isTaken core.cpu.flags ∧
          call = ⟨core.cpu.sp, core.cpu.pc + UInt16.ofNat instruction.length⟩ := by
  simp only [callMade?, Option.map_eq_some_iff, Option.filter_eq_some_iff, Bool.and_eq_true]
  constructor
  · rintro ⟨instruction, ⟨upcoming, calls, taken⟩, rfl⟩
    exact ⟨instruction, upcoming, calls, taken, rfl⟩
  · rintro ⟨instruction, upcoming, calls, taken, rfl⟩
    exact ⟨instruction, ⟨upcoming, calls, taken⟩, rfl⟩

theorem returns_iff :
    core.returns ↔
      ∃ instruction,
        core.upcoming? = some instruction ∧
          instruction.isReturn ∧ instruction.isTaken core.cpu.flags := by
  rw [returns]
  cases core.upcoming? with
  | none => simp
  | some instruction => simp

/-- A return goes where the latest pending call left the address to return to. -/
theorem ReturnsThrough.step
    {call : PendingCall}
    {pending : List PendingCall}
    (balanced : core.ReturnsThrough (call :: pending))
    (returns : core.returns) :
    core.step.2.cpu.pc = call.returnAddress ∧ core.step.2.cpu.sp = call.stackPointer := by
  obtain ⟨sp, word⟩ := balanced returns call rfl
  obtain ⟨instruction, upcoming, isReturn, taken⟩ := returns_iff.mp returns
  obtain ⟨fetching, opcode, mapped, rfl⟩ := upcoming?_eq_some_iff.mp upcoming
  obtain ⟨popped, raised⟩ := popsPC_of_isReturn fetching mapped isReturn taken
  rw [popped, raised, word, sp]
  exact ⟨rfl, UInt16.sub_add_cancel _ _⟩

/-- Calls and returns do not halt the processor, whether they are made or not. -/
theorem awake_step
    {instruction : Instruction}
    (upcoming : core.upcoming? = some instruction)
    (transfers : instruction.isCall ∨ instruction.isReturn) :
    core.step.2.cpu.halted = false := by
  obtain ⟨fetching, opcode, mapped, rfl⟩ := upcoming?_eq_some_iff.mp upcoming
  obtain ⟨count, stepped⟩ := step_of_fetch? fetching mapped
  have awake := (Cpu.isFetching_iff.mp fetching).2.2
  have kept :
      ((Instruction.ofOpcode opcode).executed core.cpu core.bus).cpu.halted =
        core.cpu.halted := by
    generalize Instruction.ofOpcode opcode = instruction at transfers
    cases instruction with
    | callIf condition =>
        rw [Instruction.executed_callIf]
        split <;> rfl
    | returnIf condition =>
        rw [Instruction.executed_returnIf]
        split <;> rfl
    | call | restart _ | ret =>
        rfl
    | _ =>
        rcases transfers with isCall | isReturn
        · cases isCall
        · cases isReturn
  rw [stepped]
  exact kept.trans awake

end Steps

/-! ## Where a call with all that it calls leads to -/

/--
What a program comes to that makes a call with its first step: the call is the
earliest one pending, or none is pending and control is behind the call, with
the stack pointer where it was.
-/
inductive Reaches
    (outermost : PendingCall)
    (core : Core Memory)
    (pending : List PendingCall) : Prop where
  | inside (isEarliest : pending.getLast? = some outermost)
  | behind
      (nonePending : pending = [])
      (pc : core.cpu.pc = outermost.returnAddress)
      (sp : core.cpu.sp = outermost.stackPointer)
      (awake : core.cpu.halted = false)

section Reaching

variable {core : Core Memory} {instruction : Instruction}

/-- A call is entered, or passed if its condition does not hold. -/
theorem reaches_of_isCall
    (upcoming : core.upcoming? = some instruction)
    (calls : instruction.isCall) :
    Reaches ⟨core.cpu.sp, core.cpu.pc + UInt16.ofNat instruction.length⟩ core.step.2
      (core.pendingAfter []) := by
  cases taken : instruction.isTaken core.cpu.flags with
  | true =>
      have made := callMade?_eq_some_iff.mpr ⟨instruction, upcoming, calls, taken, rfl⟩
      rw [pendingAfter, made]
      exact .inside rfl
  | false =>
      have awake := awake_step upcoming (.inl calls)
      have notMade : core.callMade? = none := by
        rw [Option.eq_none_iff_forall_ne_some]
        intro call made
        obtain ⟨other, upcomingToo, -, takenToo, -⟩ := callMade?_eq_some_iff.mp made
        obtain rfl := Option.some.inj (upcoming.symm.trans upcomingToo)
        rw [taken] at takenToo
        cases takenToo
      have noneMade : core.pendingAfter [] = [] := by
        rw [pendingAfter, notMade]
        exact ite_self []
      obtain ⟨fetching, opcode, mapped, rfl⟩ := upcoming?_eq_some_iff.mp upcoming
      obtain ⟨count, stepped⟩ := step_of_fetch? fetching mapped
      have pc := Instruction.executed_pc (.ofOpcode opcode) core.cpu core.bus
      have sp := Instruction.executed_sp (.ofOpcode opcode) core.cpu core.bus
      rw [taken] at pc
      rw [Instruction.stackPointer_of_not_isTaken core.bus calls taken] at sp
      exact .behind noneMade (by rw [stepped]; exact pc) (by rw [stepped]; exact sp) awake

/-- While calls are pending, a step leaves the outermost one pending or comes behind it. -/
theorem Reaches.step
    {outermost : PendingCall}
    {pending : List PendingCall}
    (isEarliest : pending.getLast? = some outermost)
    (balanced : core.ReturnsThrough pending) :
    Reaches outermost core.step.2 (core.pendingAfter pending) := by
  rw [pendingAfter]
  cases made : core.callMade? with
  | some call =>
      refine .inside ?_
      rw [List.getLast?_cons, isEarliest]
      rfl
  | none =>
      simp only
      split
      · rename_i returns
        match pending with
        | [latest] =>
            obtain rfl := Option.some.inj isEarliest
            obtain ⟨pc, sp⟩ := balanced.step returns
            obtain ⟨instruction, upcoming, isReturn, -⟩ := returns_iff.mp returns
            exact .behind rfl pc sp (awake_step upcoming (.inr isReturn))
        | latest :: next :: rest =>
            rw [List.getLast?_cons_cons] at isEarliest
            exact .inside isEarliest
      · exact .inside isEarliest

/--
For a number of steps, all of which are made, a program is balanced, takes no
interrupt and fetches nothing at an address.
-/
structure IsUnderWay (core : Core Memory) (target : UInt16) (steps : Nat) : Prop where
  balanced : core.IsBalanced steps
  undisturbed : ∀ count < steps, (core.afterSteps count).cpu.deliverable? = none
  made : ∀ count < steps, ∃ cycles, (core.afterSteps count).step.1 = .ok cycles
  elsewhere :
    ∀ count < steps,
      (core.afterSteps count).cpu.isFetching → (core.afterSteps count).cpu.pc ≠ target

/-- What a program comes to that makes a call with its first step and fetches nothing behind it. -/
theorem IsUnderWay.reaches
    {steps count : Nat}
    (upcoming : core.upcoming? = some instruction)
    (calls : instruction.isCall)
    (underWay : core.IsUnderWay (core.cpu.pc + UInt16.ofNat instruction.length) steps)
    (within : count + 1 ≤ steps) :
    Reaches ⟨core.cpu.sp, core.cpu.pc + UInt16.ofNat instruction.length⟩
      (core.afterSteps (count + 1)) (core.pendingCalls (count + 1)) := by
  induction count with
  | zero =>
      exact reaches_of_isCall upcoming calls
  | succ count inductionHypothesis =>
      rw [afterSteps, pendingCalls]
      cases inductionHypothesis (by omega) with
      | inside isEarliest =>
          exact .step isEarliest (underWay.balanced (count + 1) within)
      | behind nonePending pc sp awake =>
          -- Behind the call the next opcode would have been fetched there.
          have powered := (Cpu.isFetching_iff.mp (upcoming?_eq_some_iff.mp upcoming).1).1
          have fetching : (core.afterSteps (count + 1)).cpu.isFetching :=
            Cpu.isFetching_iff.mpr
              ⟨by rwa [afterSteps_phase], underWay.undisturbed (count + 1) within, awake⟩
          exact absurd pc (underWay.elsewhere (count + 1) within fetching)

/-! ## A processor at rest -/

/-- The processor is without power or halted, and no interrupt wakes it. -/
structure IsResting (core : Core Memory) : Prop where
  undisturbed : core.cpu.deliverable? = none
  unfetching : core.cpu.isFetching = false

/-- At rest a step passes the time and does nothing else. -/
theorem IsResting.step
    (resting : core.IsResting) :
    core.step.2.IsResting ∧ core.step.2.cpu.pc = core.cpu.pc := by
  obtain ⟨undisturbed, unfetching⟩ := resting
  obtain ⟨cpu, memory⟩ := core
  by_cases poweredOff : cpu.phase = .poweredOff
  · rw [step_of_poweredOff poweredOff]
    exact ⟨⟨undisturbed, unfetching⟩, rfl⟩
  · cases halted : cpu.halted with
    | true =>
        rw [step_of_halted poweredOff undisturbed halted]
        exact ⟨⟨undisturbed, unfetching⟩, rfl⟩
    | false =>
        have fetching : cpu.isFetching :=
          Cpu.isFetching_iff.mpr ⟨poweredOff, undisturbed, halted⟩
        exact absurd (unfetching.symm.trans fetching) Bool.false_ne_true

/-- At rest no call is made and none is returned from. -/
theorem IsResting.pendingAfter
    (resting : core.IsResting)
    (pending : List PendingCall) :
    core.returns = false ∧ core.pendingAfter pending = pending := by
  have nothing : core.upcoming? = none := by
    rw [upcoming?, resting.unfetching]
    rfl
  have noReturn : core.returns = false := by
    rw [returns, nothing]
    rfl
  refine ⟨noReturn, ?_⟩
  rw [Core.pendingAfter, callMade?, nothing, noReturn]
  rfl

/-- A processor at rest stays where it is, with the same calls pending. -/
theorem IsResting.afterSteps
    {count : Nat}
    (resting : (core.afterSteps count).IsResting)
    (more : Nat) :
    (core.afterSteps (count + more)).IsResting ∧
      (core.afterSteps (count + more)).cpu.pc = (core.afterSteps count).cpu.pc ∧
      core.pendingCalls (count + more) = core.pendingCalls count := by
  induction more with
  | zero =>
      exact ⟨resting, rfl, rfl⟩
  | succ more inductionHypothesis =>
      obtain ⟨stillResting, samePc, samePending⟩ := inductionHypothesis
      obtain ⟨restsOn, stays⟩ := stillResting.step
      rw [← Nat.add_assoc, Core.afterSteps, pendingCalls,
        (stillResting.pendingAfter _).2]
      exact ⟨restsOn, stays.trans samePc, samePending⟩

/-- Where it is not at rest, the processor fetches if no interrupt comes first. -/
theorem isFetching_or_isResting
    (undisturbed : core.cpu.deliverable? = none) :
    core.cpu.isFetching ∨ core.IsResting := by
  cases fetching : core.cpu.isFetching with
  | true =>
      exact .inl rfl
  | false =>
      exact .inr ⟨undisturbed, fetching⟩

/-! ## Arriving behind a call -/

theorem length_decode
    (memory : Memory)
    (address : UInt16)
    (dialect : Dialect) :
    (decode memory address dialect none).length =
      (decode memory address dialect none).instruction.length :=
  Memory.length_bytesFrom ..

/-- No call ends where it starts. -/
theorem next_ne_of_isCall
    {memory : Memory}
    {address : UInt16}
    {dialect : Dialect}
    (isCall : (decode memory address dialect none).isCall) :
    (decode memory address dialect none).next ≠ address := by
  intro same
  rw [Decoded.next, length_decode] at same
  rw [Decoded.isCall] at isCall
  generalize (decode memory address dialect none).instruction = instruction at isCall same
  have nothing : UInt16.ofNat instruction.length = 0 :=
    (UInt16.add_right_inj address).mp (same.trans (UInt16.add_zero address).symm)
  cases instruction with
  | call | callIf condition =>
      have noBytes : (3 : UInt16) = 0 := nothing
      exact absurd noBytes (by decide)
  | restart vector =>
      have noByte : (1 : UInt16) = 0 := nothing
      exact absurd noByte (by decide)
  | _ =>
      cases isCall

/-- A step that fetches an opcode and is made executes an instruction. -/
theorem upcoming?_of_made
    {cycles : Nat}
    (fetching : core.cpu.isFetching)
    (made : core.step.1 = .ok cycles)
    (dialect : Dialect) :
    core.upcoming? = some (decode core.bus core.cpu.pc dialect none).instruction := by
  cases mapped : core.bus.fetch? core.cpu.pc with
  | some opcode =>
      rw [(decode_of_fetch? mapped dialect none).1]
      exact upcoming?_eq_some_iff.mpr ⟨fetching, opcode, mapped, rfl⟩
  | none =>
      obtain ⟨cpu, memory⟩ := core
      have unmapped : memory.fetch? cpu.pc = none := mapped
      rw [step_of_isFetching fetching] at made
      simp only [Bus.fetch, unmapped] at made
      cases made

/-- A program that has gone elsewhere was about to fetch, unless an interrupt came first. -/
theorem isFetching_of_pc_ne
    {steps : Nat}
    (undisturbed : core.cpu.deliverable? = none)
    (moved : (core.afterSteps steps).cpu.pc ≠ core.cpu.pc) :
    core.cpu.isFetching := by
  rcases isFetching_or_isResting undisturbed with fetching | resting
  · exact fetching
  · have atRest : (core.afterSteps 0).IsResting := resting
    have stays := (atRest.afterSteps steps).2.1
    rw [Nat.zero_add] at stays
    exact absurd stays moved

/-- Calls that are pending when control comes to the address that is not fetched at stay pending. -/
theorem IsUnderWay.stillPending
    {target : UInt16}
    {steps count : Nat}
    (underWay : core.IsUnderWay target steps)
    (within : count ≤ steps)
    (pending : core.pendingCalls count ≠ [])
    (here : (core.afterSteps count).cpu.pc = target) :
    core.pendingCalls steps ≠ [] := by
  rcases Nat.eq_or_lt_of_le within with rfl | before
  · exact pending
  · rcases isFetching_or_isResting (underWay.undisturbed count before) with fetching | resting
    · exact absurd here (underWay.elsewhere count before fetching)
    · have samePending := (resting.afterSteps (steps - count)).2.2
      rw [Nat.add_sub_cancel' within] at samePending
      rwa [samePending]

/--
A program that makes a call with its first step, and fetches nothing behind it
before a last step, has returned from the call when it arrives there exactly if
it was not there while the call was pending. If it has, the stack pointer is
where it was before the call.
-/
theorem returned_iff
    {dialect : Dialect}
    {steps : Nat}
    (isCall : (decode core.bus core.cpu.pc dialect none).isCall)
    (underWay : core.IsUnderWay (decode core.bus core.cpu.pc dialect none).next steps)
    (arrived :
      (core.afterSteps steps).cpu.pc = (decode core.bus core.cpu.pc dialect none).next) :
    core.pendingCalls steps = [] ∧ (core.afterSteps steps).cpu.sp = core.cpu.sp ↔
      ∀ count ≤ steps,
        core.pendingCalls count ≠ [] →
          (core.afterSteps count).cpu.pc ≠ (decode core.bus core.cpu.pc dialect none).next := by
  constructor
  · rintro ⟨nonePending, -⟩ count within pending here
    exact underWay.stillPending within pending here nonePending
  · intro notInside
    have moved : (core.afterSteps steps).cpu.pc ≠ core.cpu.pc :=
      arrived ▸ next_ne_of_isCall isCall
    obtain ⟨last, rfl⟩ : ∃ last, steps = last + 1 := by
      cases steps with
      | zero => exact absurd rfl moved
      | succ last => exact ⟨last, rfl⟩
    have fetching : core.cpu.isFetching :=
      isFetching_of_pc_ne (underWay.undisturbed 0 (Nat.succ_pos last)) moved
    obtain ⟨cycles, made⟩ := underWay.made 0 (Nat.succ_pos last)
    have upcoming : core.upcoming? = some (decode core.bus core.cpu.pc dialect none).instruction :=
      upcoming?_of_made fetching made dialect
    rw [Decoded.next, length_decode] at underWay arrived notInside
    cases underWay.reaches upcoming isCall (Nat.le_refl _) with
    | inside isEarliest =>
        have pending : core.pendingCalls (last + 1) ≠ [] := by
          intro nonePending
          rw [nonePending] at isEarliest
          cases isEarliest
        exact absurd arrived (notInside (last + 1) (Nat.le_refl _) pending)
    | behind nonePending pc sp awake =>
        exact ⟨nonePending, sp⟩

end Reaching

end Core

end Monitor8080
