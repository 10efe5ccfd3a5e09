import Mathlib.Data.Nat.Digits.Defs
import Mathlib.Tactic.LinearCombination
import Mathlib.Tactic.Ring
import Monitor8080.Disassembly.Decode
import Monitor8080.Processor.Step
namespace Monitor8080

/-!
# Arithmetic on numbers of several bytes

A number of several bytes is added or subtracted byte by byte from the least
significant end, where each operation takes the carry that the one before it
left. One equation tells what such a chain comes to. The result and the last
carry are read off it, since the result has no more bytes than the numbers.
-/

/-! ## Chains -/

/--
Operations one after the other, each on two bytes and the carry that the one
before it left. A link tells what an operation makes of a carry and two bytes: a
byte and the next carry.
-/
inductive CarryChain (link : Bool → UInt8 → UInt8 → UInt8 → Bool → Prop) :
    Bool → List UInt8 → List UInt8 → List UInt8 → Bool → Prop where
  | nil (carry : Bool) : CarryChain link carry [] [] [] carry
  | cons
      {carry next last : Bool}
      {left right result : UInt8}
      {lefts rights results : List UInt8}
      (first : link carry left right result next)
      (rest : CarryChain link next lefts rights results last) :
      CarryChain link carry (left :: lefts) (right :: rights) (result :: results) last

namespace CarryChain

variable
  {link : Bool → UInt8 → UInt8 → UInt8 → Bool → Prop}
  {carry last : Bool}
  {lefts rights results : List UInt8}

theorem length_eq (chain : CarryChain link carry lefts rights results last) :
    rights.length = lefts.length ∧ results.length = lefts.length := by
  induction chain with
  | nil carry =>
      exact ⟨rfl, rfl⟩
  | cons first rest inductionHypothesis =>
      simp only [List.length_cons, inductionHypothesis, and_self]

/-- A chain read from its results. -/
theorem swap (chain : CarryChain link carry lefts rights results last) :
    CarryChain (fun carry result right left next => link carry left right result next) carry
      results rights lefts last := by
  induction chain with
  | nil carry =>
      exact .nil carry
  | cons first rest inductionHypothesis =>
      exact .cons first inductionHypothesis

/-- Any two numbers of as many bytes can be put through a chain where any two bytes can be linked. -/
theorem exists_of_forall_link
    (links : ∀ carry left right, ∃ result next, link carry left right result next)
    (carry : Bool)
    (sameLength : rights.length = lefts.length) :
    ∃ results last, CarryChain link carry lefts rights results last := by
  induction lefts generalizing carry rights with
  | nil =>
      cases List.eq_nil_of_length_eq_zero sameLength
      exact ⟨[], carry, .nil carry⟩
  | cons left lefts inductionHypothesis =>
      obtain ⟨right, others, rfl⟩ := List.exists_cons_of_length_eq_add_one sameLength
      obtain ⟨result, next, first⟩ := links carry left right
      obtain ⟨results, last, rest⟩ := inductionHypothesis next (Nat.succ.inj sameLength)
      exact ⟨result :: results, last, .cons first rest⟩

/-- Where every link adds digits with a carry, the chain adds numbers with a carry. -/
theorem ofDigits_add
    {base : Nat}
    {digit : UInt8 → Nat}
    (adds :
      ∀ {carry left right result next},
        link carry left right result next →
          digit result + base * next.toNat = digit left + digit right + carry.toNat)
    (chain : CarryChain link carry lefts rights results last) :
    Nat.ofDigits base (results.map digit) + base ^ results.length * last.toNat =
      Nat.ofDigits base (lefts.map digit) + Nat.ofDigits base (rights.map digit) +
        carry.toNat := by
  induction chain with
  | nil carry =>
      simp
  | @cons carry next last left right result lefts rights results first rest inductionHypothesis =>
      have added := adds first
      simp only [List.map_cons, Nat.ofDigits_cons, List.length_cons, Nat.pow_succ]
      calc
        digit result + base * Nat.ofDigits base (results.map digit) +
              base ^ results.length * base * last.toNat =
            digit result +
              base *
                (Nat.ofDigits base (results.map digit) + base ^ results.length * last.toNat) := by
          ring
        _ = digit result + base * next.toNat +
              base *
                (Nat.ofDigits base (lefts.map digit) +
                  Nat.ofDigits base (rights.map digit)) := by
          rw [inductionHypothesis]
          ring
        _ = digit left + base * Nat.ofDigits base (lefts.map digit) +
              (digit right + base * Nat.ofDigits base (rights.map digit)) + carry.toNat := by
          rw [added]
          ring

end CarryChain

/-- A value with a carry worth its bound is what the total leaves over, and the carry tells of the rest. -/
theorem remainder_and_carry
    {value bound total : Nat}
    {carry : Bool}
    (below : value < bound)
    (added : value + bound * carry.toNat = total) :
    value = total % bound ∧ (carry = true ↔ bound ≤ total) := by
  refine ⟨?_, ?_⟩
  · rw [← added, Nat.add_mul_mod_self_left, Nat.mod_eq_of_lt below]
  · rw [← added]
    cases carry with
    | true =>
        simp
    | false =>
        simpa using below

/-! ## Bytes -/

namespace Alu

/-- The carry out of a sum is worth as much as the result lacks. -/
theorem sum_value (left right : UInt8) (carry : Bool) :
    (sum left right carry).1.toNat + 256 * (sum left right carry).2.carry.toNat =
      left.toNat + right.toNat + carry.toNat := by
  have leftBound := left.toNat_lt
  have rightBound := right.toNat_lt
  have carryBound := carry.toNat_le
  simp only [sum, Flags.withResult, UInt8.toNat_ofNat']
  by_cases exceeds : 255 < left.toNat + right.toNat + carry.toNat
  · simp only [exceeds, decide_true, Bool.toNat_true]
    omega
  · simp only [exceeds, decide_false, Bool.toNat_false]
    omega

/-- The borrow of a difference is worth as much as the result has too much. -/
theorem difference_value (left right : UInt8) (borrow : Bool) :
    (difference left right borrow).1.toNat + right.toNat + borrow.toNat =
      left.toNat + 256 * (difference left right borrow).2.carry.toNat := by
  have leftBound := left.toNat_lt
  have rightBound := right.toNat_lt
  have borrowBound := borrow.toNat_le
  have borrowed : borrow.toUInt8.toNat = borrow.toNat := by
    cases borrow <;> rfl
  simp only [difference, Flags.withResult, UInt8.toNat_sub, borrowed]
  by_cases lacks : left.toNat < right.toNat + borrow.toNat
  · simp only [lacks, decide_true, Bool.toNat_true]
    omega
  · simp only [lacks, decide_false, Bool.toNat_false]
    omega

end Alu

/-! ## Numbers -/

theorem littleEndian_eq_ofDigits (bytes : List UInt8) :
    littleEndian bytes = Nat.ofDigits 256 (bytes.map UInt8.toNat) := by
  induction bytes with
  | nil =>
      rfl
  | cons byte bytes inductionHypothesis =>
      rw [littleEndian, List.map_cons, Nat.ofDigits_cons, inductionHypothesis]

theorem littleEndian_lt (bytes : List UInt8) : littleEndian bytes < 256 ^ bytes.length := by
  have below : ∀ digit ∈ bytes.map UInt8.toNat, digit < 256 := by
    intro digit member
    obtain ⟨byte, -, rfl⟩ := List.mem_map.mp member
    exact byte.toNat_lt
  have bounded := Nat.ofDigits_lt_base_pow_length (by decide) below
  rwa [List.length_map, ← littleEndian_eq_ofDigits] at bounded

/-! ## Instructions -/

section Instructions

variable {σ : Type} [Bus σ]

/-- The core after the execution of an opcode that was fetched at the program counter. -/
def Core.afterOpcode (core : Core σ) (opcode : UInt8) : Core σ :=
  (Core.executeOpcode opcode core.cpu core.bus).2

/-- The operation of an opcode on the accumulator, if it has one, and the byte that it is done with. -/
def Core.operation? (core : Core σ) (opcode : UInt8) : Option (AluOp × UInt8) :=
  let fetched : Core σ := ⟨{ core.cpu with pc := core.cpu.pc + 1 }, core.bus⟩
  match Instruction.ofOpcode opcode with
  | .arithmetic op source => some (op, (Exec.operand source fetched).1)
  | .arithmeticImmediate op => some (op, (Exec.nextByte fetched).1)
  | _ => none

/-- The accumulator and the flags are what the operation makes of the byte, wherever that comes from. -/
theorem Core.afterOpcode_of_operation?
    {core : Core σ}
    {opcode : UInt8}
    {op : AluOp}
    {operand : UInt8}
    (operates : core.operation? opcode = some (op, operand)) :
    (core.afterOpcode opcode).cpu.a = (Alu.apply op core.cpu.a operand core.cpu.flags).1 ∧
      (core.afterOpcode opcode).cpu.flags =
        (Alu.apply op core.cpu.a operand core.cpu.flags).2 := by
  unfold operation? at operates
  simp only at operates
  split at operates
  · rename_i op source decoded
    cases operates
    simp only [afterOpcode, executeOpcode, decoded]
    cases source <;> exact ⟨rfl, rfl⟩
  · rename_i op decoded
    cases operates
    simp only [afterOpcode, executeOpcode, decoded]
    exact ⟨rfl, rfl⟩
  · cases operates

/--
An opcode that does an operation finds a byte in the accumulator, another one as
its operand and a carry, and leaves a result in the accumulator and a carry.
-/
def Core.Links
    (σ : Type)
    [Bus σ]
    (op : AluOp)
    (carry : Bool)
    (left right result : UInt8)
    (next : Bool) : Prop :=
  ∃ (core : Core σ) (opcode : UInt8),
    core.operation? opcode = some (op, right) ∧
      core.cpu.a = left ∧
      core.cpu.flags.carry = carry ∧
      (core.afterOpcode opcode).cpu.a = result ∧
      (core.afterOpcode opcode).cpu.flags.carry = next

section Chains

variable
  {carry last : Bool}
  {lefts rights results : List UInt8}

/-- Adding with the carry, byte by byte, adds the numbers. -/
theorem CarryChain.littleEndian_add
    (chain : CarryChain (Core.Links σ .adc) carry lefts rights results last) :
    littleEndian results + 256 ^ lefts.length * last.toNat =
      littleEndian lefts + littleEndian rights + carry.toNat := by
  simp only [littleEndian_eq_ofDigits]
  rw [← chain.length_eq.2]
  refine chain.ofDigits_add ?_
  rintro carry left right result next ⟨core, opcode, operates, rfl, rfl, rfl, rfl⟩
  rw [(Core.afterOpcode_of_operation? operates).1, (Core.afterOpcode_of_operation? operates).2]
  exact Alu.sum_value ..

/-- Subtracting with the borrow undoes an addition, so it subtracts the numbers. -/
theorem CarryChain.littleEndian_subtract
    (chain : CarryChain (Core.Links σ .sbb) carry lefts rights results last) :
    littleEndian lefts + 256 ^ lefts.length * last.toNat =
      littleEndian results + littleEndian rights + carry.toNat := by
  simp only [littleEndian_eq_ofDigits]
  refine chain.swap.ofDigits_add ?_
  rintro carry result right left next ⟨core, opcode, operates, rfl, rfl, rfl, rfl⟩
  rw [(Core.afterOpcode_of_operation? operates).1, (Core.afterOpcode_of_operation? operates).2]
  exact (Alu.difference_value ..).symm

/-- What the result of adding is short of the sum is worth the last carry, as its bytes are as many. -/
theorem CarryChain.results_of_adding
    (chain : CarryChain (Core.Links σ .adc) carry lefts rights results last) :
    results.length = lefts.length ∧
      littleEndian results =
        (littleEndian lefts + littleEndian rights + carry.toNat) % 256 ^ lefts.length ∧
      (last = true ↔
        256 ^ lefts.length ≤ littleEndian lefts + littleEndian rights + carry.toNat) := by
  have bounded := littleEndian_lt results
  rw [chain.length_eq.2] at bounded
  exact ⟨chain.length_eq.2, remainder_and_carry bounded chain.littleEndian_add⟩

/-- What the result of subtracting exceeds the difference by is worth the last borrow. -/
theorem CarryChain.results_of_subtracting
    (chain : CarryChain (Core.Links σ .sbb) carry lefts rights results last) :
    results.length = lefts.length ∧
      (littleEndian results : Int) =
        ((littleEndian lefts : Int) - littleEndian rights - carry.toNat) %
          (256 ^ lefts.length : Nat) ∧
      (last = true ↔ littleEndian lefts < littleEndian rights + carry.toNat) := by
  have subtracted := chain.littleEndian_subtract
  have bounded := littleEndian_lt results
  rw [chain.length_eq.2] at bounded
  refine ⟨chain.length_eq.2, ?_, ?_⟩
  · have inIntegers :
        (littleEndian lefts : Int) + (256 ^ lefts.length : Nat) * last.toNat =
          littleEndian results + littleEndian rights + carry.toNat := by
      exact_mod_cast subtracted
    have undone :
        (littleEndian lefts : Int) - littleEndian rights - carry.toNat =
          littleEndian results - (256 ^ lefts.length : Nat) * last.toNat := by
      linear_combination inIntegers
    rw [undone, Int.sub_mul_emod_self_left]
    exact (Int.emod_eq_of_lt (Int.natCast_nonneg _) (Int.ofNat_lt.mpr bounded)).symm
  · cases last with
    | true =>
        rw [Bool.toNat_true, Nat.mul_one] at subtracted
        exact iff_of_true rfl (by omega)
    | false =>
        rw [Bool.toNat_false, Nat.mul_zero] at subtracted
        exact iff_of_false Bool.false_ne_true (by omega)

end Chains

/-- Every operation has an opcode that takes the byte from a register. -/
theorem Core.exists_operation
    (op : AluOp)
    (carry : Bool)
    (left right : UInt8) :
    ∃ (core : Core Memory) (opcode : UInt8),
      core.operation? opcode = some (op, right) ∧
        core.cpu.a = left ∧ core.cpu.flags.carry = carry := by
  let core : Core Memory :=
    ⟨{ Cpu.initial with a := left, b := right, flags := { Flags.clear with carry } },
      Memory.empty⟩
  have operates : ∃ opcode, core.operation? opcode = some (op, right) := by
    cases op with
    | add =>
        exact ⟨0x80, rfl⟩
    | adc =>
        exact ⟨0x88, rfl⟩
    | sub =>
        exact ⟨0x90, rfl⟩
    | sbb =>
        exact ⟨0x98, rfl⟩
    | ana =>
        exact ⟨0xA0, rfl⟩
    | xra =>
        exact ⟨0xA8, rfl⟩
    | ora =>
        exact ⟨0xB0, rfl⟩
    | cmp =>
        exact ⟨0xB8, rfl⟩
  obtain ⟨opcode, decoded⟩ := operates
  exact ⟨core, opcode, decoded, rfl, rfl⟩

/-- Any two numbers of as many bytes can be put through a chain. -/
theorem CarryChain.exists_of_length_eq
    (op : AluOp)
    (carry : Bool)
    {lefts rights : List UInt8}
    (sameLength : rights.length = lefts.length) :
    ∃ results last, CarryChain (Core.Links Memory op) carry lefts rights results last := by
  refine CarryChain.exists_of_forall_link (fun carry left right => ?_) carry sameLength
  obtain ⟨core, opcode, operates, loaded, carried⟩ := Core.exists_operation op carry left right
  exact ⟨_, _, core, opcode, operates, loaded, carried, rfl, rfl⟩

/-! ## Comparisons -/

/-- A comparison leaves the accumulator alone, and tells less and equal by the flags. -/
theorem Core.compare_flags
    {core : Core σ}
    {opcode operand : UInt8}
    (compares : core.operation? opcode = some (.cmp, operand)) :
    (core.afterOpcode opcode).cpu.a = core.cpu.a ∧
      ((core.afterOpcode opcode).cpu.flags.carry = true ↔ core.cpu.a < operand) ∧
      ((core.afterOpcode opcode).cpu.flags.zero = true ↔ core.cpu.a = operand) := by
  obtain ⟨accumulator, flags⟩ := Core.afterOpcode_of_operation? compares
  rw [accumulator, flags]
  refine ⟨rfl, ?_, ?_⟩
  · simp [Alu.apply, Alu.result, Alu.difference, Flags.withResult, UInt8.lt_iff_toNat_lt]
  · have unborrowed : core.cpu.a - operand - false.toUInt8 = core.cpu.a - operand :=
      UInt8.sub_zero _
    simp only [Alu.apply, Alu.result, Alu.difference, Flags.withResult, beq_iff_eq, unborrowed]
    rw [UInt8.sub_eq_iff_eq_add, UInt8.zero_add]

/--
Adding with the carry and subtracting with the borrow, byte by byte from the
least significant end, come to the sum and the difference of the numbers that
the bytes make, as far as these go into as many bytes. The last carry tells
whether they do. A comparison tells by the carry whether the accumulator is
below the byte, and by the zero flag whether it is the same.
-/
theorem carry_chains_are_multibyte_arithmetic :
    (∀ carry lefts rights results last,
      CarryChain (Core.Links σ .adc) carry lefts rights results last →
        results.length = lefts.length ∧
          littleEndian results =
            (littleEndian lefts + littleEndian rights + carry.toNat) % 256 ^ lefts.length ∧
          (last = true ↔
            256 ^ lefts.length ≤ littleEndian lefts + littleEndian rights + carry.toNat)) ∧
      (∀ carry lefts rights results last,
        CarryChain (Core.Links σ .sbb) carry lefts rights results last →
          results.length = lefts.length ∧
            (littleEndian results : Int) =
              ((littleEndian lefts : Int) - littleEndian rights - carry.toNat) %
                (256 ^ lefts.length : Nat) ∧
            (last = true ↔ littleEndian lefts < littleEndian rights + carry.toNat)) ∧
      (∀ (core : Core σ) (opcode operand : UInt8),
        core.operation? opcode = some (.cmp, operand) →
          (core.afterOpcode opcode).cpu.a = core.cpu.a ∧
            ((core.afterOpcode opcode).cpu.flags.carry = true ↔ core.cpu.a < operand) ∧
            ((core.afterOpcode opcode).cpu.flags.zero = true ↔ core.cpu.a = operand)) ∧
      ∀ (op : AluOp) (carry : Bool) (lefts rights : List UInt8),
        rights.length = lefts.length →
          ∃ results last,
            CarryChain (Core.Links Memory op) carry lefts rights results last := by
  refine ⟨?_, ?_, ?_, ?_⟩
  · exact fun carry lefts rights results last chain => chain.results_of_adding
  · exact fun carry lefts rights results last chain => chain.results_of_subtracting
  · exact fun core opcode operand compares => Core.compare_flags compares
  · exact fun op carry lefts rights sameLength => CarryChain.exists_of_length_eq op carry sameLength

end Instructions

/--
Each byte of zero borrows for the greatest number of two bytes and a borrow, and
each byte of that number carries for one more. Both results are zero.
-/
theorem carry_chains_go_around :
    CarryChain (Core.Links Memory .sbb) true [0, 0] [255, 255] [0, 0] true ∧
      littleEndian [0, 0] < littleEndian [255, 255] + true.toNat ∧
      CarryChain (Core.Links Memory .adc) true [255, 255] [0, 0] [0, 0] true ∧
      256 ^ 2 ≤ littleEndian [255, 255] + littleEndian [0, 0] + true.toNat := by
  let core (left right : UInt8) : Core Memory :=
    ⟨{ Cpu.initial with a := left, b := right, flags := { Flags.clear with carry := true } },
      Memory.empty⟩
  have subtracts : Core.Links Memory .sbb true 0 255 0 true :=
    ⟨core 0 255, 0x98, rfl, rfl, rfl, by decide +kernel, by decide +kernel⟩
  have adds : Core.Links Memory .adc true 255 0 0 true :=
    ⟨core 255 0, 0x88, rfl, rfl, rfl, by decide +kernel, by decide +kernel⟩
  have down : CarryChain (Core.Links Memory .sbb) true [0, 0] [255, 255] [0, 0] true :=
    .cons subtracts (.cons subtracts (.nil true))
  have up : CarryChain (Core.Links Memory .adc) true [255, 255] [0, 0] [0, 0] true :=
    .cons adds (.cons adds (.nil true))
  obtain ⟨added, subtracted, -⟩ := carry_chains_are_multibyte_arithmetic (σ := Memory)
  exact
    ⟨down, (subtracted _ _ _ _ _ down).2.2.mp rfl, up, (added _ _ _ _ _ up).2.2.mp rfl⟩

end Monitor8080
