import Monitor8080.Proofs.CarryChains
namespace Monitor8080

/-!
# Decimal addition

A byte holds two decimal digits, one in each half. Where a digit of a sum goes
past nine the byte holds no such digits any more, and the decimal adjustment
makes a carry of each ten. Numbers of several such bytes are therefore added
byte by byte, with an adjustment after each addition.
-/

/-- Two decimal digits in a byte, one in each half. -/
structure IsPackedDecimal (byte : UInt8) : Prop where
  high : byte.toNat / 16 ≤ 9
  low : byte.toNat % 16 ≤ 9

/-- The number that the two digits in a byte write. -/
def decimalPair (byte : UInt8) : Nat :=
  10 * (byte.toNat / 16) + byte.toNat % 16

/-- The number that bytes of two decimal digits write, lowest first. -/
def decimalNumber (bytes : List UInt8) : Nat :=
  Nat.ofDigits 100 (bytes.map decimalPair)

theorem decimalNumber_lt
    {bytes : List UInt8}
    (packed : ∀ byte ∈ bytes, IsPackedDecimal byte) :
    decimalNumber bytes < 100 ^ bytes.length := by
  have below : ∀ pair ∈ bytes.map decimalPair, pair < 100 := by
    intro pair member
    obtain ⟨byte, among, rfl⟩ := List.mem_map.mp member
    obtain ⟨high, low⟩ := packed byte among
    rw [decimalPair]
    omega
  have bounded := Nat.ofDigits_lt_base_pow_length (by decide) below
  rwa [List.length_map] at bounded

/-! ## One byte -/

namespace Alu

/-- Whether the low digit of a sum went past nine: it carried, or is more than nine. -/
def lowGoesOver (accumulator : UInt8) (flags : Flags) : Bool :=
  flags.auxCarry || decide (9 < accumulator.toNat % 16)

/-- Whether the high digit of a sum goes past nine, if need be by what the low one carries into it. -/
def highGoesOver (accumulator : UInt8) (flags : Flags) : Bool :=
  flags.carry || decide (9 < accumulator.toNat / 16) ||
    (decide (9 ≤ accumulator.toNat / 16) && decide (9 < accumulator.toNat % 16))

/-- The adjustment adds six to each digit that went past nine, and the carry is that of the high one. -/
theorem decimalAdjust_value (accumulator : UInt8) (flags : Flags) :
    (decimalAdjust accumulator flags).1.toNat =
        (accumulator.toNat + 6 * (lowGoesOver accumulator flags).toNat +
            96 * (highGoesOver accumulator flags).toNat) % 256 ∧
      (decimalAdjust accumulator flags).2.carry = highGoesOver accumulator flags := by
  refine ⟨?_, rfl⟩
  change
    (UInt8.ofNat
      (accumulator.toNat +
        ((if lowGoesOver accumulator flags then 0x06 else 0) |||
          (if highGoesOver accumulator flags then 0x60 else 0) : UInt8).toNat +
        0)).toNat = _
  rw [UInt8.toNat_ofNat']
  cases lowGoesOver accumulator flags <;> cases highGoesOver accumulator flags <;> rfl

section Adjustment

variable
  {left right : UInt8}
  {carry : Bool}
  (leftPacked : IsPackedDecimal left)
  (rightPacked : IsPackedDecimal right)

include leftPacked rightPacked

theorem lowGoesOver_sum :
    lowGoesOver (sum left right carry).1 (sum left right carry).2 =
      decide (9 < left.toNat % 16 + right.toNat % 16 + carry.toNat) := by
  have leftLow := leftPacked.low
  have rightLow := rightPacked.low
  have carryBound := carry.toNat_le
  simp only [lowGoesOver, sum, Flags.withResult, UInt8.toNat_ofNat', ← Bool.decide_or]
  refine decide_eq_decide.mpr ?_
  omega

theorem highGoesOver_sum :
    highGoesOver (sum left right carry).1 (sum left right carry).2 =
      decide (99 < decimalPair left + decimalPair right + carry.toNat) := by
  obtain ⟨leftHigh, leftLow⟩ := leftPacked
  obtain ⟨rightHigh, rightLow⟩ := rightPacked
  have carryBound := carry.toNat_le
  simp only [highGoesOver, sum, Flags.withResult, UInt8.toNat_ofNat', decimalPair,
    ← Bool.decide_or, ← Bool.decide_and]
  refine decide_eq_decide.mpr ?_
  omega

/--
A half of a byte goes up to sixteen, six more than ten. With six added where a
digit went past nine, the digits add up as they are written, each with what the
one before it carries.
-/
theorem corrected_digits
    {result : Nat}
    {lowCarry highCarry : Bool}
    (lowCarried : lowCarry = decide (9 < left.toNat % 16 + right.toNat % 16 + carry.toNat))
    (highCarried :
      highCarry = decide (99 < decimalPair left + decimalPair right + carry.toNat))
    (corrected :
      result =
        ((left.toNat + right.toNat + carry.toNat) % 256 + 6 * lowCarry.toNat +
          96 * highCarry.toNat) % 256) :
    result / 16 ≤ 9 ∧
      result % 16 ≤ 9 ∧
      result % 16 + 10 * lowCarry.toNat =
        left.toNat % 16 + right.toNat % 16 + carry.toNat ∧
      result / 16 + 10 * highCarry.toNat =
        left.toNat / 16 + right.toNat / 16 + lowCarry.toNat := by
  obtain ⟨leftHigh, leftLow⟩ := leftPacked
  obtain ⟨rightHigh, rightLow⟩ := rightPacked
  have carryBound := carry.toNat_le
  rw [decimalPair, decimalPair] at highCarried
  cases lowCarry <;> cases highCarry <;>
    simp only [Bool.false_eq, Bool.true_eq, decide_eq_false_iff_not, decide_eq_true_eq,
      Bool.toNat_true, Bool.toNat_false] at lowCarried highCarried corrected ⊢
  all_goals omega

/-- The adjusted byte has the two last digits of the decimal sum, and the carry is its hundred. -/
theorem decimalAdjust_sum :
    let added := sum left right carry
    let adjusted := decimalAdjust added.1 added.2
    IsPackedDecimal adjusted.1 ∧
      decimalPair adjusted.1 + 100 * adjusted.2.carry.toNat =
        decimalPair left + decimalPair right + carry.toNat := by
  intro added adjusted
  obtain ⟨corrected, highCarried⟩ := decimalAdjust_value added.1 added.2
  have total : added.1.toNat = (left.toNat + right.toNat + carry.toNat) % 256 :=
    UInt8.toNat_ofNat'
  rw [total, ← highCarried] at corrected
  rw [highGoesOver_sum leftPacked rightPacked] at highCarried
  have lowCarried :
      lowGoesOver added.1 added.2 =
        decide (9 < left.toNat % 16 + right.toNat % 16 + carry.toNat) :=
    lowGoesOver_sum leftPacked rightPacked
  obtain ⟨highDigit, lowDigit, lowSum, highSum⟩ :=
    corrected_digits leftPacked rightPacked lowCarried highCarried corrected
  refine ⟨⟨highDigit, lowDigit⟩, ?_⟩
  calc
    10 * (adjusted.1.toNat / 16) + adjusted.1.toNat % 16 + 100 * adjusted.2.carry.toNat =
        10 * (adjusted.1.toNat / 16 + 10 * adjusted.2.carry.toNat) + adjusted.1.toNat % 16 := by
      ring
    _ = 10 * (left.toNat / 16 + right.toNat / 16) +
          (adjusted.1.toNat % 16 + 10 * (lowGoesOver added.1 added.2).toNat) := by
      rw [highSum]
      ring
    _ = decimalPair left + decimalPair right + carry.toNat := by
      rw [lowSum, decimalPair, decimalPair]
      ring

end Adjustment

end Alu

/-! ## Numbers -/

section Instructions

variable {σ : Type} [Bus σ]

/-- The opcode of the decimal adjustment. -/
def adjustingOpcode : UInt8 := 0x27

/--
An addition with the carry and the decimal adjustment after it find a byte in
the accumulator, another one as the operand and a carry, and leave a result in
the accumulator and a carry.
-/
def Core.LinksDecimal
    (σ : Type)
    [Bus σ]
    (carry : Bool)
    (left right result : UInt8)
    (next : Bool) : Prop :=
  ∃ (core : Core σ) (opcode : UInt8),
    core.operation? opcode = some (.adc, right) ∧
      core.cpu.a = left ∧
      core.cpu.flags.carry = carry ∧
      ((core.afterOpcode opcode).afterOpcode adjustingOpcode).cpu.a = result ∧
      ((core.afterOpcode opcode).afterOpcode adjustingOpcode).cpu.flags.carry = next

/-- Digits that are added and adjusted make digits, and a carry of what is beyond them. -/
theorem Core.LinksDecimal.adds
    {carry next : Bool}
    {left right result : UInt8}
    (links : Core.LinksDecimal σ carry left right result next)
    (leftPacked : IsPackedDecimal left)
    (rightPacked : IsPackedDecimal right) :
    IsPackedDecimal result ∧
      decimalPair result + 100 * next.toNat =
        decimalPair left + decimalPair right + carry.toNat := by
  obtain ⟨core, opcode, operates, rfl, rfl, rfl, rfl⟩ := links
  obtain ⟨accumulator, flags⟩ := Core.afterOpcode_of_operation? operates
  have adjusts (core : Core σ) :
      (core.afterOpcode adjustingOpcode).cpu.a =
          (Alu.decimalAdjust core.cpu.a core.cpu.flags).1 ∧
        (core.afterOpcode adjustingOpcode).cpu.flags =
          (Alu.decimalAdjust core.cpu.a core.cpu.flags).2 :=
    ⟨rfl, rfl⟩
  rw [(adjusts _).1, (adjusts _).2, accumulator, flags]
  exact Alu.decimalAdjust_sum leftPacked rightPacked

/-- A chain on decimal digits has links on decimal digits, and decimal digits for its results. -/
theorem CarryChain.ofPackedDecimal
    {carry last : Bool}
    {lefts rights results : List UInt8}
    (chain : CarryChain (Core.LinksDecimal σ) carry lefts rights results last)
    (leftsPacked : ∀ byte ∈ lefts, IsPackedDecimal byte)
    (rightsPacked : ∀ byte ∈ rights, IsPackedDecimal byte) :
    CarryChain
        (fun carry left right result next =>
          decimalPair result + 100 * next.toNat =
            decimalPair left + decimalPair right + carry.toNat)
        carry lefts rights results last ∧
      ∀ byte ∈ results, IsPackedDecimal byte := by
  induction chain with
  | nil carry =>
      exact ⟨.nil carry, nofun⟩
  | cons first rest inductionHypothesis =>
      obtain ⟨leftPacked, leftsPacked⟩ := List.forall_mem_cons.mp leftsPacked
      obtain ⟨rightPacked, rightsPacked⟩ := List.forall_mem_cons.mp rightsPacked
      obtain ⟨resultPacked, added⟩ := first.adds leftPacked rightPacked
      obtain ⟨chain, resultsPacked⟩ := inductionHypothesis leftsPacked rightsPacked
      exact ⟨.cons added chain, List.forall_mem_cons.mpr ⟨resultPacked, resultsPacked⟩⟩

/--
Adding with the carry and adjusting after it, byte by byte from the least
significant end, comes to the sum of the decimal numbers that the bytes write,
as far as it goes into as many bytes, which are decimal digits again. The last
carry tells whether it does. Any two numbers of as many bytes can be added so.
-/
theorem adjusted_chains_are_decimal_addition :
    (∀ carry lefts rights results last,
      CarryChain (Core.LinksDecimal σ) carry lefts rights results last →
        (∀ byte ∈ lefts, IsPackedDecimal byte) →
          (∀ byte ∈ rights, IsPackedDecimal byte) →
            results.length = lefts.length ∧
              (∀ byte ∈ results, IsPackedDecimal byte) ∧
              decimalNumber results =
                (decimalNumber lefts + decimalNumber rights + carry.toNat) %
                  100 ^ lefts.length ∧
              (last = true ↔
                100 ^ lefts.length ≤
                  decimalNumber lefts + decimalNumber rights + carry.toNat)) ∧
      ∀ (carry : Bool) (lefts rights : List UInt8),
        rights.length = lefts.length →
          ∃ results last,
            CarryChain (Core.LinksDecimal Memory) carry lefts rights results last := by
  refine ⟨?_, ?_⟩
  · intro carry lefts rights results last chain leftsPacked rightsPacked
    obtain ⟨digits, resultsPacked⟩ := chain.ofPackedDecimal leftsPacked rightsPacked
    have added := digits.ofDigits_add id
    have bounded := decimalNumber_lt resultsPacked
    rw [chain.length_eq.2] at added bounded
    exact ⟨chain.length_eq.2, resultsPacked, remainder_and_carry bounded added⟩
  · intro carry lefts rights sameLength
    refine CarryChain.exists_of_forall_link (fun carry left right => ?_) carry sameLength
    obtain ⟨core, opcode, operates, loaded, carried⟩ :=
      Core.exists_operation .adc carry left right
    exact ⟨_, _, core, opcode, operates, loaded, carried, rfl, rfl⟩

end Instructions

/--
Nine hundred and ninety-nine, with nine thousand and ninety-nine and a carry,
makes ninety-nine and a carry. In the high byte the low digit passes nine and
takes the high one past it.
-/
theorem decimal_carry_through_nines :
    CarryChain (Core.LinksDecimal Memory) true [0x99, 0x09] [0x99, 0x90] [0x99, 0x00] true ∧
      (∀ byte ∈ [0x99, 0x09], IsPackedDecimal byte) ∧
      (∀ byte ∈ [0x99, 0x90], IsPackedDecimal byte) ∧
      100 ^ 2 ≤ decimalNumber [0x99, 0x09] + decimalNumber [0x99, 0x90] + true.toNat := by
  let core (left right : UInt8) : Core Memory :=
    ⟨{ Cpu.initial with a := left, b := right, flags := { Flags.clear with carry := true } },
      Memory.empty⟩
  have lowLinks : Core.LinksDecimal Memory true 0x99 0x99 0x99 true :=
    ⟨core 0x99 0x99, 0x88, rfl, rfl, rfl, by decide +kernel, by decide +kernel⟩
  have highLinks : Core.LinksDecimal Memory true 0x09 0x90 0x00 true :=
    ⟨core 0x09 0x90, 0x88, rfl, rfl, rfl, by decide +kernel, by decide +kernel⟩
  have chain :
      CarryChain (Core.LinksDecimal Memory) true [0x99, 0x09] [0x99, 0x90] [0x99, 0x00] true :=
    .cons lowLinks (.cons highLinks (.nil true))
  have leftsPacked : ∀ byte ∈ [0x99, 0x09], IsPackedDecimal byte := by
    simp only [List.forall_mem_cons]
    exact ⟨⟨by decide, by decide⟩, ⟨by decide, by decide⟩, nofun⟩
  have rightsPacked : ∀ byte ∈ [0x99, 0x90], IsPackedDecimal byte := by
    simp only [List.forall_mem_cons]
    exact ⟨⟨by decide, by decide⟩, ⟨by decide, by decide⟩, nofun⟩
  have added :=
    (adjusted_chains_are_decimal_addition (σ := Memory)).1 _ _ _ _ _ chain leftsPacked rightsPacked
  exact ⟨chain, leftsPacked, rightsPacked, added.2.2.2.mp rfl⟩

end Monitor8080
