import Monitor8080.Processor.Flags
namespace Monitor8080

/-!
# Byte arithmetic

The eight operations on the accumulator, the increments and the decimal
adjustment, each as a function from operands and flags to a result and flags.
The carry flag takes the carry out of bit 7, or the borrow into it; the
auxiliary carry flag takes the carry out of bit 3, and after a subtraction it
is set where bit 3 did not have to borrow.
-/

/-- An operation between the accumulator and a byte. -/
inductive AluOp where
  | add
  | adc
  | sub
  | sbb
  | ana
  | xra
  | ora
  | cmp
  deriving Repr, DecidableEq, Inhabited

namespace Alu

/-- A sum with a carry in, and its flags. -/
def sum (left right : UInt8) (carryIn : Bool) : UInt8 × Flags :=
  let total := left.toNat + right.toNat + carryIn.toNat
  let result := UInt8.ofNat total
  (result,
    Flags.withResult
      { sign := false
        zero := false
        auxCarry := 15 < left.toNat % 16 + right.toNat % 16 + carryIn.toNat
        parity := false
        carry := 255 < total }
      result)

/-- A difference with a borrow in, and its flags. -/
def difference (left right : UInt8) (borrowIn : Bool) : UInt8 × Flags :=
  let result := left - right - borrowIn.toUInt8
  (result,
    Flags.withResult
      { sign := false
        zero := false
        auxCarry := right.toNat % 16 + borrowIn.toNat ≤ left.toNat % 16
        parity := false
        carry := left.toNat < right.toNat + borrowIn.toNat }
      result)

/-- A bitwise result, which clears the carry, and its flags. -/
def bitwise (result : UInt8) (auxCarry : Bool) : UInt8 × Flags :=
  (result, Flags.withResult ⟨false, false, auxCarry, false, false⟩ result)

/-- What an operation makes of the accumulator, a byte and the flags. -/
def result (op : AluOp) (accumulator operand : UInt8) (flags : Flags) : UInt8 × Flags :=
  match op with
  | .add => sum accumulator operand false
  | .adc => sum accumulator operand flags.carry
  | .sub => difference accumulator operand false
  | .sbb => difference accumulator operand flags.carry
  | .ana => bitwise (accumulator &&& operand) ((accumulator ||| operand) &&& 0x08 != 0)
  | .xra => bitwise (accumulator ^^^ operand) false
  | .ora => bitwise (accumulator ||| operand) false
  | .cmp => difference accumulator operand false

/-- The accumulator and the flags after an operation; a comparison keeps the accumulator. -/
def apply (op : AluOp) (accumulator operand : UInt8) (flags : Flags) : UInt8 × Flags :=
  let (value, flags) := result op accumulator operand flags
  (if op = .cmp then accumulator else value, flags)

/-- One more than a byte, and the flags, of which the carry stays. -/
def increment (operand : UInt8) (flags : Flags) : UInt8 × Flags :=
  let value := operand + 1
  (value, Flags.withResult { flags with auxCarry := value &&& 0x0F == 0 } value)

/-- One less than a byte, and the flags, of which the carry stays. -/
def decrement (operand : UInt8) (flags : Flags) : UInt8 × Flags :=
  let value := operand - 1
  (value, Flags.withResult { flags with auxCarry := value &&& 0x0F != 0x0F } value)

/--
The decimal adjustment: six is added to a digit that went past nine or carried,
and the carry tells whether the high digit did.
-/
def decimalAdjust (accumulator : UInt8) (flags : Flags) : UInt8 × Flags :=
  let low := accumulator.toNat % 16
  let high := accumulator.toNat / 16
  let lowOver := flags.auxCarry || decide (9 < low)
  let highOver := flags.carry || decide (9 < high) || (decide (9 ≤ high) && decide (9 < low))
  let correction : UInt8 :=
    (if lowOver then 0x06 else 0) ||| (if highOver then 0x60 else 0)
  let (value, adjusted) := sum accumulator correction false
  (value, { adjusted with carry := highOver })

end Alu

end Monitor8080
