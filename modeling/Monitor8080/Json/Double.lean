import Monitor8080.Text.Hex
namespace Monitor8080

/-!
# Numbers in double precision

A number that is no integer of 64 bits is held in double precision. The digits
that 64 bits hold make an integer; that is rounded, and multiplied or divided
by a rounded power of ten, where the result is rounded again. So a number may
differ in its last bit from the one nearest to its digits.
-/

/-- A magnitude in double precision: `significand` times two to the power `exponent`. -/
structure Double where
  significand : Nat
  exponent : Int
  deriving Repr, DecidableEq

namespace Double

def zero : Double :=
  ⟨0, 0⟩

def leastExponent : Int := -1074

/-- How many bits a significand has. -/
def precision : Nat := 53

/-- A fraction divided by a power of two, as another fraction. -/
def rescale (numerator denominator : Nat) (exponent : Int) : Nat × Nat :=
  if 0 ≤ exponent then
    (numerator, denominator * Nat.pow 2 exponent.toNat)
  else
    (numerator * Nat.pow 2 (-exponent).toNat, denominator)

/-- The integer nearest to a fraction; of two that are equally near, the even one. -/
def nearest (numerator denominator : Nat) : Nat :=
  let quotient := numerator / denominator
  let twice := 2 * (numerator % denominator)
  if denominator < twice ∨ (denominator = twice ∧ quotient % 2 = 1) then quotient + 1 else quotient

/-- The exponent with which the significand of a fraction has as many bits as it may. -/
def exponentFor (numerator denominator : Nat) : Int :=
  let guess : Int := (numerator.log2 : Int) - denominator.log2 - (precision - 1)
  let (scaled, unit) := rescale numerator denominator guess
  max leastExponent (if scaled / unit < Nat.pow 2 (precision - 1) then guess - 1 else guess)

/-- The magnitude nearest to a fraction, unless that is infinite. -/
def ofFraction? (numerator denominator : Nat) : Option Double :=
  if numerator = 0 then
    some zero
  else
    let exponent := exponentFor numerator denominator
    let (scaled, unit) := rescale numerator denominator exponent
    let significand := nearest scaled unit
    if 1024 ≤ exponent + significand.log2 then none else some ⟨significand, exponent⟩

/-- A magnitude as a fraction. -/
def fraction (double : Double) : Nat × Nat :=
  if 0 ≤ double.exponent then
    (double.significand * Nat.pow 2 double.exponent.toNat, 1)
  else
    (double.significand, Nat.pow 2 (-double.exponent).toNat)

/-- The rounded product, unless it is infinite. -/
def times? (left right : Double) : Option Double :=
  let (leftNumerator, leftDenominator) := left.fraction
  let (rightNumerator, rightDenominator) := right.fraction
  ofFraction? (leftNumerator * rightNumerator) (leftDenominator * rightDenominator)

/-- The rounded quotient, unless it is infinite. -/
def over? (left right : Double) : Option Double :=
  let (leftNumerator, leftDenominator) := left.fraction
  let (rightNumerator, rightDenominator) := right.fraction
  ofFraction? (leftNumerator * rightDenominator) (leftDenominator * rightNumerator)

/-- The power of ten that one step of scaling uses at most. -/
def largestPower : Nat := 308

/-- The rounded power of ten. -/
def powerOfTen? (power : Nat) : Option Double :=
  ofFraction? (Nat.pow 10 power) 1

/-- A magnitude times a power of ten, in as many steps as it takes. -/
def scale? : (steps : Nat) → Double → (power : Int) → Option Double
  | 0, _, _ => some zero
  | steps + 1, double, power =>
      if double.significand = 0 then
        some zero
      else if power.natAbs ≤ largestPower then do
        let factor ← powerOfTen? power.natAbs
        if 0 ≤ power then double.times? factor else double.over? factor
      else if 0 ≤ power then
        none
      else do
        scale? steps (← double.over? (← powerOfTen? largestPower)) (power + largestPower)

/-- The integer that decimal digits go on to write while 64 bits hold it, and the digits left. -/
def heldDigits : (value : Nat) → List Char → Nat × List Char
  | value, [] => (value, [])
  | value, c :: cs =>
      let next := value * 10 + (Text.digitValue? 10 c).getD 0
      if next < 0x10000000000000000 then heldDigits next cs else (value, c :: cs)

/-- The magnitude of a number given by its digits before and after the point and its exponent. -/
def ofDigits? (whole places : List Char) (power : Int) : Option Double := do
  let (value, dropped) := heldDigits 0 whole
  let (value, ignored) := heldDigits value places
  let start ← ofFraction? value 1
  -- Three steps divide anything that 64 bits hold down to zero.
  scale? 3 start (power + dropped.length - (places.length - ignored.length : Nat))

/-- The value of an exponent with an optional sign. -/
def exponentValue : List Char → Int
  | '-' :: digits => -((Text.digitsValue? 10 digits).getD 0 : Int)
  | '+' :: digits => ((Text.digitsValue? 10 digits).getD 0 : Int)
  | digits => ((Text.digitsValue? 10 digits).getD 0 : Int)

/-- The magnitude of a number as it is written, unless it is infinite. -/
def ofText? (text : String) : Option Double :=
  let unsigned := text.toList.dropWhile (· == '-')
  let isMark (c : Char) : Bool := c == 'e' || c == 'E'
  let mantissa := unsigned.takeWhile (!isMark ·)
  let power := exponentValue ((unsigned.dropWhile (!isMark ·)).drop 1)
  ofDigits? (mantissa.takeWhile (· != '.')) ((mantissa.dropWhile (· != '.')).drop 1) power

/-- A magnitude with all its decimal digits. -/
def text (double : Double) : String :=
  if 0 ≤ double.exponent then
    toString (double.significand * Nat.pow 2 double.exponent.toNat) ++ ".0"
  else
    let places := (-double.exponent).toNat
    toString (double.significand * Nat.pow 5 places) ++ "e-" ++ toString places

end Double

end Monitor8080
