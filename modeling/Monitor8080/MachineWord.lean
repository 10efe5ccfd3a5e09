namespace Monitor8080

/-!
# Machine words

Sizes, counts and ends of ranges are held in machine words. A product or a sum
that is too large for one is no value at all: whatever comes to it goes no
further.
-/

/-- The largest machine word. -/
def wordLimit : Nat := 0xFFFFFFFFFFFFFFFF

/-- A value as a machine word, if it is one. -/
def word? (value : Nat) : Option Nat :=
  if value ≤ wordLimit then some value else none

/-- What may be too large for a machine word. -/
inductive Overflow where
  | product
  | sum
  deriving Repr, DecidableEq

def Overflow.message : Overflow → String
  | .product => "attempt to multiply with overflow"
  | .sum => "attempt to add with overflow"

end Monitor8080
