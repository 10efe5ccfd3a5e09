namespace Monitor8080

/-!
# Condition flags

The five flags travel in a status byte laid out `S Z 0 A 0 P 1 C`, of which
the three fixed bits are ignored when it is read back.
-/

/-- The condition flags. -/
structure Flags where
  sign : Bool
  zero : Bool
  auxCarry : Bool
  parity : Bool
  carry : Bool
  deriving Repr, DecidableEq, Inhabited

/-- Whether an even number of bits of a byte is set. -/
def evenParity (byte : UInt8) : Bool :=
  let folded := byte ^^^ (byte >>> 4)
  let folded := folded ^^^ (folded >>> 2)
  let folded := folded ^^^ (folded >>> 1)
  folded &&& 1 == 0

namespace Flags

def clear : Flags :=
  ⟨false, false, false, false, false⟩

/-- The status byte of the flags. -/
def toByte (flags : Flags) : UInt8 :=
  (flags.sign.toUInt8 <<< 7)
    ||| (flags.zero.toUInt8 <<< 6)
    ||| (flags.auxCarry.toUInt8 <<< 4)
    ||| (flags.parity.toUInt8 <<< 2)
    ||| 2
    ||| flags.carry.toUInt8

/-- The flags of a status byte. -/
def ofByte (byte : UInt8) : Flags where
  sign := byte &&& 0x80 != 0
  zero := byte &&& 0x40 != 0
  auxCarry := byte &&& 0x10 != 0
  parity := byte &&& 0x04 != 0
  carry := byte &&& 0x01 != 0

/-- The flags with sign, zero and parity taken from a result. -/
def withResult (flags : Flags) (result : UInt8) : Flags :=
  { flags with
    zero := result == 0
    sign := result &&& 0x80 != 0
    parity := evenParity result }

end Flags

end Monitor8080
