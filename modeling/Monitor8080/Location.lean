import Monitor8080.Memory.Basic
import Monitor8080.Text.Hex
namespace Monitor8080

/-!
# Locations

A location is an address that the monitor keeps track of: a cursor that
listings go on from, or the place of a breakpoint with its script. A cursor
that was never set has no address.
-/

/-- An address, if there is one, and what hangs on it. -/
structure Location where
  address? : Option UInt16
  /-- Whether a breakpoint here goes away once it is reached. -/
  isTemporary : Bool
  /-- The script as the operator wrote it. -/
  script? : Option String
  /-- The commands of the script. -/
  commands : List String
  deriving Repr, DecidableEq, Inhabited

namespace Location

/-- A location without an address. -/
def unset : Location :=
  ⟨none, false, none, []⟩

/-- A permanent location without a script. -/
def ofAddress (address : UInt16) : Location :=
  ⟨some address, false, none, []⟩

/-- A temporary location without a script. -/
def temporary (address : UInt16) : Location :=
  ⟨some address, true, none, []⟩

/-- The location with a script and its commands. -/
def withScript (location : Location) (script : String) (commands : List String) : Location :=
  { location with script? := some script, commands := commands }

/-- Whether there is an address. -/
def isSet (location : Location) : Bool :=
  location.address?.isSome

/-- The location moved to an address, where it is permanent. -/
def set (location : Location) (address : UInt16) : Location :=
  { location with address? := some address, isTemporary := false }

/-- The location moved by a distance, around the end of the address space. -/
def shifted (location : Location) (distance : Int) : Location :=
  { location with address? := location.address?.map (· + UInt16.ofInt distance) }

/-- The address as four digits, or four question marks. -/
def text (location : Location) : String :=
  match location.address? with
  | some address => Text.hexWord address
  | none => "????"

/-- The address, low byte first, and a byte whose bits tell that it is set and temporary. -/
def toBytes (location : Location) : List UInt8 :=
  let address := location.address?.getD 0
  [lowByte address, highByte address,
    location.isSet.toUInt8 ||| (location.isTemporary.toUInt8 <<< 1)]

/-- The location that three bytes pack. -/
def ofBytes? : List UInt8 → Option Location
  | [low, high, marks] =>
      some
        { address? := if marks &&& 1 != 0 then some (wordOfBytes low high) else none
          isTemporary := marks &&& 2 != 0
          script? := none
          commands := [] }
  | _ => none

end Location

/-- The byte at a location; `FF` is read where it is unset. -/
def Memory.byteAt (memory : Memory) (location : Location) : UInt8 :=
  (location.address?.map memory.byte).getD 0xFF

end Monitor8080
