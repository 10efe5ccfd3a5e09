import Monitor8080.Json.Basic
import Monitor8080.Text.Number
namespace Monitor8080.Json

/-!
# Decoding JSON values

A decoder takes a value to what it stands for, or refuses it. A record is
written as an object, in which unknown members are ignored and no known one
may be repeated, or as an array of its fields in order.
-/

/-- A natural number below a bound. -/
def natBelow? (bound : Nat) : Json → Option Nat
  | .int value => if 0 ≤ value ∧ value < bound then some value.toNat else none
  | _ => none

def byte? (value : Json) : Option UInt8 :=
  (value.natBelow? 0x100).map UInt8.ofNat

def word? (value : Json) : Option UInt16 :=
  (value.natBelow? 0x10000).map UInt16.ofNat

/-- A mask of 32 bits. -/
def mask? (value : Json) : Option UInt32 :=
  (value.natBelow? 0x100000000).map UInt32.ofNat

/-- A count of 64 bits. -/
def count? (value : Json) : Option Nat :=
  value.natBelow? 0x10000000000000000

/-- A signed number of 64 bits. -/
def int64? : Json → Option Int64
  | .int value => Text.int64? value
  | _ => none

/-- A truth value. -/
def bool? : Json → Option Bool
  | .bool value => some value
  | _ => none

def text? : Json → Option String
  | .string text => some text
  | _ => none

/-- A list whose items a decoder takes. -/
def list? (item? : Json → Option α) : Json → Option (List α)
  | .array items => items.mapM item?
  | _ => none

/-- The entries of an object whose values a decoder takes, repeated names included. -/
def entries? (value? : Json → Option α) : Json → Option (List (String × α))
  | .object members =>
      members.mapM fun member => (value? member.2).map (member.1, ·)
  | _ => none

/-- A value that may be null. -/
def orNull? (value? : Json → Option α) : Json → Option (Option α)
  | .null => some none
  | value => (value? value).map some

/-- The fields that a record's value gives, by name. -/
abbrev Fields := List (String × Json)

/-- The fields of a record; an array may leave out the last ones. -/
def fields? (names : List String) : Json → Option Fields
  | .object members =>
      let known := members.filter fun member => names.contains member.1
      if (known.map (·.1)).Nodup then some known else none
  | .array items => if items.length ≤ names.length then some (names.zip items) else none
  | _ => none

/-- The fields of a record of which an array has to give all. -/
def allFields? (names : List String) : Json → Option Fields
  | .array items => if items.length = names.length then some (names.zip items) else none
  | value => value.fields? names

namespace Fields

/-- A field that has to be given. -/
def required? (fields : Fields) (name : String) (value? : Json → Option α) : Option α :=
  (fields.lookup name).bind value?

/-- A field that stands for a default if it is not given. -/
def defaulted? (fields : Fields) (name : String) (value? : Json → Option α) (default : α) :
    Option α :=
  match fields.lookup name with
  | some value => value? value
  | none => some default

/-- A field that may be null or not be given. -/
def optional? (fields : Fields) (name : String) (value? : Json → Option α) :
    Option (Option α) :=
  fields.defaulted? name (orNull? value?) none

end Fields

/-- A value or null. -/
def ofOption (encode : α → Json) : Option α → Json
  | some value => encode value
  | none => .null

def ofNat (value : Nat) : Json :=
  .int value

end Monitor8080.Json
