import Monitor8080.Text.Hex
namespace Monitor8080.Text

/-!
# Number notations and names

An operator writes numbers in hexadecimal unless a mark says otherwise: `0x`
or `$` before and `h` after the digits mark hexadecimal, `#` before and a full
stop after them mark decimal. A sign may stand before the digits, and a value
outside the signed 64-bit range is no number.
-/

/-- A signed 64-bit value, if the integer lies in that range. -/
def int64? (value : Int) : Option Int64 :=
  if -0x8000000000000000 ≤ value ∧ value ≤ 0x7FFFFFFFFFFFFFFF then
    some (Int64.ofInt value)
  else
    none

/-- The value of one or more digits. -/
def magnitude? (base : Nat) : List Char → Option Nat
  | [] => none
  | digits => digitsValue? base digits

/-- The value of digits with an optional sign before them. -/
def signed? (base : Nat) : List Char → Option Int64
  | '+' :: digits => (magnitude? base digits).bind fun value => int64? value
  | '-' :: digits => (magnitude? base digits).bind fun value => int64? (-value)
  | digits => (magnitude? base digits).bind fun value => int64? value

/-- How the digits of a literal are marked off, and the base that the mark asks for. -/
def splitNotation (cs : List Char) : Nat × List Char :=
  match cs with
  | '0' :: 'x' :: digits => (16, digits)
  | '$' :: digits => (16, digits)
  | '#' :: digits => (10, digits)
  | _ =>
      match cs.getLast? with
      | some '.' => (10, cs.dropLast)
      | some 'h' => (16, cs.dropLast)
      | _ => (16, cs)

/-- The value of a numeric literal in any of the notations, in either letter case. -/
def numeralChars? (cs : List Char) : Option Int64 :=
  let (base, digits) := splitNotation (cs.map Char.toLower)
  signed? base digits

/-- The value of a numeric literal in any of the notations. -/
def numeral? (text : String) : Option Int64 :=
  numeralChars? text.toList

/-- An ASCII letter or the underscore. -/
def isNameStart (c : Char) : Bool :=
  c.isAlpha || c == '_'

/-- An ASCII letter, an ASCII digit or the underscore. -/
def isWordChar (c : Char) : Bool :=
  c.isAlphanum || c == '_'

/-- Whether the characters are a name: word characters of which the first is no digit. -/
def isNameChars : List Char → Bool
  | [] => false
  | c :: rest => isNameStart c && rest.all isWordChar

def isName (text : String) : Bool :=
  isNameChars text.toList

end Monitor8080.Text
