namespace Monitor8080.Text

/-!
# Hexadecimal numerals

Addresses and bytes are shown with a fixed count of upper-case digits; other
values with as many digits as they need. Reading takes either letter case.
-/

/-- The upper-case digit for a value below sixteen. -/
def hexDigit (value : Nat) : Char :=
  if value < 10 then Char.ofNat (0x30 + value) else Char.ofNat (0x37 + value)

/-- The lowest `width` hexadecimal digits of a number, highest first. -/
def fixedHexDigits : (width : Nat) → (value : Nat) → List Char
  | 0, _ => []
  | width + 1, value =>
      fixedHexDigits width (value / 16) ++ [hexDigit (value % 16)]

/-- The hexadecimal digits of a number with no leading zero, `0` for zero. -/
def shortHexDigits (value : Nat) : List Char :=
  if value < 16 then
    [hexDigit value]
  else
    shortHexDigits (value / 16) ++ [hexDigit (value % 16)]
termination_by value
decreasing_by omega

/-- A byte as two digits. -/
def hexByte (byte : UInt8) : String :=
  String.ofList (fixedHexDigits 2 byte.toNat)

/-- A word as four digits. -/
def hexWord (word : UInt16) : String :=
  String.ofList (fixedHexDigits 4 word.toNat)

/-- A number with as many digits as it needs. -/
def hexShort (value : Nat) : String :=
  String.ofList (shortHexDigits value)

/-- A number with as many digits as it needs, and zeros before them up to `width`. -/
def hexPadded (width value : Nat) : String :=
  let digits := shortHexDigits value
  String.ofList (List.replicate (width - digits.length) '0' ++ digits)

/-- The value of a digit, if it is one in a base of at most thirty-six. -/
def digitValue? (base : Nat) (c : Char) : Option Nat :=
  let code := c.toNat
  let value? :=
    if 0x30 ≤ code ∧ code ≤ 0x39 then some (code - 0x30)
    else if 0x41 ≤ code ∧ code ≤ 0x5A then some (code - 0x37)
    else if 0x61 ≤ code ∧ code ≤ 0x7A then some (code - 0x57)
    else none
  value?.filter (· < base)

/-- The number written by a list of digits, `none` if one of them is no digit of the base. -/
def digitsValue? (base : Nat) (cs : List Char) : Option Nat :=
  cs.foldlM (fun value c => (digitValue? base c).map (value * base + ·)) 0

/-- The bytes written by pairs of hexadecimal digits. -/
def hexBytes? : List Char → Option (List UInt8)
  | [] => some []
  | [_] => none
  | high :: low :: rest => do
      let high ← digitValue? 16 high
      let low ← digitValue? 16 low
      let bytes ← hexBytes? rest
      return UInt8.ofNat (16 * high + low) :: bytes

end Monitor8080.Text
