import Monitor8080.Json.Basic
import Monitor8080.Text.Hex
namespace Monitor8080.Json

/-!
# Escapes in JSON strings

A backslash starts an escape, which stands for a quote, a backslash, a control
character or any character by its code. Characters beyond the first 65536 take
two codes, a high surrogate and a low one; either of them alone is no text.
-/

/-- The value of four hexadecimal digits, and the rest. -/
def fourHex? : List Char → Option (Nat × List Char)
  | a :: b :: c :: d :: rest =>
      (Text.digitsValue? 16 [a, b, c, d]).map fun unit => (unit, rest)
  | _ => none

/-- The code of the low surrogate that an escape writes, and the rest. -/
def lowSurrogate? : List Char → Option (Nat × List Char)
  | '\\' :: 'u' :: rest => do
      let (unit, rest) ← fourHex? rest
      if 0xDC00 ≤ unit ∧ unit < 0xE000 then return (unit, rest) else none
  | _ => none

/-- The character whose code an escape writes, and the rest. -/
def charOfCode? (cs : List Char) : Option (Char × List Char) := do
  let (unit, rest) ← fourHex? cs
  if unit < 0xD800 ∨ 0xE000 ≤ unit then
    return (Char.ofNat unit, rest)
  else if unit < 0xDC00 then
    let (low, rest) ← lowSurrogate? rest
    return (Char.ofNat (0x10000 + (unit - 0xD800) * 0x400 + (low - 0xDC00)), rest)
  else
    none

/-- The character that an escape stands for, and the rest; the backslash is already gone. -/
def charOfEscape? : List Char → Option (Char × List Char)
  | 'b' :: rest => some ('\x08', rest)
  | 'f' :: rest => some ('\x0c', rest)
  | 'n' :: rest => some ('\n', rest)
  | 'r' :: rest => some ('\r', rest)
  | 't' :: rest => some ('\t', rest)
  | 'u' :: rest => charOfCode? rest
  | c :: rest => some (c, rest)
  | [] => none

/-- What is left to resolve of a string, given the characters resolved, last one first. -/
def unescapeFrom? : (fuel : Nat) → (done : List Char) → List Char → Option (List Char)
  | _, done, [] => some done.reverse
  | 0, _, _ :: _ => none
  | fuel + 1, done, '\\' :: rest =>
      match charOfEscape? rest with
      | some (c, rest) => unescapeFrom? fuel (c :: done) rest
      | none => none
  | fuel + 1, done, c :: rest => unescapeFrom? fuel (c :: done) rest

/-- The text that a string stands for, given what is written between its quotes. -/
def unescape? (written : String) : Option String :=
  let cs := written.toList
  (unescapeFrom? cs.length [] cs).map String.ofList

mutual

/-- The value with its strings and names resolved, given as they are written. -/
def unescaped : Json → Json
  | .string written =>
      match unescape? written with
      | some text => .string text
      | none => .unreadable
  | .array items => .array (unescapedItems items)
  | .object members =>
      match unescapedMembers? members with
      | some members => .object members
      | none => .unreadable
  | value => value

/-- The items of an array, each resolved. -/
def unescapedItems : List Json → List Json
  | [] => []
  | item :: items => unescaped item :: unescapedItems items

/-- The members of an object, each resolved, if every name is a text. -/
def unescapedMembers? : List (String × Json) → Option (List (String × Json))
  | [] => some []
  | (name, value) :: members => do
      let name ← unescape? name
      let members ← unescapedMembers? members
      return (name, unescaped value) :: members

end

end Monitor8080.Json
