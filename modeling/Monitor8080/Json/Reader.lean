import Monitor8080.Json.Escape
namespace Monitor8080.Json

/-!
# Reading JSON text

The reader accepts exactly the JSON grammar: no trailing commas, no comments,
no control characters inside strings, and nothing but blanks after the value.
It first gives strings and names as they are written between their quotes
(`written?`); `read?` gives the value that they stand for.
-/

/-- The text without leading JSON blanks. -/
def skipBlanks (cs : List Char) : List Char :=
  cs.dropWhile fun c => c == ' ' || c == '\t' || c == '\n' || c == '\r'

/-- The rest after a fixed word. -/
def afterWord? : (word text : List Char) → Option (List Char)
  | [], rest => some rest
  | _ :: _, [] => none
  | w :: word, c :: rest => if w = c then afterWord? word rest else none

/-- The characters after the backslash of an escape that stands for one character. -/
def shortEscapes : List Char :=
  ['\x22', '\\', '/', 'b', 'f', 'n', 'r', 't']

/-- An escape as it is written, and the rest; the backslash is already gone. -/
def escape? : List Char → Option (List Char × List Char)
  | 'u' :: a :: b :: c :: d :: rest =>
      if [a, b, c, d].all (Text.digitValue? 16 · |>.isSome) then
        some (['\\', 'u', a, b, c, d], rest)
      else
        none
  | c :: rest => if shortEscapes.contains c then some (['\\', c], rest) else none
  | [] => none

/--
What is written up to the closing quote and the rest after it, given what was
already read, last character first.
-/
def stringBody? : (fuel : Nat) → (done : List Char) → List Char → Option (List Char × List Char)
  | 0, _, _ => none
  | _ + 1, _, [] => none
  | _ + 1, done, '\x22' :: rest => some (done.reverse, rest)
  | fuel + 1, done, '\\' :: rest =>
      match escape? rest with
      | some (escape, rest) => stringBody? fuel (escape.reverse ++ done) rest
      | none => none
  | fuel + 1, done, c :: rest =>
      if c.toNat < 0x20 then none else stringBody? fuel (c :: done) rest

/-- What is written in a string whose opening quote is already gone, and the rest. -/
def string? (cs : List Char) : Option (String × List Char) :=
  (stringBody? (cs.length + 1) [] cs).map fun (body, rest) => (String.ofList body, rest)

/-- The leading decimal digits and the rest. -/
def digits (cs : List Char) : List Char × List Char :=
  cs.span Char.isDigit

/-- The digits before the point: a lone zero, or digits that start with another one. -/
def wholeDigits? (cs : List Char) : Option (List Char × List Char) :=
  match digits cs with
  | ([], _) => none
  | ('0' :: _ :: _, _) => none
  | (whole, rest) => some (whole, rest)

/-- The fraction with its point, empty if there is none. -/
def fraction? : List Char → Option (List Char × List Char)
  | '.' :: rest =>
      match digits rest with
      | ([], _) => none
      | (places, rest) => some ('.' :: places, rest)
  | rest => some ([], rest)

/-- The exponent with its letter and sign, empty if there is none. -/
def exponent? : List Char → Option (List Char × List Char)
  | letter :: rest =>
      if letter = 'e' ∨ letter = 'E' then
        let (sign, rest) : List Char × List Char :=
          match rest with
          | '+' :: rest => (['+'], rest)
          | '-' :: rest => (['-'], rest)
          | rest => ([], rest)
        match digits rest with
        | ([], _) => none
        | (places, rest) => some (letter :: sign ++ places, rest)
      else
        some ([], letter :: rest)
  | [] => some ([], [])

/-- A number without fraction and exponent is an integer if 64 bits hold it and it is not `-0`. -/
def integer? (negative : Bool) (whole : List Char) : Option Int :=
  let magnitude := (Text.digitsValue? 10 whole).getD 0
  if negative then
    if magnitude = 0 ∨ 0x8000000000000000 < magnitude then none else some (-(magnitude : Int))
  else
    if magnitude < 0x10000000000000000 then some magnitude else none

def number? (cs : List Char) : Option (Json × List Char) := do
  let (negative, rest) : Bool × List Char :=
    match cs with
    | '-' :: rest => (true, rest)
    | rest => (false, rest)
  let (whole, rest) ← wholeDigits? rest
  let (places, rest) ← fraction? rest
  let (power, rest) ← exponent? rest
  let sign := if negative then ['-'] else []
  let text := String.ofList (sign ++ whole ++ places ++ power)
  if places.isEmpty && power.isEmpty then
    match integer? negative whole with
    | some value => return (.int value, rest)
    | none => return (.float text, rest)
  else
    return (.float text, rest)

mutual

/-- A value and the rest after it. -/
def value? : (fuel : Nat) → List Char → Option (Json × List Char)
  | 0, _ => none
  | fuel + 1, cs =>
      match skipBlanks cs with
      | [] => none
      | 'n' :: rest => (afterWord? ['u', 'l', 'l'] rest).map (.null, ·)
      | 't' :: rest => (afterWord? ['r', 'u', 'e'] rest).map (.bool true, ·)
      | 'f' :: rest => (afterWord? ['a', 'l', 's', 'e'] rest).map (.bool false, ·)
      | '\x22' :: rest => (string? rest).map fun (text, rest) => (.string text, rest)
      | '[' :: rest =>
          match skipBlanks rest with
          | ']' :: rest => some (.array [], rest)
          | rest => (items? fuel rest).map fun (items, rest) => (.array items, rest)
      | '\x7b' :: rest =>
          match skipBlanks rest with
          | '\x7d' :: rest => some (.object [], rest)
          | rest => (members? fuel rest).map fun (members, rest) => (.object members, rest)
      | rest => number? rest

/-- One or more array items up to the closing bracket, and the rest. -/
def items? : (fuel : Nat) → List Char → Option (List Json × List Char)
  | 0, _ => none
  | fuel + 1, cs => do
      let (item, rest) ← value? fuel cs
      match skipBlanks rest with
      | ']' :: rest => return ([item], rest)
      | ',' :: rest =>
          let (items, rest) ← items? fuel rest
          return (item :: items, rest)
      | _ => none

/-- One or more object members up to the closing brace, and the rest. -/
def members? : (fuel : Nat) → List Char → Option (List (String × Json) × List Char)
  | 0, _ => none
  | fuel + 1, cs => do
      let rest ← afterWord? ['\x22'] (skipBlanks cs)
      let (name, rest) ← string? rest
      let rest ← afterWord? [':'] (skipBlanks rest)
      let (value, rest) ← value? fuel rest
      match skipBlanks rest with
      | '\x7d' :: rest => return ([(name, value)], rest)
      | ',' :: rest =>
          let (members, rest) ← members? fuel rest
          return ((name, value) :: members, rest)
      | _ => none

end

/-- The value that a whole text writes, with its strings and names as they are written. -/
def written? (text : String) : Option Json := do
  let cs := text.toList
  let (value, rest) ← value? (2 * cs.length + 2) cs
  if (skipBlanks rest).isEmpty then return value else none

/-- The value that a whole text stands for. -/
def read? (text : String) : Option Json :=
  (written? text).map unescaped

end Monitor8080.Json
