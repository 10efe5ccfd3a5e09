namespace Monitor8080.Text

/-!
# Blank characters

A character is blank when it has the Unicode property White_Space. Operator
lines are cut and trimmed at blanks, so the class is wider than the space and
the tab: it holds the no-break spaces and the typographic spaces too.
-/

/-- Whether a character has the Unicode property White_Space. -/
def isBlank (c : Char) : Bool :=
  let code := c.toNat
  (0x09 ≤ code && code ≤ 0x0D)
    || code == 0x20
    || code == 0x85
    || code == 0xA0
    || code == 0x1680
    || (0x2000 ≤ code && code ≤ 0x200A)
    || code == 0x2028
    || code == 0x2029
    || code == 0x202F
    || code == 0x205F
    || code == 0x3000

/-- The characters without the blanks before the first and after the last other one. -/
def trimChars (cs : List Char) : List Char :=
  ((cs.dropWhile isBlank).reverse.dropWhile isBlank).reverse

/-- The characters without the blanks after the last other one. -/
def trimCharsEnd (cs : List Char) : List Char :=
  (cs.reverse.dropWhile isBlank).reverse

/-- The text without the blanks at either end. -/
def trim (text : String) : String :=
  String.ofList (trimChars text.toList)

/-- The text without the blanks at its end. -/
def trimEnd (text : String) : String :=
  String.ofList (trimCharsEnd text.toList)

/-- A space or a tab, the only separators inside expressions and arguments. -/
def isGap (c : Char) : Bool :=
  c == ' ' || c == '\t'

end Monitor8080.Text
