import Monitor8080.Pattern.Basic
import Monitor8080.Text.Blank
import Monitor8080.Text.Hex
namespace Monitor8080.Pattern

/-!
# Escapes in patterns

A backslash makes a sign stand for itself, and some letters and digits stand
for something else: a character by its code, a set of characters, or an
assertion. Where blanks are ignored, they may also stand inside an escape.
-/

/-- What follows blanks and comments, given whether a comment goes on. -/
def afterBlanks : (inComment : Bool) → List Char → List Char
  | _, [] => []
  | true, c :: cs => afterBlanks (c != '\n') cs
  | false, c :: cs =>
      if Text.isBlank c then afterBlanks false cs
      else if c = '#' then afterBlanks true cs
      else c :: cs

/-- What is left to read, without blanks and comments in front if they are ignored. -/
def ahead (ignoresBlanks : Bool) (cs : List Char) : List Char :=
  if ignoresBlanks then afterBlanks false cs else cs

/-- What an escape, or a character that needs none, stands for. -/
inductive Atom where
  | char (char : Char) (isByte : Bool)
  | set (set : NamedSet) (isNegated : Bool)
  | assertion
  deriving Repr, DecidableEq

/-- The character of a code, if there is one. -/
def charOfCode? (code : Nat) : Option Char :=
  if code.isValidChar then some (Char.ofNat code) else none

/-- The code that exactly so many hexadecimal digits go on to write, and the rest. -/
def fixedCode? (ignoresBlanks : Bool) : (count code : Nat) → List Char → Option (Nat × List Char)
  | 0, code, cs => some (code, cs)
  | _ + 1, _, [] => none
  | count + 1, code, c :: cs => do
      let digit ← Text.digitValue? 16 c
      fixedCode? ignoresBlanks count (16 * code + digit) (ahead ignoresBlanks cs)

/-- The text up to a closing brace, last character first, and the rest. -/
def braced? (ignoresBlanks : Bool) :
    (fuel : Nat) → (done : List Char) → List Char → Option (List Char × List Char)
  | 0, _, _ => none
  | fuel + 1, done, cs =>
      match ahead ignoresBlanks cs with
      | [] => none
      | '\x7d' :: rest => some (done, rest)
      | c :: rest => braced? ignoresBlanks fuel (c :: done) rest

/-- The text up to a closing brace, and the rest. -/
def bracedText? (ignoresBlanks : Bool) (cs : List Char) : Option (List Char × List Char) :=
  (braced? ignoresBlanks (cs.length + 1) [] cs).map fun (done, rest) => (done.reverse, rest)

/-- The character whose code is written in a number of digits or in braces, and the rest. -/
def charByCode? (ignoresBlanks : Bool) (count : Nat) (cs : List Char) :
    Option (Atom × List Char) := do
  match ahead ignoresBlanks cs with
  | '\x7b' :: rest =>
      let (digits, rest) ← bracedText? ignoresBlanks rest
      if digits.isEmpty then
        none
      else
        let char ← charOfCode? (← Text.digitsValue? 16 digits)
        return (.char char false, ahead ignoresBlanks rest)
  | rest =>
      let (code, rest) ← fixedCode? ignoresBlanks count 0 rest
      return (.char (← charOfCode? code) (count == 2), rest)

/-- A text cut at the first place where a mark stands, without the mark. -/
def cutAt? (mark : List Char) : List Char → Option (List Char × List Char)
  | [] => none
  | c :: cs =>
      if mark.isPrefixOf (c :: cs) then
        some ([], (c :: cs).drop mark.length)
      else
        (cutAt? mark cs).map fun (before, after) => (c :: before, after)

/-- The property that a text in braces names, with its value behind a mark if one is given. -/
def propertyOfText (text : List Char) : PropertyName :=
  match [['!', '='], [':'], ['=']].findSome? (cutAt? · text) with
  | some (name, value) => ⟨name, some value⟩
  | none => ⟨text, none⟩

/-- The property that a letter or a text in braces names, and the rest. -/
def property? (ignoresBlanks : Bool) (cs : List Char) : Option (PropertyName × List Char) :=
  match ahead ignoresBlanks cs with
  | [] => none
  | '\x7b' :: rest =>
      (bracedText? ignoresBlanks rest).map fun (text, rest) => (propertyOfText text, rest)
  | '\\' :: _ => none
  | c :: rest => some (⟨[c], none⟩, ahead ignoresBlanks rest)

/-- The names of the boundaries of words that stand in braces. -/
def boundaryNames : List (List Char) :=
  ["start", "end", "start-half", "end-half"].map String.toList

/-- Whether a character may stand in the name of a boundary. -/
def isBoundaryChar (c : Char) : Bool :=
  c.isAlpha || c == '-'

/-- The name of a boundary up to another character, last character first, and the rest. -/
def boundaryName (ignoresBlanks : Bool) :
    (fuel : Nat) → (done : List Char) → List Char → List Char × List Char
  | fuel + 1, done, c :: cs =>
      if isBoundaryChar c then
        boundaryName ignoresBlanks fuel (c :: done) (ahead ignoresBlanks cs)
      else
        (done, c :: cs)
  | _, done, cs => (done, cs)

/--
What follows a boundary of words, which may be told apart by a name in braces.
Braces that hold no letters are left for what they are after it.
-/
def afterBoundary? (ignoresBlanks : Bool) : List Char → Option (List Char)
  | '\x7b' :: rest =>
      match ahead ignoresBlanks rest with
      | [] => none
      | c :: cs =>
          if isBoundaryChar c then
            match boundaryName ignoresBlanks (cs.length + 1) [] (c :: cs) with
            | (name, '\x7d' :: after) =>
                if boundaryNames.contains name.reverse then some after else none
            | _ => none
          else
            some ('\x7b' :: rest)
  | rest => some rest

/-- Whether a backslash before a character makes it stand for itself. -/
def isEscapable (c : Char) : Bool :=
  c.toNat < 0x80 && !c.isAlphanum && c != '<' && c != '>'

/-- The character that a letter behind a backslash stands for. -/
def controlChar? (letter : Char) : Option Char :=
  [('a', '\x07'), ('f', '\x0c'), ('t', '\t'), ('n', '\n'), ('r', '\r'), ('v', '\x0b')].lookup
    letter

/-- The set of characters that a letter behind a backslash stands for, and whether all others. -/
def setOfLetter? (letter : Char) : Option (NamedSet × Bool) :=
  [('d', .digit, false), ('s', .blank, false), ('w', .word, false),
    ('D', .digit, true), ('S', .blank, true), ('W', .word, true)].lookup letter

/-- How many digits give a code behind a letter. -/
def codeLength? (letter : Char) : Option Nat :=
  [('x', 2), ('u', 4), ('U', 8)].lookup letter

/-- What an escape stands for, and the rest; the backslash is already gone. -/
def escape? (ignoresBlanks : Bool) : List Char → Option (Atom × List Char)
  | [] => none
  | 'p' :: rest =>
      (property? ignoresBlanks rest).map fun (name, rest) => (.set (.property name) false, rest)
  | 'P' :: rest =>
      (property? ignoresBlanks rest).map fun (name, rest) => (.set (.property name) true, rest)
  | 'b' :: rest => (afterBoundary? ignoresBlanks rest).map (.assertion, ·)
  | c :: rest =>
      match codeLength? c, setOfLetter? c, controlChar? c with
      | some count, _, _ => charByCode? ignoresBlanks count rest
      | none, some (named, isNegated), _ => some (.set named isNegated, rest)
      | none, none, some char => some (.char char false, rest)
      | none, none, none =>
          if ['A', 'z', 'B', '<', '>'].contains c then some (.assertion, rest)
          else if isEscapable c then some (.char c false, rest)
          else none

end Monitor8080.Pattern
