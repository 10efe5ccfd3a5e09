import Monitor8080.Pattern.Brackets
import Monitor8080.Text.Letters
namespace Monitor8080.Pattern

/-!
# Reading patterns

The reader goes through a pattern once. It descends into groups, keeps the
items of the sequence that it is in and the branches before it, and applies a
repetition to the item read last. `read?` is the entry point.
-/

/-! ## Groups -/

/-- The flags that a group may name. -/
def flagLetters : List Char :=
  ['i', 'm', 's', 'U', 'u', 'R', 'x']

/-- How letters before and after a hyphen change a flag. -/
def changeOf? (flag : Char) (cs : List Char) : Option Bool :=
  match cs.span (· != '-') with
  | (on, off) =>
      if on.contains flag then some true
      else if off.contains flag then some false
      else none

/-- The change that letters with at most one hyphen between them stand for. -/
def flagChange? (cs : List Char) : Option FlagChange :=
  if cs.all (fun c => c == '-' || flagLetters.contains c) && cs.Nodup &&
      cs.getLast? != some '-' then
    some ⟨changeOf? 'u' cs, changeOf? 'x' cs⟩
  else
    none

/-- Whether a character may start the name of a group. -/
def startsName (c : Char) : Bool :=
  c == '_' || Text.isLetter c

/-- Whether a character may go on the name of a group. -/
def continuesName (c : Char) : Bool :=
  ['_', '.', '[', ']'].contains c || Text.isLetterOrNumeral c

/-- The name of a group and the rest after the angle bracket that ends it. -/
def groupName? (cs : List Char) : Option (String × List Char) :=
  match cs.span (· != '>') with
  | (first :: name, '>' :: rest) =>
      if startsName first && name.all continuesName then
        some (String.ofList (first :: name), rest)
      else
        none
  | _ => none

/-- What an opening parenthesis starts. -/
inductive Opening where
  | flags (change : FlagChange)
  | group (name? : Option String) (change : FlagChange)
  deriving Repr, DecidableEq

/-- What an opening parenthesis starts, and the rest; the parenthesis is already gone. -/
def opening? (ignoresBlanks : Bool) (cs : List Char) : Option (Opening × List Char) :=
  match ahead ignoresBlanks cs with
  | '?' :: '=' :: _ | '?' :: '!' :: _ | '?' :: '<' :: '=' :: _ | '?' :: '<' :: '!' :: _ => none
  | '?' :: 'P' :: '<' :: rest | '?' :: '<' :: rest =>
      (groupName? rest).map fun (name, rest) => (.group (some name) .none, rest)
  | '?' :: rest =>
      match rest.span fun c => c != ':' && c != ')' with
      | ([], ')' :: _) => none
      | (letters, ')' :: rest) => (flagChange? letters).map (.flags ·, rest)
      | (letters, _ :: rest) => (flagChange? letters).map (.group none ·, rest)
      | (_, []) => none
  | rest => some (.group none .none, rest)

/-! ## Repetitions -/

/-- Whether there is something to repeat. -/
def isRepeatable : Pattern → Bool
  | .flags _ => false
  | _ => true

/-- The largest count of a repetition. -/
def largestCount : Nat := 0xFFFFFFFF

/-- The digits that a text goes on with, last digit first, and the rest. -/
def countDigits (ignoresBlanks : Bool) :
    (fuel : Nat) → (done : List Char) → List Char → List Char × List Char
  | fuel + 1, done, c :: cs =>
      if c.isDigit then
        countDigits ignoresBlanks fuel (c :: done) (ahead ignoresBlanks cs)
      else
        (done, c :: cs)
  | _, done, cs => (done, cs)

/-- A count with blanks around it, and the rest. -/
def count? (ignoresBlanks : Bool) (cs : List Char) : Option (Nat × List Char) := do
  let cs := cs.dropWhile Text.isBlank
  let (digits, rest) := countDigits ignoresBlanks cs.length [] cs
  let value ← Text.digitsValue? 10 digits.reverse
  if digits.isEmpty ∨ largestCount < value then
    none
  else
    return (value, ahead ignoresBlanks (rest.dropWhile Text.isBlank))

/-- The bounds of a repetition and the rest; the opening brace is already gone. -/
def bounds? (ignoresBlanks : Bool) (cs : List Char) : Option (Nat × Option Nat × List Char) := do
  let (least, rest) ← count? ignoresBlanks (ahead ignoresBlanks cs)
  match rest with
  | '\x7d' :: rest => return (least, some least, rest)
  | ',' :: rest =>
      match ahead ignoresBlanks rest with
      | '\x7d' :: rest => return (least, none, rest)
      | rest =>
          let (most, rest) ← count? ignoresBlanks rest
          match rest with
          | '\x7d' :: rest => if least ≤ most then return (least, some most, rest) else none
          | _ => none
  | _ => none

/-- The text behind a question mark that makes a repetition lazy, if there is one. -/
def afterLazy : List Char → List Char
  | '?' :: rest => rest
  | rest => rest

/-- The bounds of the repetition that a sign or a brace starts, and the rest. -/
def repetition? (ignoresBlanks : Bool) : List Char → Option (Nat × Option Nat × List Char)
  | '?' :: rest => some (0, some 1, afterLazy rest)
  | '*' :: rest => some (0, none, afterLazy rest)
  | '+' :: rest => some (1, none, afterLazy rest)
  | '\x7b' :: rest =>
      (bounds? ignoresBlanks rest).map fun (least, most?, rest) =>
        (least, most?, afterLazy (ahead ignoresBlanks rest))
  | _ => none

/-- The signs that repeat what stands before them. -/
def repetitionSigns : List Char :=
  ['?', '*', '+', '\x7b']

/-! ## Whole patterns -/

/-- An item that is neither a group nor a repetition, and the rest. -/
def item? (ignoresBlanks : Bool) : List Char → Option (Pattern × List Char)
  | [] => none
  | '[' :: rest => (brackets? ignoresBlanks rest).map fun (set, rest) => (.oneOf set, rest)
  | '\\' :: rest =>
      (escape? ignoresBlanks rest).map fun (atom, rest) =>
        match atom with
        | .char c isByte => (.literal c isByte, rest)
        | .set named isNegated => (.oneOf (.named named isNegated), rest)
        | .assertion => (.assertion, rest)
  | '.' :: rest => some (.dot, rest)
  | '^' :: rest | '$' :: rest => some (.assertion, rest)
  | c :: rest => some (.literal c false, rest)

/-- The pattern of branches and the items of the last one, each list with its last one first. -/
def close (branches items : List Pattern) : Pattern :=
  ofBranches (ofItems items.reverse :: branches).reverse

/--
The pattern up to the parenthesis that closes its group or to the end, and the
rest, given the branches and the items read before, last one first.
-/
def body? : (fuel : Nat) → (ignoresBlanks : Bool) → (branches items : List Pattern) →
    List Char → Option (Pattern × List Char)
  | 0, _, _, _, _ => none
  | fuel + 1, ignoresBlanks, branches, items, cs =>
      match ahead ignoresBlanks cs with
      | [] => some (close branches items, [])
      | ')' :: rest => some (close branches items, ')' :: rest)
      | '|' :: rest => body? fuel ignoresBlanks (ofItems items.reverse :: branches) [] rest
      | '(' :: rest => do
          match ← opening? ignoresBlanks rest with
          | (.flags change, rest) =>
              let ignoresBlanks := change.ignoresBlanks?.getD ignoresBlanks
              body? fuel ignoresBlanks branches (.flags change :: items) rest
          | (.group name? change, rest) =>
              let inside := change.ignoresBlanks?.getD ignoresBlanks
              let (inner, rest) ← body? fuel inside [] [] rest
              match rest with
              | ')' :: rest =>
                  body? fuel ignoresBlanks branches (.group name? change inner :: items) rest
              | _ => none
      | c :: rest =>
          if repetitionSigns.contains c then
            match items with
            | [] => none
            | last :: items => do
                let (least, most?, rest) ← repetition? ignoresBlanks (c :: rest)
                if isRepeatable last then
                  body? fuel ignoresBlanks branches (.repetition least most? last :: items) rest
                else
                  none
          else do
            let (item, rest) ← item? ignoresBlanks (c :: rest)
            body? fuel ignoresBlanks branches (item :: items) rest

/-- The pattern that a whole text writes. -/
def read? (text : String) : Option Pattern := do
  let cs := text.toList
  let (pattern, rest) ← body? (cs.length + 1) false [] [] cs
  if rest.isEmpty then return pattern else none

end Monitor8080.Pattern
