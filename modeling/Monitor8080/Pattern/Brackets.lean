import Monitor8080.Pattern.Escape
namespace Monitor8080.Pattern

/-!
# Sets in brackets

Brackets hold characters, ranges, escapes, named classes and further brackets,
whose characters are taken together. Two ampersands, hyphens or tildes combine
what stands before them with what follows. A hyphen or a closing bracket right
at the start stands for itself.
-/

/-- The names of the classes of ASCII characters. -/
def asciiNames : List (List Char) :=
  ["alnum", "alpha", "ascii", "blank", "cntrl", "digit", "graph", "lower", "print", "punct",
    "space", "upper", "word", "xdigit"].map String.toList

/-- A named class and the rest, if one follows; the opening bracket is already gone. -/
def asciiClass? : List Char → Option (CharSet × List Char)
  | ':' :: rest =>
      let (isNegated, rest) : Bool × List Char :=
        match rest with
        | '^' :: rest => (true, rest)
        | rest => (false, rest)
      match rest.span (· != ':') with
      | (name, ':' :: ']' :: rest) =>
          if asciiNames.contains name then some (.named .ascii isNegated, rest) else none
      | _ => none
  | _ => none

/-- What an atom stands for in brackets, where assertions have no meaning. -/
def Atom.item? : Atom → Option CharSet
  | .char c _ => some (.char c)
  | .set named isNegated => some (.named named isNegated)
  | .assertion => none

/-- The character that an atom stands for as the end of a range. -/
def Atom.bound? : Atom → Option Char
  | .char c _ => some c
  | .set _ _ | .assertion => none

/-- An atom in brackets, and the rest. -/
def atom? (ignoresBlanks : Bool) : List Char → Option (Atom × List Char)
  | [] => none
  | '\\' :: rest => escape? ignoresBlanks rest
  | c :: rest => some (.char c false, rest)

/--
The character behind a hyphen, by which a range is told. Where blanks are
ignored they are skipped, with the sign of a comment but not with its text.
-/
def charBehind? (ignoresBlanks : Bool) (cs : List Char) : Option Char :=
  if ignoresBlanks then
    match cs.dropWhile Text.isBlank with
    | '#' :: rest => (rest.dropWhile Text.isBlank).head?
    | rest => rest.head?
  else
    cs.head?

/-- A single item or a range in brackets, and the rest. -/
def itemOrRange? (ignoresBlanks : Bool) (cs : List Char) : Option (CharSet × List Char) := do
  let (first, rest) ← atom? ignoresBlanks cs
  match ahead ignoresBlanks rest with
  | [] => none
  | '-' :: rest =>
      let behind? := charBehind? ignoresBlanks rest
      if behind? = some ']' ∨ behind? = some '-' then
        return (← first.item?, '-' :: rest)
      else
        let (last, rest) ← atom? ignoresBlanks (ahead ignoresBlanks rest)
        let first ← first.bound?
        let last ← last.bound?
        if first ≤ last then return (.range first last, rest) else none
  | rest => return (← first.item?, rest)

/-- Hyphens at the start of brackets, and the rest. -/
def leadingHyphens (ignoresBlanks : Bool) : (fuel : Nat) → List Char → List CharSet × List Char
  | fuel + 1, '-' :: cs =>
      let (items, rest) := leadingHyphens ignoresBlanks fuel (ahead ignoresBlanks cs)
      (.char '-' :: items, rest)
  | _, cs => ([], cs)

/-- Whether brackets are negated, what stands for itself at their start, and the rest. -/
def bracketStart (ignoresBlanks : Bool) (cs : List Char) : Bool × List CharSet × List Char :=
  let (isNegated, rest) : Bool × List Char :=
    match ahead ignoresBlanks cs with
    | '^' :: rest => (true, ahead ignoresBlanks rest)
    | rest => (false, rest)
  match leadingHyphens ignoresBlanks rest.length rest with
  | ([], ']' :: rest) => (isNegated, [.char ']'], ahead ignoresBlanks rest)
  | (items, rest) => (isNegated, items, rest)

/-- What a pending operation and the items after it come to, of which the last comes first. -/
def combine (pending? : Option (SetOperation × CharSet)) (items : List CharSet) : CharSet :=
  let right := CharSet.ofItems items.reverse
  match pending? with
  | some (operation, left) => .combined operation left right
  | none => right

/-- The operation that a text starts with, and the rest. -/
def operation? : List Char → Option (SetOperation × List Char)
  | '&' :: '&' :: rest => some (.intersection, rest)
  | '-' :: '-' :: rest => some (.difference, rest)
  | '~' :: '~' :: rest => some (.symmetricDifference, rest)
  | _ => none

/-- What brackets hold up to their end and the rest, given what was already read of them. -/
def bracketBody? (ignoresBlanks : Bool) :
    (fuel : Nat) → (pending? : Option (SetOperation × CharSet)) → (items : List CharSet) →
      List Char → Option (CharSet × List Char)
  | 0, _, _, _ => none
  | fuel + 1, pending?, items, cs =>
      match ahead ignoresBlanks cs with
      | [] => none
      | ']' :: rest => some (combine pending? items, rest)
      | '[' :: rest =>
          match asciiClass? rest with
          | some (item, rest) => bracketBody? ignoresBlanks fuel pending? (item :: items) rest
          | none => do
              let (isNegated, start, rest) := bracketStart ignoresBlanks rest
              let (body, rest) ← bracketBody? ignoresBlanks fuel none start.reverse rest
              bracketBody? ignoresBlanks fuel pending? (.bracketed isNegated body :: items) rest
      | rest =>
          match operation? rest with
          | some (operation, rest) =>
              let left := combine pending? items
              bracketBody? ignoresBlanks fuel (some (operation, left)) [] rest
          | none => do
              let (item, rest) ← itemOrRange? ignoresBlanks rest
              bracketBody? ignoresBlanks fuel pending? (item :: items) rest

/-- A set in brackets, and the rest; the opening bracket is already gone. -/
def brackets? (ignoresBlanks : Bool) (cs : List Char) : Option (CharSet × List Char) := do
  let (isNegated, start, rest) := bracketStart ignoresBlanks cs
  let (body, rest) ← bracketBody? ignoresBlanks (rest.length + 1) none start.reverse rest
  return (.bracketed isNegated body, rest)

end Monitor8080.Pattern
