import Monitor8080.Pattern.PropertyNames
namespace Monitor8080

/-!
# Patterns

A pattern describes texts: by characters, sets of characters and assertions
about a place, which are repeated, grouped, put in sequence and offered as
alternatives. Flags between parentheses change what follows them up to the end
of the group that they stand in.
-/

namespace Pattern

/-- A set of characters that has a name. -/
inductive NamedSet where
  | digit
  | blank
  | word
  /-- A class of ASCII characters. -/
  | ascii
  | property (name : PropertyName)
  deriving Repr, DecidableEq

/-- How two sets of characters are combined. -/
inductive SetOperation where
  | intersection
  | difference
  | symmetricDifference
  deriving Repr, DecidableEq

/-- A set of characters. -/
inductive CharSet where
  | char (char : Char)
  | range (first last : Char)
  | named (set : NamedSet) (isNegated : Bool)
  | union (items : List CharSet)
  | bracketed (isNegated : Bool) (body : CharSet)
  | combined (operation : SetOperation) (left right : CharSet)
  deriving Repr, Inhabited

/-- The set of what any of some items holds. -/
def CharSet.ofItems : List CharSet → CharSet
  | [item] => item
  | items => .union items

/-- What flags between parentheses change. -/
structure FlagChange where
  /-- Whether characters are those of Unicode, and not bytes. -/
  isUnicode? : Option Bool
  /-- Whether blanks and comments between the parts of a pattern are ignored. -/
  ignoresBlanks? : Option Bool
  deriving Repr, DecidableEq

/-- Flags that change nothing. -/
def FlagChange.none : FlagChange :=
  ⟨Option.none, Option.none⟩

end Pattern

/-- A pattern. -/
inductive Pattern where
  /-- A character, which stands for a byte if two digits give its code. -/
  | literal (char : Char) (isByte : Bool)
  /-- Any character that does not end a line. -/
  | dot
  | assertion
  | oneOf (set : Pattern.CharSet)
  | flags (change : Pattern.FlagChange)
  | repetition (least : Nat) (most? : Option Nat) (body : Pattern)
  | group (name? : Option String) (change : Pattern.FlagChange) (body : Pattern)
  | sequence (items : List Pattern)
  | choice (branches : List Pattern)
  deriving Repr, Inhabited

namespace Pattern

def ofItems : List Pattern → Pattern
  | [item] => item
  | items => .sequence items

/-- Alternatives, of which there may be only one. -/
def ofBranches : List Pattern → Pattern
  | [branch] => branch
  | branches => .choice branches

end Pattern

end Monitor8080
