import Monitor8080.Json.Basic
import Monitor8080.Json.Double
namespace Monitor8080.Json

/-!
# Values that can be kept

A value that is kept before it is understood, in a saved state or a symbol
file, has to be a text throughout, arrays and objects nest less than 128 deep
in it, and its numbers are held in double precision if 64 bits do not hold
them.
-/

/-- How deep arrays and objects may nest, one level too many. -/
def depthLimit : Nat := 128

/-- A number in double precision with all its digits, unless it is infinite. -/
def keptNumber? (text : String) : Option String :=
  (Double.ofText? text).map fun double =>
    (if text.startsWith "-" then "-" else "") ++ double.text

mutual

/-- A value as it is kept, if it nests less deep than a limit. -/
def keptWithin? : (limit : Nat) → Json → Option Json
  | limit, .array items =>
      match limit with
      | 0 | 1 => none
      | limit + 1 => (itemsKeptWithin? limit items).map .array
  | limit, .object members =>
      match limit with
      | 0 | 1 => none
      | limit + 1 => (membersKeptWithin? limit members).map .object
  | _, .float text => (keptNumber? text).map .float
  | _, .unreadable => none
  | _, value => some value

def itemsKeptWithin? : (limit : Nat) → List Json → Option (List Json)
  | _, [] => some []
  | limit, item :: items => do
      return (← keptWithin? limit item) :: (← itemsKeptWithin? limit items)

def membersKeptWithin? : (limit : Nat) → List (String × Json) → Option (List (String × Json))
  | _, [] => some []
  | limit, (name, value) :: members => do
      return (name, ← keptWithin? limit value) :: (← membersKeptWithin? limit members)

end

/-- A value as it is kept, if it can be. -/
def keep? (value : Json) : Option Json :=
  keptWithin? depthLimit value

end Monitor8080.Json
