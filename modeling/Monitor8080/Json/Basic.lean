namespace Monitor8080

/-!
# JSON values

A value keeps the members of an object in the order written, repeated names
included, since readers differ in what a repetition means to them. Integers of
64 bits are told apart from every other number, which keeps its text. A string
whose escapes stand for half a character only is no text; it does no harm where
nobody asks for it.
-/

/-- A JSON value. -/
inductive Json where
  | null
  | bool (value : Bool)
  | int (value : Int)
  | float (text : String)
  | string (text : String)
  | array (items : List Json)
  | object (members : List (String × Json))
  /-- A string, or an object with a name, that is no text. -/
  | unreadable
  deriving Repr, Inhabited

namespace Json

/-- Members with one entry for each name: a repetition replaces the value in place. -/
def setMember (members : List (String × α)) (name : String) (value : α) : List (String × α) :=
  if members.any (·.1 == name) then
    members.map fun member => if member.1 == name then (name, value) else member
  else
    members ++ [(name, value)]

mutual

/-- The value with every object's repeated names reduced to the last value given. -/
def dedup : Json → Json
  | .array items => .array (dedupItems items)
  | .object members => .object (dedupMembers members [])
  | value => value

/-- The items of an array, each reduced. -/
def dedupItems : List Json → List Json
  | [] => []
  | item :: items => dedup item :: dedupItems items

/-- The members of an object added one by one to those already reduced. -/
def dedupMembers : List (String × Json) → List (String × Json) → List (String × Json)
  | [], reduced => reduced
  | (name, value) :: members, reduced =>
      dedupMembers members (setMember reduced name (dedup value))

end

end Json

end Monitor8080
