import Monitor8080.Json.Basic
import Monitor8080.Text.Hex
import Monitor8080.Text.Layout
namespace Monitor8080.Json

/-!
# Writing JSON text

`render` writes a value on one line with no blanks; `renderPretty` puts every
item and member on a line of its own, indented by two spaces a level. Both
escape the quote, the backslash and the control characters, and nothing else.
What is no text has no writing, and null stands in its place.
-/

/-- A character as it stands inside a string. -/
def escapedChar (c : Char) : List Char :=
  if c = '\x22' then ['\\', '\x22']
  else if c = '\\' then ['\\', '\\']
  else if c = '\x08' then ['\\', 'b']
  else if c = '\x0c' then ['\\', 'f']
  else if c = '\n' then ['\\', 'n']
  else if c = '\r' then ['\\', 'r']
  else if c = '\t' then ['\\', 't']
  else if c.toNat < 0x20 then
    ['\\', 'u'] ++ (Text.fixedHexDigits 4 c.toNat).map Char.toLower
  else [c]

def quoted (text : String) : String :=
  String.ofList ('\x22' :: text.toList.flatMap escapedChar ++ ['\x22'])

/-- The spaces before a line at some depth. -/
def indentation (depth : Nat) : String :=
  String.ofList (List.replicate (2 * depth) ' ')

mutual

/-- A value on one line. -/
def render : Json → String
  | .null | .unreadable => "null"
  | .bool value => if value then "true" else "false"
  | .int value => toString value
  | .float text => text
  | .string text => quoted text
  | .array items => "[" ++ Text.join "," (renderItems items) ++ "]"
  | .object members => "\x7b" ++ Text.join "," (renderMembers members) ++ "\x7d"

/-- Array items, each on one line. -/
def renderItems : List Json → List String
  | [] => []
  | item :: items => render item :: renderItems items

/-- Object members, each on one line. -/
def renderMembers : List (String × Json) → List String
  | [] => []
  | (name, value) :: members => (quoted name ++ ":" ++ render value) :: renderMembers members

end

/-- Lines in brackets, with commas at their ends and the closing bracket at some depth. -/
def block (opening closing : String) (depth : Nat) (lines : List String) : String :=
  opening ++ "\n" ++ Text.join ",\n" lines ++ "\n" ++ indentation depth ++ closing

mutual

/-- A value whose inner lines stand at some depth. -/
def renderPrettyAt (depth : Nat) : Json → String
  | .null | .unreadable => "null"
  | .bool value => if value then "true" else "false"
  | .int value => toString value
  | .float text => text
  | .string text => quoted text
  | .array [] => "[]"
  | .array items => block "[" "]" depth (renderPrettyItems (depth + 1) items)
  | .object [] => "\x7b\x7d"
  | .object members => block "\x7b" "\x7d" depth (renderPrettyMembers (depth + 1) members)

/-- Array items, each on lines of its own. -/
def renderPrettyItems (depth : Nat) : List Json → List String
  | [] => []
  | item :: items =>
      (indentation depth ++ renderPrettyAt depth item) :: renderPrettyItems depth items

/-- Object members, each on lines of its own. -/
def renderPrettyMembers (depth : Nat) : List (String × Json) → List String
  | [] => []
  | (name, value) :: members =>
      (indentation depth ++ quoted name ++ ": " ++ renderPrettyAt depth value)
        :: renderPrettyMembers depth members

end

/-- A value over several lines. -/
def renderPretty (value : Json) : String :=
  renderPrettyAt 0 value

end Monitor8080.Json
