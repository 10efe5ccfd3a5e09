import Monitor8080.Operator.Cutoff
namespace Monitor8080

/-!
# Dialogues

The operator enters lines until the input ends or a line says farewell. A
dialogue at a terminal shows a prompt with the program counter before each
line; what is then printed starts behind the prompt.
-/

namespace Text

/-- The lines of a text, each without the line feed that ends it. -/
def lineChars : List Char → List (List Char)
  | [] => []
  | '\n' :: rest => [] :: lineChars rest
  | c :: rest =>
      match lineChars rest with
      | [] => [[c]]
      | line :: lines => (c :: line) :: lines

def lines (text : String) : List String :=
  (lineChars text.toList).map String.ofList

/-- A text in which each line is ended by a line feed. -/
def unlines (lines : List String) : String :=
  String.join (lines.map (· ++ "\n"))

end Text

namespace Session

/-- Whether a line ends the dialogue. -/
def isFarewell (line : String) : Bool :=
  let line := Text.trim line
  line == "q" || line == "quit"

/-- Executes lines until one says farewell, and tells how many of them failed. -/
def listen (session : Session) : List String → Nat × Session
  | [] => (0, session)
  | line :: lines =>
      if isFarewell line then
        (0, session)
      else
        let (succeeded, session) := session.heed line
        let (failures, session) := listen session lines
        (if succeeded then failures else failures + 1, session)

/-- The prompt before a line. -/
def prompt (session : Session) : String :=
  Text.hexWord session.pc ++ " -> "

/-- The lines printed, as text, and the session without them. -/
def takeText (session : Session) : String × Session :=
  let (lines, monitor) := session.monitor.drain
  (Text.unlines lines, ⟨monitor, session.machine⟩)

/-- What is printed in reply to a line, and the session then; `none` for a farewell. -/
def reply? (session : Session) (line : String) : Option (String × Session) :=
  if isFarewell line then none else some (session.heed line).2.takeText

/-- What a terminal shows from a prompt on while lines are entered, and the session then. -/
def converse (session : Session) : List String → String × Session
  | [] => (session.prompt, session)
  | line :: lines =>
      match session.reply? line with
      | none => (session.prompt, session)
      | some (text, next) =>
          let (rest, last) := converse next lines
          (session.prompt ++ text ++ rest, last)

end Session

end Monitor8080
