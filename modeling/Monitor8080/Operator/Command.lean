import Monitor8080.Error
import Monitor8080.Text.Quoted
namespace Monitor8080

/-!
# Operator commands

A command is a keyword and its arguments. Most arguments are words of the
line; an expression to print or to test is the whole rest of it, and registers
and variables have a form of their own with an equals sign.
-/

/-- The unit in which memory is shown or edited. -/
inductive MemoryUnit where
  | byte
  | word
  | doubleWord
  deriving Repr, DecidableEq

def MemoryUnit.bytes : MemoryUnit → Nat
  | .byte => 1
  | .word => 2
  | .doubleWord => 4

/-- What a trace shows: instructions, registers too, or only calls. -/
inductive TraceDetail where
  | plain
  | registers
  | calls
  deriving Repr, DecidableEq

/-- What is done to variables. -/
inductive VariableCommand where
  | list
  | show (name : String)
  | delete (name : String)
  | assign (name text : String)
  deriving Repr, DecidableEq

/-- A command of an operator line. -/
inductive Command where
  | help
  | assemble (address? mnemonic? : Option String) (operands : List String)
  | setBreakpoint (kind : BreakKind) (address : String) (script? : Option String)
  | removeBreakpoints (address? : Option String)
  | listBreakpoints
  | countDown (count? : Option String)
  | togglePort (direction : PortDirection) (port? : Option String)
  | dump (unit : MemoryUnit) (address? length? : Option String)
  | listHistory (back? filter? : Option String)
  | dumpMap
  | edit (unit : MemoryUnit) (address : String) (values : List String)
  | frequencies (isClear : Bool)
  | go (address? : Option String)
  | halt
  | readPort (port : String)
  | writePort (port byte : String)
  | listCalls (withSymbols : Bool) (count? : Option String)
  | describeAddress (address : String)
  | listNames (start? : Option String)
  | messages (topic? : Option String) (enable? : Option Bool)
  | stepPast (showRegisters : Bool)
  | print (text : String)
  | showRegisters
  | register (name : String) (value? : Option String)
  | options (arguments : List String)
  | trace (detail : TraceDetail) (count? : Option String)
  | disassemble (address? end? : Option String)
  | onVariables (access : VariableCommand)
  | ifTrue (condition : String)
  | orElse
  deriving Repr, DecidableEq

namespace Command

/-! ## Arguments with an equals sign -/

/-- The text after its leading spaces and tabs. -/
def skipGaps (cs : List Char) : List Char :=
  cs.dropWhile Text.isGap

/-- The name that a text starts with, and the text after it. -/
def leadingName? (cs : List Char) : Option (String × List Char) :=
  let name := cs.takeWhile Text.isWordChar
  if Text.isNameChars name then
    some (String.ofList name, cs.dropWhile Text.isWordChar)
  else
    none

/-- What the arguments of a variable command ask for. -/
def variableArguments? (cs : List Char) : Option VariableCommand :=
  let cs := skipGaps cs
  match leadingName? cs with
  | some (name, rest) =>
      match skipGaps rest with
      | [] => some (.show name)
      | '=' :: rest =>
          match Text.trimChars rest with
          | [] => some (.delete name)
          | value => some (.assign name (String.ofList value))
      | _ => none
  | none => if cs.isEmpty then some .list else none

/-- What the arguments of a register command ask for. -/
def registerArguments? (cs : List Char) : Option Command :=
  let cs := skipGaps cs
  match leadingName? cs with
  | some (name, rest) =>
      match skipGaps rest with
      | [] => some (.register name none)
      | '=' :: rest =>
          some (.register name (some (String.ofList (Text.trimChars rest))))
      | _ => none
  | none => if cs.isEmpty then some .showRegisters else none

/-! ## Whole commands -/

/-- The unit that a keyword names. -/
def memoryUnit (keyword : String) : MemoryUnit :=
  if keyword = "dw" ∨ keyword = "ew" then .word
  else if keyword = "dd" then .doubleWord
  else .byte

/-- The kind that a keyword sets breakpoints of. -/
def breakKind (keyword : String) : BreakKind :=
  if keyword = "bp" then .exec
  else if keyword = "br" then .read
  else .write

/-- Whether a switch is on or off, in either letter case. -/
def switch? (text : String) : Option Bool :=
  if text.toLower = "on" then some true
  else if text.toLower = "off" then some false
  else none

/-- What comes of a keyword and its arguments. -/
inductive Reading where
  | command (known : Command)
  | malformed
  | unknown

/-- A command, or malformed arguments. -/
def Reading.ofOption : Option Command → Reading
  | some known => .command known
  | none => .malformed

/--
The command of a keyword in small letters, with the text after it and the
words of that text.
-/
def ofKeyword (keyword : String) (text : List Char) (arguments : List String) : Reading :=
  let first? := arguments[0]?
  let second? := arguments[1]?
  match keyword with
  | "?" | "help" => .command .help
  | "a" => .command (.assemble first? second? (arguments.drop 2))
  | "bp" | "br" | "bw" =>
      .ofOption (first?.map fun address =>
        .setBreakpoint (breakKind keyword) address second?)
  | "bc" =>
      .ofOption (first?.map fun address =>
        .removeBreakpoints (if address = "*" then none else some address))
  | "bl" => .command .listBreakpoints
  | "bn" => .command (.countDown first?)
  | "bi" => .command (.togglePort .input first?)
  | "bo" => .command (.togglePort .output first?)
  | "d" | "db" | "dw" | "dd" => .command (.dump (memoryUnit keyword) first? second?)
  | "dh" => .command (.listHistory first? second?)
  | "dm" => .command .dumpMap
  | "e" | "eb" | "ew" =>
      match arguments with
      | address :: value :: values =>
          .command (.edit (memoryUnit keyword) address (value :: values))
      | _ => .malformed
  | "f" =>
      match first? with
      | none => .command (.frequencies false)
      | some "clear" => .command (.frequencies true)
      | some _ => .malformed
  | "g" => .command (.go first?)
  | "h" => .command .halt
  | "i" => .ofOption (first?.map .readPort)
  | "o" =>
      match arguments with
      | port :: byte :: _ => .command (.writePort port byte)
      | _ => .malformed
  | "k" => .command (.listCalls false first?)
  | "ks" => .command (.listCalls true first?)
  | "ln" => .ofOption (first?.map .describeAddress)
  | "ls" => .command (.listNames first?)
  | "m" =>
      match second? with
      | none => .command (.messages first? none)
      | some text =>
          .ofOption ((switch? text).map fun enable => .messages first? (some enable))
  | "p" => .command (.stepPast false)
  | "pr" => .command (.stepPast true)
  | "print" => if text.isEmpty then .malformed else .command (.print (String.ofList text))
  | "r" => .ofOption (registerArguments? text)
  | "s" => .command (.options arguments)
  | "t" => .command (.trace .plain first?)
  | "tr" => .command (.trace .registers first?)
  | "tc" => .command (.trace .calls first?)
  | "u" => .command (.disassemble first? second?)
  | "var" => .ofOption ((variableArguments? text).map .onVariables)
  | "if" => if text.isEmpty then .malformed else .command (.ifTrue (String.ofList text))
  | "else" => if text.isEmpty then .command .orElse else .malformed
  | _ => .unknown

/-- The command of a line, whose keyword may be in either letter case. -/
def ofChars (line : List Char) : Except MonitorError Command :=
  let line := Text.trimChars line
  let keyword := line.takeWhile (!Text.isBlank ·)
  let text := Text.trimChars (line.dropWhile (!Text.isBlank ·))
  let arguments := (Text.wordsFrom none none text).map String.ofList
  match ofKeyword (String.ofList (keyword.map Char.toLower)) text arguments with
  | .command known => .ok known
  | .malformed => .error (.malformed (String.ofList line))
  | .unknown => .error (.unknownCommand (String.ofList keyword))

def parse (line : String) : Except MonitorError Command :=
  ofChars line.toList

end Command

end Monitor8080
