import Monitor8080.Pattern.Validity
import Monitor8080.Text.Blank
import Monitor8080.Text.Layout
namespace Monitor8080.CommandLine

/-!
# Log filters

A log filter names what is to be logged: parts separated by commas, each a
level, a module, or a module with its level behind an equals sign. A pattern
for the logged text may follow behind a slash.
-/

namespace LogFilter

/-- The names of the levels. -/
def levels : List String :=
  ["off", "error", "warn", "info", "debug", "trace"]

/-- Whether a text names a level in either letter case. -/
def isLevel (cs : List Char) : Bool :=
  levels.contains (String.ofList (cs.map Char.toLower))

/-- Whether a trimmed part is well-formed; a word that is no level names a module. -/
def isPart (cs : List Char) : Bool :=
  match (Text.pieces '=' cs).map Text.trimChars with
  | [module] => !module.any Text.isBlank
  | [module, level] => !module.any Text.isBlank && (level.isEmpty || isLevel level)
  | _ => false

/-- Whether every part before the pattern is well-formed; empty parts are left out. -/
def areParts (cs : List Char) : Bool :=
  (((Text.pieces ',' cs).map Text.trimChars).filter (!·.isEmpty)).all isPart

def isFilter (text : String) : Bool :=
  match Text.pieces '/' text.toList with
  | [parts] => areParts parts
  | [parts, pattern] => areParts parts && Pattern.isPattern (String.ofList pattern)
  | _ => false

end LogFilter

end Monitor8080.CommandLine
