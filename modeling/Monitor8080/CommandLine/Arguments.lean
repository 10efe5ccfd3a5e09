import Monitor8080.Text.Hex
namespace Monitor8080.CommandLine

/-!
# Program arguments

The program is called with at most one image and with options. An option that
takes a value has it behind an equals sign, behind its letter, or in the next
argument; only in the last case the value must not look like an option. After
a double hyphen every argument is an image.
-/

/-- An option that takes a value. -/
inductive ValueOption where
  | load
  | entry
  | symbols
  | config
  | state
  | logLevel
  | command
  deriving Repr, DecidableEq

namespace ValueOption

/-- Every option that takes a value. -/
def all : List ValueOption :=
  [.load, .entry, .symbols, .config, .state, .logLevel, .command]

/-- The name of an option behind two hyphens. -/
def name : ValueOption → String
  | .load => "load"
  | .entry => "entry"
  | .symbols => "symbols"
  | .config => "config"
  | .state => "state"
  | .logLevel => "log-level"
  | .command => "command"

/-- The letter of an option behind one hyphen, if it has one. -/
def letter? : ValueOption → Option Char
  | .load => some 'l'
  | .entry => some 'e'
  | .symbols => some 's'
  | .command => some 'c'
  | .config | .state | .logLevel => none

/-- Whether the value is the name of a file, which must not be empty. -/
def isPath : ValueOption → Bool
  | .symbols | .config | .state => true
  | .load | .entry | .logLevel | .command => false

/-- Whether the option may be given more than once. -/
def isRepeatable : ValueOption → Bool
  | .symbols | .command => true
  | .load | .entry | .config | .state | .logLevel => false

end ValueOption

/-- Why the arguments were refused. -/
inductive UsageError where
  | unknownOption (argument : String)
  | missingValue (option : ValueOption)
  | emptyPath
  | unexpectedValue
  | repeatedOption (name : String)
  | secondImage (path : String)
  deriving Repr, DecidableEq

def UsageError.message : UsageError → String
  | .unknownOption argument => "unexpected argument " ++ argument
  | .missingValue option => "a value is required for --" ++ option.name
  | .emptyPath => "a file name must not be empty"
  | .unexpectedValue => "--batch takes no value"
  | .repeatedOption name => "--" ++ name ++ " cannot be used multiple times"
  | .secondImage path => "unexpected argument " ++ path

/-- What an argument, together with the next one if it needs that, gives. -/
inductive Given where
  | image (path : String)
  | value (option : ValueOption) (text : String)
  | batch
  deriving Repr, DecidableEq

/-- What an argument is before its value is known. -/
inductive Argument where
  | complete (given : Given)
  | needsValue (option : ValueOption)
  | endOfOptions
  | refused (error : UsageError)

namespace Argument

/-- The text behind an equals sign, if there is one. -/
def attached? (cs : List Char) : Option String :=
  match cs.dropWhile (· != '=') with
  | [] => none
  | _ :: text => some (String.ofList text)

/-- An argument that starts with two hyphens, given what follows them. -/
def ofLong (argument : String) (cs : List Char) : Argument :=
  let name := String.ofList (cs.takeWhile (· != '='))
  match ValueOption.all.find? (·.name == name), attached? cs with
  | some option, some text => .complete (.value option text)
  | some option, none => .needsValue option
  | none, attached? =>
      if name != "batch" then .refused (.unknownOption argument)
      else if attached?.isSome then .refused .unexpectedValue
      else .complete .batch

/-- An argument that starts with one hyphen, given the letter and what follows it. -/
def ofShort (argument : String) (letter : Char) (cs : List Char) : Argument :=
  match ValueOption.all.find? (·.letter? == some letter), cs with
  | none, _ => .refused (.unknownOption argument)
  | some option, [] => .needsValue option
  | some option, '=' :: text => .complete (.value option (String.ofList text))
  | some option, text => .complete (.value option (String.ofList text))

/-- What an argument is; a lone hyphen is an image. -/
def ofText (argument : String) : Argument :=
  match argument.toList with
  | ['-', '-'] => .endOfOptions
  | '-' :: '-' :: cs => ofLong argument cs
  | '-' :: letter :: cs => ofShort argument letter cs
  | _ => .complete (.image argument)

end Argument

/-- Whether an argument can be the value of the option before it. -/
def canBeValue (argument : String) : Bool :=
  match argument.toList with
  | '-' :: _ :: _ => false
  | _ => true

/-- What the arguments give, in order. -/
def givenBy : List String → Except UsageError (List Given)
  | [] => .ok []
  | argument :: arguments =>
      match Argument.ofText argument with
      | .refused error => .error error
      | .endOfOptions => .ok (arguments.map .image)
      | .complete given => do return given :: (← givenBy arguments)
      | .needsValue option =>
          match arguments with
          | [] => .error (.missingValue option)
          | text :: arguments =>
              if canBeValue text then do
                return .value option text :: (← givenBy arguments)
              else
                .error (.missingValue option)

/-- What the program is called to do. -/
structure Invocation where
  image? : Option String
  load : String
  entry? : Option String
  /-- The symbol files, in order. -/
  symbols : List String
  config? : Option String
  state? : Option String
  logLevel : String
  /-- The operator lines to execute first, in order. -/
  commands : List String
  /-- Whether the program ends after those lines. -/
  isBatch : Bool
  deriving Repr, DecidableEq

namespace Invocation

/-- The values given for an option, in order. -/
def valuesOf (option : ValueOption) (given : List Given) : List String :=
  given.filterMap fun item =>
    match item with
    | .value other text => if other = option then some text else none
    | _ => none

/-- The values given for an option, of which only some options may have several. -/
def checkedValues (given : List Given) (option : ValueOption) :
    Except UsageError (List String) :=
  let texts := valuesOf option given
  if !option.isRepeatable ∧ 1 < texts.length then .error (.repeatedOption option.name)
  else if option.isPath ∧ texts.contains "" then .error .emptyPath
  else .ok texts

/-- The image, of which there is at most one. -/
def checkedImage (given : List Given) : Except UsageError (Option String) :=
  let paths := given.filterMap fun item =>
    match item with
    | .image path => some path
    | _ => none
  match paths with
  | [] => .ok none
  | [path] => if path.isEmpty then .error .emptyPath else .ok (some path)
  | _ :: path :: _ => .error (.secondImage path)

/-- What given arguments call the program to do. -/
def ofGiven (given : List Given) : Except UsageError Invocation := do
  let first? (option : ValueOption) : Except UsageError (Option String) := do
    return (← checkedValues given option).head?
  if 1 < given.count .batch then
    throw (.repeatedOption "batch")
  return {
    image? := ← checkedImage given
    load := (← first? .load).getD "0"
    entry? := ← first? .entry
    symbols := ← checkedValues given .symbols
    config? := ← first? .config
    state? := ← first? .state
    logLevel := (← first? .logLevel).getD "warn"
    commands := ← checkedValues given .command
    isBatch := given.contains .batch }

/-- What the arguments call the program to do. -/
def ofArguments (arguments : List String) : Except UsageError Invocation := do
  ofGiven (← givenBy arguments)

end Invocation

end Monitor8080.CommandLine
