import Monitor8080.CommandLine.Program

/-!
# The command line

Reads the files, enters the operator's lines as they come, prints the replies
and writes the state. What is done with them is the library's work.
-/

namespace Monitor8080.CommandLine

/-- What a path leads to. -/
def readPath (path : String) : IO Found := do
  try
    let bytes ← IO.FS.readBinFile path
    return .file bytes.toList
  catch
    | .noFileOrDirectory _ _ _ => return .missing
    | _ => return .directory

/-- What each of some paths leads to. -/
def readPaths (paths : List String) : IO Lookup := do
  let found ← paths.mapM fun path => do return (path, ← readPath path)
  return fun path => (found.lookup path).getD .missing

/-- Prints a text without delay. -/
def display (text : String) : IO Unit := do
  let output ← IO.getStdout
  output.putStr text
  output.flush

/-- Holds the dialogue until the input ends or the operator says farewell. -/
partial def converse (input : IO.FS.Stream) (session : Session) : IO Session := do
  display session.prompt
  let line ← input.getLine
  if line.isEmpty then
    return session
  match session.reply? line with
  | none => return session
  | some (text, session) =>
      display text
      converse input session

/-- Runs the program, and gives its exit code. -/
def runProgram (arguments : List String) : IO UInt32 := do
  match Invocation.ofArguments arguments with
  | .error error =>
      IO.eprintln error.message
      return usageCode
  | .ok invocation =>
      match start invocation (← readPaths invocation.inputPaths) with
      | (text, .error error) =>
          display text
          IO.eprintln error.message
          return error.exitCode
      | (text, .ok session) =>
          display text
          let session ←
            if invocation.isBatch then pure session else converse (← IO.getStdin) session
          match invocation.stateToWrite? session with
          | none => return 0
          | some (path, state) =>
              try
                IO.FS.writeFile path state
                return 0
              catch _ =>
                let error := ProgramError.unwritable path
                IO.eprintln error.message
                return error.exitCode

end Monitor8080.CommandLine

def main (arguments : List String) : IO UInt32 :=
  Monitor8080.CommandLine.runProgram arguments
