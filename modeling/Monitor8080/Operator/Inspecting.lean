import Monitor8080.CallChain
import Monitor8080.Operator.Operation
namespace Monitor8080.Operation

/-!
# Operations that inspect

The execution history, the opcode counts, the chain of calls and the symbols
are shown without any change to the session but its output.
-/

/-! ## History -/

/-- What a listing of the history is limited to. -/
inductive HistoryFilter where
  | all
  | calls
  | mnemonic (start : String)

/-- Whether an instruction passes a filter. -/
def HistoryFilter.accepts (filter : HistoryFilter) (decoded : Decoded) : Bool :=
  match filter with
  | .all => true
  | .calls => decoded.isCall
  | .mnemonic start => start.toList.isPrefixOf decoded.mnemonic.toList

/-- The filter that a text names: a text that starts like a mnemonic is one. -/
def historyFilter? (text : String) : Option HistoryFilter :=
  match text.toList with
  | c :: _ =>
      if c.isAlpha || c == '.' then
        let start := text.toUpper
        some (if start = "CALL" then .calls else .mnemonic start)
      else
        none
  | [] => none

/-- The lines of some recorded addresses, without the instructions that a filter refuses. -/
def historyLines (session : Session) (addresses : List UInt16) (filter : HistoryFilter) :
    List String :=
  let decoded :=
    addresses.map fun address =>
      decode session.machine.memory address session.monitor.dialect none
  (decoded.filter filter.accepts).map Decoded.line

/-- Shows the instructions executed last: how many back, and how many of them or which. -/
def listHistory (back? limit? : Option String) : Operation Unit := do
  if !(← observe (·.monitor.sentry.history.isOn)) then
    throw .historyNotRecorded
  let back ← countOr (← observe (·.monitor.config.unassembleCount)) back?
  let (number, filter) ←
    match limit? with
    | none => pure (back, HistoryFilter.all)
    | some text =>
        match historyFilter? text with
        | some filter => pure (back, filter)
        | none => do pure (← count text, HistoryFilter.all)
  let addresses ← observe fun session => session.monitor.sentry.history.entries back number
  printAllOr "history empty" (← observe fun session => historyLines session addresses filter)

def frequencyLine (dialect : Dialect) (opcode : UInt8) (count : Nat) : String :=
  Text.hexByte opcode ++ " "
    ++ Text.padRight 6 ((Instruction.ofOpcode opcode).mnemonic dialect)
    ++ " " ++ toString count

/-- Shows the opcode counts, or sets them to zero. -/
def frequencies (isClear : Bool) : Operation Unit := do
  if isClear then
    updateMonitor fun monitor =>
      { monitor with sentry := { monitor.sentry with
          history := monitor.sentry.history.forgetFrequencies } }
  else
    let dialect ← observe (·.monitor.dialect)
    let counts ← observe (·.monitor.sentry.history.frequencies)
    printAllOr "no instructions recorded" <|
      counts.map fun entry => frequencyLine dialect entry.1 entry.2

/-! ## Calls and symbols -/

/-- Shows the chain of calls, with symbols if wanted. -/
def listCalls (withSymbols : Bool) (count? : Option String) : Operation Unit := do
  let number ← countOr (← observe (·.monitor.config.maxStackFrames)) count?
  let frames ← observe fun session =>
    CallChain.frames
      { memory := session.machine.memory
        dialect := session.monitor.dialect
        scanWindow := session.monitor.config.callScanWindow
        symbols? := if withSymbols then some session.monitor.symbols else none }
      session.machine.cpu number
  printAllOr "no stack frames" (frames.map CallFrame.line)

/-- The lines that tell which symbol is at an address, or which ones it lies between. -/
def nearestLines (symbols : SymbolTable) (address : UInt16) : List String :=
  match symbols.vicinity? address true with
  | none => ["no symbol near " ++ Text.hexWord address]
  | some ⟨some symbol, _, _⟩ => [Text.hexWord address ++ " = " ++ symbol.name]
  | some ⟨none, preceding?, following?⟩ =>
      let before :=
        preceding?.toList.map fun symbol =>
          Text.hexWord symbol.address ++ " " ++ symbol.name ++ "+"
            ++ Text.hexShort (address - symbol.address).toNat
      let after :=
        following?.toList.map fun symbol =>
          Text.hexWord symbol.address ++ " " ++ symbol.name ++ "-"
            ++ Text.hexShort (symbol.address - address).toNat
      before ++ after

/-- Shows the symbol at an address, or its neighbours. -/
def describeAddress (text : String) : Operation Unit := do
  let target ← address text
  printAll (nearestLines (← observe (·.monitor.symbols)) target)

/-- Lists the symbols, or those whose names start with a text in either letter case. -/
def listNames (start? : Option String) : Operation Unit := do
  let start := (start?.getD "").toUpper.toList
  let symbols ← observe (·.monitor.symbols.listed)
  let listed := symbols.filter fun entry => start.isPrefixOf entry.2.name.toUpper.toList
  printAllOr "no symbols" <|
    listed.map fun entry =>
      Text.hexWord entry.2.address ++ " " ++ Text.padRight 24 entry.2.name ++ " " ++ entry.1

end Monitor8080.Operation
