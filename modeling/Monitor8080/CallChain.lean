import Monitor8080.Disassembly.Decode
import Monitor8080.Symbols.Table
namespace Monitor8080

/-!
# The chain of calls

A stack word is taken for a return address if a call or restart ends right
before the address it holds. The chain follows the stack upwards from the
stack pointer until a word is no such address or its call is shown by the same
line as the one before. There is no chain if the symbol of a call cannot be
told, since a group that it may lie in ends at no machine word; `frames` is the
chain with the ends of groups as numbers of any size.
-/

/-- A stack word that is a return address, with the call that it returns from. -/
structure CallFrame where
  stackPointer : UInt16
  returnAddress : UInt16
  call : Decoded
  symbol? : Option FoundSymbol
  deriving Repr, DecidableEq

namespace CallFrame

/-- The line that shows a frame, with the symbol that the call follows if one is known. -/
def line (frame : CallFrame) : String :=
  Text.hexWord frame.stackPointer ++ ": " ++ Text.hexWord frame.returnAddress ++ "  "
    ++ frame.call.line ++
    match frame.symbol? with
    | some symbol =>
        "  " ++ symbol.name ++ "+"
          ++ Text.hexShort (frame.call.address - symbol.address).toNat
    | none => ""

end CallFrame

namespace CallChain

/-- What a trace looks at. -/
structure View where
  memory : Memory
  dialect : Dialect
  scanWindow : Nat
  symbols? : Option SymbolTable

/-- The call that starts some bytes before an address and ends right before it. -/
def callBefore? (view : View) (returnAddress : UInt16) (distance : Nat) : Option Decoded :=
  let decoded :=
    decode view.memory (returnAddress - UInt16.ofNat distance) view.dialect none
  if decoded.isCall ∧ decoded.next = returnAddress then some decoded else none

/-- The nearest call within the window that ends right before an address. -/
def callEndingAt? (view : View) (returnAddress : UInt16) : Option Decoded :=
  (List.range' 1 view.scanWindow).findSome? (callBefore? view returnAddress)

/-- The symbol at an address, or else the one before it, where ends are numbers of any size. -/
def symbolFor? (view : View) (address : UInt16) : Option FoundSymbol := do
  let symbols ← view.symbols?
  let lookup ← symbols.vicinity? address true
  lookup.matching? <|> lookup.preceding?

/-- The symbol at an address, or else the one before it, unless the end of a group is no word. -/
def lookupFor (view : View) (address : UInt16) : Except Overflow (Option FoundSymbol) :=
  match view.symbols? with
  | none => .ok none
  | some symbols => do
      let lookup? ← symbols.lookup address true
      return lookup?.bind fun lookup => lookup.matching? <|> lookup.preceding?

/-- The frames from a stack word on, as many as wanted, given the line of the one before. -/
def framesFrom (view : View) (stackPointer : UInt16) (previous? : Option String) :
    (count : Nat) → List CallFrame
  | 0 => []
  | count + 1 =>
      let returnAddress := view.memory.word stackPointer
      match callEndingAt? view returnAddress with
      | none => []
      | some call =>
          let line := call.line
          if previous? = some line then
            []
          else
            ⟨stackPointer, returnAddress, call, symbolFor? view call.address⟩
              :: framesFrom view (stackPointer + 2) (some line) count

/-- The frames from the stack pointer on, as many as wanted. -/
def frames (view : View) (cpu : Cpu) (count : Nat) : List CallFrame :=
  framesFrom view cpu.sp none count

/-- The frames from a stack word on, unless the symbol of one cannot be told. -/
def traceFrom (view : View) (stackPointer : UInt16) (previous? : Option String) :
    (count : Nat) → Except Overflow (List CallFrame)
  | 0 => .ok []
  | count + 1 =>
      let returnAddress := view.memory.word stackPointer
      match callEndingAt? view returnAddress with
      | none => .ok []
      | some call =>
          let line := call.line
          if previous? = some line then
            .ok []
          else do
            let symbol? ← lookupFor view call.address
            let later ← traceFrom view (stackPointer + 2) (some line) count
            return ⟨stackPointer, returnAddress, call, symbol?⟩ :: later

/-- The frames from the stack pointer on, unless the end of a group of symbols is no word. -/
def trace (view : View) (cpu : Cpu) (count : Nat) : Except Overflow (List CallFrame) :=
  traceFrom view cpu.sp none count

end CallChain

end Monitor8080
