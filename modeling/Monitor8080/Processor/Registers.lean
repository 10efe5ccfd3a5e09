import Monitor8080.Memory.Basic
import Monitor8080.Processor.Flags
import Monitor8080.Text.Hex
namespace Monitor8080

/-!
# Processor state

The seven byte registers pair up as `BC`, `DE` and `HL`, and the accumulator
with the status byte as `PSW`. Registers and flags also have names, by which
the operator reads and sets them.
-/

/-- What the engine is doing. -/
inductive EnginePhase where
  | ready
  | running
  | error
  | poweredOff
  deriving Repr, DecidableEq, Inhabited

/-- A register as the operator names it. -/
inductive RegisterName where
  | a | b | c | d | e | h | l | f | bc | de | hl | psw | sp | pc
  deriving Repr, DecidableEq

namespace RegisterName

def all : List RegisterName :=
  [.a, .b, .c, .d, .e, .h, .l, .f, .bc, .de, .hl, .psw, .sp, .pc]

/-- The name in capitals. -/
def text : RegisterName → String
  | .a => "A"
  | .b => "B"
  | .c => "C"
  | .d => "D"
  | .e => "E"
  | .h => "H"
  | .l => "L"
  | .f => "F"
  | .bc => "BC"
  | .de => "DE"
  | .hl => "HL"
  | .psw => "PSW"
  | .sp => "SP"
  | .pc => "PC"

/-- The register of a name in either letter case. -/
def parse? (name : String) : Option RegisterName :=
  all.find? fun register => register.text == name.toUpper

/-- Whether the register holds a byte rather than a word. -/
def isByte : RegisterName → Bool
  | .a | .b | .c | .d | .e | .h | .l | .f => true
  | .bc | .de | .hl | .psw | .sp | .pc => false

end RegisterName

/-- A flag as the operator names it. -/
inductive FlagName where
  | carry
  | parity
  | auxCarry
  | zero
  | sign
  | interruptEnable
  deriving Repr, DecidableEq

namespace FlagName

def all : List FlagName :=
  [.carry, .parity, .auxCarry, .zero, .sign, .interruptEnable]

/-- The name in capitals. -/
def text : FlagName → String
  | .carry => "CF"
  | .parity => "PF"
  | .auxCarry => "HF"
  | .zero => "ZF"
  | .sign => "SF"
  | .interruptEnable => "IF"

/-- The flag of a name in either letter case. -/
def parse? (name : String) : Option FlagName :=
  all.find? fun flag => flag.text == name.toUpper

end FlagName

/-- The processor: registers, flags, interrupt and halt state, and its clock. -/
structure Cpu where
  a : UInt8
  b : UInt8
  c : UInt8
  d : UInt8
  e : UInt8
  h : UInt8
  l : UInt8
  flags : Flags
  sp : UInt16
  pc : UInt16
  interruptsEnabled : Bool
  halted : Bool
  /-- The restart number of a requested interrupt that was not taken yet. -/
  pendingInterrupt : Option (Fin 8)
  /-- The clock cycles counted since the last reset. -/
  cycles : Nat
  phase : EnginePhase
  /-- How many times the usual run chunk is executed between two looks at the stop flag. -/
  speed : Nat
  deriving Repr, DecidableEq

namespace Cpu

/-- A processor that is ready, with everything else clear. -/
def initial : Cpu where
  a := 0
  b := 0
  c := 0
  d := 0
  e := 0
  h := 0
  l := 0
  flags := Flags.clear
  sp := 0
  pc := 0
  interruptsEnabled := false
  halted := false
  pendingInterrupt := none
  cycles := 0
  phase := .ready
  speed := 1

instance : Inhabited Cpu :=
  ⟨initial⟩

/-- The processor after a reset, which keeps the speed and cannot switch the power on. -/
def reset (cpu : Cpu) : Cpu :=
  { initial with
    phase := if cpu.phase = .poweredOff then .poweredOff else .ready
    speed := cpu.speed }

def isRunning (cpu : Cpu) : Bool :=
  cpu.phase = .running

def isPowered (cpu : Cpu) : Bool :=
  cpu.phase ≠ .poweredOff

/-- The processor with a restart requested, of which the number's low three bits count. -/
def requestInterrupt (cpu : Cpu) (vector : UInt8) : Cpu :=
  { cpu with pendingInterrupt := some ⟨vector.toNat % 8, Nat.mod_lt _ (by decide)⟩ }

/-! ## Register pairs -/

def bc (cpu : Cpu) : UInt16 :=
  wordOfBytes cpu.c cpu.b

def de (cpu : Cpu) : UInt16 :=
  wordOfBytes cpu.e cpu.d

def hl (cpu : Cpu) : UInt16 :=
  wordOfBytes cpu.l cpu.h

/-- The accumulator and the status byte. -/
def psw (cpu : Cpu) : UInt16 :=
  wordOfBytes cpu.flags.toByte cpu.a

def setBC (cpu : Cpu) (word : UInt16) : Cpu :=
  { cpu with b := highByte word, c := lowByte word }

def setDE (cpu : Cpu) (word : UInt16) : Cpu :=
  { cpu with d := highByte word, e := lowByte word }

def setHL (cpu : Cpu) (word : UInt16) : Cpu :=
  { cpu with h := highByte word, l := lowByte word }

/-- The processor with another accumulator and status byte. -/
def setPSW (cpu : Cpu) (word : UInt16) : Cpu :=
  { cpu with a := highByte word, flags := Flags.ofByte (lowByte word) }

/-! ## Access by name -/

def get (cpu : Cpu) : RegisterName → UInt16
  | .a => cpu.a.toUInt16
  | .b => cpu.b.toUInt16
  | .c => cpu.c.toUInt16
  | .d => cpu.d.toUInt16
  | .e => cpu.e.toUInt16
  | .h => cpu.h.toUInt16
  | .l => cpu.l.toUInt16
  | .f => cpu.flags.toByte.toUInt16
  | .bc => cpu.bc
  | .de => cpu.de
  | .hl => cpu.hl
  | .psw => cpu.psw
  | .sp => cpu.sp
  | .pc => cpu.pc

/-- The processor with another value in a register, of which a byte register takes the low byte. -/
def set (cpu : Cpu) (register : RegisterName) (value : UInt16) : Cpu :=
  match register with
  | .a => { cpu with a := lowByte value }
  | .b => { cpu with b := lowByte value }
  | .c => { cpu with c := lowByte value }
  | .d => { cpu with d := lowByte value }
  | .e => { cpu with e := lowByte value }
  | .h => { cpu with h := lowByte value }
  | .l => { cpu with l := lowByte value }
  | .f => { cpu with flags := Flags.ofByte (lowByte value) }
  | .bc => cpu.setBC value
  | .de => cpu.setDE value
  | .hl => cpu.setHL value
  | .psw => cpu.setPSW value
  | .sp => { cpu with sp := value }
  | .pc => { cpu with pc := value }

def flag (cpu : Cpu) : FlagName → Bool
  | .carry => cpu.flags.carry
  | .parity => cpu.flags.parity
  | .auxCarry => cpu.flags.auxCarry
  | .zero => cpu.flags.zero
  | .sign => cpu.flags.sign
  | .interruptEnable => cpu.interruptsEnabled

def withFlag (cpu : Cpu) (flag : FlagName) (value : Bool) : Cpu :=
  match flag with
  | .carry => { cpu with flags.carry := value }
  | .parity => { cpu with flags.parity := value }
  | .auxCarry => { cpu with flags.auxCarry := value }
  | .zero => { cpu with flags.zero := value }
  | .sign => { cpu with flags.sign := value }
  | .interruptEnable => { cpu with interruptsEnabled := value }

/-- A flag as one or zero. -/
def flagDigit (value : Bool) : String :=
  if value then "1" else "0"

/-- The line that shows the registers and flags. -/
def line (cpu : Cpu) : String :=
  "A=" ++ Text.hexByte cpu.a
    ++ " BC=" ++ Text.hexWord cpu.bc
    ++ " DE=" ++ Text.hexWord cpu.de
    ++ " HL=" ++ Text.hexWord cpu.hl
    ++ " SP=" ++ Text.hexWord cpu.sp
    ++ " PC=" ++ Text.hexWord cpu.pc
    ++ " S" ++ flagDigit cpu.flags.sign
    ++ " Z" ++ flagDigit cpu.flags.zero
    ++ " A" ++ flagDigit cpu.flags.auxCarry
    ++ " P" ++ flagDigit cpu.flags.parity
    ++ " C" ++ flagDigit cpu.flags.carry
    ++ " I" ++ flagDigit cpu.interruptsEnabled

end Cpu

end Monitor8080
