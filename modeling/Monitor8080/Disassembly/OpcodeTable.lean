import Monitor8080.Disassembly.Operand
namespace Monitor8080

/-!
# The opcode table

Each opcode has an entry: what the instruction is called in either dialect, the
operands that it is written with, and whether the opcode has no meaning of its
own. Whoever decodes an instruction needs nothing but its entry.
-/

/-- An instruction by its own name, whatever its operands are. -/
inductive InstructionId where
  | aci | adc | add | adi | ana | ani | call | cc | cm | cma | cmc | cmp | cnc | cnz | cp | cpe
  | cpi | cpo | cz | daa | dad | dcr | dcx | di | ei | hlt | input | inr | inx | jc | jm | jmp
  | jnc | jnz | jp | jpe | jpo | jz | lda | ldax | lhld | lxi | mov | mvi | nop | ora | ori
  | output | pchl | pop | push | ral | rar | rc | ret | rlc | rm | rnc | rnz | rp | rpe | rpo
  | rrc | rst | rz | sbb | sbi | shld | sphl | sta | stax | stc | sub | sui | xchg | xra | xri
  | xthl
  deriving Repr, DecidableEq

namespace InstructionId

/-- The mnemonics of a dialect, in the order of the names. -/
def mnemonics : Dialect → List String
  | .intel8080 => [
      "ACI", "ADC", "ADD", "ADI", "ANA", "ANI", "CALL", "CC", "CM", "CMA", "CMC", "CMP", "CNC",
      "CNZ", "CP", "CPE", "CPI", "CPO", "CZ", "DAA", "DAD", "DCR", "DCX", "DI", "EI", "HLT",
      "IN", "INR", "INX", "JC", "JM", "JMP", "JNC", "JNZ", "JP", "JPE", "JPO", "JZ", "LDA",
      "LDAX", "LHLD", "LXI", "MOV", "MVI", "NOP", "ORA", "ORI", "OUT", "PCHL", "POP", "PUSH",
      "RAL", "RAR", "RC", "RET", "RLC", "RM", "RNC", "RNZ", "RP", "RPE", "RPO", "RRC", "RST",
      "RZ", "SBB", "SBI", "SHLD", "SPHL", "STA", "STAX", "STC", "SUB", "SUI", "XCHG", "XRA",
      "XRI", "XTHL"]
  | .intel8086 => [
      "ADC", "ADC", "ADD", "ADD", "AND", "AND", "CALL", "CALLC", "CALLS", "NOT", "CMC", "CMP",
      "CALLNC", "CALLNZ", "CALLNS", "CALLP", "CMP", "CALLNP", "CALLZ", "DAA", "ADD", "DEC",
      "DEC", "CLI", "STI", "HLT", "IN", "INC", "INC", "JC", "JS", "JMP", "JNC", "JNZ", "JNS",
      "JP", "JNP", "JZ", "MOV", "MOV", "MOV", "MOV", "MOV", "MOV", "NOP", "OR", "OR", "OUT",
      "JMP", "POP", "PUSH", "RCL", "RCR", "RETC", "RET", "ROL", "RETS", "RETNC", "RETNZ",
      "RETNS", "RETP", "RETNP", "ROR", "INT", "RETZ", "SBB", "SBB", "MOV", "MOV", "MOV", "MOV",
      "STC", "SUB", "SUB", "XCHG", "XOR", "XOR", "XCHG"]

def mnemonic (id : InstructionId) (dialect : Dialect) : String :=
  (mnemonics dialect).getD id.ctorIdx ""

/-- Whether the instruction is a call or a restart. -/
def isCall : InstructionId → Bool
  | .call | .cc | .cnc | .cz | .cnz | .cp | .cm | .cpe | .cpo | .rst => true
  | _ => false

def isReturn : InstructionId → Bool
  | .ret | .rc | .rnc | .rz | .rnz | .rp | .rm | .rpe | .rpo => true
  | _ => false

end InstructionId

/-- What there is to know of an opcode. -/
structure OpcodeEntry where
  id : InstructionId
  operands : List Operand
  isUndocumented : Bool
  deriving Repr, DecidableEq

namespace OpcodeEntry

def op (id : InstructionId) (operands : List Operand) : OpcodeEntry :=
  ⟨id, operands, false⟩

/-- The entry of an opcode that acts as another instruction. -/
def undocumented (id : InstructionId) (operands : List Operand) : OpcodeEntry :=
  ⟨id, operands, true⟩

/-- How many bytes the instruction has, with its opcode. -/
def length (entry : OpcodeEntry) : Nat :=
  1 + operandBytes .byte entry.operands

/-! ## Operands of the table -/

def a : Operand := .byteRegister .a
def b : Operand := .byteRegister .b
def c : Operand := .byteRegister .c
def d : Operand := .byteRegister .d
def e : Operand := .byteRegister .e
def h : Operand := .byteRegister .h
def l : Operand := .byteRegister .l
def m : Operand := .byteThrough .m
def bc : Operand := .wordRegister .bc
def de : Operand := .wordRegister .de
def hl : Operand := .wordRegister .hl
def sp : Operand := .wordRegister .sp
def psw : Operand := .wordRegister .psw
def atBC : Operand := .byteThrough .bc
def atDE : Operand := .byteThrough .de
def impliedA : Operand := a.implied
def impliedHL : Operand := hl.implied
def impliedDE : Operand := de.implied
def impliedSP : Operand := sp.implied
def impliedAtSP : Operand := Operand.implied ⟨some .word, .memory, some .sp, false⟩
def alike : Operand := .immediateAlike
def word : Operand := .immediate .word
def port : Operand := .immediate .byte
def directByte : Operand := .direct .byte
def directWord : Operand := .direct .word
def vector : Operand := .interruptNumber

/-! ## The table -/

/-- The entries of all opcodes in their order, eight in a row. -/
def table : Vector (Vector OpcodeEntry 8) 32 :=
  #v[
    -- 00
    #v[.op .nop [], .op .lxi [bc, alike], .op .stax [atBC, impliedA], .op .inx [bc],
      .op .inr [b], .op .dcr [b], .op .mvi [b, alike], .op .rlc [impliedA]],
    -- 08
    #v[.undocumented .nop [], .op .dad [impliedHL, bc], .op .ldax [impliedA, atBC],
      .op .dcx [bc], .op .inr [c], .op .dcr [c], .op .mvi [c, alike], .op .rrc [impliedA]],
    -- 10
    #v[.undocumented .nop [], .op .lxi [de, alike], .op .stax [atDE, impliedA], .op .inx [de],
      .op .inr [d], .op .dcr [d], .op .mvi [d, alike], .op .ral [impliedA]],
    -- 18
    #v[.undocumented .nop [], .op .dad [impliedHL, de], .op .ldax [impliedA, atDE],
      .op .dcx [de], .op .inr [e], .op .dcr [e], .op .mvi [e, alike], .op .rar [impliedA]],
    -- 20
    #v[.undocumented .nop [], .op .lxi [hl, alike], .op .shld [directWord, impliedHL],
      .op .inx [hl], .op .inr [h], .op .dcr [h], .op .mvi [h, alike], .op .daa []],
    -- 28
    #v[.undocumented .nop [], .op .dad [impliedHL, hl], .op .lhld [impliedHL, directWord],
      .op .dcx [hl], .op .inr [l], .op .dcr [l], .op .mvi [l, alike], .op .cma [impliedA]],
    -- 30
    #v[.undocumented .nop [], .op .lxi [sp, alike], .op .sta [directByte, impliedA],
      .op .inx [sp], .op .inr [m], .op .dcr [m], .op .mvi [m, alike], .op .stc []],
    -- 38
    #v[.undocumented .nop [], .op .dad [impliedHL, sp], .op .lda [impliedA, directByte],
      .op .dcx [sp], .op .inr [a], .op .dcr [a], .op .mvi [a, alike], .op .cmc []],
    -- 40
    #v[.op .mov [b, b], .op .mov [b, c], .op .mov [b, d], .op .mov [b, e], .op .mov [b, h],
      .op .mov [b, l], .op .mov [b, m], .op .mov [b, a]],
    -- 48
    #v[.op .mov [c, b], .op .mov [c, c], .op .mov [c, d], .op .mov [c, e], .op .mov [c, h],
      .op .mov [c, l], .op .mov [c, m], .op .mov [c, a]],
    -- 50
    #v[.op .mov [d, b], .op .mov [d, c], .op .mov [d, d], .op .mov [d, e], .op .mov [d, h],
      .op .mov [d, l], .op .mov [d, m], .op .mov [d, a]],
    -- 58
    #v[.op .mov [e, b], .op .mov [e, c], .op .mov [e, d], .op .mov [e, e], .op .mov [e, h],
      .op .mov [e, l], .op .mov [e, m], .op .mov [e, a]],
    -- 60
    #v[.op .mov [h, b], .op .mov [h, c], .op .mov [h, d], .op .mov [h, e], .op .mov [h, h],
      .op .mov [h, l], .op .mov [h, m], .op .mov [h, a]],
    -- 68
    #v[.op .mov [l, b], .op .mov [l, c], .op .mov [l, d], .op .mov [l, e], .op .mov [l, h],
      .op .mov [l, l], .op .mov [l, m], .op .mov [l, a]],
    -- 70
    #v[.op .mov [m, b], .op .mov [m, c], .op .mov [m, d], .op .mov [m, e], .op .mov [m, h],
      .op .mov [m, l], .op .hlt [], .op .mov [m, a]],
    -- 78
    #v[.op .mov [a, b], .op .mov [a, c], .op .mov [a, d], .op .mov [a, e], .op .mov [a, h],
      .op .mov [a, l], .op .mov [a, m], .op .mov [a, a]],
    -- 80
    #v[.op .add [impliedA, b], .op .add [impliedA, c], .op .add [impliedA, d],
      .op .add [impliedA, e], .op .add [impliedA, h], .op .add [impliedA, l],
      .op .add [impliedA, m], .op .add [impliedA, a]],
    -- 88
    #v[.op .adc [impliedA, b], .op .adc [impliedA, c], .op .adc [impliedA, d],
      .op .adc [impliedA, e], .op .adc [impliedA, h], .op .adc [impliedA, l],
      .op .adc [impliedA, m], .op .adc [impliedA, a]],
    -- 90
    #v[.op .sub [impliedA, b], .op .sub [impliedA, c], .op .sub [impliedA, d],
      .op .sub [impliedA, e], .op .sub [impliedA, h], .op .sub [impliedA, l],
      .op .sub [impliedA, m], .op .sub [impliedA, a]],
    -- 98
    #v[.op .sbb [impliedA, b], .op .sbb [impliedA, c], .op .sbb [impliedA, d],
      .op .sbb [impliedA, e], .op .sbb [impliedA, h], .op .sbb [impliedA, l],
      .op .sbb [impliedA, m], .op .sbb [impliedA, a]],
    -- A0
    #v[.op .ana [impliedA, b], .op .ana [impliedA, c], .op .ana [impliedA, d],
      .op .ana [impliedA, e], .op .ana [impliedA, h], .op .ana [impliedA, l],
      .op .ana [impliedA, m], .op .ana [impliedA, a]],
    -- A8
    #v[.op .xra [impliedA, b], .op .xra [impliedA, c], .op .xra [impliedA, d],
      .op .xra [impliedA, e], .op .xra [impliedA, h], .op .xra [impliedA, l],
      .op .xra [impliedA, m], .op .xra [impliedA, a]],
    -- B0
    #v[.op .ora [impliedA, b], .op .ora [impliedA, c], .op .ora [impliedA, d],
      .op .ora [impliedA, e], .op .ora [impliedA, h], .op .ora [impliedA, l],
      .op .ora [impliedA, m], .op .ora [impliedA, a]],
    -- B8
    #v[.op .cmp [impliedA, b], .op .cmp [impliedA, c], .op .cmp [impliedA, d],
      .op .cmp [impliedA, e], .op .cmp [impliedA, h], .op .cmp [impliedA, l],
      .op .cmp [impliedA, m], .op .cmp [impliedA, a]],
    -- C0
    #v[.op .rnz [], .op .pop [bc], .op .jnz [word], .op .jmp [word], .op .cnz [word],
      .op .push [bc], .op .adi [impliedA, alike], .op .rst [vector]],
    -- C8
    #v[.op .rz [], .op .ret [], .op .jz [word], .undocumented .jmp [word], .op .cz [word],
      .op .call [word], .op .aci [impliedA, alike], .op .rst [vector]],
    -- D0
    #v[.op .rnc [], .op .pop [de], .op .jnc [word], .op .output [port, impliedA],
      .op .cnc [word], .op .push [de], .op .sui [impliedA, alike], .op .rst [vector]],
    -- D8
    #v[.op .rc [], .undocumented .ret [], .op .jc [word], .op .input [impliedA, port],
      .op .cc [word], .undocumented .call [word], .op .sbi [impliedA, alike], .op .rst [vector]],
    -- E0
    #v[.op .rpo [], .op .pop [hl], .op .jpo [word], .op .xthl [impliedAtSP, impliedHL],
      .op .cpo [word], .op .push [hl], .op .ani [impliedA, alike], .op .rst [vector]],
    -- E8
    #v[.op .rpe [], .op .pchl [impliedHL], .op .jpe [word], .op .xchg [impliedDE, impliedHL],
      .op .cpe [word], .undocumented .call [word], .op .xri [impliedA, alike],
      .op .rst [vector]],
    -- F0
    #v[.op .rp [], .op .pop [psw], .op .jp [word], .op .di [], .op .cp [word], .op .push [psw],
      .op .ori [impliedA, alike], .op .rst [vector]],
    -- F8
    #v[.op .rm [], .op .sphl [impliedSP, impliedHL], .op .jm [word], .op .ei [], .op .cm [word],
      .undocumented .call [word], .op .cpi [impliedA, alike], .op .rst [vector]]]

/-- The entry of an opcode. -/
def ofOpcode (opcode : UInt8) : OpcodeEntry :=
  have inside := opcode.toNat_lt
  table[opcode.toNat / 8].get (Fin.ofNat 8 opcode.toNat)

end OpcodeEntry

end Monitor8080
