import Monitor8080.Expr.Lexeme
namespace Monitor8080.Expr

/-!
# The value of an expression

Expressions are evaluated while they are read, from left to right, so of two
faults the one met first is reported: an undefined name before a missing
bracket further on. Arithmetic wraps at 64 bits, comparisons and truth values
are one and zero, and a shift uses the low six bits of its count.
-/

/-- What the names of an expression mean and what bytes memory holds. -/
structure Env where
  variableNamed? : String → Option Int64
  registerNamed? : String → Option Int64
  symbolNamed? : String → Option Int64
  byteAt : UInt16 → UInt8

/-- The value of a name: a variable, else a register, else a symbol, else a number. -/
def Env.resolve (env : Env) (name : String) : Except Fault Int64 :=
  let value? :=
    env.variableNamed? name
      <|> env.registerNamed? name
      <|> env.symbolNamed? name
      <|> Text.numeral? name
  match value? with
  | some value => .ok value
  | none => .error (.undefined name)

/-- One for true and zero for false. -/
def truth (condition : Bool) : Int64 :=
  if condition then 1 else 0

/-- A value reduced to a sixteen-bit address. -/
def toAddress (value : Int64) : UInt16 :=
  value.toUInt64.toUInt16

def ofByte (byte : UInt8) : Int64 :=
  byte.toUInt64.toInt64

/-- The result of a binary operator. -/
def BinaryOp.apply (op : BinaryOp) (left right : Int64) : Except Fault Int64 :=
  match op with
  | .or => .ok (truth (left != 0 || right != 0))
  | .and => .ok (truth (left != 0 && right != 0))
  | .bitOr => .ok (left ||| right)
  | .bitXor => .ok (left ^^^ right)
  | .bitAnd => .ok (left &&& right)
  | .eq => .ok (truth (left == right))
  | .ne => .ok (truth (left != right))
  | .lt => .ok (truth (decide (left < right)))
  | .le => .ok (truth (decide (left ≤ right)))
  | .gt => .ok (truth (decide (right < left)))
  | .ge => .ok (truth (decide (right ≤ left)))
  | .shl => .ok (left <<< (right &&& 63))
  | .shr => .ok (left >>> (right &&& 63))
  | .add => .ok (left + right)
  | .sub => .ok (left - right)
  | .mul => .ok (left * right)
  | .div => if right = 0 then .error .divisionByZero else .ok (left / right)
  | .rem => if right = 0 then .error .divisionByZero else .ok (left % right)

/-- The tokens after a closing token that has to come next. -/
def expect (closing : Token) : List Token → Except Fault (List Token)
  | [] => .error .unexpectedEnd
  | token :: rest =>
      if token = closing then .ok rest else .error (.unexpectedToken token.wording)

mutual

/-- An operand with the signs before it: its value and the tokens after it. -/
def operand (env : Env) : (fuel : Nat) → List Token → Except Fault (Int64 × List Token)
  | 0, _ => .error .unexpectedEnd
  | _ + 1, [] => .error .unexpectedEnd
  | _ + 1, .number value :: rest => .ok (value, rest)
  | _ + 1, .name name :: rest => do
      let value ← env.resolve name
      return (value, rest)
  | fuel + 1, .binary .sub :: rest => do
      let (value, rest) ← operand env fuel rest
      return (-value, rest)
  | fuel + 1, .binary .add :: rest => operand env fuel rest
  | fuel + 1, .logicalNot :: rest => do
      let (value, rest) ← operand env fuel rest
      return (truth (value == 0), rest)
  | fuel + 1, .complement :: rest => do
      let (value, rest) ← operand env fuel rest
      return (~~~value, rest)
  | fuel + 1, .openParen :: rest => do
      let (value, rest) ← expression env fuel 1 rest
      let rest ← expect .closeParen rest
      return (value, rest)
  | fuel + 1, .openBracket :: rest => do
      let (address, rest) ← expression env fuel 1 rest
      let rest ← expect .closeBracket rest
      return (ofByte (env.byteAt (toAddress address)), rest)
  | _ + 1, token :: _ => .error (.unexpectedToken token.wording)

/-- An operand and the operators of at least some level after it. -/
def expression (env : Env) :
    (fuel level : Nat) → List Token → Except Fault (Int64 × List Token)
  | 0, _, _ => .error .unexpectedEnd
  | fuel + 1, level, input => do
      let (value, rest) ← operand env fuel input
      continued env fuel level value rest

/-- The operators of at least some level that go on from a value. -/
def continued (env : Env) :
    (fuel level : Nat) → Int64 → List Token → Except Fault (Int64 × List Token)
  | 0, _, _, _ => .error .unexpectedEnd
  | fuel + 1, level, left, .binary op :: rest =>
      if level ≤ op.level then do
        let (right, rest) ← expression env fuel (op.level + 1) rest
        let value ← op.apply left right
        continued env fuel level value rest
      else
        .ok (left, .binary op :: rest)
  | _ + 1, _, left, rest => .ok (left, rest)

end

/-- The value of a whole sequence of tokens; each of them takes at most three steps. -/
def valueOfTokens (env : Env) (input : List Token) : Except Fault Int64 := do
  let (value, rest) ← expression env (3 * input.length + 3) 1 input
  match rest with
  | [] => return value
  | token :: _ => throw (.unexpectedToken token.wording)

/-- The value of a text, blanks around it aside. -/
def evaluate (env : Env) (text : String) : Except Fault Int64 := do
  let input ← tokens (Text.trimChars text.toList)
  valueOfTokens env input

end Monitor8080.Expr
