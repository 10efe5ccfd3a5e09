import Monitor8080.Text.Number
namespace Monitor8080.Expr

/-!
# Tokens of expressions

An expression is a sequence of numbers, names, operators and brackets. The
eighteen binary operators have ten levels, of which the higher binds tighter.
-/

/-- Why a text has no value. -/
inductive Fault where
  | unexpectedEnd
  | unexpectedToken (text : String)
  | undefined (name : String)
  | invalidNumber (text : String)
  | divisionByZero
  deriving Repr, DecidableEq

def Fault.message : Fault → String
  | .unexpectedEnd => "unexpected end of expression"
  | .unexpectedToken text => "unexpected token: " ++ text
  | .undefined name => "undefined symbol: " ++ name
  | .invalidNumber text => "invalid number: " ++ text
  | .divisionByZero => "division by zero"

/-- An operator between two operands. -/
inductive BinaryOp where
  | or | and | bitOr | bitXor | bitAnd | eq | ne | lt | le | gt | ge
  | shl | shr | add | sub | mul | div | rem
  deriving Repr, DecidableEq

namespace BinaryOp

/-- How tightly an operator binds, from one to ten. -/
def level : BinaryOp → Nat
  | .or => 1
  | .and => 2
  | .bitOr => 3
  | .bitXor => 4
  | .bitAnd => 5
  | .eq | .ne => 6
  | .lt | .le | .gt | .ge => 7
  | .shl | .shr => 8
  | .add | .sub => 9
  | .mul | .div | .rem => 10

def text : BinaryOp → String
  | .or => "||"
  | .and => "&&"
  | .bitOr => "|"
  | .bitXor => "^"
  | .bitAnd => "&"
  | .eq => "=="
  | .ne => "!="
  | .lt => "<"
  | .le => "<="
  | .gt => ">"
  | .ge => ">="
  | .shl => "<<"
  | .shr => ">>"
  | .add => "+"
  | .sub => "-"
  | .mul => "*"
  | .div => "/"
  | .rem => "%"

end BinaryOp

/-- A token of an expression. -/
inductive Token where
  | number (value : Int64)
  | name (text : String)
  | binary (op : BinaryOp)
  | logicalNot
  | complement
  | openParen
  | closeParen
  | openBracket
  | closeBracket
  deriving Repr, DecidableEq

/-- The way a token is shown in an error: a number by its 64 bits in hexadecimal. -/
def Token.wording : Token → String
  | .number value => Text.hexShort value.toUInt64.toNat
  | .name text => text
  | .binary op => op.text
  | .logicalNot => "!"
  | .complement => "~"
  | .openParen => "("
  | .closeParen => ")"
  | .openBracket => "["
  | .closeBracket => "]"

/-- Operators and brackets as written, each before those that it starts with. -/
def operators : List (List Char × Token) :=
  [(['|', '|'], .binary .or), (['&', '&'], .binary .and),
    (['=', '='], .binary .eq), (['!', '='], .binary .ne),
    (['<', '='], .binary .le), (['>', '='], .binary .ge),
    (['<', '<'], .binary .shl), (['>', '>'], .binary .shr),
    (['|'], .binary .bitOr), (['^'], .binary .bitXor), (['&'], .binary .bitAnd),
    (['<'], .binary .lt), (['>'], .binary .gt), (['+'], .binary .add),
    (['-'], .binary .sub), (['*'], .binary .mul), (['/'], .binary .div),
    (['%'], .binary .rem), (['!'], .logicalNot), (['~'], .complement),
    (['('], .openParen), ([')'], .closeParen),
    (['['], .openBracket), ([']'], .closeBracket)]

end Monitor8080.Expr
