import Monitor8080.Expr.Evaluation
namespace Monitor8080.Expr

/-!
# The grammar of expressions

An expression derives from a stratified grammar: ten levels of binary
operators, each of which associates to the left, then signs before an operand,
which nest to the right, then numbers, names and what stands in brackets. A
tree has a value in exact integers, reduced to 64 bits after each operation.

`evaluation_follows_grammar` says that evaluating tokens succeeds exactly if
they derive from this grammar and their only tree has a value, which is the
result. Between the two stands `Reads`, which relates tokens to the tree that
is read off them from left to right. It is what evaluation does if one leaves
out the values and the fuel, and it is deterministic.
-/

/-! ## Trees and their values -/

/-- An operator before an operand. -/
inductive Sign where
  | minus
  | plus
  | logicalNot
  | complement
  deriving Repr, DecidableEq

/-- The sign that a token is before an operand. -/
def Sign.ofToken? : Token → Option Sign
  | .binary .sub => some .minus
  | .binary .add => some .plus
  | .logicalNot => some .logicalNot
  | .complement => some .complement
  | _ => none

/-- An expression as it is bracketed. -/
inductive Tree where
  | number (value : Int64)
  | name (text : String)
  | signed (sign : Sign) (operand : Tree)
  | parenthesised (inner : Tree)
  | byteAt (address : Tree)
  | binary (op : BinaryOp) (left right : Tree)
  deriving Repr, DecidableEq

/-- One for true and zero for false. -/
def indicator (condition : Prop) [Decidable condition] : Int :=
  if condition then 1 else 0

/-- The result of a sign in exact integers. -/
def Sign.unwrapped (sign : Sign) (value : Int) : Int :=
  match sign with
  | .minus => -value
  | .plus => value
  | .logicalNot => indicator (value = 0)
  | .complement => -value - 1

/--
The result of a binary operator in exact integers, if there is one. The bits of
an operand are those of its 64-bit two's complement, and a shift multiplies or
divides by a power of two.
-/
def BinaryOp.unwrapped? (op : BinaryOp) (left right : Int) : Option Int :=
  let bits := BitVec.ofInt 64
  match op with
  | .or => some (indicator (left ≠ 0 ∨ right ≠ 0))
  | .and => some (indicator (left ≠ 0 ∧ right ≠ 0))
  | .bitOr => some (bits left ||| bits right).toInt
  | .bitXor => some (bits left ^^^ bits right).toInt
  | .bitAnd => some (bits left &&& bits right).toInt
  | .eq => some (indicator (left = right))
  | .ne => some (indicator (left ≠ right))
  | .lt => some (indicator (left < right))
  | .le => some (indicator (left ≤ right))
  | .gt => some (indicator (left > right))
  | .ge => some (indicator (left ≥ right))
  | .shl => some (left * Int.pow 2 (right % 64).toNat)
  | .shr => some (left / Int.pow 2 (right % 64).toNat)
  | .add => some (left + right)
  | .sub => some (left - right)
  | .mul => some (left * right)
  | .div => if right = 0 then none else some (left.tdiv right)
  | .rem => if right = 0 then none else some (left.tmod right)

/-- What a name means, if it is defined. -/
def Env.meaning? (env : Env) (name : String) : Option Int64 :=
  env.variableNamed? name
    <|> env.registerNamed? name
    <|> env.symbolNamed? name
    <|> Text.numeral? name

/--
The value of a tree: none if a name in it is not defined or something in it is
divided by zero. Every result is reduced to 64 bits, and an address to 16.
-/
def Tree.value? (env : Env) : Tree → Option Int64
  | .number value => some value
  | .name text => env.meaning? text
  | .signed sign operand =>
      (operand.value? env).map fun value => Int64.ofInt (sign.unwrapped value.toInt)
  | .parenthesised inner => inner.value? env
  | .byteAt address =>
      (address.value? env).map fun value =>
        Int64.ofInt (env.byteAt (UInt16.ofInt value.toInt)).toNat
  | .binary op left right => do
      let left ← left.value? env
      let right ← right.value? env
      (op.unwrapped? left.toInt right.toInt).map Int64.ofInt

/-! ## The grammar -/

/-- The level of operands with signs, above the ten levels of binary operators. -/
def signLevel : Nat := 11

/-- The level of numbers, names and what stands in brackets. -/
def primaryLevel : Nat := 12

/-- Tokens derive from a level of the grammar with a tree. -/
inductive Derives : (level : Nat) → List Token → Tree → Prop where
  | number (value : Int64) : Derives primaryLevel [.number value] (.number value)
  | name (text : String) : Derives primaryLevel [.name text] (.name text)
  | parenthesised
      {inner : List Token}
      {tree : Tree}
      (within : Derives 1 inner tree) :
      Derives primaryLevel (.openParen :: inner ++ [.closeParen]) (.parenthesised tree)
  | byteAt
      {inner : List Token}
      {tree : Tree}
      (within : Derives 1 inner tree) :
      Derives primaryLevel (.openBracket :: inner ++ [.closeBracket]) (.byteAt tree)
  | signed
      {token : Token}
      {sign : Sign}
      {operand : List Token}
      {tree : Tree}
      (isSign : Sign.ofToken? token = some sign)
      (signed : Derives signLevel operand tree) :
      Derives signLevel (token :: operand) (.signed sign tree)
  | binary
      (op : BinaryOp)
      {left right : List Token}
      {leftTree rightTree : Tree}
      (leftDerives : Derives op.level left leftTree)
      (rightDerives : Derives (op.level + 1) right rightTree) :
      Derives op.level (left ++ .binary op :: right) (.binary op leftTree rightTree)
  | tighter
      {level : Nat}
      {tokens : List Token}
      {tree : Tree}
      (derives : Derives (level + 1) tokens tree) :
      Derives level tokens tree

theorem BinaryOp.level_lt_signLevel (op : BinaryOp) : op.level < signLevel := by
  cases op <;> decide

/-- What derives from a level derives from every looser one. -/
theorem Derives.mono
    {low high : Nat}
    {tokens : List Token}
    {tree : Tree}
    (derives : Derives high tokens tree)
    (looser : low ≤ high) :
    Derives low tokens tree := by
  induction looser with
  | refl =>
      exact derives
  | step _ inductionHypothesis =>
      exact inductionHypothesis derives.tighter

/-! ## Reading from left to right -/

/-- What is to be read next. -/
inductive Task where
  /-- An operand with the signs before it. -/
  | operand
  /-- An operand and the operators of at least some level after it. -/
  | expression (level : Nat)
  /-- The operators of at least some level that go on from a tree. -/
  | continuation (level : Nat) (left : Tree)

/-- Whether no operator of at least some level comes next. -/
def EndsAt (level : Nat) : List Token → Prop
  | .binary op :: _ => op.level < level
  | _ => True

theorem EndsAt.mono
    {low high : Nat}
    {rest : List Token}
    (ends : EndsAt low rest)
    (looser : low ≤ high) :
    EndsAt high rest := by
  unfold EndsAt at *
  split
  · exact Nat.lt_of_lt_of_le ends looser
  · trivial

theorem endsAt_of_level_lt
    {level : Nat}
    {op : BinaryOp}
    {rest : List Token}
    (looser : op.level < level) :
    EndsAt level (.binary op :: rest) :=
  looser

/-- Tokens are read as a tree, and the last ones are left over. -/
inductive Reads : Task → List Token → Tree → List Token → Prop where
  | number {value : Int64} {rest : List Token} :
      Reads .operand (.number value :: rest) (.number value) rest
  | name {text : String} {rest : List Token} :
      Reads .operand (.name text :: rest) (.name text) rest
  | signed
      {token : Token}
      {sign : Sign}
      {input rest : List Token}
      {tree : Tree}
      (isSign : Sign.ofToken? token = some sign)
      (operand : Reads .operand input tree rest) :
      Reads .operand (token :: input) (.signed sign tree) rest
  | parenthesised
      {input rest : List Token}
      {tree : Tree}
      (within : Reads (.expression 1) input tree (.closeParen :: rest)) :
      Reads .operand (.openParen :: input) (.parenthesised tree) rest
  | byteAt
      {input rest : List Token}
      {tree : Tree}
      (within : Reads (.expression 1) input tree (.closeBracket :: rest)) :
      Reads .operand (.openBracket :: input) (.byteAt tree) rest
  | expression
      {level : Nat}
      {input middle rest : List Token}
      {first whole : Tree}
      (operand : Reads .operand input first middle)
      (continuation : Reads (.continuation level first) middle whole rest) :
      Reads (.expression level) input whole rest
  | ends
      {level : Nat}
      {left : Tree}
      {rest : List Token}
      (ends : EndsAt level rest) :
      Reads (.continuation level left) rest left rest
  | goesOn
      {level : Nat}
      {op : BinaryOp}
      {input middle rest : List Token}
      {left right whole : Tree}
      (tight : level ≤ op.level)
      (operand : Reads (.expression (op.level + 1)) input right middle)
      (continuation : Reads (.continuation level (.binary op left right)) middle whole rest) :
      Reads (.continuation level left) (.binary op :: input) whole rest

/-- What is read and what is left over are the only ones. -/
theorem Reads.unique
    {task : Task}
    {input rest otherRest : List Token}
    {tree other : Tree}
    (reads : Reads task input tree rest)
    (otherReads : Reads task input other otherRest) :
    tree = other ∧ rest = otherRest := by
  induction reads generalizing other otherRest with
  | number | name =>
      cases otherReads with
      | signed isSign _ =>
          cases isSign
      | _ =>
          exact ⟨rfl, rfl⟩
  | signed isSign _ inductionHypothesis =>
      cases otherReads with
      | signed isOther operand =>
          cases isSign.symm.trans isOther
          obtain ⟨rfl, rfl⟩ := inductionHypothesis operand
          exact ⟨rfl, rfl⟩
      | _ =>
          cases isSign
  | parenthesised _ inductionHypothesis =>
      cases otherReads with
      | parenthesised within =>
          obtain ⟨rfl, same⟩ := inductionHypothesis within
          exact ⟨rfl, (List.cons.inj same).2⟩
      | signed isSign _ =>
          cases isSign
  | byteAt _ inductionHypothesis =>
      cases otherReads with
      | byteAt within =>
          obtain ⟨rfl, same⟩ := inductionHypothesis within
          exact ⟨rfl, (List.cons.inj same).2⟩
      | signed isSign _ =>
          cases isSign
  | expression _ _ operandHypothesis continuationHypothesis =>
      cases otherReads with
      | expression operand continuation =>
          obtain ⟨rfl, rfl⟩ := operandHypothesis operand
          exact continuationHypothesis continuation
  | ends ends =>
      cases otherReads with
      | ends _ =>
          exact ⟨rfl, rfl⟩
      | goesOn tight _ _ =>
          exact absurd ends (Nat.not_lt.mpr tight)
  | goesOn tight _ _ operandHypothesis continuationHypothesis =>
      cases otherReads with
      | ends ends =>
          exact absurd ends (Nat.not_lt.mpr tight)
      | goesOn _ operand continuation =>
          obtain ⟨rfl, rfl⟩ := operandHypothesis operand
          exact continuationHypothesis continuation

/-! ## Reading follows the grammar -/

/-- What is read for a task derives from the grammar, and after it nothing goes on. -/
theorem Reads.derives
    {task : Task}
    {input rest : List Token}
    {tree : Tree}
    (reads : Reads task input tree rest) :
    match task with
    | .operand =>
        ∃ consumed, input = consumed ++ rest ∧ Derives signLevel consumed tree
    | .expression level =>
        level ≤ signLevel →
          ∃ consumed, input = consumed ++ rest ∧ Derives level consumed tree ∧ EndsAt level rest
    | .continuation level left =>
        ∀ {reached : Nat} {before : List Token},
          level ≤ reached →
            Derives reached before left →
              EndsAt (reached + 1) input →
                ∃ consumed,
                  before ++ input = consumed ++ rest ∧
                    Derives level consumed tree ∧ EndsAt level rest := by
  induction reads with
  | @number value rest =>
      exact ⟨[.number value], rfl, (Derives.number value).tighter⟩
  | @name text rest =>
      exact ⟨[.name text], rfl, (Derives.name text).tighter⟩
  | @signed token sign input rest tree isSign _ inductionHypothesis =>
      obtain ⟨consumed, rfl, derives⟩ := inductionHypothesis
      exact ⟨token :: consumed, rfl, derives.signed isSign⟩
  | parenthesised _ inductionHypothesis =>
      obtain ⟨consumed, rfl, derives, -⟩ := inductionHypothesis (by decide)
      exact ⟨_, by simp, derives.parenthesised.tighter⟩
  | byteAt _ inductionHypothesis =>
      obtain ⟨consumed, rfl, derives, -⟩ := inductionHypothesis (by decide)
      exact ⟨_, by simp, derives.byteAt.tighter⟩
  | expression _ _ operandHypothesis continuationHypothesis =>
      intro below
      obtain ⟨consumed, rfl, derives⟩ := operandHypothesis
      refine continuationHypothesis below derives ?_
      unfold EndsAt
      split
      · exact Nat.lt_succ_of_lt (BinaryOp.level_lt_signLevel _)
      · trivial
  | ends ends =>
      intro reached before looser derives _
      exact ⟨before, rfl, derives.mono looser, ends⟩
  | @goesOn level op input middle rest left right whole tight _ _ operandHypothesis
      continuationHypothesis =>
      intro reached before _ derives ends
      obtain ⟨consumed, rfl, rightDerives, operandEnds⟩ :=
        operandHypothesis op.level_lt_signLevel
      have leftDerives : Derives op.level before left :=
        derives.mono (Nat.le_of_lt_succ ends)
      obtain ⟨all, same, allDerive, allEnds⟩ :=
        continuationHypothesis tight (.binary op leftDerives rightDerives) operandEnds
      exact ⟨all, by simpa using same, allDerive, allEnds⟩

/--
What derives from a level is read as it derives, whatever follows that does not
bind tighter: operands at once, and the rest as far as they go on at some level
that is no tighter.
-/
theorem Derives.reads
    {reached : Nat}
    {tokens : List Token}
    {tree : Tree}
    (derives : Derives reached tokens tree) :
    (signLevel ≤ reached → ∀ rest, Reads .operand (tokens ++ rest) tree rest) ∧
      ∀ {level : Nat} {middle rest : List Token} {whole : Tree},
        level ≤ reached →
          EndsAt (reached + 1) middle →
            Reads (.continuation level tree) middle whole rest →
              Reads (.expression level) (tokens ++ middle) whole rest := by
  -- Only operands are read at once; a level of binary operators is none.
  have ofOperand :
      ∀ {tokens : List Token} {tree : Tree},
        (∀ rest, Reads .operand (tokens ++ rest) tree rest) →
          ∀ {level : Nat} {middle rest : List Token} {whole : Tree},
            Reads (.continuation level tree) middle whole rest →
              Reads (.expression level) (tokens ++ middle) whole rest :=
    fun operand => .expression (operand _)
  induction derives with
  | number value =>
      exact ⟨fun _ _ => .number, fun _ _ => ofOperand fun _ => .number⟩
  | name text =>
      exact ⟨fun _ _ => .name, fun _ _ => ofOperand fun _ => .name⟩
  | @parenthesised inner tree _ inductionHypothesis =>
      have operand : ∀ rest, Reads .operand ((.openParen :: inner ++ [.closeParen]) ++ rest)
          (.parenthesised tree) rest := by
        intro rest
        have closes : ∀ level, EndsAt level (.closeParen :: rest) := fun _ => trivial
        have within := inductionHypothesis.2 (Nat.le_refl 1) (closes _) (.ends (closes _))
        simpa using Reads.parenthesised within
      exact ⟨fun _ => operand, fun _ _ => ofOperand operand⟩
  | @byteAt inner tree _ inductionHypothesis =>
      have operand : ∀ rest, Reads .operand ((.openBracket :: inner ++ [.closeBracket]) ++ rest)
          (.byteAt tree) rest := by
        intro rest
        have closes : ∀ level, EndsAt level (.closeBracket :: rest) := fun _ => trivial
        have within := inductionHypothesis.2 (Nat.le_refl 1) (closes _) (.ends (closes _))
        simpa using Reads.byteAt within
      exact ⟨fun _ => operand, fun _ _ => ofOperand operand⟩
  | signed isSign _ inductionHypothesis =>
      have operand := fun rest => (inductionHypothesis.1 (Nat.le_refl _) rest).signed isSign
      exact ⟨fun _ => operand, fun _ _ => ofOperand operand⟩
  | @binary op left right leftTree rightTree _ _ leftHypothesis rightHypothesis =>
      refine ⟨fun above => absurd above (Nat.not_le.mpr op.level_lt_signLevel), ?_⟩
      intro level middle rest whole tight ends continuation
      have operand := rightHypothesis.2 (Nat.le_refl _) (ends.mono (Nat.le_succ _)) (.ends ends)
      have goesOn := Reads.goesOn tight operand continuation
      simpa using
        leftHypothesis.2 tight (endsAt_of_level_lt (Nat.lt_succ_self _)) goesOn
  | tighter derives inductionHypothesis =>
      refine ⟨fun above => inductionHypothesis.1 (Nat.le_succ_of_le above), ?_⟩
      intro level middle rest whole looser ends
      exact inductionHypothesis.2 (Nat.le_succ_of_le looser) (ends.mono (Nat.le_succ _))

/-- Tokens derive from a level with a tree if and only if they are read as it to the end. -/
theorem derives_iff_reads
    {level : Nat}
    {input : List Token}
    {tree : Tree}
    (below : level ≤ signLevel) :
    Derives level input tree ↔ Reads (.expression level) input tree [] := by
  constructor
  · intro derives
    have stops : ∀ level, EndsAt level [] := fun _ => trivial
    simpa using derives.reads.2 (Nat.le_refl level) (stops _) (.ends (stops _))
  · intro reads
    obtain ⟨consumed, rfl, derives, -⟩ := reads.derives below
    simpa using derives

/-- The grammar is unambiguous. -/
theorem Derives.unique
    {level : Nat}
    {input : List Token}
    {tree other : Tree}
    (below : level ≤ signLevel)
    (derives : Derives level input tree)
    (otherDerives : Derives level input other) :
    tree = other :=
  (((derives_iff_reads below).mp derives).unique ((derives_iff_reads below).mp otherDerives)).1

end Monitor8080.Expr
