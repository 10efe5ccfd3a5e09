import Monitor8080.Proofs.ExpressionGrammar
import Monitor8080.Proofs.Outcomes
namespace Monitor8080.Expr

/-!
# Values of expressions

Evaluation computes on machine words what the grammar says in exact integers:
every operator agrees with its exact result reduced to 64 bits. With that, an
evaluation that succeeds reads a tree with its value on the way, and whatever
tree is read is evaluated to its value as long as there is fuel, of which three
steps a token are enough.
-/

/-! ## Operators on words -/

/-- A comparison has the value of the condition that it tells. -/
theorem truth_eq
    {condition : Bool}
    {exact : Prop}
    [Decidable exact]
    (same : condition = true ↔ exact) :
    truth condition = Int64.ofInt (indicator exact) := by
  unfold truth indicator
  by_cases holds : exact <;> simp [same, holds]

theorem eq_zero_iff (value : Int64) : value = 0 ↔ value.toInt = 0 := by
  rw [← Int64.toInt_inj]
  rfl

/-- Only the lowest sixteen bits of a value are an address. -/
theorem toAddress_eq (value : Int64) : toAddress value = UInt16.ofInt value.toInt := by
  apply UInt16.toNat_inj.mp
  have signed : value.toInt = (value.toUInt64.toNat : Int).bmod (2 ^ 64) := by
    rw [← Int64.toInt_toBitVec, BitVec.toInt_eq_toNat_bmod]
    rfl
  rw [toAddress, UInt64.toNat_toUInt16, UInt16.ofInt, UInt16.toNat_ofNat', signed, Int.bmod_def]
  split <;> omega

theorem ofByte_eq (byte : UInt8) : ofByte byte = Int64.ofInt byte.toNat := by
  apply Int64.toInt_inj.mp
  have small := byte.toNat_lt
  rw [ofByte, Int64.toInt_ofInt, ← Int64.toInt_toBitVec, BitVec.toInt_eq_toNat_bmod]
  rfl

/-- The complement of a number is the negative of the next one. -/
theorem complement_eq (value : Int64) : ~~~value = Int64.ofInt (-value.toInt - 1) := by
  rw [Int64.ofInt_sub, Int64.ofInt_neg, Int64.ofInt_toInt, Int64.not_eq_neg_sub]
  rfl

/-- The low six bits of a count are its remainder by 64. -/
theorem shiftCount_eq (count : Int64) :
    ((count &&& 63).toBitVec.smod 64).toNat = (count.toInt % 64).toNat := by
  have masked : (count &&& 63).toBitVec.toNat = count.toBitVec.toNat % 2 ^ 6 :=
    Nat.and_two_pow_sub_one_eq_mod _ 6
  have maskedInt : (count &&& 63).toBitVec.toInt = (count.toBitVec.toNat % 2 ^ 6 : Nat) := by
    rw [BitVec.toInt_eq_toNat_bmod, masked, Int.bmod_def]
    split <;> omega
  have reduced :
      ((count &&& 63).toBitVec.smod 64).toInt = (count.toBitVec.toNat % 2 ^ 6 : Nat) := by
    rw [BitVec.toInt_smod, maskedInt, Int.fmod_eq_emod_of_nonneg _ (by decide)]
    change (_ : Int) % 64 = _
    omega
  have signed : count.toInt = (count.toBitVec.toNat : Int).bmod (2 ^ 64) := by
    rw [← Int64.toInt_toBitVec, BitVec.toInt_eq_toNat_bmod]
  have small := ((count &&& 63).toBitVec.smod 64).isLt
  rw [BitVec.toInt_eq_toNat_bmod, Int.bmod_def] at reduced
  rw [signed, Int.bmod_def]
  split at reduced <;> split <;> omega

/-- A shift to the left multiplies by a power of two, around the end of the word. -/
theorem shl_eq (value count : Int64) :
    value <<< (count &&& 63) = Int64.ofInt (value.toInt * Int.pow 2 (count.toInt % 64).toNat) := by
  have power : Int.pow 2 (count.toInt % 64).toNat = 2 ^ (count.toInt % 64).toNat := rfl
  apply Int64.toInt_inj.mp
  rw [← Int64.toInt_toBitVec, Int64.toBitVec_shiftLeft, BitVec.shiftLeft_eq', shiftCount_eq,
    BitVec.toInt_shiftLeft, Int64.toInt_ofInt, Nat.shiftLeft_eq, ← Int64.toInt_toBitVec value,
    BitVec.toInt_eq_toNat_bmod value.toBitVec, power]
  simp

/-- A shift to the right divides by a power of two and rounds down. -/
theorem shr_eq (value count : Int64) :
    value >>> (count &&& 63) = Int64.ofInt (value.toInt / Int.pow 2 (count.toInt % 64).toNat) := by
  have power : Int.pow 2 (count.toInt % 64).toNat = 2 ^ (count.toInt % 64).toNat := rfl
  rw [← Int64.ofInt_toInt (value >>> (count &&& 63)), ← Int64.toInt_toBitVec,
    Int64.toBitVec_shiftRight, BitVec.sshiftRight', shiftCount_eq, BitVec.toInt_sshiftRight,
    Int.shiftRight_eq_div_pow, power]
  simp

/-- An operation on the 64 bits of two words is the operation on the words. -/
theorem ofInt_bits
    {combine : BitVec 64 → BitVec 64 → BitVec 64}
    (left right : Int64) :
    Int64.ofInt (combine (BitVec.ofInt 64 left.toInt) (BitVec.ofInt 64 right.toInt)).toInt =
      Int64.ofBitVec (combine left.toBitVec right.toBitVec) := by
  rw [Int64.ofInt_bitVecToInt, ← Int64.toInt_toBitVec left, ← Int64.toInt_toBitVec right,
    BitVec.ofInt_toInt, BitVec.ofInt_toInt]

/-- A quotient is rounded towards zero. -/
theorem div_eq (left right : Int64) :
    left / right = Int64.ofInt (left.toInt.tdiv right.toInt) := by
  apply Int64.toInt_inj.mp
  rw [Int64.toInt_div, Int64.toInt_ofInt]

/-- A remainder has the sign of the dividend. -/
theorem rem_eq (left right : Int64) :
    left % right = Int64.ofInt (left.toInt.tmod right.toInt) := by
  rw [← Int64.toInt_mod, Int64.ofInt_toInt]

/-- Every operator gives its exact result reduced to 64 bits. -/
theorem BinaryOp.apply_eq (op : BinaryOp) (left right : Int64) :
    op.apply left right =
      match op.unwrapped? left.toInt right.toInt with
      | some value => .ok (Int64.ofInt value)
      | none => .error .divisionByZero := by
  cases op with
  | or | and =>
      exact congrArg Except.ok (truth_eq (by simp [eq_zero_iff]))
  | bitOr | bitXor | bitAnd =>
      exact congrArg Except.ok (ofInt_bits left right).symm
  | eq | ne =>
      exact congrArg Except.ok (truth_eq (by simp [Int64.toInt_inj]))
  | lt | gt =>
      exact congrArg Except.ok (truth_eq (by simp [Int64.lt_iff_toInt_lt]))
  | le | ge =>
      exact congrArg Except.ok (truth_eq (by simp [Int64.le_iff_toInt_le]))
  | shl =>
      exact congrArg Except.ok (shl_eq left right)
  | shr =>
      exact congrArg Except.ok (shr_eq left right)
  | add | sub | mul =>
      simp [apply, unwrapped?]
  | div =>
      simp only [apply, unwrapped?, eq_zero_iff, div_eq]
      split <;> rfl
  | rem =>
      simp only [apply, unwrapped?, eq_zero_iff, rem_eq]
      split <;> rfl

/-! ## Evaluation reads trees -/

/-- A token is expected where it stands first. -/
theorem expect_eq_ok_iff
    {closing : Token}
    {input rest : List Token} :
    expect closing input = .ok rest ↔ input = closing :: rest := by
  cases input with
  | nil =>
      simp [expect]
  | cons token others =>
      simp only [expect]
      split <;> simp_all

/-- A name is resolved to what it means. -/
theorem Env.resolve_eq_ok_iff
    {env : Env}
    {name : String}
    {value : Int64} :
    env.resolve name = .ok value ↔ env.meaning? name = some value := by
  unfold Env.resolve
  dsimp only
  split <;>
    · rename_i means
      change env.meaning? name = _ at means
      simp [means]

section Steps

variable {env : Env} {fuel : Nat}

/-- A sign takes the operand after it to its exact result reduced to 64 bits. -/
theorem operand_sign
    {token : Token}
    {sign : Sign}
    (isSign : Sign.ofToken? token = some sign)
    (input : List Token) :
    operand env (fuel + 1) (token :: input) =
      (do
        let (value, rest) ← operand env fuel input
        return (Int64.ofInt (sign.unwrapped value.toInt), rest)) := by
  unfold Sign.ofToken? at isSign
  split at isSign
  · cases isSign
    have negated : ∀ value : Int64, Int64.ofInt (Sign.minus.unwrapped value.toInt) = -value := by
      simp [Sign.unwrapped]
    simp only [negated]
    rfl
  · cases isSign
    have kept : ∀ value : Int64, Int64.ofInt (Sign.plus.unwrapped value.toInt) = value := by
      simp [Sign.unwrapped]
    simp only [kept]
    change operand env fuel input = _
    cases operand env fuel input <;> rfl
  · cases isSign
    have inverted : ∀ value : Int64,
        Int64.ofInt (Sign.logicalNot.unwrapped value.toInt) = truth (value == 0) :=
      fun value => (truth_eq (by simp [eq_zero_iff])).symm
    simp only [inverted]
    rfl
  · cases isSign
    have flipped : ∀ value : Int64,
        Int64.ofInt (Sign.complement.unwrapped value.toInt) = ~~~value :=
      fun value => (complement_eq value).symm
    simp only [flipped]
    rfl
  · cases isSign

/-- An operator that is no sign begins no operand. -/
theorem operand_binary
    {op : BinaryOp}
    (noSign : Sign.ofToken? (.binary op) = none)
    (input : List Token) :
    operand env (fuel + 1) (.binary op :: input) = .error (.unexpectedToken op.text) := by
  cases op with
  | add | sub =>
      cases noSign
  | _ =>
      rfl

theorem exists_of_not_endsAt
    {level : Nat}
    {input : List Token}
    (goesOn : ¬ EndsAt level input) :
    ∃ op rest, input = .binary op :: rest ∧ level ≤ op.level := by
  unfold EndsAt at goesOn
  split at goesOn
  · exact ⟨_, _, rfl, Nat.not_lt.mp goesOn⟩
  · exact absurd trivial goesOn

/-- Where no operator of the level follows, an expression ends. -/
theorem continued_of_endsAt
    {level : Nat}
    {rest : List Token}
    (ends : EndsAt level rest)
    (left : Int64) :
    continued env (fuel + 1) level left rest = .ok (left, rest) := by
  unfold continued
  split
  · rename_i impossible
    cases impossible
  · exact if_neg (Nat.not_le.mpr ends)
  · rfl

/-- An operator of the level is applied to what stands to its left and to its right operand. -/
theorem continued_of_level_le
    {level : Nat}
    {op : BinaryOp}
    (tight : level ≤ op.level)
    (left : Int64)
    (input : List Token) :
    continued env (fuel + 1) level left (.binary op :: input) =
      (do
        let (right, rest) ← expression env fuel (op.level + 1) input
        let value ← op.apply left right
        continued env fuel level value rest) := by
  rw [continued, if_pos tight]

end Steps

/-- An operator is applied to numbers, and its result is cut to a word. -/
theorem BinaryOp.apply_eq_ok_iff
    {op : BinaryOp}
    {left right value : Int64} :
    op.apply left right = .ok value ↔
      (op.unwrapped? left.toInt right.toInt).map Int64.ofInt = some value := by
  rw [op.apply_eq]
  cases op.unwrapped? left.toInt right.toInt <;> simp

/-- An evaluation of a task succeeds with a value and leaves some tokens over. -/
def Task.Succeeds (env : Env) (fuel : Nat) (input : List Token) (value : Int64)
    (rest : List Token) : Task → Prop
  | .operand => Expr.operand env fuel input = .ok (value, rest)
  | .expression level => Expr.expression env fuel level input = .ok (value, rest)
  | .continuation level left =>
      ∃ start,
        left.value? env = some start ∧ continued env fuel level start input = .ok (value, rest)

/-- With some fuel, what an evaluation that succeeds has read is a tree with its value. -/
def ReadsTrees (env : Env) (fuel : Nat) : Prop :=
  ∀ (task : Task) {input rest : List Token} {value : Int64},
    task.Succeeds env fuel input value rest →
      ∃ tree, Reads task input tree rest ∧ tree.value? env = some value

namespace ReadsTrees

variable {env : Env} {fuel : Nat} {input rest : List Token} {value : Int64}

/-- What is read between brackets is an expression. -/
theorem within
    (readsTrees : ReadsTrees env fuel)
    (closing : Token)
    (finish : Int64 → Int64)
    (succeeds :
      (do
        let (value, rest) ← expression env fuel 1 input
        let rest ← expect closing rest
        return (finish value, rest)) = Except.ok (value, rest)) :
    ∃ tree inner,
      Reads (.expression 1) input tree (closing :: rest) ∧
        tree.value? env = some inner ∧ value = finish inner := by
  obtain ⟨⟨inner, after⟩, evaluated, closes⟩ := bind_eq_ok_iff.mp succeeds
  obtain ⟨middle, closed, same⟩ := bind_eq_ok_iff.mp closes
  cases same
  cases expect_eq_ok_iff.mp closed
  obtain ⟨tree, reads, hasValue⟩ := readsTrees (.expression 1) evaluated
  exact ⟨tree, inner, reads, hasValue, rfl⟩

/-- An operand that is read is a tree with the same value. -/
theorem operand
    (readsTrees : ReadsTrees env fuel)
    (succeeds : Expr.operand env (fuel + 1) input = .ok (value, rest)) :
    ∃ tree, Reads .operand input tree rest ∧ tree.value? env = some value := by
  cases input with
  | nil =>
      cases succeeds
  | cons token input =>
      cases isSign : Sign.ofToken? token with
      | some sign =>
          obtain ⟨⟨inner, after⟩, evaluated, same⟩ :=
            bind_eq_ok_iff.mp ((operand_sign isSign input).symm.trans succeeds)
          cases same
          obtain ⟨tree, reads, hasValue⟩ := readsTrees .operand evaluated
          exact ⟨.signed sign tree, .signed isSign reads, by simp [Tree.value?, hasValue]⟩
      | none =>
          cases token with
          | number number =>
              cases succeeds
              exact ⟨_, .number, rfl⟩
          | name text =>
              obtain ⟨meaning, resolved, same⟩ := bind_eq_ok_iff.mp succeeds
              cases same
              exact ⟨_, .name, Env.resolve_eq_ok_iff.mp resolved⟩
          | binary op =>
              cases (operand_binary isSign input).symm.trans succeeds
          | openParen =>
              obtain ⟨tree, inner, reads, hasValue, rfl⟩ :=
                readsTrees.within .closeParen id succeeds
              exact ⟨.parenthesised tree, .parenthesised reads, hasValue⟩
          | openBracket =>
              obtain ⟨tree, inner, reads, hasValue, rfl⟩ :=
                readsTrees.within .closeBracket
                  (fun address => ofByte (env.byteAt (toAddress address))) succeeds
              refine ⟨.byteAt tree, .byteAt reads, ?_⟩
              simp [Tree.value?, hasValue, ofByte_eq, toAddress_eq]
          | logicalNot | complement =>
              cases isSign
          | closeParen | closeBracket =>
              cases succeeds

/-- What is read after an operand continues the tree of what was read before. -/
theorem continuation
    (readsTrees : ReadsTrees env fuel)
    {level : Nat}
    {left : Tree}
    {start : Int64}
    (hasStart : left.value? env = some start)
    (succeeds : continued env (fuel + 1) level start input = .ok (value, rest)) :
    ∃ tree, Reads (.continuation level left) input tree rest ∧ tree.value? env = some value := by
  by_cases ends : EndsAt level input
  · cases (continued_of_endsAt ends start).symm.trans succeeds
    exact ⟨left, .ends ends, hasStart⟩
  · obtain ⟨op, input, rfl, tight⟩ := exists_of_not_endsAt ends
    obtain ⟨⟨right, middle⟩, evaluated, continues⟩ :=
      bind_eq_ok_iff.mp ((continued_of_level_le tight start input).symm.trans succeeds)
    obtain ⟨combined, applied, continues⟩ := bind_eq_ok_iff.mp continues
    obtain ⟨rightTree, rightReads, rightValue⟩ := readsTrees (.expression _) evaluated
    have combinedValue : (Tree.binary op left rightTree).value? env = some combined := by
      simpa [Tree.value?, hasStart, rightValue] using BinaryOp.apply_eq_ok_iff.mp applied
    obtain ⟨tree, reads, hasValue⟩ :=
      readsTrees (.continuation _ _) ⟨combined, combinedValue, continues⟩
    exact ⟨tree, .goesOn tight rightReads reads, hasValue⟩

end ReadsTrees

/-- Whatever the fuel, what an evaluation that succeeds has read is a tree with its value. -/
theorem readsTrees (env : Env) (fuel : Nat) : ReadsTrees env fuel := by
  induction fuel with
  | zero =>
      intro task input rest value succeeds
      cases task with
      | continuation level left =>
          obtain ⟨start, -, impossible⟩ := succeeds
          cases impossible
      | _ =>
          cases succeeds
  | succ fuel inductionHypothesis =>
      intro task input rest value succeeds
      cases task with
      | operand =>
          exact inductionHypothesis.operand succeeds
      | expression level =>
          obtain ⟨⟨start, middle⟩, first, continues⟩ := bind_eq_ok_iff.mp succeeds
          obtain ⟨firstTree, firstReads, firstValue⟩ := inductionHypothesis .operand first
          obtain ⟨tree, reads, hasValue⟩ :=
            inductionHypothesis (.continuation _ _) ⟨start, firstValue, continues⟩
          exact ⟨tree, .expression firstReads reads, hasValue⟩
      | continuation level left =>
          obtain ⟨start, hasStart, continues⟩ := succeeds
          exact inductionHypothesis.continuation hasStart continues

/-! ## Trees that are read are evaluated -/

/-- How many tokens a task takes at least. -/
def Task.least : Task → Nat
  | .operand | .expression _ => 1
  | .continuation _ _ => 0

/-- An operand and an expression take at least one token. -/
theorem Reads.length_le
    {task : Task}
    {input rest : List Token}
    {tree : Tree}
    (reads : Reads task input tree rest) :
    rest.length + task.least ≤ input.length := by
  induction reads with
  | expression _ _ first second =>
      simp only [Task.least] at *
      omega
  | _ =>
      simp only [Task.least, List.length_cons] at *
      omega

/-- The value of the tree that another one goes on from is needed for its value. -/
theorem Reads.exists_start
    {env : Env}
    {task : Task}
    {tree : Tree}
    {input rest : List Token}
    (reads : Reads task input tree rest)
    {level : Nat}
    {left : Tree}
    (goesOn : task = .continuation level left)
    {value : Int64}
    (hasValue : tree.value? env = some value) :
    ∃ start, left.value? env = some start := by
  induction reads generalizing left value with
  | ends _ =>
      cases goesOn
      exact ⟨value, hasValue⟩
  | goesOn _ _ _ _ continuationHypothesis =>
      cases goesOn
      obtain ⟨combined, combinedValue⟩ := continuationHypothesis rfl hasValue
      obtain ⟨start, hasStart, -⟩ := Option.bind_eq_some_iff.mp combinedValue
      exact ⟨start, hasStart⟩
  | _ =>
      cases goesOn

/-- The fuel that a task takes beside the three steps of every token. -/
def Task.spare : Task → Nat
  | .operand => 0
  | .expression _ | .continuation _ _ => 1

theorem Reads.exists_step
    {task : Task}
    {input rest : List Token}
    {tree : Tree}
    (reads : Reads task input tree rest)
    {fuel : Nat}
    (enough : 3 * input.length + task.spare ≤ fuel + 3 * rest.length) :
    ∃ less, fuel = less + 1 := by
  have taken := reads.length_le
  refine ⟨fuel - 1, ?_⟩
  cases task <;> simp only [Task.least, Task.spare] at taken enough <;> omega

/-- A tree that is read is evaluated to its value if there are three steps for every token. -/
theorem Reads.succeeds
    {env : Env}
    {task : Task}
    {input rest : List Token}
    {tree : Tree}
    (reads : Reads task input tree rest)
    {value : Int64}
    (hasValue : tree.value? env = some value)
    {fuel : Nat}
    (enough : 3 * input.length + task.spare ≤ fuel + 3 * rest.length) :
    task.Succeeds env fuel input value rest := by
  induction reads generalizing value fuel with
  | number =>
      obtain ⟨fuel, rfl⟩ := Reads.number.exists_step enough
      cases hasValue
      rfl
  | name =>
      obtain ⟨fuel, rfl⟩ := Reads.name.exists_step enough
      exact bind_eq_ok_iff.mpr ⟨value, Env.resolve_eq_ok_iff.mpr hasValue, rfl⟩
  | @signed token sign input rest tree isSign reads inductionHypothesis =>
      obtain ⟨fuel, rfl⟩ := (Reads.signed isSign reads).exists_step enough
      obtain ⟨inner, innerValue, rfl⟩ := Option.map_eq_some_iff.mp hasValue
      simp only [List.length_cons, Task.spare] at enough
      have evaluated : operand env fuel input = .ok (inner, rest) :=
        inductionHypothesis innerValue (by simp only [Task.spare]; omega)
      exact (operand_sign isSign input).trans (bind_eq_ok_iff.mpr ⟨_, evaluated, rfl⟩)
  | @parenthesised input rest tree reads inductionHypothesis =>
      obtain ⟨fuel, rfl⟩ := reads.parenthesised.exists_step enough
      simp only [List.length_cons, Task.spare] at enough
      have evaluated : Expr.expression env fuel 1 input = .ok (value, .closeParen :: rest) :=
        inductionHypothesis hasValue (by simp only [List.length_cons, Task.spare]; omega)
      exact
        bind_eq_ok_iff.mpr
          ⟨_, evaluated, bind_eq_ok_iff.mpr ⟨rest, expect_eq_ok_iff.mpr rfl, rfl⟩⟩
  | @byteAt input rest tree reads inductionHypothesis =>
      obtain ⟨fuel, rfl⟩ := reads.byteAt.exists_step enough
      obtain ⟨address, addressValue, rfl⟩ := Option.map_eq_some_iff.mp hasValue
      simp only [List.length_cons, Task.spare] at enough
      have evaluated : Expr.expression env fuel 1 input = .ok (address, .closeBracket :: rest) :=
        inductionHypothesis addressValue (by simp only [List.length_cons, Task.spare]; omega)
      rw [← toAddress_eq, ← ofByte_eq]
      exact
        bind_eq_ok_iff.mpr
          ⟨_, evaluated, bind_eq_ok_iff.mpr ⟨rest, expect_eq_ok_iff.mpr rfl, rfl⟩⟩
  | @expression level input middle rest first whole reads goesOn operandHypothesis
      continuationHypothesis =>
      obtain ⟨fuel, rfl⟩ := (Reads.expression reads goesOn).exists_step enough
      obtain ⟨start, hasStart⟩ := goesOn.exists_start rfl hasValue
      have taken := reads.length_le
      have left := goesOn.length_le
      simp only [Task.spare, Task.least] at enough taken left
      have evaluated : operand env fuel input = .ok (start, middle) :=
        operandHypothesis hasStart (by simp only [Task.spare]; omega)
      obtain ⟨other, sameStart, continues⟩ :
          (Task.continuation level first).Succeeds env fuel middle value rest :=
        continuationHypothesis hasValue (by simp only [Task.spare]; omega)
      cases hasStart.symm.trans sameStart
      exact bind_eq_ok_iff.mpr ⟨_, evaluated, continues⟩
  | ends ends =>
      obtain ⟨fuel, rfl⟩ := (Reads.ends ends).exists_step enough
      exact ⟨value, hasValue, continued_of_endsAt ends value⟩
  | @goesOn level op input middle rest left right whole tight reads goesOn operandHypothesis
      continuationHypothesis =>
      obtain ⟨fuel, rfl⟩ := (Reads.goesOn tight reads goesOn).exists_step enough
      obtain ⟨combined, combinedValue⟩ := goesOn.exists_start rfl hasValue
      obtain ⟨start, hasStart, later⟩ := Option.bind_eq_some_iff.mp combinedValue
      obtain ⟨operandValue, hasOperand, exact⟩ := Option.bind_eq_some_iff.mp later
      have taken := reads.length_le
      have others := goesOn.length_le
      simp only [Task.spare, Task.least, List.length_cons] at enough taken others
      have evaluated : Expr.expression env fuel (op.level + 1) input = .ok (operandValue, middle) :=
        operandHypothesis hasOperand (by simp only [Task.spare]; omega)
      obtain ⟨other, sameCombined, continues⟩ :
          (Task.continuation level (.binary op left right)).Succeeds env fuel middle value rest :=
        continuationHypothesis hasValue (by simp only [Task.spare]; omega)
      cases combinedValue.symm.trans sameCombined
      refine ⟨start, hasStart, (continued_of_level_le tight start input).trans ?_⟩
      exact
        bind_eq_ok_iff.mpr
          ⟨_, evaluated,
            bind_eq_ok_iff.mpr ⟨combined, BinaryOp.apply_eq_ok_iff.mpr exact, continues⟩⟩

end Monitor8080.Expr
