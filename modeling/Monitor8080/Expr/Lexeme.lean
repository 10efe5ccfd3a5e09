import Monitor8080.Text.Blank
import Monitor8080.Expr.Token
namespace Monitor8080.Expr

/-!
# From text to tokens

A word that starts with a digit, or that `$` or `#` precedes, is a number and
any other word is a name. Spaces and tabs may stand between tokens; where two
operators could be read, the longer one is.
-/

/-- The rest of a text after a part that starts it. -/
def afterPart? : (part text : List Char) → Option (List Char)
  | [], rest => some rest
  | _ :: _, [] => none
  | p :: part, c :: rest => if p = c then afterPart? part rest else none

/-- The operator or bracket that a text starts with, and the rest. -/
def operator? (cs : List Char) : Option (Token × List Char) :=
  operators.findSome? fun (written, token) =>
    (afterPart? written cs).map fun rest => (token, rest)

/-- The number that a literal stands for. -/
def literal (cs : List Char) : Except Fault Token :=
  match Text.numeralChars? cs with
  | some value => .ok (.number value)
  | none => .error (.invalidNumber (String.ofList cs))

/-- The way a character that starts no token is shown: whole if ASCII, else replaced. -/
def strayText (c : Char) : String :=
  if c.toNat < 0x80 then String.singleton c else String.singleton '\ufffd'

/-- The literal after the mark `$` or `#`, and the rest. -/
def markedLiteral (mark : Char) (cs : List Char) : Except Fault (Token × List Char) :=
  match cs.takeWhile Text.isWordChar with
  | [] => .error (.invalidNumber (String.ofList (mark :: cs)))
  | word => (literal (mark :: word)).map (·, cs.dropWhile Text.isWordChar)

/-- The number that starts with a digit, and the rest; a full stop may close it. -/
def plainLiteral (digit : Char) (cs : List Char) : Except Fault (Token × List Char) :=
  let word := digit :: cs.takeWhile Text.isWordChar
  match cs.dropWhile Text.isWordChar with
  | '.' :: rest => (literal (word ++ ['.'])).map (·, rest)
  | rest => (literal word).map (·, rest)

/-- The first token of a text that starts with some character, and the rest. -/
def firstToken (c : Char) (cs : List Char) : Except Fault (Token × List Char) :=
  if c = '$' ∨ c = '#' then
    markedLiteral c cs
  else if c.isDigit then
    plainLiteral c cs
  else if Text.isNameStart c then
    .ok (.name (String.ofList (c :: cs.takeWhile Text.isWordChar)),
      cs.dropWhile Text.isWordChar)
  else
    match operator? (c :: cs) with
    | some found => .ok found
    | none => .error (.unexpectedToken (strayText c))

private theorem length_afterPart? {part cs rest : List Char}
    (found : afterPart? part cs = some rest) :
    rest.length + part.length = cs.length := by
  induction part generalizing cs with
  | nil => simp_all [afterPart?]
  | cons p part inductionHypothesis =>
      cases cs with
      | nil => simp [afterPart?] at found
      | cons c cs =>
          simp only [afterPart?] at found
          split at found
          · have := inductionHypothesis found
            simp only [List.length_cons]
            omega
          · simp at found

private theorem length_operator? {cs rest : List Char} {token : Token}
    (found : operator? cs = some (token, rest)) :
    rest.length < cs.length := by
  obtain ⟨⟨written, listed⟩, member, matched⟩ := List.exists_of_findSome?_eq_some found
  obtain ⟨after, isAfter, same⟩ := Option.map_eq_some_iff.1 matched
  have lengths := length_afterPart? isAfter
  have nonempty : 0 < written.length := by
    revert member
    simp only [operators, List.mem_cons, Prod.mk.injEq, List.not_mem_nil, or_false]
    rintro (h | h | h | h | h | h | h | h | h | h | h | h | h | h | h | h | h | h | h | h | h | h |
      h | h)
      <;> simp [h.1]
  cases same
  omega

private theorem eq_of_map_pair {result : Except Fault Token} {rest tail : List Char}
    {token : Token}
    (mapped : result.map (·, rest) = .ok (token, tail)) :
    tail = rest := by
  cases result with
  | error => simp [Except.map] at mapped
  | ok value =>
      simp only [Except.map, Except.ok.injEq, Prod.mk.injEq] at mapped
      exact mapped.2.symm

/-- A token takes at least one character. -/
theorem length_firstToken_le {c : Char} {cs rest : List Char} {token : Token}
    (found : firstToken c cs = .ok (token, rest)) :
    rest.length ≤ cs.length := by
  have dropped : (cs.dropWhile Text.isWordChar).length ≤ cs.length :=
    (List.dropWhile_sublist Text.isWordChar).length_le
  unfold firstToken at found
  split at found
  · unfold markedLiteral at found
    split at found
    · simp at found
    · rw [eq_of_map_pair found]
      exact dropped
  · split at found
    · unfold plainLiteral at found
      simp only at found
      split at found
      · next same =>
          rw [eq_of_map_pair found]
          simp only [same, List.length_cons] at dropped
          omega
      · rw [eq_of_map_pair found]
        exact dropped
    · split at found
      · simp only [Except.ok.injEq, Prod.mk.injEq] at found
        rw [← found.2]
        exact dropped
      · split at found
        · next same =>
            simp only [Except.ok.injEq] at found
            subst found
            have := length_operator? same
            simp only [List.length_cons] at this
            omega
        · simp at found

def tokens (cs : List Char) : Except Fault (List Token) :=
  match cs with
  | [] => .ok []
  | c :: rest =>
      if Text.isGap c then
        tokens rest
      else
        match found : firstToken c rest with
        | .error error => .error error
        | .ok (token, tail) =>
            have _shorter := length_firstToken_le found
            (tokens tail).map (token :: ·)
termination_by cs.length
decreasing_by
  · simp
  · simp only [List.length_cons]
    omega

end Monitor8080.Expr
