import Mathlib.Data.List.Chain
import Monitor8080.Proofs.NumberForms
namespace Monitor8080.Expr

/-!
# Tokens that are written

A token is written as a number in one of its forms that starts with a digit or a
mark, as a name, or as an operator or a bracket. Tokens are written one after
another, with spaces and tabs between them as one likes. They need not be set
apart, unless word characters would meet or two operators would run together.

`written_tokens_are_recovered` says that reading such a text gives the tokens
that were written.
-/

/-! ## Single tokens -/

/-- Operators and brackets. -/
def Token.isPunctuator : Token → Bool
  | .number _ | .name _ => false
  | .binary _ | .logicalNot | .complement => true
  | .openParen | .closeParen | .openBracket | .closeBracket => true

/-- A text is a way to write a token. -/
inductive Token.IsWritten : Token → List Char → Prop where
  | number
      {form : Text.NumberForm}
      {zeros value : Nat}
      {text : List Char}
      (written : form.Writes zeros value text)
      (fits : value < 2 ^ 63)
      (starts : Text.startsNumber text) :
      IsWritten (.number (Int64.ofNat value)) text
  | name
      {text : String}
      (named : Text.isName text) :
      IsWritten (.name text) text.toList
  | punctuator
      {token : Token}
      (isPunctuator : token.isPunctuator) :
      IsWritten token token.wording.toList

/-- The first character of an operator or a bracket. -/
theorem Token.exists_wording
    {token : Token}
    (isPunctuator : token.isPunctuator) :
    ∃ first rest,
      token.wording.toList = first :: rest ∧
        ¬ Text.isGap first ∧ ¬ Text.isWordChar first ∧ first ∉ ['.', '$', '#'] := by
  cases token with
  | number | name =>
      cases isPunctuator
  | binary op =>
      cases op <;> exact ⟨_, _, rfl, by decide⟩
  | _ =>
      exact ⟨_, _, rfl, by decide⟩

/-- What is written of a token starts neither with a gap nor with a full stop. -/
theorem Token.IsWritten.exists_first
    {token : Token}
    {text : List Char}
    (written : token.IsWritten text) :
    ∃ first rest, text = first :: rest ∧ ¬ Text.isGap first ∧ first ≠ '.' := by
  cases written with
  | @number form zeros value text written fits starts =>
      cases text with
      | nil =>
          cases starts
      | cons first rest =>
          rw [Text.startsNumber_cons] at starts
          have blank := written.isNumberText.not_isBlank first List.mem_cons_self
          refine ⟨first, rest, rfl, fun gap => blank (Text.isBlank_of_isGap gap), ?_⟩
          rintro rfl
          revert starts
          decide
  | @name text named =>
      obtain ⟨first, rest, written, starts, -⟩ := Text.exists_of_isName named
      have ofWord := Text.isWordChar_iff.mpr (.inl starts)
      refine ⟨first, rest, written, fun gap =>
        Text.not_isBlank_of_isWordChar ofWord (Text.isBlank_of_isGap gap), ?_⟩
      rintro rfl
      revert starts
      decide
  | punctuator isPunctuator =>
      obtain ⟨first, rest, written, visible, -, other⟩ := exists_wording isPunctuator
      exact ⟨first, rest, written, visible, fun stop => other (stop ▸ List.mem_cons_self)⟩

/-! ## Operators -/

/-- A single character that could be the first one of a longer operator. -/
def RunsInto (text rest : List Char) : Prop :=
  ∃ first next longer,
    text = [first] ∧ rest.head? = some next ∧
      Token.isPunctuator longer ∧ longer.wording.toList = [first, next]

theorem afterPart?_eq_some_iff
    {part cs rest : List Char} :
    afterPart? part cs = some rest ↔ cs = part ++ rest := by
  induction part generalizing cs with
  | nil =>
      rw [afterPart?, Option.some.injEq, List.nil_append]
  | cons p part inductionHypothesis =>
      cases cs with
      | nil =>
          simp [afterPart?]
      | cons c cs =>
          rw [afterPart?]
          split
          · rename_i same
            rw [inductionHypothesis, List.cons_append, same, List.cons_inj_right]
          · rename_i other
            refine iff_of_false (Option.some_ne_none _).symm fun same => ?_
            exact other (List.cons.inj same).1.symm

/-- Operators and brackets are listed as they are worded, in one character or two. -/
theorem operators_spec :
    ∀ entry ∈ operators,
      entry.2.isPunctuator ∧ entry.2.wording.toList = entry.1 ∧ entry.1.length ≤ 2 := by
  decide

/-- None is listed after one that it starts with. -/
theorem operators_ordered : operators.Pairwise fun earlier later => ¬ earlier.1 <+: later.1 := by
  decide

theorem mem_operators
    {token : Token}
    (isPunctuator : token.isPunctuator) :
    (token.wording.toList, token) ∈ operators := by
  cases token with
  | number | name =>
      cases isPunctuator
  | binary op =>
      cases op <;> decide
  | _ =>
      decide

/-- The longest operator or bracket is read. -/
theorem operator?_wording
    {token : Token}
    (isPunctuator : token.isPunctuator)
    {rest : List Char}
    (apart : ¬ RunsInto token.wording.toList rest) :
    operator? (token.wording.toList ++ rest) = some (token, rest) := by
  obtain ⟨earlier, later, listed⟩ := List.append_of_mem (mem_operators isPunctuator)
  have ordered := operators_ordered
  rw [listed, List.pairwise_append] at ordered
  have read : afterPart? token.wording.toList (token.wording.toList ++ rest) = some rest :=
    afterPart?_eq_some_iff.mpr rfl
  rw [operator?, listed, List.findSome?_append, List.findSome?_cons]
  simp only [read, Option.map_some]
  rw [Option.or_eq_right_of_none]
  refine List.findSome?_eq_none_iff.mpr fun entry isEarlier => ?_
  rw [Option.map_eq_none_iff, Option.eq_none_iff_forall_ne_some]
  intro after found
  obtain ⟨isLonger, written, short⟩ :=
    operators_spec entry (listed ▸ List.mem_append_left _ isEarlier)
  have noStart := ordered.2.2 entry isEarlier _ List.mem_cons_self
  -- Of two beginnings of one text the longer starts with the shorter.
  rcases List.append_eq_append_iff.mp (afterPart?_eq_some_iff.mp found) with
    ⟨more, longer, follows⟩ | ⟨more, shorter, -⟩
  · obtain ⟨first, others, alone, -⟩ := Token.exists_wording isPunctuator
    cases more with
    | nil =>
        exact noStart ⟨[], by rw [longer, List.append_nil, List.append_nil]⟩
    | cons next more =>
        rw [longer, alone] at short
        have lengths : others.length + (more.length + 1) ≤ 1 := by simpa using short
        have single : others = [] := List.length_eq_zero_iff.mp (by omega)
        have ended : more = [] := List.length_eq_zero_iff.mp (by omega)
        subst single ended
        refine apart ⟨first, next, entry.2, alone, ?_, isLonger, ?_⟩
        · rw [follows]
          rfl
        · rw [written, longer, alone]
          rfl
  · exact noStart ⟨more, shorter.symm⟩

/-- The second character of an operator of two. -/
theorem Token.second_of_wording
    {token : Token}
    {first second : Char}
    (isPunctuator : token.isPunctuator)
    (written : token.wording.toList = [first, second]) :
    second ∈ ['|', '&', '=', '<', '>'] := by
  cases token with
  | number | name =>
      cases isPunctuator
  | binary op =>
      cases op <;> cases written <;> decide
  | _ =>
      cases written

/-- A character that runs into a written token runs into an operator. -/
theorem Token.IsWritten.isPunctuator
    {token : Token}
    {text before : List Char}
    (written : token.IsWritten text)
    (runsInto : RunsInto before text) :
    token.isPunctuator := by
  obtain ⟨first, next, longer, -, follows, isLonger, asWritten⟩ := runsInto
  have other : ¬ Text.startsNumber [next] ∧ ¬ Text.isNameStart next := by
    have second := Token.second_of_wording isLonger asWritten
    simp only [List.mem_cons, List.not_mem_nil, or_false] at second
    rcases second with rfl | rfl | rfl | rfl | rfl <;> decide
  cases written with
  | @number _ _ _ text _ _ starts =>
      cases text with
      | nil =>
          cases follows
      | cons c rest =>
          cases follows
          rw [Text.startsNumber_cons] at starts other
          exact absurd starts other.1
  | @name text named =>
      obtain ⟨c, rest, written, starts, -⟩ := Text.exists_of_isName named
      rw [written] at follows
      cases follows
      exact absurd starts other.2
  | punctuator isPunctuator =>
      exact isPunctuator

/-! ## One token after another -/

/-- What is written of a token is read as the token, if what follows does not change that. -/
theorem Token.IsWritten.firstToken
    {token : Token}
    {text rest : List Char}
    (written : token.IsWritten text)
    (ends : Text.EndsWord text rest)
    (apart : token.isPunctuator → ¬ RunsInto text rest)
    {first : Char}
    {cs : List Char}
    (same : text = first :: cs) :
    firstToken first (cs ++ rest) = .ok (token, rest) := by
  cases written with
  | number written fits starts =>
      subst same
      rw [firstToken_of_isNumberText written.isNumberText starts ends, literal_of_writes written,
        if_pos fits]
      rfl
  | @name text named =>
      obtain ⟨c, others, asWritten, starts, goesOn⟩ := Text.exists_of_isName named
      cases asWritten.symm.trans same
      rw [asWritten] at ends
      have ofWord : ∀ c ∈ first :: cs, Text.isWordChar c :=
        List.forall_mem_cons.mpr ⟨Text.isWordChar_iff.mpr (.inl starts), goesOn⟩
      have stops := ends.head? [] (List.cons_ne_nil _ _) ofWord
      rw [firstToken_name starts goesOn fun next follows => (stops next follows).1, ← asWritten,
        String.ofList_toList]
  | punctuator isPunctuator =>
      obtain ⟨c, others, asWritten, -, noWord, other⟩ := Token.exists_wording isPunctuator
      have read := operator?_wording isPunctuator (apart isPunctuator)
      rw [same, List.cons_append] at read
      cases asWritten.symm.trans same
      rw [Text.isWordChar_iff, not_or] at noWord
      have unmarked : ¬ (first = '$' ∨ first = '#') := by
        rintro (rfl | rfl) <;> exact other (by decide)
      rw [Expr.firstToken, if_neg unmarked, if_neg noWord.2, if_neg noWord.1, read]

/-- Gaps before a text make no difference. -/
theorem tokens_gap
    {gap : List Char}
    (isGap : ∀ c ∈ gap, Text.isGap c)
    (cs : List Char) :
    tokens (gap ++ cs) = tokens cs := by
  induction gap with
  | nil =>
      rfl
  | cons c gap inductionHypothesis =>
      rw [List.forall_mem_cons] at isGap
      rw [List.cons_append, tokens, if_pos isGap.1, inductionHypothesis isGap.2]

/-- A token that is written, with the spaces and tabs before it. -/
structure Lexeme where
  gap : List Char
  token : Token
  text : List Char
  isGap : ∀ c ∈ gap, Text.isGap c
  isWritten : token.IsWritten text

namespace Lexeme

def chars (lexeme : Lexeme) : List Char :=
  lexeme.gap ++ lexeme.text

/--
Without a gap between them two tokens cannot be told apart: word characters
meet, or an operator of one character and the start of the next operator are a
longer one.
-/
def Clashes (first second : Lexeme) : Prop :=
  (∃ last next,
    first.text.getLast? = some last ∧ second.text.head? = some next ∧
      Text.isWordChar last ∧ Text.isWordChar next) ∨
    first.token.isPunctuator ∧ second.token.isPunctuator ∧ RunsInto first.text second.text

/-- Two tokens are set apart if they have to be. -/
def MayPrecede (first second : Lexeme) : Prop :=
  second.gap = [] → ¬ first.Clashes second

/-- What comes first in written tokens: a gap, or the first token. -/
theorem next_cases
    {lexemes : List Lexeme}
    {trailing : List Char}
    (isGap : ∀ c ∈ trailing, Text.isGap c)
    {next : Char}
    (follows : next ∈ (lexemes.flatMap chars ++ trailing).head?) :
    Text.isGap next ∨
      ∃ second others,
        lexemes = second :: others ∧ second.gap = [] ∧ second.text.head? = some next := by
  cases lexemes with
  | nil =>
      exact .inl (isGap next (List.mem_of_head? follows))
  | cons second others =>
      rw [List.flatMap_cons, chars, List.append_assoc, List.append_assoc] at follows
      cases empty : second.gap with
      | nil =>
          obtain ⟨first, rest, written, -⟩ := second.isWritten.exists_first
          rw [empty, written] at follows
          exact .inr ⟨second, others, rfl, empty, by rw [written]; exact follows⟩
      | cons c gap =>
          rw [empty] at follows
          have member : next ∈ second.gap := by
            rw [empty]
            exact List.mem_of_head? follows
          exact .inl (second.isGap next member)

/-- What follows a token that is set apart neither goes on with it nor changes it. -/
theorem endsWord_and_not_runsInto
    {first : Lexeme}
    {lexemes : List Lexeme}
    {trailing : List Char}
    (isGap : ∀ c ∈ trailing, Text.isGap c)
    (apart : ∀ second ∈ lexemes.head?, first.MayPrecede second) :
    Text.EndsWord first.text (lexemes.flatMap chars ++ trailing) ∧
      (first.token.isPunctuator →
        ¬ RunsInto first.text (lexemes.flatMap chars ++ trailing)) := by
  constructor
  · intro last ends ofWord next follows
    rcases next_cases isGap follows with gap | ⟨second, others, rfl, empty, starts⟩
    · constructor
      · exact fun goesOn =>
          Text.not_isBlank_of_isWordChar goesOn (Text.isBlank_of_isGap gap)
      · rintro rfl
        exact absurd gap (by decide)
    · have noClash := apart second rfl empty
      obtain ⟨c, rest, written, -, notStop⟩ := second.isWritten.exists_first
      rw [written] at starts
      cases starts
      refine ⟨fun goesOn => noClash (.inl ⟨last, next, ends, ?_, ofWord, goesOn⟩), notStop⟩
      rw [written]
      rfl
  · rintro isPunctuator ⟨c, next, longer, alone, follows, isLonger, asWritten⟩
    rcases next_cases isGap follows with gap | ⟨second, others, rfl, empty, starts⟩
    · have second := Token.second_of_wording isLonger asWritten
      have blank : next = ' ' ∨ next = '\t' := by simpa [Text.isGap] using gap
      rcases blank with rfl | rfl <;> revert second <;> decide
    · have runsInto : RunsInto first.text second.text :=
        ⟨c, next, longer, alone, starts, isLonger, asWritten⟩
      exact apart second rfl empty
        (.inr ⟨isPunctuator, second.isWritten.isPunctuator runsInto, runsInto⟩)

end Lexeme

/--
Tokens are recovered from the text that they are written in, with spaces and
tabs before, between and after them as one likes, as long as those are set
apart that would run together.
-/
theorem written_tokens_are_recovered
    {lexemes : List Lexeme}
    (apart : lexemes.IsChain Lexeme.MayPrecede)
    {trailing : List Char}
    (isGap : ∀ c ∈ trailing, Text.isGap c) :
    tokens (lexemes.flatMap Lexeme.chars ++ trailing) = .ok (lexemes.map Lexeme.token) := by
  induction lexemes with
  | nil =>
      have read := tokens_gap isGap []
      rw [List.append_nil] at read
      rw [List.flatMap_nil, List.nil_append, read, tokens_nil]
      rfl
  | cons first others inductionHypothesis =>
      rw [List.isChain_cons] at apart
      obtain ⟨ends, noLonger⟩ := Lexeme.endsWord_and_not_runsInto isGap apart.1
      obtain ⟨c, cs, written, visible, -⟩ := first.isWritten.exists_first
      have found := first.isWritten.firstToken ends noLonger written
      rw [List.flatMap_cons, Lexeme.chars, List.append_assoc, List.append_assoc,
        tokens_gap first.isGap, written, List.cons_append, tokens_cons visible found,
        inductionHypothesis apart.2]
      rfl

/-- Tokens that are set apart only where they have to be. -/
def crowded : List Lexeme :=
  [⟨[], .number 12, ['1', '2', '.'], nofun,
      @Token.IsWritten.number .fullStop 0 12 _ (by decide +kernel) (by decide) (by decide)⟩,
    ⟨[], .name "Ah", ['A', 'h'], nofun, @Token.IsWritten.name "Ah" (by decide)⟩,
    ⟨[], .binary .le, ['<', '='], nofun, .punctuator rfl⟩,
    ⟨[], .binary .sub, ['-'], nofun, .punctuator rfl⟩,
    ⟨[], .number 15, ['$', '0', 'F'], nofun,
      @Token.IsWritten.number .dollar 1 15 _ (by decide +kernel) (by decide) (by decide)⟩,
    ⟨[], .binary .bitOr, ['|'], nofun, .punctuator rfl⟩,
    ⟨['\t'], .binary .or, ['|', '|'], List.forall_mem_singleton.mpr rfl, .punctuator rfl⟩,
    ⟨[], .logicalNot, ['!'], nofun, .punctuator rfl⟩]

theorem crowded_tokens_are_recovered :
    crowded.IsChain Lexeme.MayPrecede ∧ (∀ c ∈ [' '], Text.isGap c) ∧
      tokens "12.Ah<=-$0F|\t||! ".toList =
        .ok
          [.number 12, .name "Ah", .binary .le, .binary .sub, .number 15, .binary .bitOr,
            .binary .or, .logicalNot] := by
  have noWords : ∀ c ∈ ['.', '<', '=', '-', '|'], ¬ Text.isWordChar c := by
    simp [Text.isWordChar]
  have apart : crowded.IsChain Lexeme.MayPrecede := by
    simp [crowded, Lexeme.MayPrecede, Lexeme.Clashes, RunsInto, Token.isPunctuator, noWords]
  have isGap : ∀ c ∈ [' '], Text.isGap c := List.forall_mem_singleton.mpr rfl
  exact ⟨apart, isGap, written_tokens_are_recovered apart isGap⟩

end Monitor8080.Expr
