import Mathlib.Data.List.TakeWhile
import Monitor8080.Monitor.Basic
import Monitor8080.Proofs.ExpressionValues
namespace Monitor8080

/-!
# Names in expressions

A name starts with a letter of ASCII or the underscore and goes on with word
characters. An expression that is nothing but a name has what the name means for
its value, since no blank, no mark and no digit comes first.
-/

namespace Text

/-! ## Characters of names -/

theorem isNameStart_iff
    {c : Char} :
    isNameStart c ↔
      0x41 ≤ c.toNat ∧ c.toNat ≤ 0x5A ∨ 0x61 ≤ c.toNat ∧ c.toNat ≤ 0x7A ∨ c.toNat = 0x5F := by
  have underscore : c = '_' ↔ c.toNat = 0x5F := by
    rw [← Char.toNat_inj]
    rfl
  change
    (decide (0x41 ≤ c.val ∧ c.val ≤ 0x5A)
      || (decide (0x61 ≤ c.val) && decide (c.val ≤ 0x7A)) || c == '_') = true ↔ _
  simp [UInt32.le_iff_toNat_le, underscore, or_assoc]

theorem isDigit_iff
    {c : Char} :
    c.isDigit ↔ 0x30 ≤ c.toNat ∧ c.toNat ≤ 0x39 := by
  change (decide (0x30 ≤ c.val) && decide (c.val ≤ 0x39)) = true ↔ _
  simp [UInt32.le_iff_toNat_le]

theorem isWordChar_iff
    {c : Char} :
    isWordChar c ↔ isNameStart c ∨ c.isDigit := by
  change (c.isAlpha || c.isDigit || c == '_') = true ↔ (c.isAlpha || c == '_') = true ∨ c.isDigit
  simp [or_right_comm]

/-- A word is read as far as it goes. -/
theorem takeWhile_and_dropWhile_word
    {word rest : List Char}
    (ofWord : ∀ c ∈ word, isWordChar c)
    (stops : ∀ next ∈ rest.head?, ¬ isWordChar next) :
    (word ++ rest).takeWhile isWordChar = word ∧ (word ++ rest).dropWhile isWordChar = rest := by
  have ended : rest.takeWhile isWordChar = [] ∧ rest.dropWhile isWordChar = rest := by
    cases rest with
    | nil =>
        exact ⟨rfl, rfl⟩
    | cons next others =>
        have noWord := stops next rfl
        exact ⟨List.takeWhile_cons_of_neg noWord, List.dropWhile_cons_of_neg noWord⟩
  rw [List.takeWhile_append_of_pos ofWord, List.dropWhile_append_of_pos ofWord, ended.1, ended.2,
    List.append_nil]
  exact ⟨rfl, rfl⟩

theorem not_isBlank_of_isWordChar
    {c : Char}
    (ofWord : isWordChar c) :
    ¬ isBlank c := by
  rw [isWordChar_iff, isNameStart_iff, isDigit_iff] at ofWord
  simp only [isBlank, Bool.or_eq_true, Bool.and_eq_true, decide_eq_true_eq, beq_iff_eq]
  omega

theorem isBlank_of_isGap
    {c : Char}
    (gap : isGap c) :
    isBlank c := by
  rw [isGap, Bool.or_eq_true, beq_iff_eq, beq_iff_eq] at gap
  rcases gap with rfl | rfl <;> decide

/-- A name is a start followed by word characters. -/
theorem exists_of_isName
    {text : String}
    (named : isName text) :
    ∃ first rest,
      text.toList = first :: rest ∧ isNameStart first ∧ ∀ c ∈ rest, isWordChar c := by
  unfold isName at named
  cases written : text.toList with
  | nil =>
      rw [written] at named
      cases named
  | cons first rest =>
      rw [written, isNameChars, Bool.and_eq_true, List.all_eq_true] at named
      exact ⟨first, rest, rfl, named⟩

/-- A text has no blanks to trim if it does not start or end with one. -/
theorem trimChars_eq_self
    {cs : List Char}
    (starts : ∀ c, cs.head? = some c → ¬ isBlank c)
    (ends : ∀ c, cs.getLast? = some c → ¬ isBlank c) :
    trimChars cs = cs := by
  have untrimmed : ∀ {text : List Char},
      (∀ c, text.head? = some c → ¬ isBlank c) → text.dropWhile isBlank = text := by
    intro text visible
    cases text with
    | nil =>
        rfl
    | cons c rest =>
        exact List.dropWhile_cons_of_neg (visible c rfl)
  rw [trimChars, untrimmed starts, untrimmed, List.reverse_reverse]
  intro c first
  exact ends c (List.getLast?_eq_head?_reverse.trans first)

/-- A text that has no blanks has none to trim. -/
theorem trimChars_of_forall
    {cs : List Char}
    (visible : ∀ c ∈ cs, ¬ isBlank c) :
    trimChars cs = cs :=
  trimChars_eq_self (fun c first => visible c (List.mem_of_head? first))
    fun c last => visible c (List.mem_of_getLast? last)

/-- There are no blanks to trim about a name. -/
theorem trimChars_of_isName
    {text : String}
    (named : isName text) :
    trimChars text.toList = text.toList := by
  obtain ⟨first, rest, written, starts, goesOn⟩ := exists_of_isName named
  refine trimChars_of_forall ?_
  rw [written, List.forall_mem_cons]
  exact ⟨not_isBlank_of_isWordChar (isWordChar_iff.mpr (.inl starts)),
    fun c member => not_isBlank_of_isWordChar (goesOn c member)⟩

end Text

namespace Expr

/-! ## Expressions that are only a name -/

/-- A name is one token, if what follows does not go on with it. -/
theorem firstToken_name
    {first : Char}
    {rest after : List Char}
    (starts : Text.isNameStart first)
    (goesOn : ∀ c ∈ rest, Text.isWordChar c)
    (stops : ∀ next ∈ after.head?, ¬ Text.isWordChar next) :
    firstToken first (rest ++ after) = .ok (.name (String.ofList (first :: rest)), after) := by
  have unmarked : ¬ (first = '$' ∨ first = '#') := by
    rintro (rfl | rfl) <;> revert starts <;> decide
  have noDigit : ¬ first.isDigit := by
    rw [Text.isNameStart_iff] at starts
    rw [Text.isDigit_iff]
    omega
  obtain ⟨word, others⟩ := Text.takeWhile_and_dropWhile_word goesOn stops
  rw [firstToken, if_neg unmarked, if_neg noDigit, if_pos starts, word, others]

theorem tokens_cons
    {c : Char}
    {cs rest : List Char}
    {token : Token}
    (visible : ¬ Text.isGap c)
    (found : firstToken c cs = .ok (token, rest)) :
    tokens (c :: cs) = (tokens rest).map (token :: ·) := by
  rw [tokens, if_neg visible]
  split
  · rename_i error other
    cases found.symm.trans other
  · rename_i other
    cases found.symm.trans other
    rfl

theorem tokens_nil : tokens [] = .ok [] := by
  rw [tokens]

/-- A name is one token. -/
theorem tokens_of_isName
    {text : String}
    (named : Text.isName text) :
    tokens text.toList = .ok [.name text] := by
  obtain ⟨first, rest, written, starts, goesOn⟩ := Text.exists_of_isName named
  have visible : ¬ Text.isGap first := fun gap =>
    Text.not_isBlank_of_isWordChar (Text.isWordChar_iff.mpr (.inl starts))
      (Text.isBlank_of_isGap gap)
  have found := @firstToken_name first rest [] starts goesOn nofun
  rw [List.append_nil] at found
  rw [written, tokens_cons visible found, tokens_nil, ← written, String.ofList_toList]
  rfl

/-- The only value of a name is its meaning. -/
theorem valueOfTokens_name
    (env : Env)
    (name : String) :
    valueOfTokens env [.name name] = env.resolve name := by
  have read : operand env 5 [.name name] = (env.resolve name).map (·, []) := by
    change (env.resolve name >>= fun value => pure (value, [])) = _
    cases env.resolve name <;> rfl
  have expressed : expression env 6 1 [.name name] = (env.resolve name).map (·, []) := by
    change (operand env 5 [.name name] >>= fun result => continued env 5 1 result.1 result.2) = _
    rw [read]
    cases env.resolve name <;> rfl
  unfold valueOfTokens
  change (expression env 6 1 [.name name] >>= _) = _
  rw [expressed]
  cases env.resolve name <;> rfl

/-- As an expression a name is resolved, whatever it means. -/
theorem evaluate_of_isName
    (env : Env)
    {text : String}
    (named : Text.isName text) :
    evaluate env text = env.resolve text := by
  rw [evaluate, Text.trimChars_of_isName named, tokens_of_isName named]
  exact valueOfTokens_name env text

/-- As an expression a name has its meaning. -/
theorem evaluate_eq_ok_iff_of_isName
    {env : Env}
    {text : String}
    {value : Int64}
    (named : Text.isName text) :
    evaluate env text = .ok value ↔ env.meaning? text = some value := by
  rw [evaluate_of_isName env named, Env.resolve_eq_ok_iff]

end Expr

end Monitor8080
