import Mathlib.Algebra.Group.Nat.Defs
import Monitor8080.Proofs.HexDigits
import Monitor8080.Proofs.NameExpressions
namespace Monitor8080

/-!
# The forms of a number

A number can be written in six forms: in hexadecimal digits as they are, after
`0x` or `$`, or before `h`, and in decimal digits after `#` or before a full
stop. Letters may be of either case, and any number of zeros may come first. A
sign belongs to none of the forms.

Each form is read as the number that it was written for, if that is less than
two to the power of 63, and refused otherwise. In an expression this goes for
texts that start with a digit or a mark. Any other is a name first of all, and
is a number only where nothing has that name.
-/

namespace Text

/-! ## Writing -/

/-- The ways to mark off the digits of a number. -/
inductive NumberForm where
  | bare
  | zeroX
  | dollar
  | letterH
  | hash
  | fullStop
  deriving Repr, DecidableEq

namespace NumberForm

/-- The base of the digits. -/
def base : NumberForm → Nat
  | .bare | .zeroX | .dollar | .letterH => 16
  | .hash | .fullStop => 10

/-- Digits and the mark about them. -/
def mark (form : NumberForm) (digits : List Char) : List Char :=
  match form with
  | .bare => digits
  | .zeroX => '0' :: 'x' :: digits
  | .dollar => '$' :: digits
  | .letterH => digits ++ ['h']
  | .hash => '#' :: digits
  | .fullStop => digits ++ ['.']

/-- The digits of a number after some zeros. -/
def digits (form : NumberForm) (zeros value : Nat) : List Char :=
  List.replicate zeros '0' ++ Nat.toDigits form.base value

/-- A text is a number in some form, with letters of either case. -/
def Writes (form : NumberForm) (zeros value : Nat) (text : List Char) : Prop :=
  text.map Char.toLower = form.mark (form.digits zeros value)

instance (form : NumberForm) (zeros value : Nat) (text : List Char) :
    Decidable (form.Writes zeros value text) :=
  inferInstanceAs (Decidable (_ = _))

theorem base_spec (form : NumberForm) : 1 < form.base ∧ form.base ≤ 16 := by
  cases form <;> decide

end NumberForm

/-- Characters are digits in small letters, of which there is one at least. -/
structure AreDigits (base : Nat) (cs : List Char) : Prop where
  nonempty : cs ≠ []
  areDigits : ∀ c ∈ cs, ∃ digit < base, c = digit.digitChar

theorem areDigits_toDigits
    {base : Nat}
    (several : 1 < base)
    (value : Nat) :
    AreDigits base (Nat.toDigits base value) := by
  induction value using Nat.strongRecOn with
  | ind value inductionHypothesis =>
      refine ⟨Nat.toDigits_ne_nil, ?_⟩
      rw [Nat.toDigits_eq_if several]
      split
      · rename_i isDigit
        intro c member
        exact ⟨value, isDigit, List.mem_singleton.mp member⟩
      · rename_i notDigit
        intro c member
        rcases List.mem_append.mp member with higher | lowest
        · exact (inductionHypothesis _ (Nat.div_lt_self (by omega) several)).areDigits c higher
        · exact ⟨_, Nat.mod_lt value (by omega), List.mem_singleton.mp lowest⟩

namespace NumberForm

theorem areDigits_digits (form : NumberForm) (zeros value : Nat) :
    AreDigits form.base (form.digits zeros value) := by
  have written := areDigits_toDigits form.base_spec.1 value
  refine ⟨List.append_ne_nil_of_right_ne_nil _ written.nonempty, fun c member => ?_⟩
  rcases List.mem_append.mp member with leading | ofValue
  · exact ⟨0, Nat.lt_of_succ_lt form.base_spec.1, List.eq_of_mem_replicate leading⟩
  · exact written.areDigits c ofValue

/-- Zeros in front do not change the value of digits. -/
theorem digitsValue?_digits (form : NumberForm) (zeros value : Nat) :
    digitsValue? form.base (form.digits zeros value) = some value := by
  have zero := digitValue?_digitChar form.base form.base_spec.2 0 (Nat.lt_of_succ_lt form.base_spec.1)
  unfold digits
  induction zeros with
  | zero =>
      exact digitsValue?_toDigits form.base_spec.1 form.base_spec.2 value
  | succ zeros inductionHypothesis =>
      rw [List.replicate_succ, List.cons_append, digitsValue?, List.foldlM_cons]
      change ((digitValue? form.base (Nat.digitChar 0)).map _).bind _ = _
      rw [zero, Option.map_some, Option.bind_some, Nat.zero_mul]
      exact inductionHypothesis

end NumberForm

/-! ## Reading -/

theorem digitChar_spec :
    ∀ digit < 16,
      isWordChar digit.digitChar ∧ digit.digitChar ∉ ['x', '$', '#', '.', 'h', '+', '-'] := by
  decide

theorem isDigit_digitChar : ∀ digit < 10, digit.digitChar.isDigit := by
  decide

namespace AreDigits

variable {base : Nat} {cs : List Char}

/-- No character of a mark or a sign is a digit. -/
theorem not_mem
    (areDigits : AreDigits base cs)
    (atMost : base ≤ 16)
    {c : Char}
    (other : c ∈ ['x', '$', '#', '.', 'h', '+', '-']) :
    c ∉ cs := by
  intro member
  obtain ⟨digit, small, rfl⟩ := areDigits.areDigits c member
  exact (digitChar_spec digit (by omega)).2 other

theorem isWordChar_of_mem
    (areDigits : AreDigits base cs)
    (atMost : base ≤ 16)
    {c : Char}
    (member : c ∈ cs) :
    isWordChar c := by
  obtain ⟨digit, small, rfl⟩ := areDigits.areDigits c member
  exact (digitChar_spec digit (by omega)).1

/-- Digits without a sign have their value, as far as it fits. -/
theorem signed?_eq
    (areDigits : AreDigits base cs)
    (atMost : base ≤ 16) :
    signed? base cs = (digitsValue? base cs).bind fun value => int64? value := by
  have unsigned : ∀ rest, cs ≠ '+' :: rest ∧ cs ≠ '-' :: rest := by
    refine fun rest => ⟨?_, ?_⟩ <;>
      · rintro rfl
        exact areDigits.not_mem atMost (by decide) List.mem_cons_self
  have magnitude : magnitude? base cs = digitsValue? base cs := by
    rw [magnitude?]
    exact areDigits.nonempty
  unfold signed?
  split
  · exact absurd rfl (unsigned _).1
  · exact absurd rfl (unsigned _).2
  · rw [magnitude]

end AreDigits

/-- Where no mark comes first, the last character tells the form. -/
theorem splitNotation_of_unmarked
    {cs : List Char}
    (noX : 'x' ∉ cs)
    (noDollar : '$' ∉ cs)
    (noHash : '#' ∉ cs) :
    splitNotation cs =
      match cs.getLast? with
      | some '.' => (10, cs.dropLast)
      | some 'h' => (16, cs.dropLast)
      | _ => (16, cs) := by
  unfold splitNotation
  split
  · simp at noX
  · simp at noDollar
  · simp at noHash
  · rfl

/-- The mark is taken off that was put about the digits. -/
theorem splitNotation_mark
    (form : NumberForm)
    {digits : List Char}
    (areDigits : AreDigits form.base digits) :
    splitNotation (form.mark digits) = (form.base, digits) := by
  have none {c : Char} (other : c ∈ ['x', '$', '#', '.', 'h', '+', '-']) : c ∉ digits :=
    areDigits.not_mem form.base_spec.2 other
  have noX := none (c := 'x') (by decide)
  have noDollar := none (c := '$') (by decide)
  have noHash := none (c := '#') (by decide)
  cases form with
  | zeroX | dollar | hash =>
      rfl
  | letterH | fullStop =>
      rw [NumberForm.mark,
        splitNotation_of_unmarked (by simp [noX]) (by simp [noDollar]) (by simp [noHash])]
      simp [NumberForm.base]
  | bare =>
      rw [NumberForm.mark, splitNotation_of_unmarked noX noDollar noHash]
      split
      · rename_i last
        exact absurd (List.mem_of_getLast? last) (none (by decide))
      · rename_i last
        exact absurd (List.mem_of_getLast? last) (none (by decide))
      · rfl

theorem int64?_natCast (value : Nat) :
    int64? value = if value < 2 ^ 63 then some (Int64.ofNat value) else none := by
  unfold int64?
  by_cases small : value < 2 ^ 63
  · rw [if_pos (by omega), if_pos small]
    rfl
  · rw [if_neg (by omega), if_neg small]

/-- A number in any form has its value if that fits, and none otherwise. -/
theorem NumberForm.Writes.numeralChars?_eq
    {form : NumberForm}
    {zeros value : Nat}
    {text : List Char}
    (written : form.Writes zeros value text) :
    numeralChars? text = if value < 2 ^ 63 then some (Int64.ofNat value) else none := by
  have areDigits := form.areDigits_digits zeros value
  have read := splitNotation_mark form areDigits
  unfold numeralChars?
  rw [written, read]
  simp only
  rw [areDigits.signed?_eq form.base_spec.2, form.digitsValue?_digits, Option.bind_some,
    int64?_natCast]

/-! ## Characters of written numbers -/

theorem toNat_toLower (c : Char) :
    c.toLower.toNat =
      if 0x41 ≤ c.toNat ∧ c.toNat ≤ 0x5A then c.toNat + 0x20 else c.toNat := by
  have bounds : 'A'.val ≤ c.val ∧ c.val ≤ 'Z'.val ↔ 0x41 ≤ c.toNat ∧ c.toNat ≤ 0x5A := by
    simp [UInt32.le_iff_toNat_le]
  unfold Char.toLower
  split
  · rename_i capital
    have range := bounds.mp capital
    have sum : (c.val + ('a'.val - 'A'.val)).toNat = (c.toNat + 0x20) % 2 ^ 32 :=
      UInt32.toNat_add _ _
    rw [if_pos range]
    change (c.val + ('a'.val - 'A'.val)).toNat = _
    omega
  · rename_i other
    rw [if_neg (fun capital => other (bounds.mpr capital))]

theorem isWordChar_toLower (c : Char) : isWordChar c.toLower = isWordChar c := by
  rw [Bool.eq_iff_iff, isWordChar_iff, isWordChar_iff, isNameStart_iff, isNameStart_iff,
    isDigit_iff, isDigit_iff, toNat_toLower]
  split <;> omega

/-- Only letters have another case. -/
theorem eq_of_toLower_eq
    {c other : Char}
    (same : c.toLower = other)
    (noLetter : other.toNat < 0x61) :
    c = other := by
  have codes := toNat_toLower c
  rw [same] at codes
  split at codes
  · omega
  · exact Char.toNat_inj.mp codes.symm

theorem isWordChar_of_map_toLower
    {text lower : List Char}
    (same : text.map Char.toLower = lower)
    (ofWord : ∀ c ∈ lower, isWordChar c) :
    ∀ c ∈ text, isWordChar c := by
  intro c member
  rw [← isWordChar_toLower]
  exact ofWord _ (same ▸ List.mem_map_of_mem member)

/-- A number is word characters, after a mark or before a full stop if there is one. -/
inductive IsNumberText : List Char → Prop where
  | marked
      {first second : Char}
      {rest : List Char}
      (isMark : first = '$' ∨ first = '#')
      (ofWord : ∀ c ∈ second :: rest, isWordChar c) :
      IsNumberText (first :: second :: rest)
  | plain
      {first : Char}
      {rest : List Char}
      (ofWord : ∀ c ∈ first :: rest, isWordChar c) :
      IsNumberText (first :: rest)
  | stopped
      {first : Char}
      {rest : List Char}
      (isDigit : first.isDigit)
      (ofWord : ∀ c ∈ rest, isWordChar c) :
      IsNumberText (first :: (rest ++ ['.']))

/-- A text that is word characters in small letters is a number without a mark. -/
theorem IsNumberText.of_map_toLower
    {text lower : List Char}
    (same : text.map Char.toLower = lower)
    (nonempty : lower ≠ [])
    (ofWord : ∀ c ∈ lower, isWordChar c) :
    IsNumberText text := by
  cases text with
  | nil =>
      exact absurd same.symm nonempty
  | cons first rest =>
      exact .plain (isWordChar_of_map_toLower same ofWord)

/-- Digits after a mark are a number. -/
theorem IsNumberText.of_mark
    {text digits : List Char}
    {mark : Char}
    (same : text.map Char.toLower = mark :: digits)
    (isMark : mark = '$' ∨ mark = '#')
    (nonempty : digits ≠ [])
    (ofWord : ∀ c ∈ digits, isWordChar c) :
    IsNumberText text := by
  obtain ⟨first, others, rfl, isFirst, areOthers⟩ := List.map_eq_cons_iff.mp same
  have unchanged : first = mark :=
    eq_of_toLower_eq isFirst (by rcases isMark with rfl | rfl <;> decide)
  cases others with
  | nil =>
      exact absurd areOthers.symm nonempty
  | cons second rest =>
      exact .marked (unchanged ▸ isMark) (isWordChar_of_map_toLower areOthers ofWord)

theorem NumberForm.Writes.isNumberText
    {form : NumberForm}
    {zeros value : Nat}
    {text : List Char}
    (written : form.Writes zeros value text) :
    IsNumberText text := by
  have areDigits := form.areDigits_digits zeros value
  have nonempty := areDigits.nonempty
  have ofWord : ∀ c ∈ form.digits zeros value, isWordChar c :=
    fun c => areDigits.isWordChar_of_mem form.base_spec.2
  cases form with
  | bare =>
      exact .of_map_toLower written nonempty ofWord
  | zeroX =>
      refine .of_map_toLower written (List.cons_ne_nil _ _) ?_
      rw [NumberForm.mark, List.forall_mem_cons, List.forall_mem_cons]
      exact ⟨by decide, by decide, ofWord⟩
  | letterH =>
      refine .of_map_toLower written (List.append_ne_nil_of_left_ne_nil nonempty _) ?_
      rw [NumberForm.mark, List.forall_mem_append, List.forall_mem_singleton]
      exact ⟨ofWord, by decide⟩
  | dollar =>
      exact .of_mark written (.inl rfl) nonempty ofWord
  | hash =>
      exact .of_mark written (.inr rfl) nonempty ofWord
  | fullStop =>
      obtain ⟨word, last, rfl, isWord, isLast⟩ := List.map_eq_append_iff.mp written
      obtain ⟨stop, rfl, isStop⟩ := List.map_eq_singleton_iff.mp isLast
      cases eq_of_toLower_eq isStop (by decide)
      cases word with
      | nil =>
          exact absurd isWord.symm nonempty
      | cons first rest =>
          obtain ⟨digit, small, isFirst⟩ :=
            areDigits.areDigits first.toLower (isWord ▸ List.mem_cons_self)
          have decimal := isDigit_digitChar digit small
          have unchanged := eq_of_toLower_eq isFirst (by rw [isDigit_iff] at decimal; omega)
          refine .stopped (unchanged ▸ decimal) fun c member => ?_
          exact isWordChar_of_map_toLower isWord ofWord c (List.mem_cons_of_mem first member)

/-- A text starts with a digit or a mark, as no name does. -/
def startsNumber (text : List Char) : Bool :=
  text.head?.any fun first => first == '$' || first == '#' || first.isDigit

theorem startsNumber_cons (first : Char) (rest : List Char) :
    startsNumber (first :: rest) ↔ (first = '$' ∨ first = '#') ∨ first.isDigit := by
  simp [startsNumber]

/-- Nothing follows a text that would go on with a word or close a number at its end. -/
def EndsWord (text rest : List Char) : Prop :=
  ∀ last ∈ text.getLast?, isWordChar last → ∀ next ∈ rest.head?, ¬ isWordChar next ∧ next ≠ '.'

theorem endsWord_nil (text : List Char) : EndsWord text [] := nofun

/-- What follows a text that ends in word characters. -/
theorem EndsWord.head?
    (before : List Char)
    {word rest : List Char}
    (ends : EndsWord (before ++ word) rest)
    (nonempty : word ≠ [])
    (ofWord : ∀ c ∈ word, isWordChar c) :
    ∀ next ∈ rest.head?, ¬ isWordChar next ∧ next ≠ '.' := by
  have last : (before ++ word).getLast? = some (word.getLast nonempty) := by
    rw [List.getLast?_append, List.getLast?_eq_some_getLast nonempty, Option.some_or]
  exact ends _ last (ofWord _ (List.getLast_mem nonempty))

/-- No blank stands in a number. -/
theorem IsNumberText.not_isBlank
    {text : List Char}
    (shaped : IsNumberText text) :
    ∀ c ∈ text, ¬ isBlank c := by
  have ofWord {word : List Char} (areWord : ∀ c ∈ word, isWordChar c) : ∀ c ∈ word, ¬ isBlank c :=
    fun c member => not_isBlank_of_isWordChar (areWord c member)
  cases shaped with
  | marked isMark areWord =>
      refine List.forall_mem_cons.mpr ⟨?_, ofWord areWord⟩
      rcases isMark with rfl | rfl <;> decide
  | plain areWord =>
      exact ofWord areWord
  | stopped isDigit areWord =>
      rw [List.forall_mem_cons, List.forall_mem_append, List.forall_mem_singleton]
      exact ⟨not_isBlank_of_isWordChar (isWordChar_iff.mpr (.inr isDigit)), ofWord areWord,
        by decide⟩

/-- A number that starts with no digit and no mark is a name. -/
theorem IsNumberText.isName
    {text : String}
    (shaped : IsNumberText text.toList)
    (other : ¬ startsNumber text.toList) :
    isName text := by
  unfold Text.isName
  cases written : text.toList with
  | nil =>
      rw [written] at shaped
      cases shaped
  | cons first rest =>
      rw [written] at shaped other
      rw [startsNumber_cons, not_or] at other
      cases shaped with
      | marked isMark =>
          exact absurd isMark other.1
      | stopped isDigit =>
          exact absurd isDigit other.2
      | plain ofWord =>
          rw [List.forall_mem_cons, isWordChar_iff] at ofWord
          rw [isNameChars, Bool.and_eq_true, List.all_eq_true]
          exact ⟨ofWord.1.resolve_right other.2, ofWord.2⟩

end Text

namespace Expr

/-! ## Numbers in expressions -/

/-- A number is one token, if what follows does not go on with it. -/
theorem firstToken_of_isNumberText
    {first : Char}
    {cs rest : List Char}
    (shaped : Text.IsNumberText (first :: cs))
    (starts : Text.startsNumber (first :: cs))
    (ends : Text.EndsWord (first :: cs) rest) :
    firstToken first (cs ++ rest) = (literal (first :: cs)).map (·, rest) := by
  rw [Text.startsNumber_cons] at starts
  cases shaped with
  | @marked _ second others isMark ofWord =>
      have stops := ends.head? [first] (List.cons_ne_nil _ _) ofWord
      obtain ⟨word, after⟩ :=
        Text.takeWhile_and_dropWhile_word ofWord fun next follows => (stops next follows).1
      rw [firstToken, if_pos isMark, markedLiteral, word, after]
  | plain ofWord =>
      have stops := ends.head? [] (List.cons_ne_nil _ _) ofWord
      rw [List.forall_mem_cons] at ofWord
      obtain ⟨word, after⟩ :=
        Text.takeWhile_and_dropWhile_word ofWord.2 fun next follows => (stops next follows).1
      have unmarked : ¬ (first = '$' ∨ first = '#') := by
        rintro (rfl | rfl) <;> exact absurd ofWord.1 (by decide)
      rw [firstToken, if_neg unmarked, if_pos (starts.resolve_left unmarked), plainLiteral, word,
        after]
      split
      · exact absurd rfl (stops '.' rfl).2
      · rfl
  | @stopped _ others isDigit ofWord =>
      have unmarked : ¬ (first = '$' ∨ first = '#') := by
        rintro (rfl | rfl) <;> revert isDigit <;> decide
      obtain ⟨word, after⟩ :=
        @Text.takeWhile_and_dropWhile_word others ('.' :: rest) ofWord (by simp; decide)
      rw [List.append_assoc, List.singleton_append, firstToken, if_neg unmarked, if_pos isDigit,
        plainLiteral, word, after]
      rfl

/-- As an expression a number that starts with a digit or a mark is that number. -/
theorem evaluate_of_isNumberText
    (env : Env)
    {text : String}
    (shaped : Text.IsNumberText text.toList)
    (starts : Text.startsNumber text.toList) :
    evaluate env text = (literal text.toList >>= fun token => valueOfTokens env [token]) := by
  have trimmed := Text.trimChars_of_forall shaped.not_isBlank
  rw [evaluate, trimmed]
  cases written : text.toList with
  | nil =>
      rw [written] at shaped
      cases shaped
  | cons first cs =>
      rw [written] at shaped starts
      have found := firstToken_of_isNumberText shaped starts (Text.endsWord_nil _)
      rw [List.append_nil] at found
      have visible : ¬ Text.isGap first := fun gap =>
        shaped.not_isBlank first List.mem_cons_self (Text.isBlank_of_isGap gap)
      cases read : literal (first :: cs) with
      | error fault =>
          rw [read] at found
          rw [tokens, if_neg visible]
          split
          · rename_i error failed
            cases found.symm.trans failed
            rfl
          · rename_i succeeded
            cases found.symm.trans succeeded
      | ok token =>
          rw [read] at found
          rw [tokens_cons visible found, tokens_nil]
          rfl

/-- Nothing that an expression may refer to has a name. -/
structure Env.IsUnused (env : Env) (name : String) : Prop where
  noVariable : env.variableNamed? name = none
  noRegister : env.registerNamed? name = none
  noSymbol : env.symbolNamed? name = none

theorem Env.IsUnused.resolve_eq
    {env : Env}
    {name : String}
    (unused : env.IsUnused name) :
    env.resolve name =
      match Text.numeral? name with
      | some value => .ok value
      | none => .error (.undefined name) := by
  rw [resolve, unused.noVariable, unused.noRegister, unused.noSymbol]
  rfl

theorem literal_of_writes
    {form : Text.NumberForm}
    {zeros value : Nat}
    {text : List Char}
    (written : form.Writes zeros value text) :
    literal text =
      if value < 2 ^ 63 then .ok (.number (Int64.ofNat value))
      else .error (.invalidNumber (String.ofList text)) := by
  rw [literal, written.numeralChars?_eq]
  by_cases fits : value < 2 ^ 63
  · rw [if_pos fits, if_pos fits]
  · rw [if_neg fits, if_neg fits]

end Expr

/--
A number in any of the six forms, in letters of either case and after any number
of zeros, is read as that number, and refused if it does not fit. As an
expression it has the same value in every environment, if it starts with a digit
or a mark, and otherwise wherever no variable, register, flag or symbol has it
for a name.
-/
theorem numbers_are_read_in_every_form
    {form : Text.NumberForm}
    {zeros value : Nat}
    {text : String}
    (written : form.Writes zeros value text.toList) :
    (Text.numeral? text).map Int64.toInt = (if value < 2 ^ 63 then some ↑value else none) ∧
      ∀ env : Expr.Env,
        Text.startsNumber text.toList ∨ env.IsUnused text →
          (Expr.evaluate env text).map Int64.toInt =
            if value < 2 ^ 63 then .ok ↑value
            else if Text.startsNumber text.toList then .error (.invalidNumber text)
            else .error (.undefined text) := by
  have numeral : Text.numeral? text = if value < 2 ^ 63 then some (Int64.ofNat value) else none :=
    written.numeralChars?_eq
  have shaped := written.isNumberText
  by_cases fits : value < 2 ^ 63
  · have exactly := Int64.toInt_ofNat_of_lt fits
    rw [if_pos fits] at numeral ⊢
    refine ⟨by rw [numeral, Option.map_some, exactly], fun env known => ?_⟩
    rw [if_pos fits]
    by_cases starts : Text.startsNumber text.toList
    · rw [Expr.evaluate_of_isNumberText env shaped starts, Expr.literal_of_writes written,
        if_pos fits]
      exact congrArg Except.ok exactly
    · rw [Expr.evaluate_of_isName env (shaped.isName starts),
        (known.resolve_left starts).resolve_eq, numeral]
      exact congrArg Except.ok exactly
  · rw [if_neg fits] at numeral ⊢
    refine ⟨by rw [numeral, Option.map_none], fun env known => ?_⟩
    rw [if_neg fits]
    by_cases starts : Text.startsNumber text.toList
    · rw [Expr.evaluate_of_isNumberText env shaped starts, Expr.literal_of_writes written,
        if_neg fits, if_pos starts, String.ofList_toList]
      rfl
    · rw [Expr.evaluate_of_isName env (shaped.isName starts),
        (known.resolve_left starts).resolve_eq, numeral, if_neg starts]
      rfl

/-- A number that starts with a letter, where nothing has that name. -/
theorem unused_name_is_read_as_number :
    let env := (Monitor.ofConfig .default).env .initial
    Text.NumberForm.letterH.Writes 0 0xBEEF "bEeFH".toList ∧ env.IsUnused "bEeFH" ∧
      (Text.numeral? "bEeFH").map Int64.toInt = some 0xBEEF ∧
      (Expr.evaluate env "bEeFH").map Int64.toInt = .ok 0xBEEF := by
  have written : Text.NumberForm.letterH.Writes 0 0xBEEF "bEeFH".toList := by decide +kernel
  have unused : ((Monitor.ofConfig .default).env .initial).IsUnused "bEeFH" :=
    ⟨by decide +kernel, by decide +kernel, by decide +kernel⟩
  obtain ⟨numeral, evaluated⟩ := numbers_are_read_in_every_form written
  exact ⟨written, unused, numeral, evaluated _ (.inr unused)⟩

end Monitor8080
