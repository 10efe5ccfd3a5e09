import Monitor8080.Text.Number
namespace Monitor8080.Text

/-!
# Digits that are written

Digits of a fixed width write the lowest hexadecimal digits of a number, and
have its value when they are read back in small letters. So do all the digits of
a number, in any base up to sixteen.
-/

/-- What holds of the sixteen digits holds of every character of written digits. -/
theorem forall_mem_fixedHexDigits
    {holds : Char → Prop}
    (ofDigit : ∀ value < 16, holds (hexDigit value))
    (width value : Nat) :
    ∀ c ∈ fixedHexDigits width value, holds c := by
  induction width generalizing value with
  | zero =>
      exact nofun
  | succ width inductionHypothesis =>
      intro c member
      rcases List.mem_append.mp member with higher | lowest
      · exact inductionHypothesis _ c higher
      · rw [List.mem_singleton.mp lowest]
        exact ofDigit _ (Nat.mod_lt value (by decide))

theorem length_fixedHexDigits (width value : Nat) :
    (fixedHexDigits width value).length = width := by
  induction width generalizing value with
  | zero =>
      rfl
  | succ width inductionHypothesis =>
      rw [fixedHexDigits, List.length_append, inductionHypothesis]
      rfl

theorem digitValue?_hexDigit :
    ∀ digit < 16, digitValue? 16 (hexDigit digit).toLower = some digit := by
  decide

/-- Digits in small letters have the value that they were written for, as far as they go. -/
theorem digitsValue?_fixedHexDigits (width value : Nat) :
    digitsValue? 16 ((fixedHexDigits width value).map Char.toLower) =
      some (value % Nat.pow 16 width) := by
  induction width generalizing value with
  | zero =>
      rw [Nat.pow_eq, Nat.pow_zero, Nat.mod_one]
      rfl
  | succ width inductionHypothesis =>
      have lowest := digitValue?_hexDigit (value % 16) (Nat.mod_lt value (by decide))
      have higher := inductionHypothesis (value / 16)
      rw [digitsValue?] at higher ⊢
      rw [fixedHexDigits, List.map_append, List.foldlM_append, higher]
      simp only [List.map_cons, List.map_nil, List.foldlM_cons, List.foldlM_nil, lowest,
        Option.bind_eq_bind, Option.bind_some, Option.map_some, Option.pure_def]
      rw [Nat.pow_eq, Nat.pow_eq, Nat.pow_succ', Nat.mod_mul, Nat.mul_comm, Nat.add_comm]

/-- One or more digits in small letters have the value that they were written for, if they suffice. -/
theorem magnitude?_fixedHexDigits
    {width value : Nat}
    (positive : 0 < width)
    (enough : value < Nat.pow 16 width) :
    magnitude? 16 ((fixedHexDigits width value).map Char.toLower) = some value := by
  have read := digitsValue?_fixedHexDigits width value
  rw [Nat.mod_eq_of_lt enough] at read
  have length : ((fixedHexDigits width value).map Char.toLower).length = width := by
    rw [List.length_map, length_fixedHexDigits]
  rw [magnitude?, read]
  intro noDigits
  rw [noDigits] at length
  exact Nat.ne_of_lt positive length

/-- Zero has nothing but zeros. -/
theorem fixedHexDigits_zero (width : Nat) : fixedHexDigits width 0 = List.replicate width '0' := by
  induction width with
  | zero =>
      rfl
  | succ width inductionHypothesis =>
      rw [fixedHexDigits, Nat.zero_div, inductionHypothesis, List.replicate_succ']
      rfl

/-- Zeros before the digits that a number needs fill up a width which it does not exceed. -/
theorem replicate_append_shortHexDigits
    {width value : Nat}
    (positive : 0 < width)
    (enough : value < Nat.pow 16 width) :
    List.replicate (width - (shortHexDigits value).length) '0' ++ shortHexDigits value =
      fixedHexDigits width value := by
  induction width generalizing value with
  | zero =>
      exact absurd positive (Nat.lt_irrefl 0)
  | succ width inductionHypothesis =>
      rw [shortHexDigits, fixedHexDigits]
      split
      · rename_i isDigit
        rw [Nat.div_eq_of_lt isDigit, Nat.mod_eq_of_lt isDigit, fixedHexDigits_zero]
        rfl
      · rename_i notDigit
        have wider : 0 < width := by
          refine Nat.pos_of_ne_zero fun isZero => notDigit ?_
          rwa [isZero, Nat.zero_add, Nat.pow_eq, Nat.pow_one] at enough
        have higher : value / 16 < Nat.pow 16 width := by
          rw [Nat.pow_eq, Nat.pow_succ] at enough
          exact Nat.div_lt_of_lt_mul (Nat.mul_comm _ _ ▸ enough)
        rw [List.length_append, List.length_singleton, Nat.add_sub_add_right,
          ← List.append_assoc, inductionHypothesis wider higher]

theorem hexPadded_eq_fixedHexDigits
    {width value : Nat}
    (positive : 0 < width)
    (enough : value < Nat.pow 16 width) :
    hexPadded width value = String.ofList (fixedHexDigits width value) :=
  congrArg String.ofList (replicate_append_shortHexDigits positive enough)

/-! ## All digits of a number -/

theorem digitValue?_digitChar :
    ∀ base ≤ 16, ∀ digit < base, digitValue? base digit.digitChar = some digit := by
  decide

/-- The digits of a number have its value. -/
theorem digitsValue?_toDigits
    {base : Nat}
    (several : 1 < base)
    (atMost : base ≤ 16)
    (value : Nat) :
    digitsValue? base (Nat.toDigits base value) = some value := by
  induction value using Nat.strongRecOn with
  | ind value inductionHypothesis =>
      rw [Nat.toDigits_eq_if several]
      split
      · rename_i isDigit
        rw [digitsValue?, List.foldlM_cons, digitValue?_digitChar base atMost value isDigit]
        simp
      · rename_i notDigit
        have higher :=
          inductionHypothesis (value / base) (Nat.div_lt_self (by omega) several)
        have lowest :=
          digitValue?_digitChar base atMost (value % base) (Nat.mod_lt value (by omega))
        rw [digitsValue?] at higher ⊢
        rw [List.foldlM_append, higher]
        simp only [List.foldlM_cons, List.foldlM_nil, lowest, Option.bind_eq_bind, Option.bind_some,
          Option.map_some, Option.pure_def, Nat.div_add_mod']

end Monitor8080.Text
