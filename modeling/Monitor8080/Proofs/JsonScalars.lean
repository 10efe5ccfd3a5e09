import Mathlib.Data.List.TakeDrop
import Monitor8080.Json.Printer
import Monitor8080.Json.Reader
import Monitor8080.Proofs.HexDigits
namespace Monitor8080.Json

/-!
# Texts and integers as JSON

A text is read up to its closing quote as it is written, whatever follows, and
what is written stands for the text again. An integer of 64 bits is read back
where a comma, a new line or nothing follows it, as after every value that is
printed.
-/

/-! ## Texts -/

/-- A text as it is written between its quotes. -/
def escapedText (text : String) : String :=
  String.ofList (text.toList.flatMap escapedChar)

/-- Four digits write the code of a control character. -/
theorem controlDigits_spec
    {code : Nat}
    (isControl : code < 0x20) :
    ∃ a b c d,
      (Text.fixedHexDigits 4 code).map Char.toLower = [a, b, c, d] ∧
        [a, b, c, d].all (Text.digitValue? 16 · |>.isSome) = true ∧
        Text.digitsValue? 16 [a, b, c, d] = some code := by
  have areDigits :
      ∀ c ∈ Text.fixedHexDigits 4 code, (Text.digitValue? 16 c.toLower).isSome = true :=
    Text.forall_mem_fixedHexDigits
      (fun value small => by rw [Text.digitValue?_hexDigit value small]; rfl) 4 code
  have value := Text.digitsValue?_fixedHexDigits 4 code
  rw [Nat.mod_eq_of_lt (Nat.lt_trans isControl (by decide))] at value
  refine ⟨_, _, _, _, rfl, ?_, value⟩
  change ((Text.fixedHexDigits 4 code).map Char.toLower).all _ = true
  rw [List.all_map, List.all_eq_true]
  exact areDigits

/--
A character is written as it stands, if it is no quote, backslash or control
character, or as an escape that stands for it whatever follows.
-/
theorem escapedChar_cases (c : Char) :
    (escapedChar c = [c] ∧ c ≠ '\x22' ∧ c ≠ '\\' ∧ ¬ c.toNat < 0x20) ∨
      ∃ escape,
        escapedChar c = '\\' :: escape ∧
          ∀ rest,
            escape? (escape ++ rest) = some ('\\' :: escape, rest) ∧
              charOfEscape? (escape ++ rest) = some (c, rest) := by
  unfold escapedChar
  split
  · rename_i same
    subst same
    exact .inr ⟨['\x22'], rfl, fun _ => ⟨rfl, rfl⟩⟩
  split
  · rename_i same
    subst same
    exact .inr ⟨['\\'], rfl, fun _ => ⟨rfl, rfl⟩⟩
  split
  · rename_i same
    subst same
    exact .inr ⟨['b'], rfl, fun _ => ⟨rfl, rfl⟩⟩
  split
  · rename_i same
    subst same
    exact .inr ⟨['f'], rfl, fun _ => ⟨rfl, rfl⟩⟩
  split
  · rename_i same
    subst same
    exact .inr ⟨['n'], rfl, fun _ => ⟨rfl, rfl⟩⟩
  split
  · rename_i same
    subst same
    exact .inr ⟨['r'], rfl, fun _ => ⟨rfl, rfl⟩⟩
  split
  · rename_i same
    subst same
    exact .inr ⟨['t'], rfl, fun _ => ⟨rfl, rfl⟩⟩
  split
  · rename_i isControl
    obtain ⟨a, b, x, d, digits, areDigits, value⟩ := controlDigits_spec isControl
    rw [digits]
    refine .inr ⟨['u', a, b, x, d], rfl, fun rest => ⟨if_pos areDigits, ?_⟩⟩
    have small : c.toNat < 0xD800 ∨ 0xE000 ≤ c.toNat := .inl (by omega)
    change charOfCode? (a :: b :: x :: d :: rest) = some (c, rest)
    simp [charOfCode?, fourHex?, value, small, Char.ofNat_toNat]
  · rename_i notQuote notBackslash _ _ _ _ _ notControl
    exact .inl ⟨rfl, notQuote, notBackslash, notControl⟩

section Body

variable (fuel : Nat) (done rest : List Char)

theorem stringBody?_escapedChar (c : Char) :
    stringBody? (fuel + 1) done (escapedChar c ++ rest) =
      stringBody? fuel ((escapedChar c).reverse ++ done) rest := by
  rcases escapedChar_cases c with ⟨same, notQuote, notBackslash, notControl⟩ | ⟨escape, same, reads⟩
  · rw [same, List.singleton_append, stringBody?, if_neg notControl]
    · rfl
    · exact notQuote
    · exact notBackslash
  · rw [same, List.cons_append, stringBody?, (reads rest).1]

theorem unescapeFrom?_escapedChar (c : Char) :
    unescapeFrom? (fuel + 1) done (escapedChar c ++ rest) =
      unescapeFrom? fuel (c :: done) rest := by
  rcases escapedChar_cases c with ⟨same, -, notBackslash, -⟩ | ⟨escape, same, reads⟩
  · rw [same, List.singleton_append, unescapeFrom?]
    exact notBackslash
  · rw [same, List.cons_append, unescapeFrom?, (reads rest).2]

end Body

/-- What is written of a text is not shorter than the text. -/
theorem length_le_length_flatMap_escapedChar (text : List Char) :
    text.length ≤ (text.flatMap escapedChar).length := by
  induction text with
  | nil =>
      exact Nat.le_refl _
  | cons c text inductionHypothesis =>
      have nonempty : 0 < (escapedChar c).length := by
        rcases escapedChar_cases c with ⟨same, -⟩ | ⟨escape, same, -⟩ <;> simp [same]
      rw [List.flatMap_cons, List.length_append, List.length_cons]
      omega

theorem stringBody?_flatMap_escapedChar
    (text : List Char)
    {fuel : Nat}
    (enough : text.length < fuel)
    (done rest : List Char) :
    stringBody? fuel done (text.flatMap escapedChar ++ '\x22' :: rest) =
      some (done.reverse ++ text.flatMap escapedChar, rest) := by
  induction text generalizing fuel done with
  | nil =>
      cases fuel with
      | zero =>
          cases enough
      | succ fuel =>
          rw [List.flatMap_nil, List.nil_append, List.append_nil, stringBody?]
  | cons c text inductionHypothesis =>
      cases fuel with
      | zero =>
          cases enough
      | succ fuel =>
          rw [List.flatMap_cons, List.append_assoc, stringBody?_escapedChar,
            inductionHypothesis (Nat.lt_of_succ_lt_succ enough)]
          simp

theorem unescapeFrom?_flatMap_escapedChar
    (text : List Char)
    {fuel : Nat}
    (enough : text.length ≤ fuel)
    (done : List Char) :
    unescapeFrom? fuel done (text.flatMap escapedChar) = some (done.reverse ++ text) := by
  induction text generalizing fuel done with
  | nil =>
      rw [List.flatMap_nil, unescapeFrom?, List.append_nil]
  | cons c text inductionHypothesis =>
      cases fuel with
      | zero =>
          cases enough
      | succ fuel =>
          rw [List.flatMap_cons, unescapeFrom?_escapedChar,
            inductionHypothesis (Nat.le_of_succ_le_succ enough)]
          simp

/-- A text is read up to its closing quote as it is written. -/
theorem string?_escapedText
    (text : String)
    (rest : List Char) :
    string? (text.toList.flatMap escapedChar ++ '\x22' :: rest) =
      some (escapedText text, rest) := by
  have shorter := length_le_length_flatMap_escapedChar text.toList
  have enough :
      text.toList.length < (text.toList.flatMap escapedChar ++ '\x22' :: rest).length + 1 := by
    rw [List.length_append]
    omega
  rw [string?, stringBody?_flatMap_escapedChar _ enough, List.reverse_nil, List.nil_append,
    Option.map_some, escapedText]

/-- What is written of a text stands for the text. -/
theorem unescape?_escapedText (text : String) : unescape? (escapedText text) = some text := by
  have read :=
    unescapeFrom?_flatMap_escapedChar text.toList
      (length_le_length_flatMap_escapedChar text.toList) []
  rw [unescape?, escapedText]
  simp only [String.toList_ofList, read, Option.map_some, List.reverse_nil, List.nil_append,
    String.ofList_toList]

/-! ## Integers -/

/-- Nothing follows a value, or a comma or a new line does. -/
def EndsValue (rest : List Char) : Prop :=
  ∀ c ∈ rest.head?, c = ',' ∨ c = '\n'

theorem digitChar_ne_zero : ∀ digit < 10, digit ≠ 0 → digit.digitChar ≠ '0' := by
  decide

/-- The decimal digits of a positive number do not start with a zero. -/
theorem exists_toDigits_eq_cons
    {value : Nat}
    (positive : 0 < value) :
    ∃ first others, Nat.toDigits 10 value = first :: others ∧ first ≠ '0' := by
  induction value using Nat.strongRecOn with
  | ind value inductionHypothesis =>
      rw [Nat.toDigits_eq_if (by decide)]
      split
      · rename_i isDigit
        exact ⟨_, _, rfl, digitChar_ne_zero value isDigit (Nat.pos_iff_ne_zero.mp positive)⟩
      · obtain ⟨first, others, same, notZero⟩ :=
          inductionHypothesis (value / 10) (by omega) (by omega)
        exact ⟨first, _, by rw [same, List.cons_append], notZero⟩

section Integer

variable {rest : List Char}

/-- Digits end where a value ends. -/
theorem EndsValue.digits_append
    (ends : EndsValue rest)
    {whole : List Char}
    (areDigits : ∀ c ∈ whole, c.isDigit = true) :
    digits (whole ++ rest) = (whole, rest) := by
  have noDigit : ∀ c ∈ rest.head?, ¬ c.isDigit = true := by
    intro c next
    rcases ends c next with rfl | rfl <;> decide
  have stops : rest.takeWhile Char.isDigit = [] ∧ rest.dropWhile Char.isDigit = rest := by
    cases rest with
    | nil =>
        exact ⟨rfl, rfl⟩
    | cons c rest =>
        have notDigit := noDigit c rfl
        exact ⟨List.takeWhile_cons_of_neg notDigit, List.dropWhile_cons_of_neg notDigit⟩
  rw [digits, List.span_eq_takeWhile_dropWhile, List.takeWhile_append_of_pos areDigits,
    List.dropWhile_append_of_pos areDigits, stops.1, stops.2, List.append_nil]

/-- All the digits of a number are read where a value ends. -/
theorem EndsValue.wholeDigits?_append
    (ends : EndsValue rest)
    (value : Nat) :
    wholeDigits? (Nat.toDigits 10 value ++ rest) = some (Nat.toDigits 10 value, rest) := by
  have areDigits : ∀ c ∈ Nat.toDigits 10 value, c.isDigit = true :=
    fun c => Nat.isDigit_of_mem_toDigits (by decide) (by decide)
  rw [wholeDigits?, ends.digits_append areDigits]
  rcases Nat.eq_zero_or_pos value with rfl | positive
  · rfl
  · obtain ⟨first, others, same, notZero⟩ := exists_toDigits_eq_cons positive
    rw [same]
    cases others with
    | nil =>
        simp
    | cons second others =>
        simp [notZero]

/-- Neither a fraction nor an exponent stands where a value ends. -/
theorem EndsValue.noFraction (ends : EndsValue rest) :
    fraction? rest = some ([], rest) ∧ exponent? rest = some ([], rest) := by
  cases rest with
  | nil =>
      exact ⟨rfl, rfl⟩
  | cons c rest =>
      rcases ends c rfl with rfl | rfl <;> exact ⟨rfl, rfl⟩

/-- The number that digits write with or without a minus, if no more than digits follow. -/
theorem EndsValue.number?_toDigits
    (ends : EndsValue rest)
    (negative : Bool)
    {magnitude : Nat}
    {value : Int}
    (held : integer? negative (Nat.toDigits 10 magnitude) = some value) :
    number? ((if negative then ['-'] else []) ++ Nat.toDigits 10 magnitude ++ rest) =
      some (.int value, rest) := by
  have notMinus : ∀ others, Nat.toDigits 10 magnitude ++ rest ≠ '-' :: others := by
    intro others same
    obtain ⟨first, digits, written⟩ :=
      List.exists_cons_of_ne_nil (@Nat.toDigits_ne_nil magnitude 10)
    have isDigit : first.isDigit = true :=
      Nat.isDigit_of_mem_toDigits (by decide) (by decide) (written ▸ List.mem_cons_self)
    rw [written] at same
    cases same
    cases isDigit
  have whole := ends.wholeDigits?_append magnitude
  cases negative with
  | true =>
      change number? ('-' :: (Nat.toDigits 10 magnitude ++ rest)) = _
      simp [number?, whole, ends.noFraction, held]
  | false =>
      change number? (Nat.toDigits 10 magnitude ++ rest) = _
      unfold number?
      split
      rename_i parted
      split at parted
      · rename_i same
        exact absurd same (notMinus _)
      · cases parted
        simp [whole, ends.noFraction, held]

/-- An integer of 64 bits is read back. -/
theorem EndsValue.number?_toString
    (ends : EndsValue rest)
    {value : Int}
    (least : -0x8000000000000000 ≤ value)
    (most : value < 0x10000000000000000) :
    number? ((toString value).toList ++ rest) = some (.int value, rest) := by
  rw [Int.toString_eq_repr, Int.repr_eq_if]
  split
  · rename_i isNatural
    have held : integer? false (Nat.toDigits 10 value.toNat) = some value := by
      rw [integer?, Text.digitsValue?_toDigits (by decide) (by decide)]
      simp
      omega
    rw [Nat.toList_repr]
    exact ends.number?_toDigits false held
  · rename_i isNegative
    have held : integer? true (Nat.toDigits 10 (-value).toNat) = some value := by
      rw [integer?, Text.digitsValue?_toDigits (by decide) (by decide)]
      simp
      omega
    rw [String.toList_append, Nat.toList_repr]
    exact ends.number?_toDigits true held

end Integer

end Monitor8080.Json
