import Monitor8080.Operator.Breaking
import Monitor8080.Proofs.CommandSplitting
import Monitor8080.Proofs.WrittenAddresses
namespace Monitor8080

/-!
# Listed commands

The listing of a breakpoint is written as a command: the keyword of its kind,
the address, and the script in double quotes. Read back it is one command, the
one that sets the breakpoint. A script may hold what it likes but double
quotes; semicolons, single quotes and blanks are kept.
-/

namespace Text

/-! ## Uncut lines -/

theorem blankSemicolons_append (quote : Option Char) (first second : List Char) :
    blankSemicolons quote (first ++ second) =
      blankSemicolons quote first ++ blankSemicolons (quoteLeft quote first) second := by
  induction first generalizing quote with
  | nil =>
      rfl
  | cons c rest inductionHypothesis =>
      rw [List.cons_append, blankSemicolons, inductionHypothesis]
      rfl

/-- A line without a semicolon outside quotes is one piece. -/
theorem semicolonPieces_eq_singleton
    {quote : Option Char}
    {cs : List Char}
    (uncut : blankSemicolons quote cs = cs) :
    semicolonPieces quote cs = [cs] := by
  induction cs generalizing quote with
  | nil =>
      rfl
  | cons c rest inductionHypothesis =>
      by_cases cut : quote = none ∧ c = ';'
      · obtain ⟨rfl, rfl⟩ := cut
        rw [blankSemicolons_cut] at uncut
        exact absurd (List.cons.inj uncut).1 (by decide)
      · rw [blankSemicolons_cons cut] at uncut
        exact semicolonPieces_cons cut (inductionHypothesis (List.cons.inj uncut).2)

theorem commandsOf_eq_singleton
    {line : String}
    (nonempty : line.toList ≠ [])
    (untrimmed : trimChars line.toList = line.toList)
    (uncut : blankSemicolons none line.toList = line.toList) :
    commandsOf line = [line] := by
  rw [commandsOf, commandChars, semicolonPieces_eq_singleton uncut, List.map_singleton, untrimmed,
    List.filter_cons_of_pos (by simpa using nonempty), List.filter_nil, List.map_singleton,
    String.ofList_toList]

/-! ## Plain and quoted words -/

/-- A character that words are made of without quotes. -/
def IsPlain (c : Char) : Prop :=
  ¬ isQuote c ∧ ¬ isBlank c ∧ c ≠ ';'

theorem quoteLeft_plain
    {cs : List Char}
    (plain : ∀ c ∈ cs, IsPlain c) :
    quoteLeft none cs = none := by
  induction cs with
  | nil =>
      rfl
  | cons c rest inductionHypothesis =>
      rw [quoteLeft_cons, quoteAfter_plain (plain c List.mem_cons_self).1]
      exact inductionHypothesis fun later member => plain later (List.mem_cons_of_mem c member)

theorem blankSemicolons_plain
    {cs : List Char}
    (plain : ∀ c ∈ cs, IsPlain c) :
    blankSemicolons none cs = cs := by
  induction cs with
  | nil =>
      rfl
  | cons c rest inductionHypothesis =>
      obtain ⟨notQuote, -, uncut⟩ := plain c List.mem_cons_self
      rw [blankSemicolons_cons (kept_of_ne uncut none), quoteAfter_plain notQuote,
        inductionHypothesis fun later member => plain later (List.mem_cons_of_mem c member)]

/-- Text inside quotes that does not close them is not cut, and leaves them open. -/
theorem quoteLeft_quoted
    {opened : Char}
    {cs : List Char}
    (unclosed : opened ∉ cs) :
    quoteLeft (some opened) cs = some opened ∧ blankSemicolons (some opened) cs = cs := by
  induction cs with
  | nil =>
      exact ⟨rfl, rfl⟩
  | cons c rest inductionHypothesis =>
      rw [List.mem_cons, not_or] at unclosed
      obtain ⟨other, restUnclosed⟩ := unclosed
      obtain ⟨left, uncut⟩ := inductionHypothesis restUnclosed
      have stays := quoteAfter_quoted (Ne.symm other)
      rw [quoteLeft_cons, blankSemicolons_cons (kept_in_quotes opened c), stays, left, uncut]
      exact ⟨rfl, rfl⟩

theorem wordsFrom_append_plain
    {cs : List Char}
    (plain : ∀ c ∈ cs, IsPlain c)
    (word rest : List Char) :
    wordsFrom none (some word) (cs ++ rest) = wordsFrom none (some (cs.reverse ++ word)) rest := by
  induction cs generalizing word with
  | nil =>
      rfl
  | cons c later inductionHypothesis =>
      obtain ⟨notQuote, visible, -⟩ := plain c List.mem_cons_self
      rw [List.cons_append, wordsFrom_plain _ _ notQuote visible, extendWord, Option.getD_some,
        inductionHypothesis fun other member => plain other (List.mem_cons_of_mem c member),
        List.reverse_cons, List.append_assoc]
      rfl

theorem wordsFrom_append_quoted
    {opened : Char}
    {cs : List Char}
    (unclosed : opened ∉ cs)
    (word rest : List Char) :
    wordsFrom (some opened) (some word) (cs ++ rest) =
      wordsFrom (some opened) (some (cs.reverse ++ word)) rest := by
  induction cs generalizing word with
  | nil =>
      rfl
  | cons c later inductionHypothesis =>
      rw [List.mem_cons, not_or] at unclosed
      obtain ⟨other, laterUnclosed⟩ := unclosed
      rw [List.cons_append, wordsFrom_quoted _ _ (Ne.symm other), extendWord, Option.getD_some,
        inductionHypothesis laterUnclosed, List.reverse_cons, List.append_assoc]
      rfl

/-! ## Lists of an address and a script -/

/-- A script as it is listed: in double quotes, with a space before them. -/
def scriptChars (script? : Option String) : List Char :=
  match script? with
  | some script => ' ' :: '\x22' :: (script.toList ++ ['\x22'])
  | none => []

/-- A script can be listed in double quotes if it has none of its own. -/
def IsQuotable (script? : Option String) : Prop :=
  ∀ script ∈ script?, '\x22' ∉ script.toList

instance (script? : Option String) : Decidable (IsQuotable script?) :=
  inferInstanceAs (Decidable (∀ script ∈ script?, '\x22' ∉ script.toList))

theorem blankSemicolons_scriptChars
    {script? : Option String}
    (quotable : IsQuotable script?) :
    blankSemicolons none (scriptChars script?) = scriptChars script? := by
  cases script? with
  | none =>
      rfl
  | some script =>
      obtain ⟨left, uncut⟩ := quoteLeft_quoted (quotable script rfl)
      have space : quoteAfter none ' ' = none := quoteAfter_plain (by decide)
      have opens : quoteAfter none '\x22' = some '\x22' := quoteAfter_opening (by decide)
      rw [scriptChars, blankSemicolons_cons (kept_of_ne (by decide) none), space,
        blankSemicolons_cons (kept_of_ne (by decide) none), opens, blankSemicolons_append, uncut,
        left]
      rfl

/-- The words of a listed address and script are the address and the script. -/
theorem wordsFrom_listed
    {text : List Char}
    {script? : Option String}
    (nonempty : text ≠ [])
    (plain : ∀ c ∈ text, IsPlain c)
    (quotable : IsQuotable script?) :
    wordsFrom none none (text ++ scriptChars script?) =
      text :: script?.toList.map String.toList := by
  cases text with
  | nil =>
      exact absurd rfl nonempty
  | cons c rest =>
      obtain ⟨notQuote, visible, -⟩ := plain c List.mem_cons_self
      have restPlain : ∀ later ∈ rest, IsPlain later :=
        fun later member => plain later (List.mem_cons_of_mem c member)
      have finished : finishWord (some (rest.reverse ++ [c])) = [c :: rest] := by
        simp [finishWord]
      rw [List.cons_append, wordsFrom_plain _ _ notQuote visible]
      change wordsFrom none (some [c]) _ = _
      rw [wordsFrom_append_plain restPlain]
      cases script? with
      | none =>
          rw [scriptChars, wordsFrom_nil, finished]
          rfl
      | some script =>
          have unclosed := quotable script rfl
          rw [scriptChars, wordsFrom_blank _ _ (by decide), finished,
            wordsFrom_opening _ _ (by decide)]
          change _ ++ wordsFrom (some '\x22') (some []) _ = _
          rw [wordsFrom_append_quoted unclosed, List.append_nil, wordsFrom_closing _ _ (by decide),
            wordsFrom_nil]
          simp [finishWord]

end Text

/-! ## The command of a listed line -/

open Text (IsPlain IsQuotable scriptChars)

theorem BreakKind.isPlain_tag (kind : BreakKind) : ∀ c ∈ kind.tag.toList, IsPlain c := by
  have letters : ∀ c ∈ ['b', 'p', 'r', 'w'], IsPlain c := by
    simp [IsPlain, Text.isQuote, Text.isBlank]
  refine fun c member => letters c ?_
  revert member
  cases kind <;> simp [tag] <;> grind

theorem Command.ofKeyword_tag (kind : BreakKind) (text : List Char) (arguments : List String) :
    ofKeyword kind.tag text arguments =
      .ofOption (arguments[0]?.map fun address => .setBreakpoint kind address arguments[1]?) := by
  cases kind <;> rfl

/-- What is listed as the place of a breakpoint is plain text. -/
theorem Location.isPlain_text
    {location : Location}
    {address : UInt16}
    (here : location.address? = some address) :
    location.text.toList ≠ [] ∧ ∀ c ∈ location.text.toList, IsPlain c := by
  have written : location.text = Text.hexWord address := by
    rw [text, here]
  obtain ⟨first, rest, starts⟩ := Text.exists_hexWord address
  rw [written]
  refine ⟨by rw [starts]; exact List.cons_ne_nil first rest, ?_⟩
  refine Text.forall_mem_hexWord ?_ address
  unfold IsPlain
  decide

namespace Operation

variable {kind : BreakKind} {location : Location}

theorem toList_breakpointLine (kind : BreakKind) (location : Location) :
    (breakpointLine kind location).toList =
      kind.tag.toList ++ ' ' :: (location.text.toList ++ scriptChars location.script?) := by
  unfold breakpointLine scriptChars
  cases location.script? <;> simp

/-- The last character of a listed line is no blank. -/
theorem not_isBlank_getLast?
    {text : List Char}
    (nonempty : text ≠ [])
    (plain : ∀ c ∈ text, IsPlain c)
    (leading : List Char)
    (script? : Option String) :
    ∀ c, (leading ++ (text ++ scriptChars script?)).getLast? = some c → ¬ Text.isBlank c := by
  intro c last
  cases script? with
  | none =>
      rw [scriptChars, List.append_nil, List.getLast?_append_of_ne_nil _ nonempty] at last
      exact (plain c (List.mem_of_getLast? last)).2.1
  | some script =>
      have quoted : leading ++ (text ++ scriptChars (some script)) =
          (leading ++ text ++ ' ' :: '\x22' :: script.toList) ++ ['\x22'] := by
        simp [scriptChars]
      rw [quoted, List.getLast?_concat] at last
      cases last
      decide

theorem trimChars_breakpointLine
    (nonempty : location.text.toList ≠ [])
    (plain : ∀ c ∈ location.text.toList, IsPlain c) :
    Text.trimChars (breakpointLine kind location).toList =
      (breakpointLine kind location).toList := by
  rw [toList_breakpointLine]
  refine Text.trimChars_eq_self ?_ ?_
  · intro c first
    have nonemptyTag : kind.tag.toList ≠ [] := by cases kind <;> decide
    rw [List.head?_append_of_ne_nil _ nonemptyTag] at first
    exact (kind.isPlain_tag c (List.mem_of_head? first)).2.1
  · have split := List.append_cons kind.tag.toList ' '
      (location.text.toList ++ scriptChars location.script?)
    rw [split]
    exact not_isBlank_getLast? nonempty plain _ _

/-- A listed line is one command. -/
theorem commandsOf_breakpointLine
    (nonempty : location.text.toList ≠ [])
    (plain : ∀ c ∈ location.text.toList, IsPlain c)
    (quotable : IsQuotable location.script?) :
    Text.commandsOf (breakpointLine kind location) = [breakpointLine kind location] := by
  refine Text.commandsOf_eq_singleton ?_ (trimChars_breakpointLine nonempty plain) ?_
  · rw [toList_breakpointLine]
    exact List.append_ne_nil_of_right_ne_nil _ (List.cons_ne_nil _ _)
  · have space : Text.quoteAfter none ' ' = none := Text.quoteAfter_plain (by decide)
    rw [toList_breakpointLine, Text.blankSemicolons_append,
      Text.blankSemicolons_plain kind.isPlain_tag, Text.quoteLeft_plain kind.isPlain_tag,
      Text.blankSemicolons_cons (Text.kept_of_ne (by decide) none), space,
      Text.blankSemicolons_append, Text.blankSemicolons_plain plain, Text.quoteLeft_plain plain,
      Text.blankSemicolons_scriptChars quotable]

/-- A listed line is the command that sets the breakpoint. -/
theorem parse_breakpointLine
    (nonempty : location.text.toList ≠ [])
    (plain : ∀ c ∈ location.text.toList, IsPlain c)
    (quotable : IsQuotable location.script?) :
    Command.parse (breakpointLine kind location) =
      .ok (.setBreakpoint kind location.text location.script?) := by
  have visible : ∀ c ∈ kind.tag.toList, !Text.isBlank c :=
    fun c member => by simpa using (kind.isPlain_tag c member).2.1
  have keyword :
      (breakpointLine kind location).toList.takeWhile (!Text.isBlank ·) = kind.tag.toList := by
    rw [toList_breakpointLine, List.takeWhile_append_of_pos visible,
      List.takeWhile_cons_of_neg (by decide), List.append_nil]
  have arguments :
      Text.trimChars ((breakpointLine kind location).toList.dropWhile (!Text.isBlank ·)) =
        location.text.toList ++ scriptChars location.script? := by
    rw [toList_breakpointLine, List.dropWhile_append_of_pos visible,
      List.dropWhile_cons_of_neg (by decide)]
    change Text.trimChars (location.text.toList ++ scriptChars location.script?) = _
    refine Text.trimChars_eq_self ?_ (not_isBlank_getLast? nonempty plain [] _)
    intro c first
    rw [List.head?_append_of_ne_nil _ nonempty] at first
    exact (plain c (List.mem_of_head? first)).2.1
  have small : String.ofList (kind.tag.toList.map Char.toLower) = kind.tag := by
    cases kind <;> decide
  rw [Command.parse, Command.ofChars]
  simp only [trimChars_breakpointLine nonempty plain, keyword, arguments, small,
    Command.ofKeyword_tag, Text.wordsFrom_listed nonempty plain quotable]
  cases location.script? <;> simp [Command.Reading.ofOption]

end Operation

end Monitor8080
