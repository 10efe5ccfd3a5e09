import Monitor8080.Text.Quoted
import Mathlib.Data.List.DropRight
namespace Monitor8080.Text

/-!
# Splitting lines and reading words

Two scanners of an operator line follow its quotes in ways of their own. The
one that cuts it into commands changes over at every quote. The one that reads
words looks one character ahead inside double quotes, since two of them stand
for a single quote there. Wherever a semicolon may stand both have the same
quote open: two double quotes close and open again what they stand in.

`splitting_agrees_with_words` says that the words of the commands are those of
the line with blanks for the semicolons outside quotes, and that a semicolon
cuts exactly where words are read with no quote open.
-/

/-! ## Quotes left open -/

/-- The quote that is open after a text, given the one open before it. -/
def quoteLeft (quote : Option Char) (cs : List Char) : Option Char :=
  cs.foldl quoteAfter quote

/-- The text with a space in place of every semicolon outside quotes. -/
def blankSemicolons : (quote : Option Char) → List Char → List Char
  | _, [] => []
  | quote, c :: rest =>
      (if quote = none ∧ c = ';' then ' ' else c) :: blankSemicolons (quoteAfter quote c) rest

@[simp] theorem quoteLeft_nil (quote : Option Char) : quoteLeft quote [] = quote := rfl

@[simp] theorem quoteLeft_cons (quote : Option Char) (c : Char) (rest : List Char) :
    quoteLeft quote (c :: rest) = quoteLeft (quoteAfter quote c) rest := rfl

theorem quoteLeft_append (quote : Option Char) (first second : List Char) :
    quoteLeft quote (first ++ second) = quoteLeft (quoteLeft quote first) second :=
  List.foldl_append

@[simp] theorem quoteAfter_closing (c : Char) : quoteAfter (some c) c = none :=
  if_pos rfl

theorem quoteAfter_quoted
    {opened c : Char}
    (other : c ≠ opened) :
    quoteAfter (some opened) c = some opened :=
  if_neg other

theorem quoteAfter_opening
    {c : Char}
    (opens : isQuote c) :
    quoteAfter none c = some c :=
  if_pos opens

theorem quoteAfter_plain
    {c : Char}
    (plain : ¬ isQuote c) :
    quoteAfter none c = none :=
  if_neg plain

theorem not_isQuote_of_isBlank
    {c : Char}
    (blank : isBlank c) :
    ¬ isQuote c := by
  intro isQuote
  rcases Bool.or_eq_true_iff.mp isQuote with same | same <;>
    · rw [eq_of_beq same] at blank
      exact absurd blank (by decide)

/-- Blanks leave the quote open that is open before them. -/
theorem quoteAfter_blank
    {c : Char}
    (blank : isBlank c)
    (quote : Option Char)
    (quoted : ∀ opened, quote = some opened → isQuote opened) :
    quoteAfter quote c = quote := by
  cases quote with
  | none =>
      exact quoteAfter_plain (not_isQuote_of_isBlank blank)
  | some opened =>
      refine quoteAfter_quoted ?_
      rintro rfl
      exact not_isQuote_of_isBlank blank (quoted c rfl)

/-- Inside quotes no character cuts a line. -/
theorem kept_in_quotes (opened c : Char) : ¬ (some opened = none ∧ c = ';') := nofun

/-- Outside quotes no other character than a semicolon cuts a line. -/
theorem kept_of_ne
    {c : Char}
    (other : c ≠ ';')
    (quote : Option Char) :
    ¬ (quote = none ∧ c = ';') :=
  fun cut => other cut.2

theorem ne_semicolon_of_isQuote
    {c : Char}
    (opens : isQuote c) :
    c ≠ ';' := by
  rintro rfl
  exact absurd opens (by decide)

theorem ne_semicolon_of_isBlank
    {c : Char}
    (blank : isBlank c) :
    c ≠ ';' := by
  rintro rfl
  exact absurd blank (by decide)

/-! ## Cases of reading words -/

section Words

variable (word : Option (List Char)) (rest : List Char)

theorem wordsFrom_nil (quote : Option Char) : wordsFrom quote word [] = finishWord word := by
  unfold wordsFrom
  rfl

theorem wordsFrom_doubled :
    wordsFrom (some '\x22') word ('\x22' :: '\x22' :: rest) =
      wordsFrom (some '\x22') (extendWord word '\x27') rest := by
  rw [wordsFrom]

theorem wordsFrom_closing
    {c : Char}
    (single : c = '\x22' → rest.head? ≠ some '\x22') :
    wordsFrom (some c) word (c :: rest) = wordsFrom none word rest := by
  rw [wordsFrom, if_pos rfl]
  rintro later rfl - rfl
  exact single rfl rfl

theorem wordsFrom_quoted
    {opened c : Char}
    (other : c ≠ opened) :
    wordsFrom (some opened) word (c :: rest) =
      wordsFrom (some opened) (extendWord word c) rest := by
  rw [wordsFrom, if_neg other]
  rintro later rfl rfl -
  exact other rfl

theorem wordsFrom_opening
    {c : Char}
    (opens : isQuote c) :
    wordsFrom none word (c :: rest) = wordsFrom (some c) (some (word.getD [])) rest := by
  rw [wordsFrom, if_pos opens]

theorem wordsFrom_blank
    {c : Char}
    (blank : isBlank c) :
    wordsFrom none word (c :: rest) = finishWord word ++ wordsFrom none none rest := by
  rw [wordsFrom, if_neg (not_isQuote_of_isBlank blank), if_pos blank]

theorem wordsFrom_plain
    {c : Char}
    (plain : ¬ isQuote c)
    (visible : ¬ isBlank c) :
    wordsFrom none word (c :: rest) = wordsFrom none (extendWord word c) rest := by
  rw [wordsFrom, if_neg plain, if_neg visible]

end Words

/--
Induction along the reading of words. A quote closes what it opened unless it
is doubled, and what is read then stands for a single quote.
-/
@[elab_as_elim]
theorem readingInduction
    {motive : Option Char → List Char → Prop}
    (ended : ∀ quote, motive quote [])
    (doubled :
      ∀ rest, motive (some '\x22') rest → motive (some '\x22') ('\x22' :: '\x22' :: rest))
    (closing :
      ∀ c rest,
        (c = '\x22' → rest.head? ≠ some '\x22') → motive none rest → motive (some c) (c :: rest))
    (quoted :
      ∀ opened c rest, c ≠ opened → motive (some opened) rest → motive (some opened) (c :: rest))
    (opening : ∀ c rest, isQuote c → motive (some c) rest → motive none (c :: rest))
    (blank : ∀ c rest, isBlank c → motive none rest → motive none (c :: rest))
    (plain : ∀ c rest, ¬ isQuote c → ¬ isBlank c → motive none rest → motive none (c :: rest))
    (quote : Option Char)
    (cs : List Char) :
    motive quote cs := by
  induction quote, (none : Option (List Char)), cs using wordsFrom.induct with
  | case1 quote =>
      exact ended quote
  | case2 _ rest inductionHypothesis =>
      exact doubled rest inductionHypothesis
  | case3 _ c rest notDoubled inductionHypothesis =>
      refine closing c rest ?_ inductionHypothesis
      rintro isDouble follows
      obtain ⟨later, rfl⟩ := List.head?_eq_some_iff.mp follows
      exact notDoubled later isDouble isDouble rfl
  | case4 opened _ c rest _ other inductionHypothesis =>
      exact quoted opened c rest other inductionHypothesis
  | case5 _ c rest opens inductionHypothesis =>
      exact opening c rest opens inductionHypothesis
  | case6 _ c rest _ isBlank inductionHypothesis =>
      exact blank c rest isBlank inductionHypothesis
  | case7 _ c rest notQuote visible inductionHypothesis =>
      exact plain c rest notQuote visible inductionHypothesis

/-! ## Pieces of a line -/

theorem exists_pieces (quote : Option Char) (cs : List Char) :
    ∃ piece pieces, semicolonPieces quote cs = piece :: pieces := by
  unfold semicolonPieces
  split
  · exact ⟨_, _, rfl⟩
  · split
    · exact ⟨_, _, rfl⟩
    · split <;> exact ⟨_, _, rfl⟩

theorem semicolonPieces_cut (rest : List Char) :
    semicolonPieces none (';' :: rest) = [] :: semicolonPieces none rest := by
  rw [semicolonPieces, if_pos ⟨rfl, rfl⟩]

theorem semicolonPieces_cons
    {quote : Option Char}
    {c : Char}
    {rest piece : List Char}
    {pieces : List (List Char)}
    (kept : ¬ (quote = none ∧ c = ';'))
    (same : semicolonPieces (quoteAfter quote c) rest = piece :: pieces) :
    semicolonPieces quote (c :: rest) = (c :: piece) :: pieces := by
  rw [semicolonPieces, if_neg kept, same]

theorem blankSemicolons_cons
    {quote : Option Char}
    {c : Char}
    (kept : ¬ (quote = none ∧ c = ';'))
    (rest : List Char) :
    blankSemicolons quote (c :: rest) = c :: blankSemicolons (quoteAfter quote c) rest := by
  rw [blankSemicolons, if_neg kept]

theorem blankSemicolons_cut (rest : List Char) :
    blankSemicolons none (';' :: rest) = ' ' :: blankSemicolons none rest := by
  rw [blankSemicolons, if_pos ⟨rfl, rfl⟩, quoteAfter_plain (by decide)]

/-- A line starts with the quote that its first piece starts with. -/
theorem head?_of_head?_piece
    {quote : Option Char}
    {cs piece : List Char}
    {pieces : List (List Char)}
    (same : semicolonPieces quote cs = piece :: pieces)
    {first : Char}
    (starts : piece.head? = some first) :
    cs.head? = some first := by
  cases cs with
  | nil =>
      cases same
      cases starts
  | cons c rest =>
      by_cases cut : quote = none ∧ c = ';'
      · obtain ⟨rfl, rfl⟩ := cut
        cases (semicolonPieces_cut rest).symm.trans same
        cases starts
      · obtain ⟨more, others, restSame⟩ := exists_pieces (quoteAfter quote c) rest
        cases (semicolonPieces_cons cut restSame).symm.trans same
        exact starts

theorem head?_blankSemicolons
    {quote : Option Char}
    {cs : List Char}
    (starts : (blankSemicolons quote cs).head? = some '\x22') :
    cs.head? = some '\x22' := by
  cases cs with
  | nil =>
      cases starts
  | cons c rest =>
      unfold blankSemicolons at starts
      split at starts
      · cases starts
      · exact starts

/--
The words of a line with blanks for its semicolons are those of its pieces, of
which the first one goes on with the word under way.
-/
theorem wordsFrom_blankSemicolons
    (quote : Option Char)
    (cs : List Char) :
    ∃ piece pieces,
      semicolonPieces quote cs = piece :: pieces ∧
        ∀ word,
          wordsFrom quote word (blankSemicolons quote cs) =
            wordsFrom quote word piece ++ pieces.flatMap (wordsFrom none none) := by
  induction quote, cs using readingInduction with
  | ended quote =>
      exact ⟨[], [], rfl, by simp [blankSemicolons]⟩
  | doubled rest inductionHypothesis =>
      obtain ⟨piece, pieces, same, words⟩ := inductionHypothesis
      have quoted := kept_in_quotes '\x22' '\x22'
      have reopening : ¬ (none = none ∧ '\x22' = ';') := kept_of_ne (by decide) none
      have first := semicolonPieces_cons reopening same
      refine ⟨'\x22' :: '\x22' :: piece, pieces, semicolonPieces_cons quoted first, fun word => ?_⟩
      rw [blankSemicolons_cons quoted, quoteAfter_closing, blankSemicolons_cons reopening,
        wordsFrom_doubled, wordsFrom_doubled]
      exact words _
  | closing c rest single inductionHypothesis =>
      obtain ⟨piece, pieces, same, words⟩ := inductionHypothesis
      have kept := kept_in_quotes c c
      have closed := quoteAfter_closing c
      refine ⟨c :: piece, pieces, semicolonPieces_cons kept (by rwa [closed]), fun word => ?_⟩
      rw [blankSemicolons_cons kept, closed,
        wordsFrom_closing _ _ fun quote starts => single quote (head?_blankSemicolons starts),
        wordsFrom_closing _ _ fun quote starts => single quote (head?_of_head?_piece same starts)]
      exact words _
  | quoted opened c rest other inductionHypothesis =>
      obtain ⟨piece, pieces, same, words⟩ := inductionHypothesis
      have kept := kept_in_quotes opened c
      have stays := quoteAfter_quoted other
      refine ⟨c :: piece, pieces, semicolonPieces_cons kept (by rwa [stays]), fun word => ?_⟩
      rw [blankSemicolons_cons kept, stays, wordsFrom_quoted _ _ other,
        wordsFrom_quoted _ _ other]
      exact words _
  | opening c rest opens inductionHypothesis =>
      obtain ⟨piece, pieces, same, words⟩ := inductionHypothesis
      have kept := kept_of_ne (ne_semicolon_of_isQuote opens) none
      have opened := quoteAfter_opening opens
      refine ⟨c :: piece, pieces, semicolonPieces_cons kept (by rwa [opened]), fun word => ?_⟩
      rw [blankSemicolons_cons kept, opened, wordsFrom_opening _ _ opens,
        wordsFrom_opening _ _ opens]
      exact words _
  | blank c rest isBlank inductionHypothesis =>
      obtain ⟨piece, pieces, same, words⟩ := inductionHypothesis
      have kept := kept_of_ne (ne_semicolon_of_isBlank isBlank) none
      have unquoted := quoteAfter_plain (not_isQuote_of_isBlank isBlank)
      refine ⟨c :: piece, pieces, semicolonPieces_cons kept (by rwa [unquoted]), fun word => ?_⟩
      rw [blankSemicolons_cons kept, unquoted, wordsFrom_blank _ _ isBlank,
        wordsFrom_blank _ _ isBlank, words, List.append_assoc]
  | plain c rest notQuote visible inductionHypothesis =>
      obtain ⟨piece, pieces, same, words⟩ := inductionHypothesis
      have unquoted := quoteAfter_plain notQuote
      by_cases cut : c = ';'
      · subst cut
        -- The space in place of the semicolon ends the word, and so does the end of the piece.
        refine ⟨[], piece :: pieces, by rw [semicolonPieces_cut, same], fun word => ?_⟩
        rw [blankSemicolons_cut, wordsFrom_blank _ _ (by decide), words, wordsFrom_nil,
          List.flatMap_cons]
      · have kept := kept_of_ne cut none
        refine ⟨c :: piece, pieces, semicolonPieces_cons kept (by rwa [unquoted]), fun word => ?_⟩
        rw [blankSemicolons_cons kept, unquoted, wordsFrom_plain _ _ notQuote visible,
          wordsFrom_plain _ _ notQuote visible]
        exact words _

/-! ## Blanks around a piece -/

/-- What is open after a text, if anything, is a quote. -/
theorem isQuote_of_quoteLeft
    {cs : List Char}
    {opened : Char}
    (left : quoteLeft none cs = some opened) :
    isQuote opened := by
  suffices ∀ quote, (∀ c, quote = some c → isQuote c) →
      ∀ c, quoteLeft quote cs = some c → isQuote c from
    this none nofun opened left
  clear left
  induction cs with
  | nil =>
      exact fun _ quoted => quoted
  | cons c rest inductionHypothesis =>
      refine fun quote quoted => inductionHypothesis _ ?_
      cases quote with
      | none =>
          intro started same
          by_cases opens : isQuote c
          · rw [quoteAfter_opening opens, Option.some.injEq] at same
            exact same ▸ opens
          · rw [quoteAfter_plain opens] at same
            cases same
      | some old =>
          intro kept same
          by_cases closes : c = old
          · rw [closes, quoteAfter_closing] at same
            cases same
          · rw [quoteAfter_quoted closes] at same
            exact quoted kept same

theorem quoteLeft_blanks
    {blanks : List Char}
    (blank : ∀ c ∈ blanks, isBlank c)
    (quote : Option Char)
    (quoted : ∀ opened, quote = some opened → isQuote opened) :
    quoteLeft quote blanks = quote := by
  induction blanks with
  | nil =>
      rfl
  | cons c rest inductionHypothesis =>
      rw [quoteLeft_cons, quoteAfter_blank (blank c List.mem_cons_self) quote quoted]
      exact inductionHypothesis fun later member => blank later (List.mem_cons_of_mem c member)

theorem exists_trimmed (cs : List Char) :
    ∃ leading trailing,
      (∀ c ∈ leading, isBlank c) ∧ (∀ c ∈ trailing, isBlank c) ∧
        cs = leading ++ (trimChars cs ++ trailing) := by
  refine ⟨cs.takeWhile isBlank, (cs.dropWhile isBlank).rtakeWhile isBlank,
    fun c member => List.mem_takeWhile_imp member,
    fun c member => List.mem_rtakeWhile_imp member, ?_⟩
  have trailing : trimChars cs = (cs.dropWhile isBlank).rdropWhile isBlank := rfl
  rw [trailing, List.rdropWhile_append_rtakeWhile, List.takeWhile_append_dropWhile]

/-- Blanks before the words of a text are skipped. -/
theorem wordsFrom_leading
    {blanks : List Char}
    (blank : ∀ c ∈ blanks, isBlank c)
    (rest : List Char) :
    wordsFrom none none (blanks ++ rest) = wordsFrom none none rest := by
  induction blanks with
  | nil =>
      rfl
  | cons c later inductionHypothesis =>
      rw [List.cons_append, wordsFrom_blank _ _ (blank c List.mem_cons_self)]
      exact inductionHypothesis fun other member => blank other (List.mem_cons_of_mem c member)

/-- Blanks end the word under way, as the end of the text does. -/
theorem wordsFrom_blanks
    {blanks : List Char}
    (blank : ∀ c ∈ blanks, isBlank c)
    (word : Option (List Char)) :
    wordsFrom none word blanks = finishWord word := by
  cases blanks with
  | nil =>
      exact wordsFrom_nil word none
  | cons c rest =>
      have later := wordsFrom_leading
        (fun other member => blank other (List.mem_cons_of_mem c member)) []
      rw [List.append_nil, wordsFrom_nil] at later
      rw [wordsFrom_blank _ _ (blank c List.mem_cons_self), later]
      exact List.append_nil _

/-- No character of blanks is a quote, so they double none before them. -/
theorem head?_append_blanks
    {blanks rest : List Char}
    (blank : ∀ c ∈ blanks, isBlank c)
    (single : rest.head? ≠ some '\x22') :
    (rest ++ blanks).head? ≠ some '\x22' := by
  cases rest with
  | cons c later =>
      exact single
  | nil =>
      intro starts
      exact absurd (blank _ (List.mem_of_head? starts)) (by decide)

theorem wordsFrom_trailing
    {blanks : List Char}
    (blank : ∀ c ∈ blanks, isBlank c)
    (quote : Option Char)
    (cs : List Char)
    (closed : quoteLeft quote cs = none)
    (word : Option (List Char)) :
    wordsFrom quote word (cs ++ blanks) = wordsFrom quote word cs := by
  induction quote, cs using readingInduction generalizing word with
  | ended quote =>
      cases closed
      rw [List.nil_append, wordsFrom_blanks blank, wordsFrom_nil]
  | doubled rest inductionHypothesis =>
      rw [List.cons_append, List.cons_append, wordsFrom_doubled, wordsFrom_doubled]
      exact inductionHypothesis closed _
  | closing c rest single inductionHypothesis =>
      rw [quoteLeft_cons, quoteAfter_closing] at closed
      rw [List.cons_append, wordsFrom_closing _ _ single,
        wordsFrom_closing _ _ fun isDouble => head?_append_blanks blank (single isDouble)]
      exact inductionHypothesis closed _
  | quoted opened c rest other inductionHypothesis =>
      rw [quoteLeft_cons, quoteAfter_quoted other] at closed
      rw [List.cons_append, wordsFrom_quoted _ _ other, wordsFrom_quoted _ _ other]
      exact inductionHypothesis closed _
  | opening c rest opens inductionHypothesis =>
      rw [quoteLeft_cons, quoteAfter_opening opens] at closed
      rw [List.cons_append, wordsFrom_opening _ _ opens, wordsFrom_opening _ _ opens]
      exact inductionHypothesis closed _
  | blank c rest isBlank inductionHypothesis =>
      rw [quoteLeft_cons, quoteAfter_plain (not_isQuote_of_isBlank isBlank)] at closed
      rw [List.cons_append, wordsFrom_blank _ _ isBlank, wordsFrom_blank _ _ isBlank,
        inductionHypothesis closed]
  | plain c rest notQuote visible inductionHypothesis =>
      rw [quoteLeft_cons, quoteAfter_plain notQuote] at closed
      rw [List.cons_append, wordsFrom_plain _ _ notQuote visible,
        wordsFrom_plain _ _ notQuote visible]
      exact inductionHypothesis closed _

/-- Trimming a text whose quotes are closed takes no word of it and changes none. -/
theorem wordsFrom_trimChars
    {cs : List Char}
    (closed : quoteLeft none cs = none) :
    wordsFrom none none (trimChars cs) = wordsFrom none none cs := by
  obtain ⟨leading, trailing, blankBefore, blankAfter, same⟩ := exists_trimmed cs
  have closedInside : quoteLeft none (trimChars cs) = none := by
    rw [same, quoteLeft_append, quoteLeft_blanks blankBefore none nofun,
      quoteLeft_append,
      quoteLeft_blanks blankAfter _ fun _ left => isQuote_of_quoteLeft left] at closed
    exact closed
  calc
    wordsFrom none none (trimChars cs)
        = wordsFrom none none (trimChars cs ++ trailing) :=
          (wordsFrom_trailing blankAfter none _ closedInside none).symm
    _ = wordsFrom none none (leading ++ (trimChars cs ++ trailing)) :=
          (wordsFrom_leading blankBefore _).symm
    _ = wordsFrom none none cs := by rw [← same]

/-! ## Words of the commands -/

/-- No quote is open at the end of a piece, if none is at the end of the line. -/
theorem closed_of_mem_pieces
    {quote : Option Char}
    {cs piece : List Char}
    {pieces : List (List Char)}
    (closed : quoteLeft quote cs = none)
    (same : semicolonPieces quote cs = piece :: pieces) :
    quoteLeft quote piece = none ∧ ∀ later ∈ pieces, quoteLeft none later = none := by
  induction cs generalizing quote piece pieces with
  | nil =>
      cases same
      exact ⟨closed, nofun⟩
  | cons c rest inductionHypothesis =>
      obtain ⟨more, others, restSame⟩ := exists_pieces (quoteAfter quote c) rest
      obtain ⟨first, all⟩ := inductionHypothesis closed restSame
      by_cases cut : quote = none ∧ c = ';'
      · obtain ⟨rfl, rfl⟩ := cut
        rw [quoteAfter_plain (by decide)] at restSame first
        cases (semicolonPieces_cut rest).symm.trans same
        rw [restSame]
        exact ⟨rfl, List.forall_mem_cons.mpr ⟨first, all⟩⟩
      · cases (semicolonPieces_cons cut restSame).symm.trans same
        exact ⟨first, all⟩

/-- An empty command has no words, so it is no loss. -/
theorem flatMap_words_nonempty (pieces : List (List Char)) :
    (pieces.filter (!·.isEmpty)).flatMap (wordsFrom none none) =
      pieces.flatMap (wordsFrom none none) := by
  induction pieces with
  | nil =>
      rfl
  | cons piece later inductionHypothesis =>
      cases piece with
      | nil =>
          rw [List.flatMap_cons, wordsFrom_nil]
          exact inductionHypothesis
      | cons c rest =>
          exact congrArg (wordsFrom none none (c :: rest) ++ ·) inductionHypothesis

theorem flatMap_words_commandChars
    {cs : List Char}
    (closed : quoteLeft none cs = none) :
    (commandChars cs).flatMap (wordsFrom none none) =
      wordsFrom none none (blankSemicolons none cs) := by
  obtain ⟨piece, pieces, same, blanked⟩ := wordsFrom_blankSemicolons none cs
  obtain ⟨first, all⟩ := closed_of_mem_pieces closed same
  have closedPieces : ∀ member ∈ semicolonPieces none cs, quoteLeft none member = none := by
    rw [same]
    exact List.forall_mem_cons.mpr ⟨first, all⟩
  calc
    (commandChars cs).flatMap (wordsFrom none none)
        = ((semicolonPieces none cs).map trimChars).flatMap (wordsFrom none none) :=
          flatMap_words_nonempty _
    _ = (semicolonPieces none cs).flatMap fun member => wordsFrom none none (trimChars member) :=
          List.flatMap_map ..
    _ = (semicolonPieces none cs).flatMap (wordsFrom none none) :=
          List.flatMap_congr fun member isMember =>
            wordsFrom_trimChars (closedPieces member isMember)
    _ = wordsFrom none none (blankSemicolons none cs) := by
          rw [same, blanked, List.flatMap_cons]

/-! ## The quote open at a place -/

/--
Reading words arrives at the end of a text with a quote open, or with none.
Whatever follows is then read from there, but for a double quote that would
make a pair with the last one before it.
-/
def Arrives (before : List Char) (quote : Option Char) : Prop :=
  ∃ finished word, ∀ rest, rest.head? ≠ some '\x22' →
    wordsFrom none none (before ++ rest) = finished ++ wordsFrom quote word rest

/-- Reading words arrives everywhere with the quote open that changing over at each leaves. -/
theorem arrives_quoteLeft (before : List Char) : Arrives before (quoteLeft none before) := by
  suffices ∀ quote word, ∃ finished reached, ∀ rest, rest.head? ≠ some '\x22' →
      wordsFrom quote word (before ++ rest) =
        finished ++ wordsFrom (quoteLeft quote before) reached rest from
    this none none
  intro quote word
  induction quote, before using readingInduction generalizing word with
  | ended quote =>
      exact ⟨[], word, fun _ _ => rfl⟩
  | doubled later inductionHypothesis =>
      obtain ⟨finished, reached, reads⟩ := inductionHypothesis (extendWord word '\x27')
      refine ⟨finished, reached, fun rest single => ?_⟩
      rw [List.cons_append, List.cons_append, wordsFrom_doubled, reads rest single]
      rfl
  | closing c later notDoubled inductionHypothesis =>
      obtain ⟨finished, reached, reads⟩ := inductionHypothesis word
      refine ⟨finished, reached, fun rest single => ?_⟩
      have undoubled : c = '\x22' → (later ++ rest).head? ≠ some '\x22' := by
        intro isDouble
        cases later with
        | nil => exact single
        | cons next others => exact notDoubled isDouble
      rw [List.cons_append, wordsFrom_closing _ _ undoubled, reads rest single,
        quoteLeft_cons, quoteAfter_closing]
  | quoted opened c later other inductionHypothesis =>
      obtain ⟨finished, reached, reads⟩ := inductionHypothesis (extendWord word c)
      refine ⟨finished, reached, fun rest single => ?_⟩
      rw [List.cons_append, wordsFrom_quoted _ _ other, reads rest single,
        quoteLeft_cons, quoteAfter_quoted other]
  | opening c later opens inductionHypothesis =>
      obtain ⟨finished, reached, reads⟩ := inductionHypothesis (some (word.getD []))
      refine ⟨finished, reached, fun rest single => ?_⟩
      rw [List.cons_append, wordsFrom_opening _ _ opens, reads rest single,
        quoteLeft_cons, quoteAfter_opening opens]
  | blank c later isBlank inductionHypothesis =>
      obtain ⟨finished, reached, reads⟩ := inductionHypothesis none
      refine ⟨finishWord word ++ finished, reached, fun rest single => ?_⟩
      rw [List.cons_append, wordsFrom_blank _ _ isBlank, reads rest single,
        quoteLeft_cons, quoteAfter_plain (not_isQuote_of_isBlank isBlank), List.append_assoc]
  | plain c later notQuote visible inductionHypothesis =>
      obtain ⟨finished, reached, reads⟩ := inductionHypothesis (extendWord word c)
      refine ⟨finished, reached, fun rest single => ?_⟩
      rw [List.cons_append, wordsFrom_plain _ _ notQuote visible, reads rest single,
        quoteLeft_cons, quoteAfter_plain notQuote]

/-- Text that does not close its quotes is read as one word. -/
theorem length_wordsFrom_quoted
    {opened : Char}
    {cs : List Char}
    (unclosed : ∀ c ∈ cs, c ≠ opened)
    (word : List Char) :
    (wordsFrom (some opened) (some word) cs).length = 1 := by
  induction cs generalizing word with
  | nil =>
      rw [wordsFrom_nil]
      rfl
  | cons c rest inductionHypothesis =>
      rw [wordsFrom_quoted _ _ (unclosed c List.mem_cons_self)]
      exact inductionHypothesis
        (fun later member => unclosed later (List.mem_cons_of_mem c member)) _

/--
A place inside quotes is not outside quotes too: text of two words makes one
word more there than text of one, and inside quotes either is read as one word.
-/
theorem not_arrives_of_quoted
    {before : List Char}
    {opened : Char}
    (opens : isQuote opened)
    (inside : Arrives before (some opened)) :
    ¬ Arrives before none := by
  rintro ⟨finished, word, outside⟩
  obtain ⟨finishedInside, wordInside, inside⟩ := inside
  have other : ∀ c, ¬ isQuote c → c ≠ opened := fun c plain same => plain (same ▸ opens)
  have space := other ' ' (by decide)
  have letter := other 'a' (by decide)
  have oneInside :
      (wordsFrom none none (before ++ [' ', 'a'])).length = finishedInside.length + 1 := by
    rw [inside _ (by decide), List.length_append, wordsFrom_quoted _ _ space]
    exact congrArg _ (length_wordsFrom_quoted (by simp [letter]) _)
  have twoInside :
      (wordsFrom none none (before ++ [' ', 'a', ' ', 'a'])).length =
        finishedInside.length + 1 := by
    rw [inside _ (by decide), List.length_append, wordsFrom_quoted _ _ space]
    exact congrArg _ (length_wordsFrom_quoted (by simp [space, letter]) _)
  have twoOutside :
      (wordsFrom none none (before ++ [' ', 'a', ' ', 'a'])).length =
        (wordsFrom none none (before ++ [' ', 'a'])).length + 1 := by
    have started : ∀ rest,
        wordsFrom none word (' ' :: rest) = finishWord word ++ wordsFrom none none rest :=
      fun rest => wordsFrom_blank word rest (by decide)
    have one : wordsFrom none none ['a'] = [['a']] := by decide
    have two : wordsFrom none none ['a', ' ', 'a'] = [['a'], ['a']] := by decide
    rw [outside _ (by decide), outside _ (by decide), started, started, one, two]
    simp only [List.length_append, List.length_cons, List.length_nil]
    omega
  omega

/-! ## Where a semicolon cuts -/

/-- A line is cut as its beginning is, and from the last piece of that on as what follows. -/
theorem semicolonPieces_append (quote : Option Char) (before : List Char) :
    ∃ earlier last,
      semicolonPieces quote before = earlier ++ [last] ∧
        ∀ {rest piece pieces},
          semicolonPieces (quoteLeft quote before) rest = piece :: pieces →
            semicolonPieces quote (before ++ rest) = earlier ++ (last ++ piece) :: pieces := by
  induction before generalizing quote with
  | nil =>
      exact ⟨[], [], rfl, fun same => same⟩
  | cons c later inductionHypothesis =>
      obtain ⟨earlier, last, same, goesOn⟩ := inductionHypothesis (quoteAfter quote c)
      by_cases cut : quote = none ∧ c = ';'
      · obtain ⟨rfl, rfl⟩ := cut
        rw [quoteAfter_plain (by decide)] at same goesOn
        refine ⟨[] :: earlier, last, by rw [semicolonPieces_cut, same]; rfl, fun follows => ?_⟩
        rw [quoteLeft_cons, quoteAfter_plain (by decide)] at follows
        rw [List.cons_append, semicolonPieces_cut, goesOn follows]
        rfl
      · cases earlier with
        | nil =>
            exact ⟨[], c :: last, semicolonPieces_cons cut same,
              fun follows => semicolonPieces_cons cut (goesOn follows)⟩
        | cons first others =>
            exact ⟨(c :: first) :: others, last, semicolonPieces_cons cut same,
              fun follows => semicolonPieces_cons cut (goesOn follows)⟩

/-- A semicolon cuts a line in two exactly if no quote is open before it. -/
theorem cuts_iff_unquoted (before after : List Char) :
    semicolonPieces none (before ++ ';' :: after) =
        semicolonPieces none before ++ semicolonPieces none after ↔
      quoteLeft none before = none := by
  obtain ⟨earlier, last, same, goesOn⟩ := semicolonPieces_append none before
  cases left : quoteLeft none before with
  | none =>
      rw [left] at goesOn
      rw [goesOn (semicolonPieces_cut after), same, List.append_nil, List.append_assoc]
      exact iff_of_true rfl rfl
  | some opened =>
      rw [left] at goesOn
      obtain ⟨piece, pieces, rest⟩ := exists_pieces (quoteAfter (some opened) ';') after
      rw [goesOn (semicolonPieces_cons (kept_in_quotes opened ';') rest), same, List.append_assoc]
      refine iff_of_false (fun cuts => ?_) nofun
      have lastGrows := (List.cons.inj (List.append_cancel_left cuts)).1
      exact List.cons_ne_nil _ _ (List.append_right_eq_self.mp lastGrows)

theorem arrives_none_iff (before : List Char) :
    Arrives before none ↔ quoteLeft none before = none := by
  have arrives := arrives_quoteLeft before
  cases left : quoteLeft none before with
  | none =>
      exact iff_of_true (left ▸ arrives) rfl
  | some opened =>
      exact iff_of_false (not_arrives_of_quoted (isQuote_of_quoteLeft left) (left ▸ arrives)) nofun

/--
In a line whose quotes are all closed, the words of the commands are the words
of the line with a space for each semicolon outside quotes. A semicolon cuts
the line exactly where words are read with no quote open.
-/
theorem splitting_agrees_with_words
    (line : String)
    (closed : quoteLeft none line.toList = none) :
    (commandsOf line).flatMap words = words (String.ofList (blankSemicolons none line.toList)) ∧
      ∀ before after, line.toList = before ++ ';' :: after →
        (semicolonPieces none line.toList =
            semicolonPieces none before ++ semicolonPieces none after ↔
          Arrives before none) := by
  constructor
  · unfold commandsOf words
    rw [List.flatMap_map, String.toList_ofList, ← flatMap_words_commandChars closed,
      List.map_flatMap]
    exact List.flatMap_congr fun member _ => by rw [String.toList_ofList]
  · intro before after same
    rw [same]
    exact (cuts_iff_unquoted before after).trans (arrives_none_iff before).symm

/--
A doubled double quote, an empty string beside quoted text, and a quote of one
kind inside the other, with semicolons in and between them.
-/
theorem splitting_agrees_with_words_beside_quotes :
    let line := String.ofList
      ['\x22', 'a', '\x22', '\x22', ';', '\x27', '\x22', ';', '\x27', '\x27', '\x27', ';',
        '\x22', '\x27', ' ', ';', 'b']
    quoteLeft none line.toList = none ∧
      (commandsOf line).flatMap words = words (String.ofList (blankSemicolons none line.toList)) ∧
      ∀ before after, line.toList = before ++ ';' :: after →
        (semicolonPieces none line.toList =
            semicolonPieces none before ++ semicolonPieces none after ↔
          Arrives before none) := by
  intro line
  have closed : quoteLeft none line.toList = none := by
    rw [String.toList_ofList]
    decide
  exact ⟨closed, splitting_agrees_with_words line closed⟩

end Monitor8080.Text
