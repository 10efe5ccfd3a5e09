import Monitor8080.Proofs.ChunkSize
import Monitor8080.Proofs.CommandSplitting
namespace Monitor8080

/-!
# A line is the sequence of its commands

Two lines joined by a semicolon are obeyed like one after the other, the second
only if the first succeeded. The commands of the joined line are those of the
first and then those of the second as long as the first leaves no quote open,
and nothing but the session goes from one command to the next as long as none
of the first is a condition. Only the lines remembered tell the two apart.
-/

/-! ## Commands of joined lines -/

namespace Text

/-- Blanks around a text are trimmed with its own. -/
theorem trimChars_between_blanks
    {leading trailing : List Char}
    (blankBefore : ∀ c ∈ leading, isBlank c)
    (blankAfter : ∀ c ∈ trailing, isBlank c)
    (cs : List Char) :
    trimChars (leading ++ (cs ++ trailing)) = trimChars cs := by
  have blankReversed : ∀ c ∈ trailing.reverse, isBlank c :=
    fun c member => blankAfter c (List.mem_reverse.mp member)
  unfold trimChars
  rw [List.dropWhile_append_of_pos blankBefore, List.dropWhile_append]
  by_cases onlyBlanks : (cs.dropWhile isBlank).isEmpty
  · rw [if_pos onlyBlanks, List.isEmpty_iff.mp onlyBlanks,
      List.dropWhile_eq_nil_iff.mpr blankAfter]
  · rw [if_neg onlyBlanks, List.reverse_append, List.dropWhile_append_of_pos blankReversed]

/-- Blanks before a line belong to its first piece. -/
theorem semicolonPieces_leading
    {blanks cs piece : List Char}
    {pieces : List (List Char)}
    (blank : ∀ c ∈ blanks, isBlank c)
    (same : semicolonPieces none cs = piece :: pieces) :
    semicolonPieces none (blanks ++ cs) = (blanks ++ piece) :: pieces := by
  induction blanks with
  | nil =>
      exact same
  | cons c rest inductionHypothesis =>
      have isBlank := blank c List.mem_cons_self
      have kept := kept_of_ne (ne_semicolon_of_isBlank isBlank) none
      refine semicolonPieces_cons kept ?_
      rw [quoteAfter_plain (not_isQuote_of_isBlank isBlank)]
      exact inductionHypothesis fun later member => blank later (List.mem_cons_of_mem c member)

theorem semicolonPieces_blanks
    {blanks : List Char}
    (blank : ∀ c ∈ blanks, isBlank c)
    (quote : Option Char) :
    semicolonPieces quote blanks = [blanks] := by
  induction blanks generalizing quote with
  | nil =>
      rfl
  | cons c rest inductionHypothesis =>
      have kept := kept_of_ne (ne_semicolon_of_isBlank (blank c List.mem_cons_self)) quote
      refine semicolonPieces_cons kept (inductionHypothesis ?_ _)
      exact fun later member => blank later (List.mem_cons_of_mem c member)

/-- Trimming a line changes none of its commands, as each is trimmed too. -/
theorem commandChars_trimChars (cs : List Char) :
    commandChars (trimChars cs) = commandChars cs := by
  obtain ⟨leading, trailing, blankBefore, blankAfter, same⟩ := exists_trimmed cs
  obtain ⟨earlier, last, trimmedPieces, goesOn⟩ := semicolonPieces_append none (trimChars cs)
  have withTrailing := goesOn (semicolonPieces_blanks blankAfter _)
  suffices (semicolonPieces none cs).map trimChars =
      (semicolonPieces none (trimChars cs)).map trimChars by
    rw [commandChars, commandChars, this]
  obtain ⟨piece, pieces, split⟩ := exists_pieces none (trimChars cs ++ trailing)
  have withBoth := semicolonPieces_leading blankBefore split
  have leadingTrimmed : trimChars (leading ++ piece) = trimChars piece := by
    have trimmed := @trimChars_between_blanks leading [] blankBefore (List.forall_mem_nil _) piece
    rwa [List.append_nil] at trimmed
  have trailingTrimmed : trimChars (last ++ trailing) = trimChars last :=
    @trimChars_between_blanks [] trailing (List.forall_mem_nil _) blankAfter last
  calc
    (semicolonPieces none cs).map trimChars
        = ((leading ++ piece) :: pieces).map trimChars := by rw [← withBoth, ← same]
    _ = (semicolonPieces none (trimChars cs ++ trailing)).map trimChars := by
          rw [split, List.map_cons, List.map_cons, leadingTrimmed]
    _ = (semicolonPieces none (trimChars cs)).map trimChars := by
          rw [withTrailing, trimmedPieces, List.map_append, List.map_append, List.map_singleton,
            List.map_singleton, trailingTrimmed]

theorem commandsOf_trim (line : String) : commandsOf (trim line) = commandsOf line := by
  rw [commandsOf, trim, String.toList_ofList, commandChars_trimChars, commandsOf]

/-- The commands of lines joined by a semicolon, if no quote is open before it. -/
theorem commandsOf_joined
    {first : String}
    (closed : quoteLeft none first.toList = none)
    (second : String) :
    commandsOf (first ++ ";" ++ second) = commandsOf first ++ commandsOf second := by
  have joined : (first ++ ";" ++ second).toList = first.toList ++ ';' :: second.toList := by
    simp
  rw [commandsOf, commandChars, joined, (cuts_iff_unquoted _ _).mpr closed, List.map_append,
    List.filter_append, List.map_append]
  rfl

end Text

/-! ## Scripts one after the other -/

/-- Whether a text is a command that may pass over those after it. -/
def Command.isConditional (text : String) : Bool :=
  match parse text with
  | .ok (.ifTrue _) | .ok .orElse => true
  | _ => false

namespace Script

/--
Commands without conditions either are completed, and then those after them
follow, or one of them ends the script whatever stands after them.
-/
theorem execute_append
    {runner : Runner}
    {first : List String}
    (unconditional : ∀ text ∈ first, !Command.isConditional text)
    (second : List String)
    (session : Session) :
    (∃ after,
      execute runner first session = (.completed, after) ∧
        execute runner (first ++ second) session = execute runner second after) ∨
      ∃ ending ∈ [ScriptEnd.failed, .abandoned], ∃ after,
        execute runner first session = (ending, after) ∧
          execute runner (first ++ second) session = (ending, after) := by
  induction first generalizing session with
  | nil =>
      refine .inl ⟨session, ?_, rfl⟩
      rw [execute]
  | cons text rest inductionHypothesis =>
      have plain := unconditional text List.mem_cons_self
      have restUnconditional : ∀ later ∈ rest, !Command.isConditional later :=
        fun later member => unconditional later (List.mem_cons_of_mem text member)
      rw [List.cons_append]
      cases parsed : Command.parse text with
      | error error =>
          refine .inr ⟨.failed, by simp, session.print error.message, ?_, ?_⟩ <;>
            rw [execute, parsed]
      | ok command =>
          rw [Command.isConditional, parsed] at plain
          have notIf : ∀ condition, command = .ifTrue condition → False := by
            rintro condition rfl
            cases plain
          have notElse : command = .orElse → False := by
            rintro rfl
            cases plain
          rw [execute_of_command parsed notIf notElse, execute_of_command parsed notIf notElse]
          cases (Operation.execute runner command).run session with
          | mk result after =>
              cases result with
              | ok value =>
                  exact inductionHypothesis restUnconditional after
              | error error =>
                  right
                  cases error <;> exact ⟨_, by simp, _, rfl, rfl⟩

end Script

/-! ## Lines one after the other -/

namespace Session

/-- The session without the lines remembered. -/
def forgetLines (session : Session) : Session :=
  session.onto { session.backdrop with commandHistory := [] }

/-- What an operator is told of a script, and the session that is left. -/
def tellEnd : ScriptEnd × Session → Bool × Session
  | (.completed, session) | (.aborted, session) => (true, session)
  | (.failed, session) => (false, session)
  | (.abandoned, session) =>
      (false, session.print ("internal error: " ++ MonitorError.historyTooLong.message))

/-- Carries out commands as those of a line. -/
def carryOut (session : Session) (commands : List String) : Bool × Session :=
  tellEnd (Script.execute Run.outermost commands session)

theorem tellEnd_onto
    (backdrop : Backdrop)
    (ending : ScriptEnd)
    (session : Session) :
    tellEnd (ending, session.onto backdrop) =
      ((tellEnd (ending, session)).1, (tellEnd (ending, session)).2.onto backdrop) := by
  cases ending <;> rfl

theorem carryOut_onto
    (backdrop : Backdrop)
    (commands : List String)
    (session : Session) :
    (session.onto backdrop).carryOut commands =
      ((session.carryOut commands).1, (session.carryOut commands).2.onto backdrop) := by
  have same := Script.execute_onto (Run.outermost_overlooks backdrop) commands session
  rw [carryOut, same, tellEnd_onto]
  rfl

theorem carryOut_backdrop
    (commands : List String)
    (session : Session) :
    (session.carryOut commands).2.backdrop = session.backdrop := by
  have same := session.carryOut_onto session.backdrop commands
  rw [session.onto_backdrop] at same
  rw [same]
  rfl

/-- Commands come to the same with no lines remembered. -/
theorem carryOut_forgetLines
    (commands : List String)
    (session : Session) :
    session.forgetLines.carryOut commands =
      ((session.carryOut commands).1, (session.carryOut commands).2.forgetLines) := by
  unfold forgetLines
  rw [carryOut_onto, carryOut_backdrop]

/-- Commands are carried out in two parts, the second only if the first succeeds. -/
theorem carryOut_append
    {first : List String}
    (unconditional : ∀ text ∈ first, !Command.isConditional text)
    (second : List String)
    (session : Session) :
    session.carryOut (first ++ second) =
      if (session.carryOut first).1 then
        (session.carryOut first).2.carryOut second
      else
        session.carryOut first := by
  have parts := @Script.execute_append Run.outermost first unconditional second session
  unfold carryOut
  rcases parts with ⟨after, completed, follows⟩ | ⟨ending, ends, after, ended, stays⟩
  · rw [completed, follows]
    rfl
  · rw [ended, stays]
    have failed : (tellEnd (ending, after)).1 = false := by
      rcases List.mem_pair.mp ends with rfl | rfl <;> rfl
    rw [if_neg (by rw [failed]; exact Bool.false_ne_true)]

/-- To obey a line is to remember it and to carry out its commands, if it has any. -/
theorem obey_eq (session : Session) (line : String) :
    session.obey line =
      if (Text.trim line).isEmpty then
        (true, session)
      else
        (session.recordLine (Text.trim line)).carryOut (Text.commandsOf line) := by
  unfold obey carryOut
  simp only [Text.commandsOf_trim]
  split
  · rfl
  · cases Script.execute Run.outermost (Text.commandsOf line)
      (session.recordLine (Text.trim line)) with
    | mk ending after =>
        cases ending <;> rfl

/-- A line is obeyed by carrying out its commands, whatever lines are remembered. -/
theorem obey_forgetLines (session : Session) (line : String) :
    (session.obey line).1 = (session.carryOut (Text.commandsOf line)).1 ∧
      (session.obey line).2.forgetLines =
        (session.carryOut (Text.commandsOf line)).2.forgetLines := by
  rw [obey_eq]
  by_cases empty : (Text.trim line).isEmpty
  · have nothing : Text.commandsOf line = [] := by
      rw [← Text.commandsOf_trim, String.isEmpty_iff.mp empty]
      rfl
    rw [if_pos empty, nothing, carryOut, Script.execute.eq_def]
    exact ⟨rfl, rfl⟩
  · have remembered :
        (session.recordLine (Text.trim line)).forgetLines = session.forgetLines :=
      rfl
    have same := carryOut_forgetLines (Text.commandsOf line) (session.recordLine (Text.trim line))
    rw [remembered, carryOut_forgetLines] at same
    rw [if_neg empty]
    exact Prod.mk.inj same.symm

end Session

/--
A line is the sequence of its commands. Two lines joined by a semicolon, of
which the first closes its quotes and has no condition, succeed if both do, and
leave what the second leaves after the first, or the first alone if it fails.
The session is the same, output and machine included, but for the lines
remembered.
-/
theorem joined_lines_are_obeyed_in_turn
    (session : Session)
    (first second : String)
    (closed : Text.quoteLeft none first.toList = none)
    (unconditional : ∀ text ∈ Text.commandsOf first, !Command.isConditional text) :
    let joined := session.obey (first ++ ";" ++ second)
    let earlier := session.obey first
    let later := earlier.2.obey second
    (joined.1 ↔ earlier.1 ∧ later.1) ∧
      joined.2.forgetLines = (if earlier.1 then later.2 else earlier.2).forgetLines := by
  intro joined earlier later
  obtain ⟨joinedTold, joinedLeft⟩ := session.obey_forgetLines (first ++ ";" ++ second)
  obtain ⟨earlierTold, earlierLeft⟩ := session.obey_forgetLines first
  obtain ⟨laterTold, laterLeft⟩ := earlier.2.obey_forgetLines second
  rw [Text.commandsOf_joined closed, Session.carryOut_append unconditional] at joinedTold joinedLeft
  by_cases succeeded : (session.carryOut (Text.commandsOf first)).1
  · -- The second line finds what the commands of the first left, but for the lines remembered.
    have follows := Session.carryOut_forgetLines (Text.commandsOf second)
      (session.carryOut (Text.commandsOf first)).2
    rw [← earlierLeft, Session.carryOut_forgetLines, Prod.mk.injEq, ← laterTold,
      ← laterLeft] at follows
    rw [if_pos succeeded] at joinedTold joinedLeft
    rw [earlierTold, if_pos succeeded, joinedTold, joinedLeft, ← follows.1]
    exact ⟨⟨fun told => ⟨succeeded, told⟩, And.right⟩, follows.2.symm⟩
  · rw [if_neg succeeded] at joinedTold joinedLeft
    rw [earlierTold, if_neg succeeded, joinedTold, joinedLeft]
    exact ⟨iff_of_false succeeded fun both => succeeded both.1, earlierLeft.symm⟩

/-- A breakpoint whose script has a semicolon, and a run that plays the script. -/
theorem script_and_run_are_obeyed_in_turn :
    let session := Session.fresh .default .initial
    let first := "bp 1 \x22r;h\x22"
    let second := " g; r "
    Text.quoteLeft none first.toList = none ∧
      (∀ text ∈ Text.commandsOf first, !Command.isConditional text) ∧
      let joined := session.obey (first ++ ";" ++ second)
      let earlier := session.obey first
      let later := earlier.2.obey second
      (joined.1 ↔ earlier.1 ∧ later.1) ∧
        joined.2.forgetLines = (if earlier.1 then later.2 else earlier.2).forgetLines := by
  intro session first second
  have closed : Text.quoteLeft none first.toList = none := by decide +kernel
  have unconditional : ∀ text ∈ Text.commandsOf first, !Command.isConditional text := by
    decide +kernel
  exact ⟨closed, unconditional, joined_lines_are_obeyed_in_turn session first second closed
    unconditional⟩

end Monitor8080
