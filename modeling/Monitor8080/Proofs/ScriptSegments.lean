import Mathlib.Data.List.Forall2
import Mathlib.Data.List.TakeWhile
import Monitor8080.Proofs.RunLaws
namespace Monitor8080

/-!
# Segments of scripts

The `else` commands of a script cut it into segments. A script is executed from
its first segment on: it ends where a segment ends, a condition that does not
hold moves on to the next segment, and what fails ends everything. Which
commands are looked at is told along with the segments visited; all others make
no difference.
-/

namespace Script

/-! ## Single commands -/

/-- What a command comes to for the script that it stands in. -/
inductive Verdict where
  /-- The next command follows. -/
  | goesOn
  /-- A condition does not hold, and the rest of the segment is left out. -/
  | leaves
  | fails
  /-- There is no room for the history, and the line is abandoned with all its scripts. -/
  | abandons
  deriving Repr, DecidableEq

/--
What comes of a command that is no `else`. A condition changes nothing, and
whatever fails prints one line with the error.
-/
def heed (run : Runner) (text : String) (session : Session) : Verdict × Session :=
  match Command.parse text with
  | .error error => (.fails, session.print error.message)
  | .ok (.ifTrue condition) =>
      match session.monitor.evaluate session.machine condition with
      | .error error => (.fails, session.print error.message)
      | .ok value => (if value = 0 then .leaves else .goesOn, session)
  | .ok command =>
      match (Operation.execute run command).run session with
      | (.ok _, session) => (.goesOn, session)
      | (.error .historyTooLong, session) => (.abandons, session)
      | (.error error, session) => (.fails, session.print error.message)

section Heed

variable {run : Runner} {text : String} {session : Session}

theorem heed_of_not_parsed
    {error : MonitorError}
    (notParsed : Command.parse text = .error error) :
    heed run text session = (.fails, session.print error.message) := by
  rw [heed, notParsed]

theorem heed_of_condition
    {condition : String}
    (parsed : Command.parse text = .ok (.ifTrue condition)) :
    heed run text session =
      match session.monitor.evaluate session.machine condition with
      | .error error => (.fails, session.print error.message)
      | .ok value => (if value = 0 then .leaves else .goesOn, session) := by
  rw [heed, parsed]

theorem heed_of_ordinary
    {command : Command}
    (parsed : Command.parse text = .ok command)
    (notIf : ∀ condition, command ≠ .ifTrue condition) :
    heed run text session =
      match (Operation.execute run command).run session with
      | (.ok _, session) => (.goesOn, session)
      | (.error .historyTooLong, session) => (.abandons, session)
      | (.error error, session) => (.fails, session.print error.message) := by
  rw [heed, parsed]
  cases command with
  | ifTrue condition =>
      exact absurd rfl (notIf condition)
  | _ =>
      rfl

end Heed

/-! ## Cutting a script -/

/-- The segments of a script: what stands before, between and after its `else` commands. -/
def segments (commands : List String) : List (List String) :=
  commands.splitOnP opensElse

section Segments

variable {text : String} {commands : List String}

theorem segments_cons_of_opensElse (cuts : opensElse text) :
    segments (text :: commands) = [] :: segments commands := by
  rw [segments, List.splitOnP_cons_eq_if_modifyHead, if_pos cuts, segments]

/-- A command that is no `else` joins the first of the segments after it. -/
theorem exists_segments_cons
    (plain : opensElse text = false)
    (commands : List String) :
    ∃ first later,
      segments commands = first :: later ∧
        segments (text :: commands) = (text :: first) :: later := by
  cases cut : segments commands with
  | nil =>
      exact absurd cut (List.splitOnP_ne_nil opensElse commands)
  | cons first later =>
      refine ⟨first, later, rfl, ?_⟩
      rw [segments] at cut
      rw [segments, List.splitOnP_cons_eq_if_modifyHead, plain, cut]
      rfl

/-- The next segment begins after the next `else`. -/
theorem segments_of_afterElse?
    {others : List String}
    (found : afterElse? commands = some others) :
    ∃ skipped, segments commands = skipped :: segments others := by
  induction commands with
  | nil =>
      cases found
  | cons text rest inductionHypothesis =>
      cases cuts : opensElse text with
      | true =>
          simp only [afterElse?, List.dropWhile_cons, cuts, Bool.not_true] at found
          cases found
          exact ⟨[], segments_cons_of_opensElse cuts⟩
      | false =>
          simp only [afterElse?, List.dropWhile_cons, cuts, Bool.not_false, if_pos] at found
          obtain ⟨skipped, same⟩ := inductionHypothesis found
          obtain ⟨first, later, cut, joined⟩ := exists_segments_cons cuts rest
          rw [same] at cut
          cases cut
          exact ⟨text :: skipped, joined⟩

/-- Without an `else` a script is one segment. -/
theorem segments_of_not_afterElse?
    (notFound : afterElse? commands = none) :
    segments commands = [commands] := by
  refine List.splitOnP_eq_singleton fun text member => ?_
  unfold afterElse? at notFound
  split at notFound
  · rename_i nothing
    simpa using List.dropWhile_eq_nil_iff.mp nothing text member
  · cases notFound

end Segments

/-! ## The way through the segments -/

/-- What is done in a segment: the commands looked at, and whether its end is reached. -/
structure Visit where
  heeded : List String
  isWhole : Bool
  deriving Repr, DecidableEq

/-- A visit is one of a segment: of commands from its first one on, and of all if it is whole. -/
structure Visit.IsOf (visit : Visit) (segment : List String) : Prop where
  heeded : visit.heeded <+: segment
  whole : visit.isWhole → visit.heeded = segment

/--
How a script goes through its segments from one session to another, with the
segments visited. Of what it leaves out nothing is asked.
-/
inductive Follows (run : Runner) :
    List (List String) → Session → List Visit → ScriptEnd → Session → Prop where
  /-- The end of a segment completes the script. -/
  | complete (later : List (List String)) (session : Session) :
      Follows run ([] :: later) session [⟨[], true⟩] .completed session
  /-- A command that comes to a good end is followed by the next one. -/
  | goOn
      {text : String}
      {rest : List String}
      {later : List (List String)}
      {first second last : Session}
      {visit : Visit}
      {visits : List Visit}
      {ended : ScriptEnd}
      (heeds : heed run text first = (.goesOn, second))
      (follows : Follows run (rest :: later) second (visit :: visits) ended last) :
      Follows run ((text :: rest) :: later) first
        (⟨text :: visit.heeded, visit.isWhole⟩ :: visits) ended last
  /-- A condition that does not hold moves to the start of the next segment. -/
  | moveOn
      {text : String}
      {later : List (List String)}
      {first second last : Session}
      {visits : List Visit}
      {ended : ScriptEnd}
      (skipped : List String)
      (heeds : heed run text first = (.leaves, second))
      (follows : Follows run later second visits ended last) :
      Follows run ((text :: skipped) :: later) first (⟨[text], false⟩ :: visits) ended last
  /-- A condition that does not hold ends the script if there is no next segment. -/
  | runOut
      {text : String}
      {first second : Session}
      (skipped : List String)
      (heeds : heed run text first = (.leaves, second)) :
      Follows run [text :: skipped] first [⟨[text], false⟩] .aborted second
  | fail
      {text : String}
      {first second : Session}
      (skipped : List String)
      (later : List (List String))
      (heeds : heed run text first = (.fails, second)) :
      Follows run ((text :: skipped) :: later) first [⟨[text], false⟩] .failed second
  | abandon
      {text : String}
      {first second : Session}
      (skipped : List String)
      (later : List (List String))
      (heeds : heed run text first = (.abandons, second)) :
      Follows run ((text :: skipped) :: later) first [⟨[text], false⟩] .abandoned second

namespace Follows

variable
  {run : Runner}
  {script : List (List String)}
  {first last : Session}
  {visits : List Visit}
  {ended : ScriptEnd}

/-- The first segment is visited. -/
theorem visits_ne_nil (follows : Follows run script first visits ended last) : visits ≠ [] := by
  cases follows <;> exact List.cons_ne_nil _ _

/-- There is one way through the segments at most. -/
theorem unique
    {otherVisits : List Visit}
    {otherEnd : ScriptEnd}
    {otherLast : Session}
    (follows : Follows run script first visits ended last)
    (others : Follows run script first otherVisits otherEnd otherLast) :
    otherVisits = visits ∧ otherEnd = ended ∧ otherLast = last := by
  -- The verdict on the next command decides which rule applies, so both ways agree on it.
  induction follows generalizing otherVisits otherEnd otherLast with
  | complete later session =>
      cases others
      exact ⟨rfl, rfl, rfl⟩
  | goOn heeds follows inductionHypothesis =>
      cases others
      case goOn otherHeeds otherFollows =>
        cases heeds.symm.trans otherHeeds
        obtain ⟨sameVisits, sameEnd, sameLast⟩ := inductionHypothesis otherFollows
        cases sameVisits
        exact ⟨rfl, sameEnd, sameLast⟩
      all_goals cases heeds.symm.trans ‹_›
  | moveOn skipped heeds follows inductionHypothesis =>
      cases others
      case moveOn otherHeeds otherFollows =>
        cases heeds.symm.trans otherHeeds
        obtain ⟨sameVisits, sameEnd, sameLast⟩ := inductionHypothesis otherFollows
        exact ⟨congrArg _ sameVisits, sameEnd, sameLast⟩
      case runOut =>
        cases follows
      all_goals cases heeds.symm.trans ‹_›
  | runOut skipped heeds =>
      cases others
      case moveOn otherHeeds otherFollows =>
        cases otherFollows
      case runOut otherHeeds =>
        cases heeds.symm.trans otherHeeds
        exact ⟨rfl, rfl, rfl⟩
      all_goals cases heeds.symm.trans ‹_›
  | fail skipped later heeds =>
      cases others
      case fail otherHeeds =>
        cases heeds.symm.trans otherHeeds
        exact ⟨rfl, rfl, rfl⟩
      all_goals cases heeds.symm.trans ‹_›
  | abandon skipped later heeds =>
      cases others
      case abandon otherHeeds =>
        cases heeds.symm.trans otherHeeds
        exact ⟨rfl, rfl, rfl⟩
      all_goals cases heeds.symm.trans ‹_›

/-- The segments are visited in their order, from the first one on. -/
theorem visits_isOf (follows : Follows run script first visits ended last) :
    List.Forall₂ Visit.IsOf visits (script.take visits.length) := by
  -- A single command that ends its segment is the first one of it.
  have single :
      ∀ (text : String) (skipped : List String),
        Visit.IsOf ⟨[text], false⟩ (text :: skipped) :=
    fun text skipped => ⟨⟨skipped, rfl⟩, nofun⟩
  induction follows with
  | complete later session =>
      exact .cons ⟨List.prefix_refl [], fun _ => rfl⟩ .nil
  | goOn heeds follows inductionHypothesis =>
      obtain ⟨⟨heeded, whole⟩, inLater⟩ := List.forall₂_cons.mp inductionHypothesis
      refine .cons ⟨?_, ?_⟩ inLater
      · exact (List.prefix_cons_inj _).mpr heeded
      · exact fun isWhole => congrArg _ (whole isWhole)
  | moveOn skipped heeds follows inductionHypothesis =>
      exact .cons (single _ skipped) inductionHypothesis
  | runOut skipped heeds =>
      exact .cons (single _ skipped) .nil
  | fail skipped later heeds =>
      exact .cons (single _ skipped) .nil
  | abandon skipped later heeds =>
      exact .cons (single _ skipped) .nil

/-- Only the last segment visited may be one whose end is reached. -/
theorem isWhole_of_mem_dropLast
    (follows : Follows run script first visits ended last)
    {visit : Visit}
    (earlier : visit ∈ visits.dropLast) :
    visit.isWhole = false := by
  induction follows generalizing visit with
  | @goOn _ _ _ _ _ _ head others _ heeds follows inductionHypothesis =>
      cases others with
      | nil =>
          cases earlier
      | cons next others =>
          have beginning : head.isWhole = false := inductionHypothesis List.mem_cons_self
          rcases List.mem_cons.mp earlier with rfl | inOthers
          · exact beginning
          · exact inductionHypothesis (List.mem_cons_of_mem _ inOthers)
  | moveOn skipped heeds follows inductionHypothesis =>
      rw [List.dropLast_cons_of_ne_nil follows.visits_ne_nil] at earlier
      rcases List.mem_cons.mp earlier with rfl | inOthers
      · rfl
      · exact inductionHypothesis inOthers
  | _ =>
      cases earlier

/-- Segments that are visited have a first one if there is a visit. -/
theorem exists_visited
    {visit : Visit}
    {others : List (List String)}
    (visited :
      List.Forall₂ Visit.IsOf (visit :: visits) (others.take (visit :: visits).length)) :
    ∃ segment rest,
      others = segment :: rest ∧
        visit.IsOf segment ∧ List.Forall₂ Visit.IsOf visits (rest.take visits.length) := by
  cases others with
  | nil =>
      cases visited
  | cons segment rest =>
      exact ⟨segment, rest, rfl, List.forall₂_cons.mp visited⟩

/-- Whatever was not looked at may be something else, as long as nothing is missing or to spare. -/
theorem congr
    {others : List (List String)}
    (follows : Follows run script first visits ended last)
    (visited : List.Forall₂ Visit.IsOf visits (others.take visits.length))
    (complete : ended = .aborted → others.length = visits.length) :
    Follows run others first visits ended last := by
  induction follows generalizing others with
  | complete later session =>
      obtain ⟨segment, rest, rfl, ⟨-, whole⟩, -⟩ := exists_visited visited
      rw [← whole rfl]
      exact .complete rest session
  | goOn heeds follows inductionHypothesis =>
      obtain ⟨segment, rest, rfl, ⟨⟨unread, rfl⟩, whole⟩, inRest⟩ := exists_visited visited
      refine .goOn heeds (inductionHypothesis (.cons ⟨⟨unread, rfl⟩, ?_⟩ inRest) complete)
      exact fun isWhole => List.tail_eq_of_cons_eq (whole isWhole)
  | moveOn skipped heeds follows inductionHypothesis =>
      obtain ⟨segment, rest, rfl, ⟨⟨unread, rfl⟩, -⟩, inRest⟩ := exists_visited visited
      refine .moveOn unread heeds (inductionHypothesis inRest fun aborted => ?_)
      exact Nat.succ_inj.mp (complete aborted)
  | runOut skipped heeds =>
      obtain ⟨segment, rest, rfl, ⟨⟨unread, rfl⟩, -⟩, -⟩ := exists_visited visited
      cases List.length_eq_zero_iff.mp (Nat.succ_inj.mp (complete rfl))
      exact .runOut unread heeds
  | fail skipped later heeds =>
      obtain ⟨segment, rest, rfl, ⟨⟨unread, rfl⟩, -⟩, -⟩ := exists_visited visited
      exact .fail unread rest heeds
  | abandon skipped later heeds =>
      obtain ⟨segment, rest, rfl, ⟨⟨unread, rfl⟩, -⟩, -⟩ := exists_visited visited
      exact .abandon unread rest heeds

end Follows

/-! ## Execution -/

theorem opensElse_of_not_parsed
    {text : String}
    {error : MonitorError}
    (notParsed : Command.parse text = .error error) :
    opensElse text = false := by
  rw [opensElse, notParsed]

theorem opensElse_of_parsed
    {text : String}
    {command : Command}
    (parsed : Command.parse text = .ok command)
    (notElse : command ≠ .orElse) :
    opensElse text = false := by
  unfold opensElse
  split
  · rename_i isElse
    exact absurd (Except.ok.inj (parsed.symm.trans isElse)) notElse
  · rfl

theorem opensElse_of_condition
    {text condition : String}
    (parsed : Command.parse text = .ok (.ifTrue condition)) :
    opensElse text = false :=
  opensElse_of_parsed parsed Command.noConfusion

section FirstCommand

variable
  {run : Runner}
  {text : String}
  {rest : List String}
  {first second last : Session}
  {ended : ScriptEnd}
  (plain : opensElse text = false)

include plain

theorem exists_follows_of_goesOn
    (heeds : heed run text first = (.goesOn, second))
    (follows : ∃ visits, Follows run (segments rest) second visits ended last) :
    ∃ visits, Follows run (segments (text :: rest)) first visits ended last := by
  obtain ⟨visits, follows⟩ := follows
  obtain ⟨segment, later, cut, joined⟩ := exists_segments_cons plain rest
  rw [cut] at follows
  rw [joined]
  cases visits with
  | nil =>
      exact absurd rfl follows.visits_ne_nil
  | cons visit others =>
      exact ⟨_, .goOn heeds follows⟩

theorem exists_follows_of_leaves
    {others : List String}
    (heeds : heed run text first = (.leaves, second))
    (found : afterElse? rest = some others)
    (follows : ∃ visits, Follows run (segments others) second visits ended last) :
    ∃ visits, Follows run (segments (text :: rest)) first visits ended last := by
  obtain ⟨visits, follows⟩ := follows
  obtain ⟨segment, later, cut, joined⟩ := exists_segments_cons plain rest
  obtain ⟨skipped, same⟩ := segments_of_afterElse? found
  rw [cut] at same
  cases same
  rw [joined]
  exact ⟨_, .moveOn segment heeds follows⟩

theorem exists_follows_of_leaves_last
    (heeds : heed run text first = (.leaves, second))
    (notFound : afterElse? rest = none) :
    ∃ visits, Follows run (segments (text :: rest)) first visits .aborted second := by
  obtain ⟨segment, later, cut, joined⟩ := exists_segments_cons plain rest
  rw [segments_of_not_afterElse? notFound] at cut
  cases cut
  rw [joined]
  exact ⟨_, .runOut rest heeds⟩

theorem exists_follows_of_fails (heeds : heed run text first = (.fails, second)) :
    ∃ visits, Follows run (segments (text :: rest)) first visits .failed second := by
  obtain ⟨segment, later, -, joined⟩ := exists_segments_cons plain rest
  rw [joined]
  exact ⟨_, .fail segment later heeds⟩

theorem exists_follows_of_abandons (heeds : heed run text first = (.abandons, second)) :
    ∃ visits, Follows run (segments (text :: rest)) first visits .abandoned second := by
  obtain ⟨segment, later, -, joined⟩ := exists_segments_cons plain rest
  rw [joined]
  exact ⟨_, .abandon segment later heeds⟩

end FirstCommand

/-- A script is executed by a way through its segments. -/
theorem exists_follows_execute
    (run : Runner)
    (commands : List String)
    (session : Session) :
    ∃ visits,
      Follows run (segments commands) session visits (execute run commands session).1
        (execute run commands session).2 := by
  fun_induction execute run commands session with
  | case1 session =>
      exact ⟨_, .complete [] session⟩
  | case2 session text rest error notParsed =>
      exact exists_follows_of_fails (opensElse_of_not_parsed notParsed) (heed_of_not_parsed notParsed)
  | case3 session text rest condition parsed error notEvaluated =>
      refine exists_follows_of_fails (opensElse_of_condition parsed) ?_
      rw [heed_of_condition parsed, notEvaluated]
  | case4 session text rest condition parsed value evaluated holds inductionHypothesis =>
      refine exists_follows_of_goesOn (opensElse_of_condition parsed) ?_ inductionHypothesis
      rw [heed_of_condition parsed, evaluated]
      exact congrArg (·, session) (if_neg holds)
  | case5 session text rest condition parsed value evaluated fails others found shorter
      inductionHypothesis =>
      refine
        exists_follows_of_leaves (opensElse_of_condition parsed) ?_ found inductionHypothesis
      rw [heed_of_condition parsed, evaluated]
      exact congrArg (·, session) (if_pos (not_not.mp fails))
  | case6 session text rest condition parsed value evaluated fails notFound =>
      refine exists_follows_of_leaves_last (opensElse_of_condition parsed) ?_ notFound
      rw [heed_of_condition parsed, evaluated]
      exact congrArg (·, session) (if_pos (not_not.mp fails))
  | case7 session text rest parsed =>
      have cuts : opensElse text := by
        rw [opensElse, parsed]
      rw [segments_cons_of_opensElse cuts]
      exact ⟨_, .complete (segments rest) session⟩
  | case8 session text rest command notIf notElse parsed value after ran inductionHypothesis =>
      refine exists_follows_of_goesOn (opensElse_of_parsed parsed notElse) ?_ inductionHypothesis
      rw [heed_of_ordinary parsed notIf, ran]
  | case9 session text rest command notIf notElse parsed after ran =>
      refine exists_follows_of_abandons (opensElse_of_parsed parsed notElse) ?_
      rw [heed_of_ordinary parsed notIf, ran]
  | case10 session text rest command notIf notElse parsed error after ordinary ran =>
      refine exists_follows_of_fails (opensElse_of_parsed parsed notElse) ?_
      rw [heed_of_ordinary parsed notIf, ran]
      cases error with
      | historyTooLong =>
          exact absurd rfl ordinary
      | _ =>
          rfl

end Script

open Script in
/--
A script is executed by the one way through its segments, which it always has.
They are visited in their order, from the first one on; the end of none is
reached but of the last one visited. Commands that are not looked at may be any
others, well formed or not.
-/
theorem scripts_follow_segments
    (run : Runner)
    (commands : List String)
    (session : Session) :
    ∃ visits,
      Follows run (segments commands) session visits (execute run commands session).1
          (execute run commands session).2 ∧
        (∀ otherVisits ended last,
          Follows run (segments commands) session otherVisits ended last →
            otherVisits = visits ∧ (ended, last) = execute run commands session) ∧
        List.Forall₂ Visit.IsOf visits ((segments commands).take visits.length) ∧
        (∀ visit ∈ visits.dropLast, visit.isWhole = false) ∧
        ∀ others,
          List.Forall₂ Visit.IsOf visits ((segments others).take visits.length) →
            ((execute run commands session).1 = .aborted →
              (segments others).length = visits.length) →
            execute run others session = execute run commands session := by
  obtain ⟨visits, follows⟩ := exists_follows_execute run commands session
  refine ⟨visits, follows, ?_, follows.visits_isOf, fun _ => follows.isWhole_of_mem_dropLast, ?_⟩
  · intro otherVisits ended last otherwise
    obtain ⟨sameVisits, sameEnd, sameLast⟩ := follows.unique otherwise
    exact ⟨sameVisits, Prod.ext sameEnd sameLast⟩
  · intro others visited complete
    obtain ⟨otherVisits, otherwise⟩ := exists_follows_execute run others session
    obtain ⟨-, sameEnd, sameLast⟩ := (follows.congr visited complete).unique otherwise
    exact Prod.ext sameEnd sameLast

end Monitor8080
