import Mathlib.Data.List.Sort
import Monitor8080.Proofs.JoinedLines
import Monitor8080.Proofs.Restarts
import Monitor8080.Proofs.WordArithmetic
namespace Monitor8080

/-!
# Lines that are remembered

A line that is remembered moves to the front, and only so many lines are kept.
Nothing else touches them, so after any lines they are those used last. What is
cut off as lines come in is never missed: a line moves past the cut only if
enough other lines were used after it, and comes back only by its next use.
-/

/-! ## Lines by their last use -/

/-- How many lines were used after a line was used last. -/
def linesSince (uses : List String) (line : String) : Nat :=
  uses.reverse.idxOf line

theorem linesSince_concat_self (uses : List String) (line : String) :
    linesSince (uses ++ [line]) line = 0 := by
  rw [linesSince, List.reverse_append]
  exact List.idxOf_cons_self

theorem linesSince_concat_of_ne
    {line other : String}
    (differs : other ≠ line)
    (uses : List String) :
    linesSince (uses ++ [line]) other = linesSince uses other + 1 := by
  rw [linesSince, List.reverse_append]
  exact List.idxOf_cons_ne _ differs.symm

/-- The lines that were used, ordered by their last use, the latest first. -/
structure AreByLastUse (uses lines : List String) : Prop where
  mem_iff : ∀ line, line ∈ lines ↔ line ∈ uses
  latestFirst :
    lines.Pairwise fun later earlier => linesSince uses later < linesSince uses earlier

/-- The lines with one more line in front, which stays nowhere else. -/
def remember (lines : List String) (line : String) : List String :=
  line :: lines.filter (· ≠ line)

/-- The lines that come to be remembered if there is room for all. -/
def recalled (uses : List String) : List String :=
  uses.foldl remember []

theorem recalled_concat (uses : List String) (line : String) :
    recalled (uses ++ [line]) = remember (recalled uses) line :=
  List.foldl_append

namespace AreByLastUse

variable {uses lines : List String}

theorem nodup (byLastUse : AreByLastUse uses lines) : lines.Nodup :=
  byLastUse.latestFirst.imp fun isLater => ne_of_apply_ne _ (Nat.ne_of_lt isLater)

/-- There is only one such order. -/
theorem unique
    (byLastUse : AreByLastUse uses lines)
    {others : List String}
    (othersByLastUse : AreByLastUse uses others) :
    others = lines := by
  have sameMembers : others.Perm lines := by
    rw [List.perm_ext_iff_of_nodup othersByLastUse.nodup byLastUse.nodup]
    exact fun line => (othersByLastUse.mem_iff line).trans (byLastUse.mem_iff line).symm
  refine sameMembers.eq_of_pairwise ?_ othersByLastUse.latestFirst byLastUse.latestFirst
  exact fun _ _ _ _ isLater isEarlier => absurd isEarlier (Nat.lt_asymm isLater)

/-- A line that is used moves to the front, and the order of the others stays. -/
theorem remember
    (byLastUse : AreByLastUse uses lines)
    (line : String) :
    AreByLastUse (uses ++ [line]) (remember lines line) where
  mem_iff other := by
    by_cases same : other = line
    · simp [Monitor8080.remember, same]
    · simp [Monitor8080.remember, same, byLastUse.mem_iff]
  latestFirst := by
    rw [Monitor8080.remember, List.pairwise_cons]
    constructor
    · intro other member
      have differs : other ≠ line := of_decide_eq_true (List.mem_filter.mp member).2
      rw [linesSince_concat_self, linesSince_concat_of_ne differs]
      exact Nat.succ_pos _
    · refine (byLastUse.latestFirst.filter _).imp_of_mem ?_
      intro later earlier laterMember earlierMember isLater
      rw [linesSince_concat_of_ne (of_decide_eq_true (List.mem_filter.mp laterMember).2),
        linesSince_concat_of_ne (of_decide_eq_true (List.mem_filter.mp earlierMember).2)]
      exact Nat.succ_lt_succ isLater

end AreByLastUse

theorem recalled_areByLastUse (uses : List String) : AreByLastUse uses (recalled uses) := by
  induction uses using List.reverseRecOn with
  | nil =>
      exact ⟨fun _ => Iff.rfl, List.Pairwise.nil⟩
  | append_singleton uses line inductionHypothesis =>
      rw [recalled_concat]
      exact inductionHypothesis.remember line

/-! ## The cut -/

/-- Taking a line out of those up to a cut leaves all that are up to the one before. -/
theorem take_filter_take
    {lines : List String}
    (distinct : lines.Nodup)
    (line : String)
    (kept : Nat) :
    ((lines.take (kept + 1)).filter (· ≠ line)).take kept =
      (lines.filter (· ≠ line)).take kept := by
  induction lines generalizing kept with
  | nil =>
      rfl
  | cons first rest inductionHypothesis =>
      obtain ⟨isNew, restDistinct⟩ := List.nodup_cons.mp distinct
      rw [List.take_succ_cons]
      by_cases same : first = line
      · -- The line is in front, so that it is not among the rest.
        subst same
        have without {others : List String} (among : others ⊆ rest) :
            others.filter (· ≠ first) = others :=
          List.filter_eq_self.mpr fun other member =>
            decide_eq_true (ne_of_mem_of_not_mem (among member) isNew)
        have dropsFirst (others : List String) :
            (first :: others).filter (· ≠ first) = others.filter (· ≠ first) :=
          List.filter_cons_of_neg (by simp)
        rw [dropsFirst, dropsFirst, without (List.take_subset kept rest),
          without (List.Subset.refl rest), List.take_take, Nat.min_self]
      · have keepsFirst (others : List String) :
            (first :: others).filter (· ≠ line) = first :: others.filter (· ≠ line) :=
          List.filter_cons_of_pos (decide_eq_true same)
        rw [keepsFirst, keepsFirst]
        cases kept with
        | zero =>
            rfl
        | succ kept =>
            rw [List.take_succ_cons, List.take_succ_cons, inductionHypothesis restDistinct]

/-- To cut the lines before one more is remembered makes no difference to the cut after it. -/
theorem take_remember_take
    {lines : List String}
    (distinct : lines.Nodup)
    (line : String)
    (kept : Nat) :
    (remember (lines.take kept) line).take kept = (remember lines line).take kept := by
  cases kept with
  | zero =>
      rfl
  | succ kept =>
      rw [remember, remember, List.take_succ_cons, List.take_succ_cons,
        take_filter_take distinct line kept]

/-! ## What leaves the lines as they are -/

namespace Session

/-- The lines remembered are the same, and so is the size of chunks. -/
def SharesBackdrop (before after : Session) : Prop :=
  after.backdrop = before.backdrop

instance : Composes SharesBackdrop where
  refl _ := rfl
  trans shares sharesNext := sharesNext.trans shares

end Session

/-- What overlooks every backdrop leaves the one that there is. -/
theorem Operation.Overlooks.follows
    {operation : Operation α}
    (overlooks : ∀ backdrop, Overlooks backdrop operation) :
    Follows Session.SharesBackdrop operation := by
  intro session
  have same := overlooks session.backdrop session
  rw [session.onto_backdrop] at same
  rw [Session.SharesBackdrop, same]
  rfl

namespace Session

open Operation (Overlooks)

theorem sharesBackdrop_of_onto
    (change : Session → Session)
    (same : ∀ backdrop session, change (onto session backdrop) = (change session).onto backdrop)
    (session : Session) :
    session.SharesBackdrop (change session) :=
  Overlooks.follows (fun backdrop => Overlooks.change (same backdrop)) session

end Session

open Operation

theorem RunCommand.prepare_overlooks
    {backdrop : Backdrop}
    (command : RunCommand) :
    Overlooks backdrop command.prepare := by
  cases command with
  | go address? =>
      cases address? with
      | none =>
          exact .value _
      | some text =>
          refine (Overlooks.address text).andThen fun target => ?_
          exact (Overlooks.placeBreakpoint _ _).andThen fun _ => .value _
  | trace detail count? =>
      exact (Overlooks.countOr _ _).andThen fun _ => .value _
  | stepPast withRegisters =>
      refine (Overlooks.observe fun _ => rfl).andThen fun decoded => .choice ?_ (.value _)
      exact (Overlooks.placeBreakpoint _ _).andThen fun _ => .value _

namespace Run

theorem clearError_sharesBackdrop (session : Session) :
    session.SharesBackdrop (clearError session) :=
  Session.sharesBackdrop_of_onto clearError (fun _ session => clearError_onto session) session

variable
  {handle : StopHandler}
  (handlesOver : ∀ backdrop, HandlesOver backdrop handle)

include handlesOver

/-- The stations of a run and its end have the backdrop that it begins with. -/
theorem perform_sharesBackdrop
    (goal : RunGoal)
    (session : Session) :
    (∀ station ∈ performStations handle goal session, session.SharesBackdrop station) ∧
      session.SharesBackdrop (perform handle goal session).session := by
  have keeps :
      Keeps handle goal fun past stretch =>
        (∀ station ∈ past, session.SharesBackdrop station) ∧
          session.SharesBackdrop stretch.session := by
    constructor
    case step =>
      rintro past executed station ⟨shared, shares⟩
      have stepShares :=
        Session.sharesBackdrop_of_onto
          (fun session => (step handle goal executed session).session)
          (fun backdrop session =>
            congrArg Stretch.session (step_onto (handlesOver backdrop) goal executed session))
          station
      refine ⟨fun other member => ?_, Session.Composes.trans shares stepShares⟩
      rcases List.mem_append.mp member with isPast | isLast
      · exact shared other isPast
      · rw [List.mem_singleton.mp isLast]
        exact shares
    case stopRequest =>
      rintro past executed station ⟨shared, shares⟩
      exact ⟨shared, shares⟩
  exact keeps.perform session ⟨fun _ member => absurd member List.not_mem_nil, rfl⟩

theorem sharesBackdrop_persists (isHandler : IsHandler handle) :
    Persists Session.SharesBackdrop handle where
  prints session lines :=
    Session.sharesBackdrop_of_onto (·.updateMonitor (·.printAll lines))
      (fun backdrop session => session.printAll_onto backdrop lines) session
  tells session topic text :=
    Session.sharesBackdrop_of_onto (·.message topic text)
      (fun backdrop session => session.message_onto backdrop topic text) session
  enters session := clearError_sharesBackdrop session
  stations goal session := by
    intro station member
    unfold stations at member
    split at member
    · exact Session.Composes.trans (clearError_sharesBackdrop session)
        ((perform_sharesBackdrop handlesOver goal (clearError session)).1 station member)
    · exact absurd member List.not_mem_nil
  mutes goal session :=
    Session.sharesBackdrop_of_onto (fun session => (shown goal session).mute)
      (fun backdrop session => congrArg Session.mute (shown_onto goal session)) session
  performs goal session :=
    Session.Composes.trans (clearError_sharesBackdrop session)
      (perform_sharesBackdrop handlesOver goal (clearError session)).2
  reports course executed := Overlooks.follows fun _ => reportLimit_overlooks course executed
  leaves goal := Overlooks.follows fun _ => leave_overlooks goal
  prepares command := Overlooks.follows fun _ => command.prepare_overlooks
  runs goal := Overlooks.follows fun backdrop => run_overlooks (handlesOver backdrop) isHandler goal
  commands command :=
    Overlooks.follows fun backdrop =>
      execute_overlooks (run_overlooks (handlesOver backdrop) isHandler) command

end Run

/-! ## Lines -/

/-- The lines that are obeyed: what is left of each between the blanks around it, if anything is. -/
def usedLines (lines : List String) : List String :=
  (lines.map Text.trim).filter (!·.isEmpty)

theorem usedLines_concat (lines : List String) (line : String) :
    usedLines (lines ++ [line]) =
      if (Text.trim line).isEmpty then
        usedLines lines
      else
        usedLines lines ++ [Text.trim line] := by
  rw [usedLines, List.map_append, List.filter_append]
  by_cases empty : (Text.trim line).isEmpty
  · simp [usedLines, empty]
  · simp [usedLines, empty]

namespace Session

theorem not_isEmpty_of_cutoff?
    {session : Session}
    {line : String}
    {cutoff : Cutoff}
    (found : session.cutoff? line = some cutoff) :
    ¬ (Text.trim line).isEmpty := by
  intro empty
  unfold cutoff? at found
  simp only [empty] at found
  cases found

theorem cutoff?_sharesBackdrop
    {session : Session}
    {line : String}
    {cutoff : Cutoff}
    (found : session.cutoff? line = some cutoff) :
    (session.recordLine (Text.trim line)).SharesBackdrop cutoff.session :=
  (cutoff?_reached (Run.sharesBackdrop_persists (fun _ => Run.endAt_handlesOver) .nested)
    (Run.sharesBackdrop_persists Run.answerStop_handlesOver .outermost) found).reached

/-- A line is remembered and touches the lines remembered in no other way. -/
theorem heed_commandHistory (session : Session) (line : String) :
    (session.heed line).2.monitor.commandHistory =
      if (Text.trim line).isEmpty then
        session.monitor.commandHistory
      else
        (remember session.monitor.commandHistory (Text.trim line)).take
          session.monitor.config.commandHistoryLength := by
  have sameHistory {before after : Session} (shares : before.SharesBackdrop after) :
      after.monitor.commandHistory = before.monitor.commandHistory :=
    congrArg Backdrop.commandHistory shares
  rw [heed_eq]
  cases found : session.cutoff? line with
  | some cutoff =>
      rw [if_neg (not_isEmpty_of_cutoff? found)]
      exact sameHistory (cutoff?_sharesBackdrop found)
  | none =>
      simp only
      rw [obey_eq]
      split
      · rfl
      · exact sameHistory (carryOut_backdrop _ _)

/-- After any lines those used last are remembered. -/
theorem heedAll_commandHistory
    {session : Session}
    (blank : session.monitor.commandHistory = [])
    (lines : List String) :
    (session.heedAll lines).monitor.commandHistory =
      (recalled (usedLines lines)).take session.monitor.config.commandHistoryLength := by
  induction lines using List.reverseRecOn with
  | nil =>
      exact blank.trans List.take_nil.symm
  | append_singleton lines line inductionHypothesis =>
      have sameConfig := (session.heedAll_keepsOperands lines).config
      have distinct := (recalled_areByLastUse (usedLines lines)).nodup
      rw [heedAll, List.foldl_append, List.foldl_cons, List.foldl_nil, ← heedAll,
        heed_commandHistory, sameConfig, inductionHypothesis, usedLines_concat]
      split
      · rfl
      · rw [recalled_concat, take_remember_take distinct]

end Session

/--
The lines remembered are those used last. After any lines that a new session is
given they are the first of all distinct lines that were not blank, in the
order of their last use, which is the one order of that kind; it is also that
in which lines are remembered if there is room for all. So none is there twice,
and there are no more than the settings allow.
-/
theorem command_history_is_lines_by_last_use
    (config : Config)
    (machine : Machine)
    (lines : List String) :
    let byLastUse := recalled (usedLines lines)
    let history := ((Session.fresh config machine).heedAll lines).monitor.commandHistory
    AreByLastUse (usedLines lines) byLastUse ∧
      (∀ others, AreByLastUse (usedLines lines) others → others = byLastUse) ∧
        history = byLastUse.take config.commandHistoryLength ∧
          history.Nodup ∧ history.length ≤ config.commandHistoryLength := by
  intro byLastUse history
  have ordered := recalled_areByLastUse (usedLines lines)
  obtain ⟨-, blank, sameConfig⟩ := Monitor.ofConfig_spec config
  have same : history = byLastUse.take config.commandHistoryLength := by
    rw [← sameConfig]
    exact Session.heedAll_commandHistory blank lines
  refine ⟨ordered, fun others => ordered.unique, same, ?_, ?_⟩
  · rw [same]
    exact ordered.nodup.take
  · rw [same]
    exact List.length_take_le _ _

example :
    ((Session.fresh { Config.default with commandHistoryLength := 2 } .initial).heedAll
      ["cs 1", "sp 2", " ", "cs 1 ", "r"]).monitor.commandHistory = ["r", "cs 1"] := by
  decide +kernel

end Monitor8080
