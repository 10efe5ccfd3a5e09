import Monitor8080.Proofs.Bookkeeping
import Monitor8080.Proofs.ListedCommands
import Monitor8080.Proofs.ScriptSimulation
namespace Monitor8080

/-!
# Typing a listing of breakpoints back

After everything is cleared, the lines of a listing set the same breakpoints in
the same order: each is the command that sets the breakpoint it lists, and what
it depends on is not touched by those before it.

The listing of no breakpoints is a notice, which is no command.
-/

open Text (IsQuotable)

/-! ## Entries that a listing brings back -/

/-- A permanent breakpoint with no script, or with one that can be listed in quotes. -/
structure Location.IsRetypable (location : Location) : Prop where
  isSet : location.isSet
  permanent : location.isTemporary = false
  quotable : IsQuotable location.script?
  commands : location.commands = (location.script?.map Text.commandsOf).getD []

instance (location : Location) : Decidable location.IsRetypable :=
  decidable_of_iff
    (location.isSet ∧ location.isTemporary = false ∧ IsQuotable location.script? ∧
      location.commands = (location.script?.map Text.commandsOf).getD [])
    ⟨fun ⟨isSet, permanent, quotable, commands⟩ => ⟨isSet, permanent, quotable, commands⟩,
      fun retypable =>
        ⟨retypable.isSet, retypable.permanent, retypable.quotable, retypable.commands⟩⟩

/-- Beside its address a location that can be typed again has nothing but its script. -/
theorem Location.IsRetypable.eq_withScript
    {location : Location}
    {address : UInt16}
    (retypable : location.IsRetypable)
    (here : location.address? = some address) :
    location =
      { ofAddress address with
        script? := location.script?
        commands := (location.script?.map Text.commandsOf).getD [] } := by
  obtain ⟨-, permanent, -, commands⟩ := retypable
  obtain ⟨address?, isTemporary, script?, scriptCommands⟩ := location
  simp only at here permanent commands
  rw [here, permanent, commands]
  rfl

namespace Breakpoints

/-- The breakpoints with entries added in order. -/
def addAll (breakpoints : Breakpoints) (entries : List (BreakKind × Location)) :
    Except BreakpointError Breakpoints :=
  entries.foldlM (fun breakpoints entry => breakpoints.add entry.1 entry.2) breakpoints

/-- Entries are added one after the other. -/
theorem addAll_cons_eq_ok
    {breakpoints added : Breakpoints}
    {kind : BreakKind}
    {location : Location}
    {rest : List (BreakKind × Location)} :
    breakpoints.addAll ((kind, location) :: rest) = .ok added ↔
      ∃ middle, breakpoints.add kind location = .ok middle ∧ middle.addAll rest = .ok added := by
  rw [addAll, List.foldlM_cons]
  cases first : breakpoints.add kind location with
  | error error =>
      exact iff_of_false nofun nofun
  | ok middle =>
      exact ⟨fun later => ⟨middle, rfl, later⟩, fun ⟨_, same, later⟩ => by cases same; exact later⟩

/-- Entries are added in two parts, the second one to what the first one led to. -/
theorem addAll_append
    {breakpoints added : Breakpoints}
    {first : List (BreakKind × Location)}
    (succeeded : breakpoints.addAll first = .ok added)
    (second : List (BreakKind × Location)) :
    breakpoints.addAll (first ++ second) = added.addAll second := by
  rw [addAll] at succeeded
  rw [addAll, List.foldlM_append, succeeded]
  rfl

/-- An entry at an address where its kind has none yet is added as the last one. -/
theorem add_of_absent
    {breakpoints : Breakpoints}
    {kind : BreakKind}
    {location : Location}
    (isSet : location.isSet)
    (absent : ∀ entry ∈ breakpoints.entries kind, entry.address? ≠ location.address?) :
    breakpoints.add kind location =
      .ok (breakpoints.withEntries kind (breakpoints.entries kind ++ [location])) := by
  obtain ⟨address, here⟩ := Option.isSome_iff_exists.mp isSet
  have notPresent :
      ¬ (breakpoints.entries kind).any fun entry =>
        entry.address? = some address ∧ entry.isTemporary = location.isTemporary := by
    rw [List.any_eq_true]
    rintro ⟨entry, member, same⟩
    exact absent entry member ((of_decide_eq_true same).1.trans here.symm)
  unfold add
  split
  · rename_i nowhere
    cases here.symm.trans nowhere
  · rename_i other there
    cases here.symm.trans there
    simp only [if_neg notPresent]

/-- Entries of one kind are all added if no two of them are at one address. -/
theorem addAll_of_distinct
    (breakpoints : Breakpoints)
    (kind : BreakKind)
    {locations : List Location}
    (allSet : ∀ location ∈ locations, location.isSet)
    (distinct : ((breakpoints.entries kind ++ locations).map (·.address?)).Nodup) :
    breakpoints.addAll (locations.map (kind, ·)) =
      .ok (breakpoints.withEntries kind (breakpoints.entries kind ++ locations)) := by
  induction locations generalizing breakpoints with
  | nil =>
      rw [List.append_nil, withEntries_entries]
      rfl
  | cons location rest inductionHypothesis =>
      have absent : ∀ entry ∈ breakpoints.entries kind, entry.address? ≠ location.address? := by
        rw [List.map_append, List.map_cons, List.nodup_append] at distinct
        exact fun entry member =>
          distinct.2.2 _ (List.mem_map_of_mem member) _ List.mem_cons_self
      have added := add_of_absent (allSet location List.mem_cons_self) absent
      refine addAll_cons_eq_ok.mpr ⟨_, added, ?_⟩
      rw [inductionHypothesis]
      · rw [entries_withEntries, List.append_assoc]
        cases kind <;> rfl
      · exact fun other member => allSet other (List.mem_cons_of_mem location member)
      · rwa [entries_withEntries, List.append_assoc]

/-- Entries of distinct addresses are all there again once they are added to none. -/
theorem addAll_listed
    {breakpoints : Breakpoints}
    (allSet : ∀ kind, ∀ location ∈ breakpoints.entries kind, location.isSet)
    (distinct : ∀ kind, ((breakpoints.entries kind).map (·.address?)).Nodup) :
    (breakpoints.without fun _ => true).addAll breakpoints.listed = .ok breakpoints := by
  have addKind : ∀ (other : Breakpoints) (kind : BreakKind), other.entries kind = [] →
      other.addAll ((breakpoints.entries kind).map (kind, ·)) =
        .ok (other.withEntries kind (breakpoints.entries kind)) := by
    intro other kind nothing
    have added := other.addAll_of_distinct kind (allSet kind) (by rw [nothing]; exact distinct kind)
    rwa [nothing] at added
  have listed :
      breakpoints.listed =
        (breakpoints.entries .exec).map (.exec, ·) ++
          ((breakpoints.entries .read).map (.read, ·) ++
            (breakpoints.entries .write).map (.write, ·)) := by
    simp [Breakpoints.listed, BreakKind.all]
  let emptied := breakpoints.without fun _ => true
  have nothing : ∀ kind, emptied.entries kind = [] := fun kind => by simp [emptied]
  let withExec := emptied.withEntries .exec (breakpoints.entries .exec)
  let withRead := withExec.withEntries .read (breakpoints.entries .read)
  have addExec := addKind emptied .exec (nothing .exec)
  have addRead := addKind withExec .read (nothing .read)
  have addWrite := addKind withRead .write (nothing .write)
  rw [listed, addAll_append addExec, addAll_append addRead, addWrite]
  rfl

end Breakpoints

/-! ## What a listed line depends on -/

/-- The symbols and variables are the same, and the history asks for as much room. -/
structure Monitor.SameTerms (before after : Monitor) : Prop where
  symbols : after.symbols = before.symbols
  bindings : after.bindings = before.bindings
  capacity : after.sentry.history.capacity = before.sentry.history.capacity

namespace Monitor.SameTerms

@[refl] theorem refl (monitor : Monitor) : monitor.SameTerms monitor :=
  ⟨rfl, rfl, rfl⟩

/-- Terms that are the same over two changes in turn are the same. -/
theorem trans
    {first second third : Monitor}
    (same : first.SameTerms second)
    (sameNext : second.SameTerms third) :
    first.SameTerms third :=
  ⟨sameNext.symbols.trans same.symbols, sameNext.bindings.trans same.bindings,
    sameNext.capacity.trans same.capacity⟩

/-- Room for the history depends on its capacity alone. -/
theorem hasRoom
    {before after : Monitor}
    (same : before.SameTerms after)
    (room : before.sentry.history.hasRoom) :
    after.sentry.history.hasRoom := by
  rwa [History.hasRoom, same.capacity]

/-- Messages are told in the same terms afterwards. -/
theorem message (monitor : Monitor) (topic : Topic) (text : String) :
    monitor.SameTerms (monitor.message topic text) := by
  unfold Monitor.message
  split
  · exact ⟨rfl, rfl, rfl⟩
  · exact .refl monitor

theorem printAll (monitor : Monitor) (lines : List String) :
    monitor.SameTerms (monitor.printAll lines) := by
  induction lines generalizing monitor with
  | nil =>
      exact .refl monitor
  | cons line rest inductionHypothesis =>
      have printed : monitor.SameTerms (monitor.print line) := ⟨rfl, rfl, rfl⟩
      exact printed.trans (inductionHypothesis (monitor.print line))

/-- Switching the recording leaves the names and the capacity alone. -/
theorem settleHistory (monitor : Monitor) : monitor.SameTerms monitor.settleHistory := by
  have records := monitor.settleHistory_records
  rcases monitor.settleHistory_cases with unchanged | ⟨history, text, switched⟩
  · rw [unchanged]
  · have told := message (monitor.withHistory history) .hist text
    rw [← switched] at told
    exact ⟨told.symbols, told.bindings, records.capacity⟩

end Monitor.SameTerms

/-- A placed breakpoint is added, and there is history if there is room for it. -/
theorem Session.placeBreakpoint_of_add
    {session : Session}
    {kind : BreakKind}
    {location : Location}
    {added : Breakpoints}
    (succeeded : session.monitor.sentry.breakpoints.add kind location = .ok added) :
    ∃ after,
      session.placeBreakpoint kind location = .ok after ∧
        after.monitor.sentry.breakpoints = added ∧
        session.monitor.SameTerms after.monitor ∧
        (session.monitor.sentry.history.hasRoom → after.monitor.lacksHistory = false) := by
  unfold placeBreakpoint
  rw [succeeded]
  refine ⟨_, rfl, ?_⟩
  have settles : ∀ changed : Monitor,
      changed.sentry.breakpoints = added → session.monitor.SameTerms changed →
        changed.settleHistory.sentry.breakpoints = added ∧
          session.monitor.SameTerms changed.settleHistory ∧
          (session.monitor.sentry.history.hasRoom →
            changed.settleHistory.lacksHistory = false) := by
    intro changed breakpoints same
    refine ⟨?_, same.trans (.settleHistory changed), fun room => ?_⟩
    · rw [Monitor.settleHistory_breakpoints, breakpoints]
    · exact Monitor.settleHistory_lacksHistory (same.hasRoom room)
  have added : session.monitor.SameTerms (session.monitor.withBreakpoints added) := ⟨rfl, rfl, rfl⟩
  refine settles _ ?_ ?_
  · split
    · rw [Monitor.message_sentry]
      rfl
    · rfl
  · split
    · exact added.trans (.message _ _ _)
    · exact added

/-! ## Lines of one command -/

/-- The line holds the command and nothing else, and the command is no condition. -/
structure Command.IsAlone (command : Command) (line : String) : Prop where
  untrimmed : Text.trim line = line
  nonempty : line.isEmpty = false
  single : Text.commandsOf line = [line]
  parsed : Command.parse line = .ok command
  notIf : ∀ condition, command = .ifTrue condition → False
  notElse : command = .orElse → False

/-- A line for a breakpoint holds one command, which sets it. -/
theorem Operation.isAlone_breakpointLine
    {kind : BreakKind}
    {location : Location}
    (retypable : location.IsRetypable) :
    (Command.setBreakpoint kind location.text location.script?).IsAlone
      (breakpointLine kind location) := by
  obtain ⟨address, here⟩ := Option.isSome_iff_exists.mp retypable.isSet
  obtain ⟨nonempty, plain⟩ := Location.isPlain_text here
  have written : (breakpointLine kind location).toList ≠ [] := by
    rw [toList_breakpointLine]
    exact List.append_ne_nil_of_right_ne_nil _ (List.cons_ne_nil _ _)
  refine
    { untrimmed := ?_
      nonempty := ?_
      single := commandsOf_breakpointLine nonempty plain retypable.quotable
      parsed := parse_breakpointLine nonempty plain retypable.quotable
      notIf := nofun
      notElse := nofun }
  · rw [Text.trim, trimChars_breakpointLine nonempty plain, String.ofList_toList]
  · rw [Bool.eq_false_iff]
    intro empty
    rw [String.isEmpty_iff] at empty
    rw [empty] at written
    exact written rfl

namespace Session

section OneCommand

variable {command : Command} {line : String} {session after : Session}

/-- A line of one command obeys it. -/
theorem obey_of_ok
    (alone : command.IsAlone line)
    (ran :
      (Operation.execute Run.outermost command).run (session.recordLine line) =
        (.ok (), after)) :
    session.obey line = (true, after) := by
  have executed :
      Script.execute Run.outermost [line] (session.recordLine line) = (.completed, after) := by
    rw [Script.execute_of_command alone.parsed alone.notIf alone.notElse, ran]
    simp only [Script.execute]
  unfold obey
  simp only [alone.untrimmed, alone.nonempty, alone.single, executed]
  rfl

/-- A line of one command that fails shows the error. -/
theorem obey_of_error
    {error : MonitorError}
    (alone : command.IsAlone line)
    (ran :
      (Operation.execute Run.outermost command).run (session.recordLine line) =
        (.error error, after)) :
    ∃ text, session.obey line = (false, after.print text) := by
  have executed := @Script.execute_of_command Run.outermost line [] command
    alone.parsed alone.notIf alone.notElse (session.recordLine line)
  rw [ran] at executed
  unfold obey
  simp only [alone.untrimmed, alone.nonempty, alone.single]
  cases error <;>
    · rw [executed]
      exact ⟨_, rfl⟩

/-- What a line of one command does is what the command does, but for a message if it fails. -/
theorem obey_of_isAlone
    {result : Except MonitorError Unit}
    (alone : command.IsAlone line)
    (ran :
      (Operation.execute Run.outermost command).run (session.recordLine line) =
        (result, after)) :
    (session.obey line).1 = result.isOk ∧
      (session.obey line).2.monitor.sentry.breakpoints = after.monitor.sentry.breakpoints ∧
      after.monitor.SameTerms (session.obey line).2.monitor := by
  cases result with
  | ok value =>
      rw [obey_of_ok alone ran]
      exact ⟨rfl, rfl, .refl _⟩
  | error error =>
      obtain ⟨text, failed⟩ := obey_of_error alone ran
      rw [failed]
      exact ⟨rfl, rfl, rfl, rfl, rfl⟩

end OneCommand

end Session

/-! ## Setting a listed breakpoint -/

/-- No variable and no symbol is called as the address is written. -/
structure Location.IsUnnamedIn (location : Location) (monitor : Monitor) : Prop where
  noVariable : monitor.bindings.find? location.text = none
  noSymbol : monitor.symbols.addressNamed? location.text = none

instance (location : Location) (monitor : Monitor) : Decidable (location.IsUnnamedIn monitor) :=
  decidable_of_iff
    (monitor.bindings.find? location.text = none ∧
      monitor.symbols.addressNamed? location.text = none)
    ⟨fun ⟨noVariable, noSymbol⟩ => ⟨noVariable, noSymbol⟩,
      fun unnamed => ⟨unnamed.noVariable, unnamed.noSymbol⟩⟩

theorem Location.IsUnnamedIn.of_sameTerms
    {location : Location}
    {before after : Monitor}
    (unnamed : location.IsUnnamedIn before)
    (same : before.SameTerms after) :
    location.IsUnnamedIn after :=
  ⟨same.bindings ▸ unnamed.noVariable, same.symbols ▸ unnamed.noSymbol⟩

namespace Operation

/-- A breakpoint that is typed again is added if an entry like it may be. -/
theorem setBreakpoint_run
    {session : Session}
    {kind : BreakKind}
    {location : Location}
    {added : Breakpoints}
    (retypable : location.IsRetypable)
    (unnamed : location.IsUnnamedIn session.monitor)
    (succeeded : session.monitor.sentry.breakpoints.add kind location = .ok added) :
    ∃ after,
      (setBreakpoint kind location.text location.script?).run session =
          (if after.monitor.lacksHistory then .error .historyTooLong else .ok (), after) ∧
        after.monitor.sentry.breakpoints = added ∧
        session.monitor.SameTerms after.monitor ∧
        (session.monitor.sentry.history.hasRoom → after.monitor.lacksHistory = false) := by
  obtain ⟨here, isHere⟩ := Option.isSome_iff_exists.mp retypable.isSet
  obtain ⟨after, placed, breakpoints, same, settled⟩ := Session.placeBreakpoint_of_add succeeded
  refine ⟨after, ?_, breakpoints, same, settled⟩
  have written : location.text = Text.hexWord here := by
    rw [Location.text, isHere]
  have means : session.monitor.addressOf session.machine location.text = .ok here := by
    rw [written]
    exact Monitor.addressOf_hexWord (written ▸ unnamed.noVariable) (written ▸ unnamed.noSymbol) _
  have placing : (placeBreakpoint kind location).run session =
      (if after.monitor.lacksHistory then .error .historyTooLong else .ok (), after) := by
    rw [placeBreakpoint, run_bind, run_get]
    simp only [placed]
    exact requireHistory_run after
  have whole := retypable.eq_withScript isHere
  rw [setBreakpoint, run_bind, run_address means]
  simp only
  cases scripted : location.script? with
  | none =>
      rw [scripted] at whole
      rw [← placing, whole]
      rfl
  | some script =>
      rw [scripted] at whole
      rw [← placing, whole]
      rfl

end Operation

namespace Session

/-- A listed line adds the breakpoint that it lists, and succeeds if there is room. -/
theorem obey_breakpointLine
    {session : Session}
    {kind : BreakKind}
    {location : Location}
    {added : Breakpoints}
    (retypable : location.IsRetypable)
    (unnamed : location.IsUnnamedIn session.monitor)
    (succeeded : session.monitor.sentry.breakpoints.add kind location = .ok added) :
    (session.obey (Operation.breakpointLine kind location)).2.monitor.sentry.breakpoints = added ∧
      session.monitor.SameTerms
        (session.obey (Operation.breakpointLine kind location)).2.monitor ∧
      (session.monitor.sentry.history.hasRoom →
        (session.obey (Operation.breakpointLine kind location)).1 = true) := by
  have recorded :
      session.monitor.SameTerms
        (session.recordLine (Operation.breakpointLine kind location)).monitor :=
    ⟨rfl, rfl, rfl⟩
  obtain ⟨after, ran, breakpoints, same, settled⟩ :=
    Operation.setBreakpoint_run retypable (unnamed.of_sameTerms recorded) succeeded
  obtain ⟨success, kept, sameAnswer⟩ :=
    obey_of_isAlone (Operation.isAlone_breakpointLine retypable) ran
  refine ⟨kept.trans breakpoints, (recorded.trans same).trans sameAnswer, fun room => ?_⟩
  rw [success, settled (recorded.hasRoom room)]
  rfl

/-- The session after lines are entered one by one, and whether all of them succeeded. -/
def obeyAll (session : Session) : List String → Bool × Session
  | [] => (true, session)
  | line :: lines =>
      let (succeeded, next) := session.obey line
      let (allSucceeded, last) := next.obeyAll lines
      (succeeded && allSucceeded, last)

/-- Lines are obeyed one after the other, and all of them if none fails. -/
theorem obeyAll_cons (session : Session) (line : String) (lines : List String) :
    session.obeyAll (line :: lines) =
      ((session.obey line).1 && ((session.obey line).2.obeyAll lines).1,
        ((session.obey line).2.obeyAll lines).2) := by
  rw [obeyAll]

/-- The commands that set some breakpoints. -/
def linesOf (entries : List (BreakKind × Location)) : List String :=
  entries.map fun entry => Operation.breakpointLine entry.1 entry.2

/-- The lines of entries add them in order. -/
theorem obeyAll_linesOf
    {session : Session}
    {entries : List (BreakKind × Location)}
    {added : Breakpoints}
    (retypable : ∀ entry ∈ entries, entry.2.IsRetypable)
    (unnamed : ∀ entry ∈ entries, entry.2.IsUnnamedIn session.monitor)
    (succeeded : session.monitor.sentry.breakpoints.addAll entries = .ok added) :
    (session.obeyAll (linesOf entries)).2.monitor.sentry.breakpoints = added ∧
      (session.monitor.sentry.history.hasRoom →
        (session.obeyAll (linesOf entries)).1 = true) := by
  induction entries generalizing session with
  | nil =>
      exact ⟨Except.ok.inj succeeded, fun _ => rfl⟩
  | cons entry rest inductionHypothesis =>
      obtain ⟨kind, location⟩ := entry
      obtain ⟨middle, addedFirst, addedRest⟩ := Breakpoints.addAll_cons_eq_ok.mp succeeded
      obtain ⟨breakpoints, same, success⟩ :=
        obey_breakpointLine (retypable _ List.mem_cons_self) (unnamed _ List.mem_cons_self)
          addedFirst
      obtain ⟨restBreakpoints, restSuccess⟩ := inductionHypothesis
        (fun other member => retypable other (List.mem_cons_of_mem _ member))
        (fun other member =>
          (unnamed other (List.mem_cons_of_mem _ member)).of_sameTerms same)
        (by rw [breakpoints]; exact addedRest)
      rw [linesOf, List.map_cons, obeyAll_cons]
      refine ⟨restBreakpoints, fun room => ?_⟩
      rw [Bool.and_eq_true]
      exact ⟨success room, restSuccess (same.hasRoom room)⟩

/-! ## Listing and clearing -/

/-- The lines that are printed when the breakpoints are listed. -/
def listing (session : Session) : List String :=
  (session.obey "bl").2.monitor.output.toList.drop session.monitor.output.size

/-- A listing of breakpoints prints their lines, or the one that stands for none. -/
theorem listBreakpoints_run (session : Session) :
    Operation.listBreakpoints.run session =
      (.ok (), session.updateMonitor (·.printAll
        (if (Operation.breakpointLines session).isEmpty then ["no breakpoints"]
          else Operation.breakpointLines session))) := by
  unfold Operation.listBreakpoints Operation.printAllOr
  rw [Operation.run_bind, Operation.run_observe]
  simp only
  split <;> rfl

theorem isAlone_bl : Command.listBreakpoints.IsAlone "bl" := by
  refine ⟨?_, ?_, ?_, ?_, nofun, nofun⟩ <;> decide +kernel

/-- The listing command prints and is remembered. -/
theorem obey_bl (session : Session) :
    session.obey "bl" =
      (true, (session.recordLine "bl").updateMonitor (·.printAll
        (if (Operation.breakpointLines session).isEmpty then ["no breakpoints"]
          else Operation.breakpointLines session))) :=
  obey_of_ok isAlone_bl (listBreakpoints_run (session.recordLine "bl"))

theorem listing_eq (session : Session) :
    session.listing =
      if (Operation.breakpointLines session).isEmpty then ["no breakpoints"]
      else Operation.breakpointLines session := by
  rw [listing, obey_bl]
  change (Monitor.printAll _ _).output.toList.drop _ = _
  rw [Monitor.printAll_output]
  exact List.drop_left' Array.length_toList

theorem sameTerms_obey_bl (session : Session) :
    session.monitor.SameTerms (session.obey "bl").2.monitor ∧
      (session.obey "bl").2.monitor.sentry.breakpoints = session.monitor.sentry.breakpoints := by
  have recorded : session.monitor.SameTerms (session.recordLine "bl").monitor := ⟨rfl, rfl, rfl⟩
  rw [obey_bl]
  exact ⟨recorded.trans (.printAll _ _), congrArg _ (Monitor.printAll_sentry _ _)⟩

theorem isAlone_clear : (Command.removeBreakpoints none).IsAlone "bc *" := by
  refine ⟨?_, ?_, ?_, ?_, nofun, nofun⟩ <;> decide +kernel

/-- What is left after breakpoints are removed, and that there is history if there is room. -/
theorem removeBreakpoints_all (session : Session) :
    (session.removeBreakpoints none).2.monitor.sentry.breakpoints =
        session.monitor.sentry.breakpoints.without (fun _ => true) ∧
      session.monitor.SameTerms (session.removeBreakpoints none).2.monitor ∧
      (session.monitor.sentry.history.hasRoom →
        (session.removeBreakpoints none).2.monitor.lacksHistory = false) := by
  have emptied :
      session.monitor.SameTerms
        (session.monitor.withBreakpoints
          (session.monitor.sentry.breakpoints.without fun _ => true)) :=
    ⟨rfl, rfl, rfl⟩
  exact ⟨Monitor.settleHistory_breakpoints _, emptied.trans (.settleHistory _),
    fun room => Monitor.settleHistory_lacksHistory (emptied.hasRoom room)⟩

/-- A countdown that is not armed is disarmed without a change of the breakpoints. -/
theorem startCountdown_zero
    {monitor : Monitor}
    (disarmed : monitor.sentry.breakpoints.countdown? = none) :
    monitor.startCountdown 0 = monitor.settleHistory := by
  have same :
      monitor.withBreakpoints (monitor.sentry.breakpoints.startCountdown 0) = monitor := by
    unfold Monitor.withBreakpoints Breakpoints.startCountdown
    rw [if_pos rfl, ← disarmed]
  rw [Monitor.startCountdown, same]

/-- Clearing removes every breakpoint, even where it fails for lack of history. -/
theorem removeBreakpoints_run
    {session : Session}
    (disarmed : session.monitor.sentry.breakpoints.countdown? = none) :
    ∃ result after,
      (Operation.removeBreakpoints none).run session = (result, after) ∧
        after.monitor.sentry.breakpoints =
          session.monitor.sentry.breakpoints.without (fun _ => true) ∧
        session.monitor.SameTerms after.monitor ∧
        (session.monitor.sentry.history.hasRoom → result = .ok ()) := by
  obtain ⟨breakpoints, same, settled⟩ := session.removeBreakpoints_all
  generalize isRemoved : (session.removeBreakpoints none).2 = removed at breakpoints same settled
  have disarmedThen : removed.monitor.sentry.breakpoints.countdown? = none := by
    rw [breakpoints]
    exact disarmed
  have clears : (Operation.clearBreakpointsAt none).run session =
      (if removed.monitor.lacksHistory then .error .historyTooLong
        else .ok (session.removeBreakpoints none).1, removed) := by
    unfold Operation.clearBreakpointsAt
    change ((do
      Operation.requireHistory
      return (session.removeBreakpoints none).1 : Operation Nat).run
        (session.removeBreakpoints none).2) = _
    rw [isRemoved, Operation.run_bind, Operation.requireHistory_run]
    cases removed.monitor.lacksHistory <;> rfl
  unfold Operation.removeBreakpoints
  simp only
  rw [Operation.run_bind, clears]
  cases lacks : removed.monitor.lacksHistory with
  | true =>
      refine ⟨_, removed, rfl, breakpoints, same, fun room => ?_⟩
      cases (settled room).symm.trans lacks
  | false =>
      have disarms : (Operation.updateChecks (·.startCountdown 0)).run removed =
          (if removed.monitor.settleHistory.lacksHistory then .error .historyTooLong else .ok (),
            removed.updateMonitor (·.settleHistory)) := by
        have updated : removed.updateMonitor (·.startCountdown 0) =
            removed.updateMonitor (·.settleHistory) :=
          congrArg (Session.mk · removed.machine) (startCountdown_zero disarmedThen)
        rw [Operation.updateChecks, Operation.run_bind, Operation.run_modify, updated]
        exact Operation.requireHistory_run _
      have settledBreakpoints :
          removed.monitor.settleHistory.sentry.breakpoints =
            session.monitor.sentry.breakpoints.without (fun _ => true) :=
        removed.monitor.settleHistory_breakpoints.trans breakpoints
      have settledSame := same.trans (.settleHistory removed.monitor)
      simp only [Bool.false_eq_true, if_false]
      rw [Operation.run_bind, disarms]
      cases lacksThen : removed.monitor.settleHistory.lacksHistory with
      | true =>
          refine ⟨_, _, rfl, settledBreakpoints, settledSame, fun room => ?_⟩
          have kept := Monitor.settleHistory_lacksHistory (same.hasRoom room)
          cases kept.symm.trans lacksThen
      | false =>
          exact ⟨_, _, rfl, settledBreakpoints, settledSame.trans ⟨rfl, rfl, rfl⟩, fun _ => rfl⟩

/-- Clearing leaves no breakpoints, and does not fail where there is room for the history. -/
theorem obey_clear
    {session : Session}
    (disarmed : session.monitor.sentry.breakpoints.countdown? = none) :
    (session.obey "bc *").2.monitor.sentry.breakpoints =
        session.monitor.sentry.breakpoints.without (fun _ => true) ∧
      session.monitor.SameTerms (session.obey "bc *").2.monitor ∧
      (session.monitor.sentry.history.hasRoom → (session.obey "bc *").1 = true) := by
  have recorded : session.monitor.SameTerms (session.recordLine "bc *").monitor :=
    ⟨rfl, rfl, rfl⟩
  obtain ⟨result, after, ran, breakpoints, same, succeeds⟩ :=
    @removeBreakpoints_run (session.recordLine "bc *") disarmed
  obtain ⟨success, kept, sameAnswer⟩ := obey_of_isAlone isAlone_clear ran
  refine ⟨kept.trans breakpoints, (recorded.trans same).trans sameAnswer, fun room => ?_⟩
  rw [success, succeeds (recorded.hasRoom room)]
  rfl

/-- The notice that nothing is set is no command. -/
theorem obey_notice (session : Session) :
    ∃ text,
      session.obey "no breakpoints" =
        (false, (session.recordLine "no breakpoints").print text) := by
  have untrimmed : Text.trim "no breakpoints" = "no breakpoints" := by decide +kernel
  have nonempty : "no breakpoints".isEmpty = false := by decide +kernel
  have single : Text.commandsOf "no breakpoints" = ["no breakpoints"] := by decide +kernel
  have unknown : Command.parse "no breakpoints" = .error (.unknownCommand "no") := by
    decide +kernel
  unfold obey
  simp only [untrimmed, nonempty, single]
  rw [Script.execute, unknown]
  exact ⟨_, rfl⟩

/-! ## The round trip -/

/--
The breakpoints are permanent ones of distinct addresses for each kind, with
scripts that can be listed. Nothing else is called as one of the addresses is
written, and no countdown is armed and no port breakpoint set.
-/
structure IsRetypable (session : Session) : Prop where
  entries :
    ∀ kind, ∀ location ∈ session.monitor.sentry.breakpoints.entries kind,
      location.IsRetypable ∧ location.IsUnnamedIn session.monitor
  distinct :
    ∀ kind, ((session.monitor.sentry.breakpoints.entries kind).map (·.address?)).Nodup
  disarmed : session.monitor.sentry.breakpoints.countdown? = none
  noPorts : ∀ direction, session.machine.memory.portBreaks direction = []

theorem isRetypable_iff (session : Session) :
    session.IsRetypable ↔
      (∀ kind ∈ BreakKind.all,
        (∀ location ∈ session.monitor.sentry.breakpoints.entries kind,
          location.IsRetypable ∧ location.IsUnnamedIn session.monitor) ∧
        ((session.monitor.sentry.breakpoints.entries kind).map (·.address?)).Nodup) ∧
      session.monitor.sentry.breakpoints.countdown? = none ∧
      session.machine.memory.portBreaks .input = [] ∧
      session.machine.memory.portBreaks .output = [] := by
  have everyKind : ∀ kind, kind ∈ BreakKind.all := by
    intro kind
    cases kind <;> decide
  constructor
  · intro retypable
    exact ⟨fun kind _ => ⟨retypable.entries kind, retypable.distinct kind⟩, retypable.disarmed,
      retypable.noPorts .input, retypable.noPorts .output⟩
  · rintro ⟨ofKind, disarmed, inputs, outputs⟩
    refine
      { entries := fun kind => (ofKind kind (everyKind kind)).1
        distinct := fun kind => (ofKind kind (everyKind kind)).2
        disarmed := disarmed
        noPorts := ?_ }
    intro direction
    cases direction with
    | input => exact inputs
    | output => exact outputs

instance (session : Session) : Decidable session.IsRetypable :=
  decidable_of_iff' _ session.isRetypable_iff

/-- The lines of breakpoints that can be typed again are those that set them. -/
theorem IsRetypable.breakpointLines_eq
    {session : Session}
    (retypable : session.IsRetypable) :
    Operation.breakpointLines session =
      linesOf session.monitor.sentry.breakpoints.listed := by
  have permanent :
      session.monitor.sentry.breakpoints.listed.filter (fun entry => !entry.2.isTemporary) =
        session.monitor.sentry.breakpoints.listed := by
    refine List.filter_eq_self.mpr fun entry member => ?_
    rw [(retypable.entries entry.1 entry.2 (Breakpoints.mem_listed.mp member)).1.permanent]
    rfl
  have inputs : session.machine.memory.inputBreaks = [] := retypable.noPorts .input
  have outputs : session.machine.memory.outputBreaks = [] := retypable.noPorts .output
  unfold Operation.breakpointLines
  simp only [permanent, retypable.disarmed, inputs, outputs]
  simp [linesOf]

/--
After a listing everything can be cleared, and the lines of the listing set the
same breakpoints again: of every kind the same entries in the same order, with
the same scripts and commands. Each line succeeds if there is room for the
history, unless the listing is the notice that there are no breakpoints.
-/
theorem listing_restores_breakpoints
    {session : Session}
    (retypable : session.IsRetypable) :
    let cleared := (session.obey "bl").2.obey "bc *"
    let restored := cleared.2.obeyAll session.listing
    cleared.2.monitor.sentry.breakpoints.listed = [] ∧
      restored.2.monitor.sentry.breakpoints = session.monitor.sentry.breakpoints ∧
      (session.monitor.sentry.history.hasRoom →
        cleared.1 = true ∧
          (restored.1 = true ↔ session.monitor.sentry.breakpoints.listed ≠ [])) := by
  intro cleared restored
  obtain ⟨sameListed, keptListed⟩ := session.sameTerms_obey_bl
  have disarmed : (session.obey "bl").2.monitor.sentry.breakpoints.countdown? = none := by
    rw [keptListed]
    exact retypable.disarmed
  obtain ⟨emptied, sameCleared, clears⟩ := obey_clear disarmed
  have same := sameListed.trans sameCleared
  rw [keptListed] at emptied
  have nothing : cleared.2.monitor.sentry.breakpoints.listed = [] := by
    rw [emptied]
    simp [Breakpoints.listed]
  have lists := retypable.breakpointLines_eq
  -- The listing of no breakpoints is the one that is no list of commands.
  refine ⟨nothing, ?_⟩
  by_cases none : session.monitor.sentry.breakpoints.listed = []
  · have notice : session.listing = ["no breakpoints"] := by
      rw [listing_eq, lists, none]
      rfl
    obtain ⟨text, failed⟩ := obey_notice cleared.2
    have answered :
        restored = (false, (cleared.2.recordLine "no breakpoints").print text) := by
      change cleared.2.obeyAll session.listing = _
      rw [notice, obeyAll_cons, failed]
      rfl
    have unpicked : session.monitor.sentry.breakpoints.picked (fun _ => true) = [] := by
      rw [Breakpoints.picked, none]
      rfl
    rw [Breakpoints.without_of_picked_eq_nil unpicked] at emptied
    rw [answered]
    exact ⟨emptied, fun room =>
      ⟨clears (sameListed.hasRoom room), iff_of_false Bool.false_ne_true (not_not.mpr none)⟩⟩
  · have typed : session.listing = linesOf session.monitor.sentry.breakpoints.listed := by
      rw [listing_eq, lists]
      refine if_neg ?_
      rw [linesOf, List.isEmpty_iff, List.map_eq_nil_iff]
      exact none
    have added :
        cleared.2.monitor.sentry.breakpoints.addAll session.monitor.sentry.breakpoints.listed =
          .ok session.monitor.sentry.breakpoints := by
      rw [emptied]
      exact Breakpoints.addAll_listed
        (fun kind location member => (retypable.entries kind location member).1.isSet)
        retypable.distinct
    obtain ⟨breakpoints, success⟩ := obeyAll_linesOf
      (fun entry member =>
        (retypable.entries entry.1 entry.2 (Breakpoints.mem_listed.mp member)).1)
      (fun entry member =>
        (retypable.entries entry.1 entry.2
          (Breakpoints.mem_listed.mp member)).2.of_sameTerms same) added
    rw [← typed] at breakpoints success
    exact ⟨breakpoints, fun room =>
      ⟨clears (sameListed.hasRoom room), iff_of_true (success (same.hasRoom room)) none⟩⟩

/-- Scripts with semicolons, single quotes and blanks are listed and set again, and empty ones. -/
theorem listing_restores_scripts :
    let session :=
      (obeyAll ⟨.ofConfig .default, .initial⟩
        ["bp BEEF \x22 r;print 'a;b' \x22", "bp 5", "bw 5 \x22\x22"]).2
    let cleared := (session.obey "bl").2.obey "bc *"
    let restored := cleared.2.obeyAll session.listing
    session.IsRetypable ∧
      cleared.2.monitor.sentry.breakpoints.listed = [] ∧
      restored.2.monitor.sentry.breakpoints = session.monitor.sentry.breakpoints ∧
      (session.monitor.sentry.history.hasRoom →
        cleared.1 = true ∧
          (restored.1 = true ↔ session.monitor.sentry.breakpoints.listed ≠ [])) := by
  intro session cleared restored
  have retypable : session.IsRetypable := by decide +kernel
  exact ⟨retypable, listing_restores_breakpoints retypable⟩

/--
Typing the listing of no breakpoints back fails, since it is the notice that
there are none. Without room for the history every line of a listing fails.
-/
theorem listing_fails_when_empty_or_roomless :
    let empty : Session := ⟨.ofConfig .default, .initial⟩
    let roomless :=
      (obeyAll ⟨.ofConfig { Config.default with historyCapacity := 0x2000000000000000 }, .initial⟩
        ["bp 5"]).2
    (empty.IsRetypable ∧
        (((empty.obey "bl").2.obey "bc *").2.obeyAll empty.listing).1 = false) ∧
      roomless.IsRetypable ∧
        (((roomless.obey "bl").2.obey "bc *").2.obeyAll roomless.listing).1 = false := by
  decide +kernel

end Session

end Monitor8080
