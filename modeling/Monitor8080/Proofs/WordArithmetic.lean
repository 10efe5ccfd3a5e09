import Monitor8080.Proofs.Cutoffs
import Monitor8080.Proofs.EnginePhases
import Monitor8080.Proofs.InterruptDelivery
import Monitor8080.Proofs.RoundTrips
import Monitor8080.Proofs.SymbolFiles
import Monitor8080.Proofs.SymbolLookup
namespace Monitor8080

/-!
# Numbers that have to be words

The size of a chunk comes from a count in the configuration and from a speed
that is set by a line, the end of a group from a count in a symbol file. Each of
these is a word, but their product or sum need not be: then a line that comes
to it is cut off. If none can be too large, no line ever is.
-/

open Operation

/-! ## The speed -/

namespace Session

/-- The speed stays, or is one that a line can set. -/
def KeepsSpeed (before after : Session) : Prop :=
  after.machine.cpu.speed = before.machine.cpu.speed ∨
    1 ≤ after.machine.cpu.speed ∧ after.machine.cpu.speed ≤ countLimit

instance : AllowsReports KeepsSpeed where
  refl _ := .inl rfl
  trans kept keptNext := by
    rcases keptNext with same | set
    · rw [KeepsSpeed, same]
      exact kept
    · exact .inr set
  report same := .inl (by rw [same.machine])

theorem execute_speed (session : Session) :
    session.execute.2.machine.cpu.speed = session.machine.cpu.speed := by
  unfold execute
  split
  · rw [executeGuarded_eq]
    exact Core.step_speed
  · rw [executeBare_eq]
    exact Core.step_speed

theorem step_speed (session : Session) :
    session.step.2.machine.cpu.speed = session.machine.cpu.speed := by
  rw [step_cpu]
  split
  · exact session.execute_speed
  · exact session.execute_speed

end Session

/-- No edit by hand but that of the speed changes it. -/
theorem MachineEdit.apply_speed
    {edit : MachineEdit}
    (other : ∀ count, edit ≠ .speed count)
    (machine : Machine) :
    (edit.apply machine).cpu.speed = machine.cpu.speed := by
  cases edit with
  | register name value =>
      cases name <;> rfl
  | flag name value =>
      cases name <;> rfl
  | speed count =>
      exact absurd rfl (other count)
  | halt =>
      rw [apply]
      rcases machine.stop_cases with ⟨-, same⟩ | ⟨-, ready⟩
      · rw [same]
      · rw [ready]
        rfl
  | _ =>
      rfl

theorem Session.Makes.speed
    {before after : Session}
    {edit : Edit}
    (makes : before.Makes edit after)
    (other : ∀ count, edit ≠ .machine (.speed count)) :
    after.machine.cpu.speed = before.machine.cpu.speed := by
  cases makes with
  | machine edit =>
      exact MachineEdit.apply_speed (fun count same => other count (congrArg Edit.machine same)) _
  | place placed =>
      rw [(placeBreakpoint_ok placed).2.2, watchFor_cpu]
  | remove address? =>
      obtain ⟨test, -, -, machine⟩ := before.removeBreakpoints_eq address?
      rw [machine, unwatchAll_cpu]
  | arm count =>
      rfl
  | checksum interval =>
      rfl

namespace Session

theorem clearError_speed (session : Session) :
    (Run.clearError session).machine.cpu.speed = session.machine.cpu.speed := by
  unfold Run.clearError
  split
  · have told :
        (session.message .cpu "clearing error state").machine.cpu.speed =
          session.machine.cpu.speed := by
      rw [(SameDuty.message session _ _).machine]
    exact told
  · rfl

theorem enter_speed (session : Session) :
    (Run.enter session).machine.cpu.speed = session.machine.cpu.speed := by
  unfold Run.enter Session.updateMachine Machine.start Machine.setPhase
  simp only
  split <;> rfl

/-- Nothing that runs and scripts do on their own changes the speed. -/
theorem keepsSpeed_isScriptLaw :
    Run.IsScriptLaw fun before _ after => before.KeepsSpeed after where
  clearError session := .inl (clearError_speed session)
  enter session := .inl (enter_speed session)
  step session := .inl session.step_speed
  stop session := by
    left
    rw [updateMachine]
    rcases session.machine.stop_cases with ⟨-, same⟩ | ⟨-, ready⟩
    · rw [same]
    · rw [ready]
      rfl
  removeTemporary session := by
    left
    rw [session.removeTemporaryBreakpoints_eq.2.2, unwatchAll_cpu]
  mute _ := .inl rfl
  unmute _ := .inl rfl
  resume _ := .inl rfl

/-- The speed that an option sets is at least one and no more than a count may be. -/
theorem options_keepsSpeed (arguments : List String) :
    Obeys (fun before _ after => KeepsSpeed before after) (options arguments) := by
  unfold options
  split
  · exact .ofSession fun session => .inl rfl
  · exact .updateMonitor fun _ => SameDuty.of_sentry rfl rfl rfl ⟨rfl, id⟩
  · exact .updateMonitor fun _ => SameDuty.of_sentry rfl rfl rfl ⟨rfl, id⟩
  · exact (Obeys.count _).andThen fun interval => .updateChecks fun _ => .inl rfl
  · refine (Obeys.count _).andThen fun speed => .change fun session => .inr ⟨?_, ?_⟩
    · exact Nat.le_min.mpr ⟨Nat.le_max_right .., by decide⟩
    · exact Nat.min_le_right ..
  · exact .failure nofun

theorem keepsSpeed_isLaw : Run.IsCommandLaw fun before _ after => before.KeepsSpeed after :=
  { keepsSpeed_isScriptLaw with
    commands := by
      intro handle handles command
      by_cases isOptions : ∃ arguments, command = .options arguments
      · obtain ⟨arguments, rfl⟩ := isOptions
        exact options_keepsSpeed arguments
      · refine execute_obeys (Run.run_obeys keepsSpeed_isScriptLaw.toIsLaw handles) ?_
        intro edit permitted before after makes
        refine .inl (makes.speed ?_)
        rintro count rfl
        cases permitted
        exact isOptions ⟨_, rfl⟩
    runTo := fun target before after makes => .inl (makes.speed nofun) }

/-! ## What is kept up to any line -/

/-- The numbers that products and sums are made of stay, but for the speed. -/
structure KeepsOperands (before after : Session) : Prop where
  config : after.monitor.config = before.monitor.config
  symbols : after.monitor.symbols = before.monitor.symbols
  speed : before.KeepsSpeed after

instance : Composes KeepsOperands where
  refl _ := ⟨rfl, rfl, .inl rfl⟩
  trans kept keptNext :=
    ⟨keptNext.config.trans kept.config, keptNext.symbols.trans kept.symbols,
      Composes.trans kept.speed keptNext.speed⟩

/-- Where a line is cut off something is too large, with the numbers that there were before. -/
theorem cutoff?_keepsOperands
    {session : Session}
    {line : String}
    {cutoff : Cutoff}
    (found : session.cutoff? line = some cutoff) :
    cutoff.IsReached KeepsOperands session :=
  { genuine := (keepsSpeed_isLaw.cutoff?_reached found).genuine
    reached :=
      { config := (endures_isLaw.isCommandLaw.cutoff?_reached found).reached.config
        symbols := (keepsNames_isLaw.isCommandLaw.cutoff?_reached found).reached.symbols
        speed := (keepsSpeed_isLaw.cutoff?_reached found).reached } }

theorem fitsWords_iff {session : Session} :
    session.fitsWords ↔
      max session.monitor.config.runChunk 1 * max session.machine.cpu.speed countLimit
          ≤ wordLimit ∧
        ∀ group ∈ session.monitor.symbols.groups,
          group.base.toNat + group.length ≤ wordLimit := by
  simp [fitsWords]

/-- Numbers that can never be too large remain so. -/
theorem KeepsOperands.fitsWords
    {before after : Session}
    (kept : before.KeepsOperands after)
    (fits : before.fitsWords) :
    after.fitsWords := by
  obtain ⟨product, sums⟩ := fitsWords_iff.mp fits
  refine fitsWords_iff.mpr ⟨?_, by rwa [kept.symbols]⟩
  rw [kept.config]
  refine (Nat.mul_le_mul_left _ ?_).trans product
  rcases kept.speed with same | ⟨-, set⟩
  · rw [same]
  · exact Nat.max_le.mpr ⟨set.trans (Nat.le_max_right ..), Nat.le_max_right ..⟩

theorem not_isGenuine_of_fitsWords
    {cutoff : Cutoff}
    (fits : cutoff.session.fitsWords) :
    ¬ cutoff.IsGenuine := by
  obtain ⟨product, sums⟩ := fitsWords_iff.mp fits
  unfold Cutoff.IsGenuine
  cases cutoff.overflow with
  | product =>
      intro tooLarge
      refine absurd (word?_eq_none_iff.mp tooLarge) (Nat.not_lt_of_le (Nat.le_trans ?_ product))
      exact Nat.mul_le_mul_left _ (max_le_max_left _ (show 1 ≤ countLimit by decide))
  | sum =>
      rintro ⟨address, group, member, tooLarge⟩
      exact absurd (ModuleSymbols.within?_eq_none_iff.mp tooLarge).2
        (Nat.not_lt_of_le (sums group member))

/-- Where no number can be too large, no line is cut off. -/
theorem cutoff?_of_fitsWords
    {session : Session}
    (fits : session.fitsWords)
    (line : String) :
    session.cutoff? line = none := by
  cases found : session.cutoff? line with
  | none =>
      rfl
  | some cutoff =>
      have reached := cutoff?_keepsOperands found
      exact absurd reached.genuine (not_isGenuine_of_fitsWords (reached.reached.fitsWords fits))

/-- A line is obeyed up to where it is cut off. -/
theorem heed_eq (session : Session) (line : String) :
    session.heed line =
      match session.cutoff? line with
      | some cutoff =>
          (false, cutoff.session.print ("internal error: " ++ cutoff.overflow.message))
      | none => session.obey line := by
  unfold heed
  split
  · rename_i fits
    rw [cutoff?_of_fitsWords fits]
  · rfl

theorem heed_of_cutoff?_eq_none
    {session : Session}
    {line : String}
    (whole : session.cutoff? line = none) :
    session.heed line = session.obey line := by
  rw [heed_eq, whole]

/-- A law that does not tell apart what was abandoned holds of lines, also if they are cut off. -/
theorem heed_related
    {related : Session → Session → Prop}
    [lawful : LawfulReports fun before _ after => related before after]
    (isLaw : Run.IsCommandLaw fun before _ after => related before after)
    (session : Session)
    (line : String) :
    related session (session.heed line).2 := by
  have composes := lawful.toLawful.composes
  cases found : session.cutoff? line with
  | none =>
      obtain ⟨played, obeyed, same⟩ := isLaw.obey line session
      rw [heed_of_cutoff?_eq_none found]
      exact composes.trans obeyed (lawful.report same)
  | some cutoff =>
      have reached := (isLaw.cutoff?_reached found).reached
      rw [heed_eq, found]
      exact composes.trans reached (lawful.report (.print cutoff.session _))

theorem heed_keepsOperands (session : Session) (line : String) :
    session.KeepsOperands (session.heed line).2 where
  config := (heed_related endures_isLaw.isCommandLaw session line).config
  symbols := (heed_related keepsNames_isLaw.isCommandLaw session line).symbols
  speed := heed_related keepsSpeed_isLaw session line

theorem heedAll_keepsOperands (session : Session) (lines : List String) :
    session.KeepsOperands (session.heedAll lines) := by
  induction lines generalizing session with
  | nil =>
      exact Composes.refl session
  | cons line lines inductionHypothesis =>
      exact Composes.trans (session.heed_keepsOperands line) (inductionHypothesis _)

end Session

/-! ## Where the numbers come from -/

/-- A count that is left out or read is a word. -/
theorem Json.Fields.defaulted?_count_le
    {fields : Json.Fields}
    {name : String}
    {default value : Nat}
    (fits : default ≤ wordLimit)
    (read : fields.defaulted? name Json.count? default = some value) :
    value ≤ wordLimit := by
  unfold Json.Fields.defaulted? at read
  split at read
  · exact Nat.le_of_lt_succ (Json.lt_of_natBelow? read)
  · cases read
    exact fits

/-- The chunk of a configuration that is accepted is a word. -/
theorem Config.runChunk_le
    {text : String}
    {config : Config}
    (accepted : ofText? text = some config) :
    config.runChunk ≤ wordLimit := by
  obtain ⟨value, -, read⟩ := Option.bind_eq_some_iff.mp accepted
  obtain ⟨fields, -, read⟩ := Option.bind_eq_some_iff.mp read
  obtain ⟨historyCapacity, -, read⟩ := Option.bind_eq_some_iff.mp read
  obtain ⟨maxStackFrames, -, read⟩ := Option.bind_eq_some_iff.mp read
  obtain ⟨callScanWindow, -, read⟩ := Option.bind_eq_some_iff.mp read
  obtain ⟨unassembleCount, -, read⟩ := Option.bind_eq_some_iff.mp read
  obtain ⟨dumpBytes, -, read⟩ := Option.bind_eq_some_iff.mp read
  obtain ⟨runChunk, chunkRead, read⟩ := Option.bind_eq_some_iff.mp read
  obtain ⟨runLimit, -, read⟩ := Option.bind_eq_some_iff.mp read
  obtain ⟨commandHistoryLength, -, read⟩ := Option.bind_eq_some_iff.mp read
  obtain ⟨dialect, -, read⟩ := Option.bind_eq_some_iff.mp read
  obtain ⟨messages, -, read⟩ := Option.bind_eq_some_iff.mp read
  obtain ⟨alwaysRecordHistory, -, read⟩ := Option.bind_eq_some_iff.mp read
  cases read
  exact Json.Fields.defaulted?_count_le (by decide) chunkRead

namespace SymbolTable

/-- The table with the groups of some symbol files, if all of them are accepted. -/
def loadAll? (table : SymbolTable) (files : List String) : Option SymbolTable :=
  files.foldlM (fun table file => (table.loadText? file).map (·.2)) table

theorem IsStorable.loadText?
    {table after : SymbolTable}
    (storable : table.IsStorable)
    {file : String}
    {count : Nat}
    (loaded : table.loadText? file = some (count, after)) :
    after.IsStorable := by
  rw [loadText?_eq] at loaded
  obtain ⟨listings, read, same⟩ := Option.map_eq_some_iff.mp loaded
  cases same
  obtain ⟨value, -, listed⟩ := Option.bind_eq_some_iff.mp read
  intro group member
  rcases List.mem_append.mp member with wasThere | isNew
  · exact storable group wasThere
  · obtain ⟨listing, isListed, rfl⟩ := List.mem_map.mp isNew
    exact SymbolListing.isStorable_of_mem_groups? listed listing isListed

theorem IsStorable.loadAll?
    {table after : SymbolTable}
    (storable : table.IsStorable)
    {files : List String}
    (loaded : table.loadAll? files = some after) :
    after.IsStorable := by
  induction files generalizing table with
  | nil =>
      cases loaded
      exact storable
  | cons file files inductionHypothesis =>
      obtain ⟨middle, first, rest⟩ := Option.bind_eq_some_iff.mp loaded
      obtain ⟨⟨count, next⟩, read, rfl⟩ := Option.map_eq_some_iff.mp first
      exact inductionHypothesis (storable.loadText? read) rest

end SymbolTable

/-! ## Chunks -/

namespace Run

/-- A chunk that is not empty begins with a step, if instructions are left and no stop is requested. -/
theorem head?_chunkStations
    (handle : StopHandler)
    (goal : RunGoal)
    {chunk bound executed : Nat}
    (positive : 1 ≤ chunk)
    (unfinished : executed < bound)
    {station : Session}
    (unrequested : station.machine.stopRequested = false)
    (fuel : Nat) :
    (chunkStations handle goal chunk bound (fuel + 1) executed station).head? = some station := by
  have steps : 1 ≤ min chunk (bound - executed) :=
    Nat.le_min.mpr ⟨positive, Nat.sub_pos_of_lt unfinished⟩
  obtain ⟨more, same⟩ := Nat.exists_eq_add_of_le' steps
  rw [chunkStations, if_neg (Nat.not_le.mpr unfinished), unrequested, if_neg Bool.false_ne_true,
    same, burstStations]
  rfl

theorem chunkSize?_eq (config : Config) (cpu : Cpu) :
    chunkSize? config cpu =
      if max config.runChunk 1 * max cpu.speed 1 ≤ wordLimit then
        some (max config.runChunk 1 * max cpu.speed 1)
      else
        none :=
  rfl

/-- A run whose chunks would be too large makes no step. -/
theorem cutoff?_of_beyond
    {session : Session}
    (powered : session.machine.cpu.isPowered)
    (beyond : chunkSize? session.monitor.config session.machine.cpu = none)
    (handle : StopHandler)
    (scriptCutoff? : ScriptCutoff)
    (goal : RunGoal) :
    cutoff? handle scriptCutoff? goal session = some ⟨.product, enter (clearError session)⟩ := by
  have sameSize :
      chunkSize? (enter (clearError session)).monitor.config
          (enter (clearError session)).machine.cpu =
        chunkSize? session.monitor.config session.machine.cpu := by
    have config : (enter (clearError session)).monitor.config = session.monitor.config :=
      clearError_config session
    rw [chunkSize?_eq, chunkSize?_eq, config, Session.enter_speed, Session.clearError_speed]
  rw [beyond] at sameSize
  simp only [cutoff?, if_pos powered, sameSize]

end Run

/-! ## Lines -/

def Session.withSymbols (session : Session) (table : SymbolTable) : Session :=
  session.updateMonitor fun monitor => { monitor with symbols := table }

/--
Lines overflow only beyond the machine words. The configuration, the speed and
the symbol files give words. If the product of chunk and speed is a word, it is
the size of a chunk, and a chunk makes a step as long as the run has some left;
otherwise a run is cut off where it begins. If the end of a group is a word,
the test of its range is that of the numbers; otherwise it fails from its base
on. A line is obeyed unless it is cut off, which it is only where one of these
is too large; so with a chunk of up to `2 ^ 32 + 1` and groups that end at a
word, no line ever is.
-/
theorem lines_are_cut_off_only_beyond_words
    {text : String}
    {config : Config}
    (accepted : Config.ofText? text = some config)
    {files : List String}
    {table : SymbolTable}
    (loaded : SymbolTable.empty.loadAll? files = some table)
    {machine : Machine}
    (settable : machine.cpu.speed ≤ countLimit)
    (lines : List String)
    (line : String) :
    let session := ((Session.fresh config machine).withSymbols table).heedAll lines
    let cpu := session.machine.cpu
    let product := max config.runChunk 1 * max cpu.speed 1
    (session.monitor.config = config ∧ session.monitor.symbols = table) ∧
    (config.runChunk ≤ wordLimit ∧ cpu.speed ≤ countLimit ∧
      ∀ group ∈ table.groups, group.length ≤ wordLimit) ∧
    (product ≤ wordLimit →
      Run.chunkSize? session.monitor.config cpu = some product ∧ 1 ≤ product ∧
        ∀ handle goal bound fuel executed station,
          executed < bound →
            station.machine.stopRequested = false →
              (Run.chunkStations handle goal product bound (fuel + 1) executed station).head? =
                some station) ∧
    (wordLimit < product →
      Run.chunkSize? session.monitor.config cpu = none ∧
        (cpu.isPowered →
          ∀ handle scriptCutoff? goal,
            Run.cutoff? handle scriptCutoff? goal session =
              some ⟨.product, Run.enter (Run.clearError session)⟩)) ∧
    (∀ group ∈ table.groups,
      ∀ address,
        group.within? address =
          if group.base ≤ address ∧ wordLimit < group.base.toNat + group.length then
            none
          else
            some (decide (group.base.toNat ≤ address.toNat ∧
              address.toNat < group.base.toNat + group.length))) ∧
    (match session.cutoff? line with
      | some cutoff =>
          cutoff.IsReached Session.KeepsOperands session ∧
            session.heed line =
              (false, cutoff.session.print ("internal error: " ++ cutoff.overflow.message))
      | none => session.heed line = session.obey line) ∧
    (config.runChunk ≤ 0x100000001 →
      (∀ group ∈ table.groups, group.base.toNat + group.length ≤ wordLimit) →
        session.cutoff? line = none) := by
  intro session cpu product
  have kept := ((Session.fresh config machine).withSymbols table).heedAll_keepsOperands lines
  have configured : session.monitor.config = config :=
    kept.config.trans (Monitor.settleHistory_config _)
  have named : session.monitor.symbols = table := kept.symbols
  have speed : cpu.speed ≤ countLimit := by
    rcases kept.speed with same | ⟨-, set⟩
    · exact same.trans_le settable
    · exact set
  refine ⟨⟨configured, named⟩, ⟨Config.runChunk_le accepted, speed, ?_⟩, ?_, ?_, ?_, ?_, ?_⟩
  · intro group member
    have storable := SymbolTable.isStorable_empty.loadAll? loaded group member
    exact Nat.le_of_lt_succ storable.length
  · intro fits
    have positive : 1 ≤ product :=
      Nat.mul_pos (Nat.le_max_right ..) (Nat.le_max_right ..)
    refine ⟨?_, positive, ?_⟩
    · rw [Run.chunkSize?_eq, configured]
      exact if_pos fits
    · intro handle goal bound fuel executed station unfinished unrequested
      exact Run.head?_chunkStations handle goal positive unfinished unrequested fuel
  · intro beyond
    have tooLarge : Run.chunkSize? session.monitor.config cpu = none := by
      rw [Run.chunkSize?_eq, configured]
      exact if_neg (Nat.not_le.mpr beyond)
    exact ⟨tooLarge, fun powered => Run.cutoff?_of_beyond powered tooLarge⟩
  · exact fun group _ address => group.within?_eq address
  · have heeded := session.heed_eq line
    cases found : session.cutoff? line with
    | some cutoff =>
        rw [found] at heeded
        exact ⟨Session.cutoff?_keepsOperands found, heeded⟩
    | none =>
        rw [found] at heeded
        exact heeded
  · intro small sums
    refine Session.cutoff?_of_fitsWords (Session.fitsWords_iff.mpr ⟨?_, ?_⟩) line
    · have product : max config.runChunk 1 * countLimit ≤ wordLimit :=
        Nat.mul_le_mul_right countLimit (Nat.max_le.mpr ⟨small, by decide⟩)
      rw [configured, Nat.max_eq_right speed]
      exact product
    · rw [named]
      exact sums

/-- A trace at twice the speed, with a chunk and a group as usual. -/
theorem trace_at_double_speed_is_not_cut_off :
    let table := SymbolTable.empty.withModule "M" 1 2 []
    let session := ((Session.fresh Config.default .initial).withSymbols table).heedAll ["s sp 2"]
    Run.chunkSize? session.monitor.config session.machine.cpu = some 20000 ∧
      session.cutoff? "t 1" = none := by
  have accepted : Config.ofText? "\x7b\x7d" = some Config.default := by
    decide +kernel
  have loaded :
      SymbolTable.empty.loadAll?
          ["\x7b\x22module\x22:\x22M\x22,\x22base\x22:1,\x22length\x22:2\x7d"] =
        some (SymbolTable.empty.withModule "M" 1 2 []) := by
    decide +kernel
  have settable : Machine.initial.cpu.speed ≤ countLimit := by
    decide
  obtain ⟨-, -, chunk, -, -, -, fits⟩ :=
    lines_are_cut_off_only_beyond_words accepted loaded settable ["s sp 2"] "t 1"
  have size := (chunk (by decide +kernel)).1
  exact ⟨size.trans (by decide +kernel), fits (by decide +kernel) (by decide +kernel)⟩

/--
A chunk and a group may be accepted and yet go beyond the words: a trace then
ends before its first step with the engine running, and the symbol near an
address is not told.
-/
theorem accepted_numbers_go_beyond_words :
    (∃ config,
      Config.ofText? "\x7b\x22run_chunk\x22:9223372036854775808\x7d" = some config ∧
        let session := (Session.fresh config .initial).heedAll ["s sp 2"]
        wordLimit < max config.runChunk 1 * max session.machine.cpu.speed 1 ∧
          (session.heed "t 1").1 = false ∧
            (session.heed "t 1").2.machine.isRunning ∧
              (session.heed "t 1").2.machine.cpu.cycles = session.machine.cpu.cycles) ∧
    ∃ table,
      SymbolTable.empty.loadAll?
          ["\x7b\x22module\x22:\x22M\x22,\x22base\x22:1,\x22length\x22:18446744073709551615\x7d"] =
        some table ∧
          (∃ group ∈ table.groups, group.within? 1 = none) ∧
            (((Session.fresh Config.default .initial).withSymbols table).heed "ln 1").1 =
              false := by
  refine
    ⟨⟨{ Config.default with runChunk := 0x8000000000000000 }, ?_, ?_⟩,
      SymbolTable.empty.withModule "M" 1 0xFFFFFFFFFFFFFFFF [], ?_, ?_, ?_⟩ <;>
  decide +kernel

end Monitor8080
