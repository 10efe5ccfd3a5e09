import Monitor8080.Proofs.FileWrites
import Monitor8080.Proofs.StoredRuns
namespace Monitor8080

/-!
# Restarts

A run that is repeated finds what the run before it stored, restores it whole,
and adds the groups of its symbol files to those that are there already. So
the groups are listed once more after every restart, and all else stays as it
is. A run that fails stores nothing.
-/

namespace Monitor

/-- The monitor with further groups of symbols, and other operator lines remembered. -/
def grown (monitor : Monitor) (groups : List ModuleSymbols) (lines : List String) : Monitor :=
  { monitor.withGroups groups with commandHistory := lines }

variable {monitor : Monitor}

theorem grown_nothing (monitor : Monitor) :
    monitor.grown [] monitor.commandHistory = monitor :=
  monitor.withGroups_nil

theorem grown_grown
    (monitor : Monitor)
    (first second : List ModuleSymbols)
    (earlier lines : List String) :
    (monitor.grown first earlier).grown second lines = monitor.grown (first ++ second) lines :=
  congrArg (fun symbols => { monitor with symbols := symbols, commandHistory := lines })
    (monitor.symbols.withGroups_withGroups first second)

theorem HasStorableNames.grown
    (storable : monitor.HasStorableNames)
    {groups : List ModuleSymbols}
    (areStorable : ∀ group ∈ groups, group.IsStorable)
    (lines : List String) :
    (monitor.grown groups lines).HasStorableNames where
  symbols group member :=
    (List.mem_append.mp member).elim (storable.symbols group) (areStorable group)
  bindings := storable.bindings

/-- What is stored tells the groups and the operator lines apart. -/
theorem saved_grown_eq_iff
    (storable : monitor.HasStorableNames)
    {groups : List ModuleSymbols}
    (areStorable : ∀ group ∈ groups, group.IsStorable)
    (lines : List String) :
    (monitor.grown groups lines).saved.toJson = monitor.saved.toJson ↔
      groups = [] ∧ lines = monitor.commandHistory := by
  constructor
  · intro same
    have later := storable.grown areStorable lines
    have sameSlots : (monitor.grown groups lines).saved = monitor.saved := by
      rw [← Option.some.injEq, ← later.ofJson?_saved, ← storable.ofJson?_saved, same]
    have laterHeld := Snapshot.ofSlots_eq_ok_iff.mpr later.isHeldBy_saved
    have held := Snapshot.ofSlots_eq_ok_iff.mpr storable.isHeldBy_saved
    rw [sameSlots, held] at laterHeld
    have sameSnapshot := Except.ok.inj laterHeld
    have symbols : monitor.symbols = (monitor.grown groups lines).symbols :=
      Option.some.inj (congrArg Snapshot.symbols? sameSnapshot)
    have history : monitor.commandHistory = lines :=
      Option.some.inj (congrArg Snapshot.commandHistory? sameSnapshot)
    refine ⟨?_, history.symm⟩
    exact List.self_eq_append_right.mp (congrArg SymbolTable.groups symbols)
  · rintro ⟨rfl, rfl⟩
    rw [grown_nothing]

/-- A new monitor has no names and no operator lines, and the settings that it was given. -/
theorem ofConfig_spec (config : Config) :
    (ofConfig config).HasStorableNames ∧
      (ofConfig config).commandHistory = [] ∧ (ofConfig config).config = config := by
  refine ⟨?_, ?_, settleHistory_config _⟩
  · exact
      HasStorableNames.of_keepsNames ⟨SymbolTable.isStorable_empty, NameMap.isOrdered_nil⟩
        (.settleHistory _)
  · unfold ofConfig
    rcases settleHistory_cases _ with unchanged | ⟨history, text, switched⟩
    · rw [unchanged]
    · rw [switched]
      unfold message
      split <;> rfl

/-- What is stored of a monitor that was restored and had groups added. -/
theorem saved_restored
    {before source : Monitor}
    (groups : List ModuleSymbols)
    {entry : UInt16}
    (pointed : source.codeCursor = .ofAddress entry) :
    { (before.withSnapshot source.bareSnapshot).withGroups groups with
        codeCursor := .ofAddress entry }.saved =
      (source.grown groups
        (source.commandHistory.take before.config.commandHistoryLength)).saved := by
  unfold saved snapshot
  rw [show (source.grown groups _).codeCursor = .ofAddress entry from pointed]
  rfl

end Monitor

namespace CommandLine

/-! ## Other files -/

section Congruence

variable {left right : Lookup} {path : String}

theorem Invocation.config_congr
    {invocation : Invocation}
    (same : ∀ path ∈ invocation.config?, left path = right path) :
    invocation.config left = invocation.config right := by
  unfold config
  cases given : invocation.config? with
  | none =>
      rfl
  | some path =>
      simp only [readText_congr (same path given)]

theorem Invocation.Loads.congr
    {invocation : Invocation}
    {load : UInt16}
    {before loaded : Machine}
    (loads : invocation.Loads left load before loaded)
    (same : ∀ path ∈ invocation.image?, left path = right path) :
    invocation.Loads right load before loaded := by
  cases loads with
  | nothing none =>
      exact .nothing none
  | image given read fits =>
      exact .image given ((readBytes_congr (same _ given)).symm.trans read) fits

end Congruence

/-! ## What a monitor has that is stored -/

section Prepared

variable {find : Lookup} {path : String} {groups : List ModuleSymbols}

section Restores

variable {before restored : Monitor}

theorem Restores.hasStorableNames
    (restores : Restores find path before restored)
    (storable : before.HasStorableNames) :
    restored.HasStorableNames := by
  cases restores with
  | nothing missing =>
      exact storable
  | stored present read written came =>
      exact Session.restore_hasStorableNames storable came

/-- No more operator lines are restored than the settings allow. -/
theorem Restores.commandHistory_length_le
    (restores : Restores find path before restored)
    (few : before.commandHistory.length ≤ before.config.commandHistoryLength) :
    restored.commandHistory.length ≤ before.config.commandHistoryLength := by
  cases restores with
  | nothing missing =>
      exact few
  | stored present read written came =>
      obtain ⟨snapshot, -, rfl⟩ := Monitor.restore_eq_ok_iff.mp came
      unfold Monitor.withSnapshot
      dsimp only
      split
      · exact List.length_take_le _ _
      · exact few

end Restores

namespace Invocation

/-- What every monitor has that the program stores at the end of its preparations. -/
structure IsPrepared
    (invocation : Invocation)
    (find : Lookup)
    (config : Config)
    (groups : List ModuleSymbols)
    (monitor : Monitor) : Prop where
  configured : invocation.config find = .ok config
  added : groupsInAll find invocation.symbols = .ok groups
  names : monitor.HasStorableNames
  listed : groups <:+ monitor.symbols.groups
  pointed : ∃ entry, invocation.entryAddress = .ok entry ∧ monitor.codeCursor = .ofAddress entry
  few : monitor.commandHistory.length ≤ config.commandHistoryLength

variable {invocation : Invocation} {config : Config} {monitor : Monitor}

theorem Remembers.exists_isPrepared (remembers : invocation.Remembers path find monitor) :
    ∃ config groups, invocation.IsPrepared find config groups monitor := by
  cases remembers with
  | @intro config restored groups load entry loaded configured hasHistory restores added loadRead
      loads entryRead =>
      obtain ⟨names, noLines, settings⟩ := Monitor.ofConfig_spec config
      have few : restored.commandHistory.length ≤ config.commandHistoryLength := by
        rw [← settings]
        apply restores.commandHistory_length_le
        rw [noLines]
        exact Nat.zero_le _
      have restoredNames := restores.hasStorableNames names
      have withGroups :
          (restored.grown groups restored.commandHistory).HasStorableNames :=
        restoredNames.grown (isStorable_of_groupsInAll added) _
      exact
        ⟨config, groups, configured, added, ⟨withGroups.symbols, withGroups.bindings⟩,
          List.suffix_append _ _, ⟨entry, entryRead, rfl⟩, few⟩

/-- Adding the groups once more, and forgetting old operator lines, leaves a monitor prepared. -/
theorem IsPrepared.grown
    (prepared : invocation.IsPrepared find config groups monitor)
    (kept : Nat) :
    invocation.IsPrepared find config groups
      (monitor.grown groups (monitor.commandHistory.take kept)) where
  configured := prepared.configured
  added := prepared.added
  names := prepared.names.grown (isStorable_of_groupsInAll prepared.added) _
  listed := List.suffix_append _ _
  pointed := prepared.pointed
  few := Nat.le_trans (List.length_take_le' _ _) prepared.few

end Invocation

end Prepared

/-! ## One restart -/

/-- Nothing but what was stored is read from where that is stored. -/
def Invocation.ReadsElsewhere
    (invocation : Invocation)
    (files : FileTree)
    (path : String) : Prop :=
  ∀ other ∈ invocation.config?.toList ++ invocation.symbols ++ invocation.image?.toList,
    files.place? other ≠ files.place? path

section Restart

variable {files current : FileTree} {path : String} {groups : List ModuleSymbols}
  {invocation : Invocation} {config : Config} {source : Monitor}
  (prepared : invocation.IsPrepared files.find config groups source)
  (rewritten : files.IsRewritten current path source.saved.toJson.renderPretty)

include rewritten

/-- What was stored is restored whole, but for operator lines that the settings do not allow. -/
theorem restores_iff_of_isRewritten
    (storable : source.HasStorableNames)
    {before restored : Monitor} :
    Restores current.find path before restored ↔
      restored = before.withSnapshot source.bareSnapshot := by
  have read := rewritten.readText rfl
  have came :
      before.restore source.saved = .ok (before.withSnapshot source.bareSnapshot) :=
    Monitor.restore_eq_ok_iff.mpr ⟨_, storable.isHeldBy_saved, rfl⟩
  have present : current.find path ≠ .missing := by
    rw [rewritten.find, if_pos rfl]
    exact nofun
  constructor
  · intro restores
    cases restores with
    | nothing missing =>
        exact absurd missing present
    | stored _ readThen written cameThen =>
        cases read.symm.trans readThen
        cases storable.ofText?_saved.symm.trans written
        exact (Except.ok.inj (came.symm.trans cameThen)).symm
  · rintro rfl
    exact .stored present read storable.ofText?_saved came

/-- Files of other places hold what they held. -/
theorem find_eq_of_place?_ne
    {other : String}
    (elsewhere : files.place? other ≠ files.place? path) :
    current.find other = files.find other := by
  rw [rewritten.find, if_neg elsewhere]

namespace Invocation

include prepared

/-- A program that gets as far again reads the same groups, and so not from what it stored. -/
theorem groupsInAll_of_isRewritten
    {again : List ModuleSymbols}
    (added : groupsInAll current.find invocation.symbols = .ok again) :
    again = groups := by
  have elsewhere : ∀ other ∈ invocation.symbols, files.place? other ≠ files.place? path := by
    -- A symbol file in that place would hold the stored state by now, which is none.
    intro other member same
    obtain ⟨first, read⟩ := exists_groupsIn_of_mem added member
    obtain ⟨text, listings, readText, listed, -⟩ := groupsIn_eq_ok_iff.mp read
    cases (rewritten.readText same).symm.trans readText
    rw [SymbolListing.ofText?_saved prepared.names] at listed
    cases listed
  have sameGroups :
      groupsInAll current.find invocation.symbols = groupsInAll files.find invocation.symbols :=
    groupsInAll_congr fun other member => find_eq_of_place?_ne rewritten (elsewhere other member)
  exact Except.ok.inj (added.symm.trans (sameGroups.trans prepared.added))

/-- What is stored after a restart has the groups once more. -/
theorem Remembers.exists_saved_eq
    {next : Monitor}
    (remembers : invocation.Remembers path current.find next) :
    ∃ settings : Config,
      invocation.config current.find = .ok settings ∧
        next.saved =
          (source.grown groups
            (source.commandHistory.take settings.commandHistoryLength)).saved := by
  obtain ⟨entry, entryRead, pointed⟩ := prepared.pointed
  cases remembers with
  | @intro settings restored again load entryThen loaded configured hasHistory restores added
      loadRead loads entryReadThen =>
      cases (restores_iff_of_isRewritten rewritten prepared.names).mp restores
      cases groupsInAll_of_isRewritten prepared rewritten added
      cases entryRead.symm.trans entryReadThen
      obtain ⟨-, -, given⟩ := Monitor.ofConfig_spec settings
      refine ⟨settings, configured, ?_⟩
      rw [Monitor.saved_restored groups pointed, given]

variable (elsewhere : invocation.ReadsElsewhere files path)

include elsewhere

omit prepared in
theorem config_eq_of_readsElsewhere :
    invocation.config current.find = invocation.config files.find :=
  config_congr fun other given =>
    find_eq_of_place?_ne rewritten <|
      elsewhere other
        (List.mem_append_left _ (List.mem_append_left _ (Option.mem_toList.mpr given)))

/-- A program that reads what it stored for nothing else gets as far again. -/
theorem Remembers.exists_again
    {before : Monitor}
    (remembers : invocation.Remembers path files.find before) :
    ∃ next, invocation.Remembers path current.find next := by
  cases remembers with
  | @intro config restored groups load entry loaded configured hasHistory restores added loadRead
      loads entryRead =>
      have sameGroups :
          groupsInAll current.find invocation.symbols = groupsInAll files.find invocation.symbols :=
        groupsInAll_congr fun other member =>
          find_eq_of_place?_ne rewritten <|
            elsewhere other (List.mem_append_left _ (List.mem_append_right _ member))
      have loadsAgain : invocation.Loads current.find load .initial loaded :=
        loads.congr fun other given =>
          (find_eq_of_place?_ne rewritten <|
            elsewhere other (List.mem_append_right _ (Option.mem_toList.mpr given))).symm
      exact
        ⟨_, .intro ((config_eq_of_readsElsewhere rewritten elsewhere).trans configured) hasHistory
          ((restores_iff_of_isRewritten rewritten prepared.names).mpr rfl)
          (sameGroups.trans added) loadRead loadsAgain entryRead⟩

omit elsewhere

variable (stateFile : invocation.state? = some path)
  (batch : invocation.isBatch = true)
  (noLines : invocation.commands = [])
  {before : Monitor}
  (remembers : invocation.Remembers path files.find before)

include stateFile batch noLines remembers

/-- A restart changes nothing, or stores the groups once more. -/
theorem perform_again (lines : List String) :
    (¬ invocation.ReadsElsewhere files path ∧
        (perform invocation current lines).exitCode ≠ 0 ∧
        (perform invocation current lines).files = current) ∨
      (perform invocation current lines).exitCode = 0 ∧
        ∃ kept,
          files.IsRewritten (perform invocation current lines).files path
              (source.grown groups
                (source.commandHistory.take kept)).saved.toJson.renderPretty ∧
            (invocation.ReadsElsewhere files path → source.commandHistory.length ≤ kept) := by
  rcases perform_cases stateFile noLines batch current lines
    with ⟨fails, unchanged⟩ | ⟨next, again, written, succeeds⟩
  · refine .inl ⟨fun elsewhere => fails ?_, fails, unchanged⟩
    obtain ⟨next, again⟩ := remembers.exists_again prepared rewritten elsewhere
    obtain ⟨later, written⟩ := rewritten.isWritable next.saved.toJson.renderPretty
    exact (perform_of_remembers stateFile noLines batch again written lines).1
  · obtain ⟨settings, configured, same⟩ := again.exists_saved_eq prepared rewritten
    refine
      .inr
        ⟨succeeds, settings.commandHistoryLength, same ▸ rewritten.write? written,
          fun elsewhere => ?_⟩
    -- The settings are the same ones then, and so is the number of lines that they allow.
    rw [config_eq_of_readsElsewhere rewritten elsewhere, prepared.configured] at configured
    cases configured
    exact prepared.few

end Invocation

end Restart

/-! ## Any number of restarts -/

/-- The JSON value in a file, if it holds one. -/
def jsonIn? (find : Lookup) (path : String) : Option Json :=
  (readText find path).toOption.bind Json.read?

/-- The files after the program was called again, once for every text entered. -/
def rerun (arguments : List String) (inputs : List String) (files : FileTree) : FileTree :=
  inputs.foldl (fun files input => (run arguments files input).files) files

theorem rerun_singleton
    (arguments : List String)
    (input : String)
    (files : FileTree) :
    rerun arguments [input] files = (run arguments files input).files := rfl

/-- How often the program succeeded when it was called again. -/
def successes (arguments : List String) : List String → FileTree → Nat
  | [], _ => 0
  | input :: inputs, files =>
      (if (run arguments files input).exitCode = 0 then 1 else 0)
        + successes arguments inputs (run arguments files input).files

section Rerun

variable {arguments : List String} {invocation : Invocation} {path : String}
  (accepted : Invocation.ofArguments arguments = .ok invocation)
  (stateFile : invocation.state? = some path)
  (batch : invocation.isBatch = true)
  (noLines : invocation.commands = [])

include accepted

theorem run_eq_perform
    (files : FileTree)
    (input : String) :
    run arguments files input = perform invocation files (Text.lines input) := by
  rw [run, accepted]

include stateFile batch noLines

/--
A program that stored what a monitor remembers and is called again stores that
with its groups once more for every restart that succeeds.
-/
theorem exists_isRewritten_rerun
    {files current : FileTree}
    {config : Config}
    {groups : List ModuleSymbols}
    {before source : Monitor}
    (remembers : invocation.Remembers path files.find before)
    (prepared : invocation.IsPrepared files.find config groups source)
    (rewritten : files.IsRewritten current path source.saved.toJson.renderPretty)
    (inputs : List String) :
    ∃ lines,
      files.IsRewritten (rerun arguments inputs current) path
          (source.grown
            (List.replicate (successes arguments inputs current) groups).flatten
            lines).saved.toJson.renderPretty ∧
        lines <+: source.commandHistory ∧
        (invocation.ReadsElsewhere files path →
          successes arguments inputs current = inputs.length ∧ lines = source.commandHistory) := by
  -- What was stored last takes the place of what was stored first, with the groups so far.
  induction inputs generalizing current source with
  | nil =>
      refine ⟨source.commandHistory, ?_, List.prefix_refl _, fun _ => ⟨rfl, rfl⟩⟩
      rw [successes, List.replicate_zero, List.flatten_nil, Monitor.grown_nothing]
      exact rewritten
  | cons input inputs inductionHypothesis =>
      rw [rerun, List.foldl_cons, ← rerun, successes, run_eq_perform accepted]
      rcases Invocation.perform_again prepared rewritten stateFile batch noLines remembers
          (Text.lines input)
        with ⟨noneElsewhere, fails, unchanged⟩ | ⟨succeeds, kept, rewrittenThen, keptAll⟩
      · rw [unchanged, if_neg fails, Nat.zero_add]
        obtain ⟨lines, stored, isPrefix, -⟩ := inductionHypothesis prepared rewritten
        exact
          ⟨lines, stored, isPrefix, fun elsewhere => absurd elsewhere noneElsewhere⟩
      · obtain ⟨lines, stored, isPrefix, all⟩ :=
          inductionHypothesis (prepared.grown kept) rewrittenThen
        rw [Monitor.grown_grown, ← List.flatten_cons, ← List.replicate_succ] at stored
        rw [if_pos succeeds, Nat.add_comm]
        refine
          ⟨lines, stored, isPrefix.trans (List.take_prefix _ _), fun elsewhere => ?_⟩
        obtain ⟨allSucceed, rfl⟩ := all elsewhere
        exact
          ⟨congrArg Nat.succ allSucceed, List.take_of_length_le (keptAll elsewhere)⟩

/-- A run without a dialogue that failed fails again, whatever is entered. -/
theorem rerun_of_fails
    {files : FileTree}
    {input : String}
    (fails : (run arguments files input).exitCode ≠ 0)
    (inputs : List String) :
    rerun arguments inputs files = files := by
  have same : ∀ other, run arguments files other = run arguments files input := by
    intro other
    simp only [run_eq_perform accepted, perform, batch, if_true]
  have unchanged : (run arguments files input).files = files := by
    rw [run_eq_perform accepted] at fails ⊢
    rcases Invocation.perform_cases stateFile noLines batch files (Text.lines input)
      with ⟨-, unchanged⟩ | ⟨_, _, _, succeeds⟩
    · exact unchanged
    · exact absurd succeeds fails
  induction inputs with
  | nil =>
      rfl
  | cons other inputs inductionHypothesis =>
      rw [rerun, List.foldl_cons, same, unchanged]
      exact inductionHypothesis

end Rerun

theorem jsonIn?_of_isRewritten
    {files current : FileTree}
    {path : String}
    {monitor : Monitor}
    (storable : monitor.HasStorableNames)
    (rewritten : files.IsRewritten current path monitor.saved.toJson.renderPretty) :
    jsonIn? current.find path = some monitor.saved.toJson := by
  rw [jsonIn?, rewritten.readText rfl, Except.toOption, Option.bind_some, storable.read?_saved]

/--
What was stored first and last, with a number of restarts between them of which
some succeeded. Each of those listed the groups of the symbol files once more.
-/
structure RelistsGroups
    (invocation : Invocation)
    (path : String)
    (files first last : FileTree)
    (count restarts : Nat)
    (monitor : Monitor)
    (groups : List ModuleSymbols)
    (lines : List String) : Prop where
  read : groupsInAll files.find invocation.symbols = .ok groups
  listed : groups <:+ monitor.symbols.groups
  isPrefix : lines <+: monitor.commandHistory
  firstStored : jsonIn? first.find path = some monitor.saved.toJson
  lastStored :
    jsonIn? last.find path =
      some (monitor.grown (List.replicate restarts groups).flatten lines).saved.toJson
  unchanged_iff :
    jsonIn? last.find path = jsonIn? first.find path ↔
      (restarts = 0 ∨ groups = []) ∧ lines = monitor.commandHistory
  all : invocation.ReadsElsewhere files path → restarts = count ∧ lines = monitor.commandHistory

section Rerun

variable {arguments : List String} {invocation : Invocation} {path : String}
  (accepted : Invocation.ofArguments arguments = .ok invocation)
  (stateFile : invocation.state? = some path)
  (batch : invocation.isBatch = true)
  (noLines : invocation.commands = [])

include accepted stateFile batch noLines

theorem exists_relistsGroups
    {files : FileTree}
    {input : String}
    (succeeds : (run arguments files input).exitCode = 0)
    (inputs : List String) :
    ∃ monitor groups lines,
      RelistsGroups invocation path files (run arguments files input).files
        (rerun arguments inputs (run arguments files input).files)
        inputs.length (successes arguments inputs (run arguments files input).files)
        monitor groups lines := by
  rw [run_eq_perform accepted] at succeeds ⊢
  rcases Invocation.perform_cases stateFile noLines batch files (Text.lines input)
    with ⟨fails, -⟩ | ⟨monitor, remembers, written, -⟩
  · exact absurd succeeds fails
  obtain ⟨config, groups, prepared⟩ := remembers.exists_isPrepared
  have rewritten := FileTree.isRewritten_of_write? written
  obtain ⟨lines, stored, isPrefix, all⟩ :=
    exists_isRewritten_rerun accepted stateFile batch noLines remembers prepared rewritten inputs
  have areStorable :
      ∀ count, ∀ group ∈ (List.replicate count groups).flatten, group.IsStorable := by
    intro count group member
    obtain ⟨again, isAgain, isIn⟩ := List.mem_flatten.mp member
    rw [List.eq_of_mem_replicate isAgain] at isIn
    exact isStorable_of_groupsInAll prepared.added group isIn
  have firstStored := jsonIn?_of_isRewritten prepared.names rewritten
  have lastStored := jsonIn?_of_isRewritten (prepared.names.grown (areStorable _) lines) stored
  refine
    ⟨monitor, groups, lines, prepared.added, prepared.listed, isPrefix, firstStored, lastStored,
      ?_, all⟩
  rw [firstStored, lastStored, Option.some.injEq,
    Monitor.saved_grown_eq_iff prepared.names (areStorable _), List.flatten_eq_nil_iff,
    List.forall_mem_replicate, or_iff_not_imp_left]

/-- Once a symbol file holds a group, the next run does not leave what is stored as it is. -/
theorem jsonIn?_run_ne
    {files : FileTree}
    {input : String}
    {groups : List ModuleSymbols}
    (succeeds : (run arguments files input).exitCode = 0)
    (elsewhere : invocation.ReadsElsewhere files path)
    (added : groupsInAll files.find invocation.symbols = .ok groups)
    (holdSome : groups ≠ [])
    (next : String) :
    jsonIn? (run arguments (run arguments files input).files next).files.find path ≠
      jsonIn? (run arguments files input).files.find path := by
  obtain ⟨monitor, read, lines, relists⟩ :=
    exists_relistsGroups accepted stateFile batch noLines succeeds [next]
  cases relists.read.symm.trans added
  obtain ⟨all, rfl⟩ := relists.all elsewhere
  rw [rerun_singleton, all] at relists
  intro same
  exact (relists.unchanged_iff.mp same).1.elim nofun holdSome

end Rerun

/--
A program called without a dialogue and without operator lines, and called
again and again with the same arguments. If it fails, nothing is ever stored.
Otherwise the groups of its symbol files are listed once more for every restart
that succeeds, and nothing else changes but for operator lines that are dropped.
All restarts succeed, and no line is dropped, if the stored state is not used
as another file as well.
-/
theorem restarts_repeat_symbol_groups
    {arguments : List String}
    {invocation : Invocation}
    {path : String}
    (accepted : Invocation.ofArguments arguments = .ok invocation)
    (stateFile : invocation.state? = some path)
    (batch : invocation.isBatch = true)
    (noLines : invocation.commands = [])
    (files : FileTree)
    (input : String)
    (inputs : List String) :
    let first := run arguments files input
    let last := rerun arguments inputs first.files
    (first.exitCode ≠ 0 → first.files = files ∧ last = files) ∧
      (first.exitCode = 0 →
        ∃ monitor groups lines,
          RelistsGroups invocation path files first.files last inputs.length
            (successes arguments inputs first.files) monitor groups lines) := by
  intro first last
  constructor
  · intro fails
    have unchanged : first.files = files :=
      (rerun_singleton arguments input files).symm.trans
        (rerun_of_fails accepted stateFile batch noLines fails [input])
    refine ⟨unchanged, ?_⟩
    rw [show last = rerun arguments inputs files by rw [← unchanged]]
    exact rerun_of_fails accepted stateFile batch noLines fails inputs
  · intro succeeds
    exact exists_relistsGroups accepted stateFile batch noLines succeeds inputs

section OneGroup

/-- A tree with a symbol file that holds one group. -/
def oneGroupFiles : FileTree :=
  .ofList [("m.json", "\x7b\"module\":\"m\",\"length\":1\x7d".toUTF8.toList)]

def oneGroupArguments : List String :=
  ["--state", "s.json", "--batch", "--symbols", "m.json"]

def oneGroupInvocation : Invocation :=
  ⟨none, "0", none, ["m.json"], none, some "s.json", "warn", [], true⟩

theorem ofArguments_oneGroup :
    Invocation.ofArguments oneGroupArguments = .ok oneGroupInvocation := by
  decide +kernel

theorem run_oneGroup_succeeds : (run oneGroupArguments oneGroupFiles "").exitCode = 0 := by
  decide +kernel

theorem readsElsewhere_oneGroup : oneGroupInvocation.ReadsElsewhere oneGroupFiles "s.json" := by
  unfold Invocation.ReadsElsewhere
  decide +kernel

theorem groupsInAll_oneGroup :
    groupsInAll oneGroupFiles.find oneGroupInvocation.symbols =
      .ok [ModuleSymbols.empty "m" 0 1] := by
  decide +kernel

/-- The group is listed three times after two restarts. -/
theorem two_restarts_list_group_three_times :
    Invocation.ofArguments oneGroupArguments = .ok oneGroupInvocation ∧
      (run oneGroupArguments oneGroupFiles "").exitCode = 0 ∧
      ∃ monitor : Monitor,
        [ModuleSymbols.empty "m" 0 1] <:+ monitor.symbols.groups ∧
          jsonIn? (run oneGroupArguments oneGroupFiles "").files.find "s.json" =
            some monitor.saved.toJson ∧
          jsonIn?
              (rerun oneGroupArguments ["", ""]
                (run oneGroupArguments oneGroupFiles "").files).find
              "s.json" =
            some
              (monitor.grown [ModuleSymbols.empty "m" 0 1, ModuleSymbols.empty "m" 0 1]
                monitor.commandHistory).saved.toJson := by
  obtain ⟨monitor, groups, lines, relists⟩ :=
    (restarts_repeat_symbol_groups ofArguments_oneGroup rfl rfl rfl oneGroupFiles "" ["", ""]).2
      run_oneGroup_succeeds
  cases relists.read.symm.trans groupsInAll_oneGroup
  obtain ⟨both, rfl⟩ := relists.all readsElsewhere_oneGroup
  rw [both] at relists
  exact
    ⟨ofArguments_oneGroup, run_oneGroup_succeeds, monitor, relists.listed, relists.firstStored,
      relists.lastStored⟩

/-- The second run does not leave what the first one stored as it is. -/
theorem second_run_stores_something_else :
    (run oneGroupArguments oneGroupFiles "").exitCode = 0 ∧
      jsonIn?
          (run oneGroupArguments (run oneGroupArguments oneGroupFiles "").files "").files.find
          "s.json" ≠
        jsonIn? (run oneGroupArguments oneGroupFiles "").files.find "s.json" :=
  ⟨run_oneGroup_succeeds,
    jsonIn?_run_ne ofArguments_oneGroup rfl rfl rfl run_oneGroup_succeeds readsElsewhere_oneGroup
      groupsInAll_oneGroup (List.cons_ne_nil _ _) ""⟩

end OneGroup

end CommandLine

end Monitor8080
