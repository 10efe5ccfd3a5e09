import Monitor8080.Proofs.SymbolFiles
namespace Monitor8080

namespace CommandLine

/-!
# What a run of the program stores

A run without operator lines restores what was stored, adds the groups of its
symbol files, places its image and switches the power on. What it stores then
comes of these four, and of nothing else that the machine or the monitor holds.
If any of them fails, the files stay as they were.
-/

/-! ## Stored state -/

/-- What was stored under a path is restored, if anything was. -/
inductive Restores (find : Lookup) (path : String) (before : Monitor) : Monitor → Prop where
  | nothing (missing : find path = .missing) : Restores find path before before
  | stored
      {text : String}
      {table : SlotTable}
      {restored : Monitor}
      (present : find path ≠ .missing)
      (read : readText find path = .ok text)
      (written : SlotTable.ofText? text = some table)
      (came : before.restore table = .ok restored) :
      Restores find path before restored

namespace Invocation

variable {invocation : Invocation} {path : String} {find : Lookup}

/-- A state file is applied if it restores a monitor, and the machine stays. -/
theorem applyState_run_eq_ok_iff
    (stateFile : invocation.state? = some path)
    {monitor : Monitor}
    {machine : Machine}
    {after : Session} :
    (invocation.applyState find).run ⟨monitor, machine⟩ = (.ok (), after) ↔
      ∃ restored, Restores find path monitor restored ∧ after = ⟨restored, machine⟩ := by
  unfold applyState
  rw [stateFile]
  dsimp only
  constructor
  · intro succeeds
    split at succeeds
    · rename_i missing
      cases succeeds
      exact ⟨_, .nothing missing, rfl⟩
    · rename_i present
      obtain ⟨text, session, got, goesOn⟩ := run_bind_eq_ok_iff.mp succeeds
      obtain ⟨read, rfl⟩ := run_ofExcept_eq_ok_iff.mp got
      split at goesOn
      · cases goesOn
      · rename_i table written
        obtain ⟨session, _, got, goesOn⟩ := run_bind_eq_ok_iff.mp goesOn
        cases got
        split at goesOn
        · rename_i restored came
          cases goesOn
          exact ⟨restored, .stored present read written came, rfl⟩
        · cases goesOn
  · rintro ⟨restored, restores, rfl⟩
    cases restores with
    | nothing missing =>
        rw [if_pos missing]
        rfl
    | stored present read written came =>
        rw [if_neg present]
        refine run_bind_eq_ok_iff.mpr ⟨_, _, run_ofExcept_eq_ok_iff.mpr ⟨read, rfl⟩, ?_⟩
        rw [written]
        refine run_bind_eq_ok_iff.mpr ⟨_, _, rfl, ?_⟩
        rw [came]
        rfl

end Invocation

/-! ## Symbol files -/

variable {find : Lookup} {path : String} {before after : Session} {groups : List ModuleSymbols}

/-- A symbol file is added if it can be read, behind the groups that there are. -/
theorem addSymbols_run_eq_ok_iff :
    (Invocation.addSymbols find path).run before = (.ok (), after) ↔
      ∃ groups,
        groupsIn find path = .ok groups ∧
          after = ⟨before.monitor.withGroups groups, before.machine⟩ := by
  simp only [groupsIn_eq_ok_iff]
  unfold Invocation.addSymbols
  constructor
  · intro succeeds
    obtain ⟨text, session, got, goesOn⟩ := run_bind_eq_ok_iff.mp succeeds
    obtain ⟨read, rfl⟩ := run_ofExcept_eq_ok_iff.mp got
    obtain ⟨session, _, got, goesOn⟩ := run_bind_eq_ok_iff.mp goesOn
    cases got
    rw [SymbolTable.loadText?_eq] at goesOn
    cases listed : SymbolListing.ofText? text with
    | none =>
        rw [listed] at goesOn
        cases goesOn
    | some listings =>
        rw [listed] at goesOn
        cases goesOn
        exact ⟨_, ⟨text, listings, read, listed, rfl⟩, rfl⟩
  · rintro ⟨_, ⟨text, listings, read, listed, rfl⟩, rfl⟩
    refine run_bind_eq_ok_iff.mpr ⟨_, _, run_ofExcept_eq_ok_iff.mpr ⟨read, rfl⟩, ?_⟩
    refine run_bind_eq_ok_iff.mpr ⟨_, _, rfl, ?_⟩
    rw [SymbolTable.loadText?_eq, listed]
    rfl

/-- Symbol files are added in the order that they are given. -/
theorem forM_addSymbols_run_eq_ok_iff {paths : List String} :
    (paths.forM (Invocation.addSymbols find)).run before = (.ok (), after) ↔
      ∃ groups,
        groupsInAll find paths = .ok groups ∧
          after = ⟨before.monitor.withGroups groups, before.machine⟩ := by
  induction paths generalizing before with
  | nil =>
      constructor
      · rintro ⟨⟩
        exact ⟨[], rfl, by rw [Monitor.withGroups_nil]⟩
      · rintro ⟨_, ⟨⟩, rfl⟩
        rw [Monitor.withGroups_nil]
        rfl
  | cons path paths inductionHypothesis =>
      refine run_bind_eq_ok_iff.trans ?_
      constructor
      · rintro ⟨_, session, added, goesOn⟩
        obtain ⟨first, firstRead, rfl⟩ := addSymbols_run_eq_ok_iff.mp added
        obtain ⟨rest, restRead, rfl⟩ := inductionHypothesis.mp goesOn
        exact
          ⟨_, groupsInAll_cons_eq_ok_iff.mpr ⟨first, rest, firstRead, restRead, rfl⟩,
            by rw [Monitor.withGroups_withGroups]⟩
      · rintro ⟨_, read, rfl⟩
        obtain ⟨first, rest, firstRead, restRead, rfl⟩ := groupsInAll_cons_eq_ok_iff.mp read
        refine ⟨(), _, addSymbols_run_eq_ok_iff.mpr ⟨first, firstRead, rfl⟩, ?_⟩
        exact inductionHypothesis.mpr ⟨rest, restRead, by rw [Monitor.withGroups_withGroups]⟩

/-! ## The image and the power -/

namespace Invocation

variable {invocation : Invocation}

/-- Where execution starts. -/
def entryAddress (invocation : Invocation) : Except ProgramError UInt16 :=
  match invocation.entry? with
  | some text => address text
  | none => address invocation.load

/-- The last part of placing an image, which goes to the entry address. -/
def enter (invocation : Invocation) (load : UInt16) : Stage Unit := do
  let entry ←
    match invocation.entry? with
    | some text => address text
    | none => pure load
  modify (·.updateMachine (·.startAt entry))

/-- A program is entered at the address that is given, else where it was loaded. -/
theorem enter_run_eq_ok_iff
    {load : UInt16}
    (loadRead : address invocation.load = .ok load)
    {monitor : Monitor}
    {machine : Machine} :
    (invocation.enter load).run ⟨monitor, machine⟩ = (.ok (), after) ↔
      ∃ entry, invocation.entryAddress = .ok entry ∧ after = ⟨monitor, machine.startAt entry⟩ := by
  unfold enter entryAddress
  cases invocation.entry? with
  | none =>
      constructor
      · rintro ⟨⟩
        exact ⟨load, loadRead, rfl⟩
      · rintro ⟨entry, entryRead, rfl⟩
        cases loadRead.symm.trans entryRead
        rfl
  | some text =>
      constructor
      · intro succeeds
        obtain ⟨entry, session, got, goesOn⟩ := run_bind_eq_ok_iff.mp succeeds
        obtain ⟨entryRead, rfl⟩ := run_ofExcept_eq_ok_iff.mp got
        cases goesOn
        exact ⟨entry, entryRead, rfl⟩
      · rintro ⟨entry, entryRead, rfl⟩
        exact
          run_bind_eq_ok_iff.mpr ⟨entry, _, run_ofExcept_eq_ok_iff.mpr ⟨entryRead, rfl⟩, rfl⟩

/-- The image is put into memory, if there is one. -/
inductive Loads (invocation : Invocation) (find : Lookup) (load : UInt16) (before : Machine) :
    Machine → Prop where
  | nothing (none : invocation.image? = none) : Loads invocation find load before before
  | image
      {path : String}
      {bytes : List UInt8}
      {loaded : Machine}
      (given : invocation.image? = some path)
      (read : readBytes find path = .ok bytes)
      (fits : before.placeImage load bytes = .ok loaded) :
      Loads invocation find load before loaded

/-- An image is placed before the processor is started at the entry. -/
theorem placeImage_run_eq_ok_iff
    {monitor : Monitor}
    {machine : Machine} :
    (invocation.placeImage find).run ⟨monitor, machine⟩ = (.ok (), after) ↔
      ∃ load loaded entry,
        address invocation.load = .ok load ∧
          invocation.Loads find load machine loaded ∧
            invocation.entryAddress = .ok entry ∧ after = ⟨monitor, loaded.startAt entry⟩ := by
  unfold placeImage
  constructor
  · intro succeeds
    obtain ⟨load, session, got, goesOn⟩ := run_bind_eq_ok_iff.mp succeeds
    obtain ⟨loadRead, rfl⟩ := run_ofExcept_eq_ok_iff.mp got
    obtain ⟨loaded, loads, enters⟩ :
        ∃ loaded,
          invocation.Loads find load machine loaded ∧
            (invocation.enter load).run ⟨monitor, loaded⟩ = (.ok (), after) := by
      cases given : invocation.image? with
      | none =>
          rw [given] at goesOn
          exact ⟨machine, .nothing given, goesOn⟩
      | some path =>
          rw [given] at goesOn
          obtain ⟨session, _, got, goesOn⟩ := run_bind_eq_ok_iff.mp goesOn
          cases got
          obtain ⟨bytes, session, got, goesOn⟩ := run_bind_eq_ok_iff.mp goesOn
          obtain ⟨read, rfl⟩ := run_ofExcept_eq_ok_iff.mp got
          split at goesOn
          · rename_i loaded fits
            exact ⟨loaded, .image given read fits, goesOn⟩
          · cases goesOn
    obtain ⟨entry, entryRead, rfl⟩ := (enter_run_eq_ok_iff loadRead).mp enters
    exact ⟨load, loaded, entry, loadRead, loads, entryRead, rfl⟩
  · rintro ⟨load, loaded, entry, loadRead, loads, entryRead, rfl⟩
    have enters : (invocation.enter load).run ⟨monitor, loaded⟩ = (.ok (), _) :=
      (enter_run_eq_ok_iff loadRead).mpr ⟨entry, entryRead, rfl⟩
    refine run_bind_eq_ok_iff.mpr ⟨_, _, run_ofExcept_eq_ok_iff.mpr ⟨loadRead, rfl⟩, ?_⟩
    cases loads with
    | nothing given =>
        rw [given]
        exact enters
    | image given read fits =>
        rw [given]
        refine run_bind_eq_ok_iff.mpr ⟨_, _, rfl, ?_⟩
        refine run_bind_eq_ok_iff.mpr ⟨_, _, run_ofExcept_eq_ok_iff.mpr ⟨read, rfl⟩, ?_⟩
        rw [fits]
        exact enters

end Invocation

/-- Switching the power on moves the code cursor, and changes nothing else that is stored. -/
theorem saved_noticePower
    (monitor : Monitor)
    (machine : Machine) :
    (((⟨monitor, machine⟩ : Session).updateMachine Machine.powerOn).noticePower
        true).monitor.saved =
      { monitor with codeCursor := .ofAddress machine.cpu.pc }.saved := by
  have pc : machine.powerOn.cpu.pc = machine.cpu.pc := by
    unfold Machine.powerOn
    split <;> rfl
  have told :
      ∀ cursor text,
        { monitor.message .cpu text with codeCursor := cursor }.saved =
          { monitor with codeCursor := cursor }.saved := by
    intro cursor text
    unfold Monitor.message
    split <;> rfl
  rw [← pc]
  exact told _ _

/-! ## Whole runs -/

theorem newSession_eq_ok_iff
    {config : Config}
    {session : Session} :
    newSession config = .ok session ↔
      (Monitor.ofConfig config).lacksHistory = false ∧
        session = ⟨Monitor.ofConfig config, .initial⟩ := by
  simp only [newSession]
  cases (Monitor.ofConfig config).lacksHistory with
  | true =>
      simp
  | false =>
      simp [eq_comm]

namespace Invocation

/-- The program comes as far as storing what this monitor remembers. -/
inductive Remembers (invocation : Invocation) (path : String) (find : Lookup) :
    Monitor → Prop where
  | intro
      {config : Config}
      {restored : Monitor}
      {groups : List ModuleSymbols}
      {load entry : UInt16}
      {loaded : Machine}
      (configured : invocation.config find = .ok config)
      (hasHistory : (Monitor.ofConfig config).lacksHistory = false)
      (restores : Restores find path (Monitor.ofConfig config) restored)
      (added : groupsInAll find invocation.symbols = .ok groups)
      (loadRead : address invocation.load = .ok load)
      (loads : invocation.Loads find load .initial loaded)
      (entryRead : invocation.entryAddress = .ok entry) :
      Remembers invocation path find
        { restored.withGroups groups with codeCursor := .ofAddress entry }

variable {invocation : Invocation} (stateFile : invocation.state? = some path)
  (noLines : invocation.commands = [])

include stateFile noLines

/-- A session is prepared from the state file, the symbol files and the image, in this order. -/
theorem prepare_run_eq_ok_iff
    {monitor : Monitor}
    {machine : Machine} :
    (invocation.prepare find).run ⟨monitor, machine⟩ = (.ok (), after) ↔
      ∃ restored groups load loaded entry,
        Restores find path monitor restored ∧
          groupsInAll find invocation.symbols = .ok groups ∧
            address invocation.load = .ok load ∧
              invocation.Loads find load machine loaded ∧
                invocation.entryAddress = .ok entry ∧
                  after =
                    ((⟨restored.withGroups groups, loaded.startAt entry⟩ : Session).updateMachine
                      Machine.powerOn).noticePower true := by
  unfold prepare
  constructor
  · intro succeeds
    obtain ⟨_, session, came, goesOn⟩ := run_bind_eq_ok_iff.mp succeeds
    obtain ⟨restored, restores, rfl⟩ := (applyState_run_eq_ok_iff stateFile).mp came
    obtain ⟨_, session, added, goesOn⟩ := run_bind_eq_ok_iff.mp goesOn
    obtain ⟨groups, read, rfl⟩ := forM_addSymbols_run_eq_ok_iff.mp added
    obtain ⟨_, session, placed, goesOn⟩ := run_bind_eq_ok_iff.mp goesOn
    obtain ⟨load, loaded, entry, loadRead, loads, entryRead, rfl⟩ :=
      placeImage_run_eq_ok_iff.mp placed
    obtain ⟨_, session, switched, goesOn⟩ := run_bind_eq_ok_iff.mp goesOn
    cases switched
    rw [noLines] at goesOn
    cases goesOn
    exact ⟨restored, groups, load, loaded, entry, restores, read, loadRead, loads, entryRead, rfl⟩
  · rintro ⟨restored, groups, load, loaded, entry, restores, read, loadRead, loads, entryRead, rfl⟩
    refine run_bind_eq_ok_iff.mpr
      ⟨(), ⟨restored, machine⟩,
        (applyState_run_eq_ok_iff stateFile).mpr ⟨restored, restores, rfl⟩, ?_⟩
    refine run_bind_eq_ok_iff.mpr
      ⟨(), ⟨restored.withGroups groups, machine⟩,
        forM_addSymbols_run_eq_ok_iff.mpr ⟨groups, read, rfl⟩, ?_⟩
    refine run_bind_eq_ok_iff.mpr
      ⟨(), ⟨restored.withGroups groups, loaded.startAt entry⟩,
        placeImage_run_eq_ok_iff.mpr ⟨load, loaded, entry, loadRead, loads, entryRead, rfl⟩, ?_⟩
    refine run_bind_eq_ok_iff.mpr ⟨(), _, rfl, ?_⟩
    rw [noLines]
    rfl

/-- What the program starts with is what a monitor remembers that it may store. -/
theorem exists_remembers_of_start
    {session : Session}
    (started : (start invocation find).2 = .ok session) :
    ∃ monitor, invocation.Remembers path find monitor ∧ session.monitor.saved = monitor.saved := by
  unfold start at started
  split at started
  · cases started
  · rename_i fresh setUp
    obtain ⟨config, configured, made⟩ := bind_eq_ok_iff.mp setUp
    obtain ⟨hasHistory, rfl⟩ := newSession_eq_ok_iff.mp made
    rcases ran : (invocation.prepare find).run ⟨Monitor.ofConfig config, .initial⟩
      with ⟨outcome, after⟩
    rw [ran] at started
    cases outcome with
    | error error =>
        cases started
    | ok done =>
        cases started
        obtain ⟨restored, groups, load, loaded, entry, restores, read, loadRead, loads, entryRead,
          rfl⟩ := (prepare_run_eq_ok_iff stateFile noLines).mp ran
        exact
          ⟨_, .intro configured hasHistory restores read loadRead loads entryRead,
            saved_noticePower _ _⟩

/-- A start with a state file that remembers a monitor begins with what it saved. -/
theorem exists_start_of_remembers
    {monitor : Monitor}
    (remembers : invocation.Remembers path find monitor) :
    ∃ session,
      (start invocation find).2 = .ok session ∧ session.monitor.saved = monitor.saved := by
  cases remembers with
  | @intro config restored groups load entry loaded configured hasHistory restores added loadRead
      loads entryRead =>
      have setUp :
          (invocation.config find >>= newSession) = .ok ⟨Monitor.ofConfig config, .initial⟩ :=
        bind_eq_ok_iff.mpr
          ⟨config, configured, newSession_eq_ok_iff.mpr ⟨hasHistory, rfl⟩⟩
      have ran :=
        (prepare_run_eq_ok_iff stateFile noLines).mpr
          ⟨restored, groups, load, loaded, entry, restores, added, loadRead, loads, entryRead, rfl⟩
      unfold start
      rw [setUp]
      simp only [ran]
      exact ⟨_, rfl, saved_noticePower _ _⟩

omit noLines in
theorem store_eq
    (files : FileTree)
    (session : Session) :
    store invocation files session =
      ((files.write? path session.monitor.saved.toJson.renderPretty).elim
        (.error (.unwritable path)) .ok) := by
  have toWrite :
      invocation.stateToWrite? session =
        some (path, session.monitor.saved.toJson.renderPretty) := by
    rw [stateToWrite?, stateFile, Option.map_some]
  unfold store
  rw [toWrite]
  cases written : files.write? path session.monitor.saved.toJson.renderPretty <;> simp [written]

variable (batch : invocation.isBatch = true)

include batch

/-- A run without a dialogue fails and leaves the files, or stores what a monitor remembers. -/
theorem perform_cases
    (files : FileTree)
    (lines : List String) :
    ((perform invocation files lines).exitCode ≠ 0 ∧
        (perform invocation files lines).files = files) ∨
      ∃ monitor,
        invocation.Remembers path files.find monitor ∧
          files.write? path monitor.saved.toJson.renderPretty =
            some (perform invocation files lines).files ∧
          (perform invocation files lines).exitCode = 0 := by
  have fails : ∀ error : ProgramError, error.exitCode ≠ 0 := by
    intro error
    cases error <;> exact nofun
  unfold perform
  rcases ran : start invocation files.find with ⟨text, error | session⟩
  · exact .inl ⟨fails error, rfl⟩
  · obtain ⟨monitor, remembers, same⟩ :=
      exists_remembers_of_start stateFile noLines (congrArg Prod.snd ran)
    simp only [batch, if_true, store_eq stateFile, same]
    cases written : files.write? path monitor.saved.toJson.renderPretty with
    | none =>
        exact .inl ⟨fails (.unwritable path), rfl⟩
    | some after =>
        exact .inr ⟨monitor, remembers, written, rfl⟩

/-- What a monitor remembers that the program may store is stored where that can be written. -/
theorem perform_of_remembers
    {files after : FileTree}
    {monitor : Monitor}
    (remembers : invocation.Remembers path files.find monitor)
    (written : files.write? path monitor.saved.toJson.renderPretty = some after)
    (lines : List String) :
    (perform invocation files lines).exitCode = 0 ∧
      (perform invocation files lines).files = after := by
  obtain ⟨session, started, same⟩ := exists_start_of_remembers stateFile noLines remembers
  unfold perform
  rcases ran : start invocation files.find with ⟨text, error | other⟩
  · rw [ran] at started
    cases started
  · rw [ran] at started
    cases started
    simp only [batch, if_true, store_eq stateFile, same, written]
    exact ⟨rfl, rfl⟩

end Invocation

end CommandLine

end Monitor8080
