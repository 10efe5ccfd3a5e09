import Monitor8080.CommandLine.Program
import Monitor8080.Proofs.StoredText
namespace Monitor8080

/-!
# Symbol files

The groups of symbol files are added behind those that a table has already,
file by file and whatever these are. Everything that is read this way can be
stored, but what is stored of a monitor is no symbol file.
-/

/-! ## Groups in texts -/

namespace SymbolListing

/-- The group that a symbol file gives. -/
def group (listing : SymbolListing) : ModuleSymbols :=
  listing.symbols.foldl (fun group symbol => group.insert symbol.1 symbol.2)
    (ModuleSymbols.empty listing.module listing.base listing.length)

/-- The groups that the text of a symbol file gives. -/
def ofText? (text : String) : Option (List SymbolListing) :=
  ((Json.read? text).bind Json.keep?).bind groups?

/-- A group that is read can be stored. -/
theorem isStorable_group
    {value : Json}
    {listing : SymbolListing}
    (read : ofJson? value = some listing) :
    listing.group.IsStorable := by
  obtain ⟨fields, -, read⟩ := Option.bind_eq_some_iff.mp read
  obtain ⟨module, -, read⟩ := Option.bind_eq_some_iff.mp read
  obtain ⟨base, -, read⟩ := Option.bind_eq_some_iff.mp read
  obtain ⟨length, lengthRead, read⟩ := Option.bind_eq_some_iff.mp read
  obtain ⟨symbols, -, read⟩ := Option.bind_eq_some_iff.mp read
  cases read
  obtain ⟨lengthField, -, counted⟩ := Option.bind_eq_some_iff.mp lengthRead
  have storable :=
    SymbolTable.isStorable_empty.withModule module base (Json.lt_of_natBelow? counted) symbols
  exact storable _ List.mem_cons_self

/-- Every group of a symbol file can be stored. -/
theorem isStorable_of_mem_groups?
    {value : Json}
    {listings : List SymbolListing}
    (read : groups? value = some listings) :
    ∀ listing ∈ listings, listing.group.IsStorable := by
  unfold groups? at read
  split at read
  · rename_i group readOne
    cases read
    intro listing member
    rw [List.mem_singleton.mp member]
    exact isStorable_group readOne
  · unfold Json.list? at read
    split at read
    · intro listing member
      obtain ⟨item, readItem⟩ := Json.exists_of_mem_mapM read member
      exact isStorable_group readItem
    · cases read

/-- What is stored of a monitor is no symbol file. -/
theorem ofText?_saved
    {monitor : Monitor}
    (storable : monitor.HasStorableNames) :
    ofText? monitor.saved.toJson.renderPretty = none := by
  have kept : monitor.saved.toJson.keep? = some monitor.saved.toJson :=
    storable.isKept_toJson.keptWithin?_eq
      (show Monitor.savedNesting + 2 < Json.depthLimit by decide)
  rw [ofText?, storable.read?_saved, Option.bind_some, kept, Option.bind_some]
  rfl

end SymbolListing

namespace SymbolTable

/-- The table with some more groups. -/
def withGroups (table : SymbolTable) (groups : List ModuleSymbols) : SymbolTable :=
  ⟨table.groups ++ groups⟩

theorem withGroups_nil (table : SymbolTable) : table.withGroups [] = table :=
  congrArg mk (List.append_nil table.groups)

/-- Groups are added in two parts, the second one behind the first. -/
theorem withGroups_withGroups
    (table : SymbolTable)
    (first second : List ModuleSymbols) :
    (table.withGroups first).withGroups second = table.withGroups (first ++ second) :=
  congrArg mk (List.append_assoc table.groups first second)

/-- Listings are added as the groups that they make. -/
theorem foldl_withModule
    (listings : List SymbolListing)
    (table : SymbolTable) :
    listings.foldl
        (fun table listing =>
          table.withModule listing.module listing.base listing.length listing.symbols)
        table =
      table.withGroups (listings.map (·.group)) := by
  induction listings generalizing table with
  | nil =>
      exact table.withGroups_nil.symm
  | cons listing listings inductionHypothesis =>
      rw [List.foldl_cons, inductionHypothesis]
      exact table.withGroups_withGroups [listing.group] _

/-- What is loaded from a symbol file are its groups, whatever was there before. -/
theorem loadText?_eq
    (table : SymbolTable)
    (text : String) :
    table.loadText? text =
      (SymbolListing.ofText? text).map fun listings =>
        (listings.length, table.withGroups (listings.map (·.group))) := by
  simp only [loadText?, foldl_withModule, SymbolListing.ofText?, Option.bind_eq_bind,
    Option.bind_assoc, Option.map_eq_bind, Option.pure_def, Function.comp_def]

end SymbolTable

/-- The monitor with some more groups of symbols. -/
def Monitor.withGroups (monitor : Monitor) (groups : List ModuleSymbols) : Monitor :=
  { monitor with symbols := monitor.symbols.withGroups groups }

theorem Monitor.withGroups_nil (monitor : Monitor) : monitor.withGroups [] = monitor := by
  rw [withGroups, SymbolTable.withGroups_nil]

theorem Monitor.withGroups_withGroups
    (monitor : Monitor)
    (first second : List ModuleSymbols) :
    (monitor.withGroups first).withGroups second = monitor.withGroups (first ++ second) := by
  rw [withGroups, withGroups, withGroups, SymbolTable.withGroups_withGroups]

namespace CommandLine

/-! ## Groups in files -/

/-- The groups that a symbol file holds. -/
def groupsIn (find : Lookup) (path : String) : Except ProgramError (List ModuleSymbols) := do
  let text ← readText find path
  match SymbolTable.empty.loadText? text with
  | some (_, symbols) => return symbols.groups
  | none => throw (.malformed path)

/-- The groups that symbol files hold, in order. -/
def groupsInAll (find : Lookup) : List String → Except ProgramError (List ModuleSymbols)
  | [] => return []
  | path :: paths => do return (← groupsIn find path) ++ (← groupsInAll find paths)

variable {find : Lookup} {path : String} {groups : List ModuleSymbols}

/-- The groups in a file are those of the listings in its text. -/
theorem groupsIn_eq_ok_iff :
    groupsIn find path = .ok groups ↔
      ∃ text listings,
        readText find path = .ok text ∧
          SymbolListing.ofText? text = some listings ∧ listings.map (·.group) = groups := by
  unfold groupsIn
  simp only [SymbolTable.loadText?_eq]
  cases readText find path with
  | error error =>
      simp [bind, Except.bind]
  | ok text =>
      cases listed : SymbolListing.ofText? text with
      | none =>
          simp [listed, bind, Except.bind, throw, throwThe, MonadExceptOf.throw]
      | some listings =>
          simp [listed, bind, Except.bind, pure, Except.pure, SymbolTable.withGroups,
            SymbolTable.empty]

/-- Files are read one after the other, and all of them must be. -/
theorem groupsInAll_cons_eq_ok_iff {paths : List String} :
    groupsInAll find (path :: paths) = .ok groups ↔
      ∃ first rest,
        groupsIn find path = .ok first ∧
          groupsInAll find paths = .ok rest ∧ first ++ rest = groups := by
  rw [groupsInAll]
  simp only [bind_eq_ok_iff]
  constructor
  · rintro ⟨first, firstRead, rest, restRead, ⟨⟩⟩
    exact ⟨first, rest, firstRead, restRead, rfl⟩
  · rintro ⟨first, rest, firstRead, restRead, rfl⟩
    exact ⟨first, firstRead, rest, restRead, rfl⟩

/-- The groups in a file can be stored again. -/
theorem isStorable_of_groupsIn (read : groupsIn find path = .ok groups) :
    ∀ group ∈ groups, group.IsStorable := by
  obtain ⟨text, listings, -, listed, rfl⟩ := groupsIn_eq_ok_iff.mp read
  obtain ⟨value, -, isListing⟩ := Option.bind_eq_some_iff.mp listed
  exact List.forall_mem_map.mpr (SymbolListing.isStorable_of_mem_groups? isListing)

/-- Every group that symbol files hold can be stored. -/
theorem isStorable_of_groupsInAll
    {paths : List String}
    (read : groupsInAll find paths = .ok groups) :
    ∀ group ∈ groups, group.IsStorable := by
  induction paths generalizing groups with
  | nil =>
      cases read
      exact nofun
  | cons path paths inductionHypothesis =>
      obtain ⟨first, rest, firstRead, restRead, rfl⟩ := groupsInAll_cons_eq_ok_iff.mp read
      exact
        List.forall_mem_append.mpr
          ⟨isStorable_of_groupsIn firstRead, inductionHypothesis restRead⟩

/-- A file whose groups are read can be read by itself. -/
theorem exists_groupsIn_of_mem
    {paths : List String}
    (read : groupsInAll find paths = .ok groups)
    (member : path ∈ paths) :
    ∃ first, groupsIn find path = .ok first := by
  induction paths generalizing groups with
  | nil =>
      cases member
  | cons other paths inductionHypothesis =>
      obtain ⟨first, rest, firstRead, restRead, -⟩ := groupsInAll_cons_eq_ok_iff.mp read
      rcases List.mem_cons.mp member with rfl | further
      · exact ⟨first, firstRead⟩
      · exact inductionHypothesis restRead further

/-! ## Other files -/

section Congruence

variable {left right : Lookup} {path : String}

/-- Bytes depend only on what is found under a path. -/
theorem readBytes_congr (same : left path = right path) :
    readBytes left path = readBytes right path := by
  rw [readBytes, readBytes, same]

theorem readText_congr (same : left path = right path) :
    readText left path = readText right path := by
  rw [readText, readText, readBytes_congr same]

/-- The groups in files depend only on what is found under their paths. -/
theorem groupsInAll_congr
    {paths : List String}
    (same : ∀ path ∈ paths, left path = right path) :
    groupsInAll left paths = groupsInAll right paths := by
  induction paths with
  | nil =>
      rfl
  | cons path paths inductionHypothesis =>
      have sameText := readText_congr (same path List.mem_cons_self)
      rw [groupsInAll, groupsInAll, groupsIn, groupsIn, sameText,
        inductionHypothesis fun other member => same other (List.mem_cons_of_mem _ member)]

end Congruence

end CommandLine

end Monitor8080
