import Mathlib.Data.List.Induction
import Monitor8080.Proofs.NameMaps
import Monitor8080.Symbols.Table
namespace Monitor8080

/-!
# The two indexes of a symbol group

A group finds its symbols by name and by offset. However its symbols were
defined, the offsets stand in order and are exactly those of the records found
by name, and a record has the first spelling that was given for its name and
the last definition that was given under that spelling.
-/

namespace NameMap

variable {map : NameMap α}

/-- What is inserted is found under its name, and everything else as before. -/
theorem find?_insert
    (map : NameMap α)
    (name other : String)
    (value : α) :
    (insert map name value).find? other =
      if other = name then some value else map.find? other := by
  induction map with
  | nil =>
      by_cases same : other = name
      · subst same
        simp [insert, NameMap.find?]
      · simp [insert, NameMap.find?, same, Ne.symm same]
  | cons head rest inductionHypothesis =>
      obtain ⟨present, kept⟩ := head
      by_cases same : other = name
      · subst same
        rw [if_pos rfl] at inductionHypothesis ⊢
        unfold insert
        split
        · simp [NameMap.find?]
        · split
          · simp [NameMap.find?]
          · rename_i different
            simpa [NameMap.find?, Ne.symm different] using inductionHypothesis
      · rw [if_neg same] at inductionHypothesis ⊢
        unfold insert
        split
        · simp [NameMap.find?, Ne.symm same]
        · split
          · rename_i here
            subst here
            simp [NameMap.find?, Ne.symm same]
          · simp only [NameMap.find?, List.find?_cons] at inductionHypothesis ⊢
            split
            · rfl
            · exact inductionHypothesis

/-- The entries of a map in order are what is found under their names. -/
theorem IsOrdered.mem_iff_find?
    (ordered : IsOrdered map)
    (entry : String × α) :
    entry ∈ map ↔ map.find? entry.1 = some entry.2 := by
  induction map with
  | nil =>
      simp [NameMap.find?]
  | cons head rest inductionHypothesis =>
      obtain ⟨below, restOrdered⟩ := List.pairwise_cons.mp ordered
      simp only [NameMap.find?] at inductionHypothesis ⊢
      by_cases same : head.1 = entry.1
      · have onlyHere : entry ∉ rest :=
          fun inRest => String.lt_irrefl _ (same ▸ below entry inRest)
        simp [same, onlyHere, Prod.ext_iff, eq_comm]
      · have notHere : entry ≠ head := fun here => same (congrArg Prod.fst here.symm)
        simp [same, notHere, inductionHypothesis restOrdered]

end NameMap

namespace ModuleSymbols

/-! ## The index of offsets -/

/-- Entries of the index are compared by offset, and by name if the offsets are equal. -/
theorem isBefore_iff (left right : UInt16 × String) :
    isBefore left right ↔ Prod.Lex (· < ·) (· < ·) left right := by
  simp [isBefore, Prod.lex_def]

theorem mem_insertEntry
    {entry other : UInt16 × String}
    {entries : List (UInt16 × String)} :
    other ∈ insertEntry entry entries ↔ other = entry ∨ other ∈ entries := by
  induction entries with
  | nil =>
      simp [insertEntry]
  | cons head rest inductionHypothesis =>
      unfold insertEntry
      split
      · rename_i same
        simp [same]
      · split
        · exact List.mem_cons
        · simp only [List.mem_cons, inductionHypothesis]
          exact or_left_comm

/-- Entries are in increasing order, and so none is there twice. -/
def IsIncreasing (entries : List (UInt16 × String)) : Prop :=
  entries.Pairwise (Prod.Lex (· < ·) (· < ·))

theorem lex_trans
    {first second third : UInt16 × String}
    (before : Prod.Lex (· < ·) (· < ·) first second)
    (beforeNext : Prod.Lex (· < ·) (· < ·) second third) :
    Prod.Lex (· < ·) (· < ·) first third := by
  rw [Prod.lex_def] at before beforeNext ⊢
  rcases before with less | ⟨same, less⟩
  · rcases beforeNext with lessNext | ⟨sameNext, -⟩
    · exact .inl (UInt16.lt_trans less lessNext)
    · exact .inl (sameNext ▸ less)
  · rcases beforeNext with lessNext | ⟨sameNext, lessNext⟩
    · exact .inl (same ▸ lessNext)
    · exact .inr ⟨same.trans sameNext, String.lt_trans less lessNext⟩

/-- Of two entries that differ one is before the other. -/
theorem lex_of_not_isBefore
    {entry other : UInt16 × String}
    (different : entry ≠ other)
    (notBefore : ¬ isBefore entry other) :
    Prod.Lex (· < ·) (· < ·) other entry := by
  rw [isBefore_iff, Prod.lex_def, not_or, not_and] at notBefore
  rw [Prod.lex_def]
  obtain ⟨notLess, notAfter⟩ := notBefore
  by_cases same : entry.1 = other.1
  · have names : entry.2 ≠ other.2 := fun sameName => different (Prod.ext same sameName)
    exact .inr ⟨same.symm, Std.lt_of_le_of_ne (String.not_lt.mp (notAfter same)) names.symm⟩
  · exact .inl (UInt16.lt_of_le_of_ne (UInt16.not_lt.mp notLess) (Ne.symm same))

theorem IsIncreasing.insertEntry
    {entries : List (UInt16 × String)}
    (increasing : IsIncreasing entries)
    (entry : UInt16 × String) :
    IsIncreasing (insertEntry entry entries) := by
  induction entries with
  | nil =>
      exact List.pairwise_singleton _ _
  | cons head rest inductionHypothesis =>
      obtain ⟨below, restIncreasing⟩ := List.pairwise_cons.mp increasing
      unfold ModuleSymbols.insertEntry
      split
      · exact increasing
      · rename_i different
        split
        · rename_i before
          rw [isBefore_iff] at before
          refine List.pairwise_cons.mpr ⟨fun other member => ?_, increasing⟩
          rcases List.mem_cons.mp member with rfl | inRest
          · exact before
          · exact lex_trans before (below other inRest)
        · rename_i notBefore
          refine List.pairwise_cons.mpr ⟨fun other member => ?_, inductionHypothesis restIncreasing⟩
          rcases mem_insertEntry.mp member with rfl | inRest
          · exact lex_of_not_isBefore different notBefore
          · exact below other inRest

section Reindex

variable
  {offsets : Array (UInt16 × String)}
  {name : String}
  {old? new? : Option UInt16}

/-- The index of a name that moves loses its old entry and gets its new one. -/
theorem mem_reindex (offset : UInt16) (other : String) :
    (offset, other) ∈ reindex offsets name old? new? ↔
      other = name ∧ new? = some offset ∨
        (offset, other) ∈ offsets ∧ ¬ (other = name ∧ old? = some offset) := by
  have sameEntry :
      ∀ place : UInt16, (offset, other) = (place, name) ↔ other = name ∧ some place = some offset := by
    intro place
    rw [Prod.mk.injEq, Option.some.injEq, and_comm, eq_comm (a := offset)]
  cases old? <;> cases new? <;>
    simp only [reindex, List.mem_toArray, Array.mem_toList_iff, mem_insertEntry, List.mem_filter,
      decide_eq_true_eq, ne_eq, sameEntry, reduceCtorEq, and_false, false_or, not_false_eq_true,
      and_true]

theorem IsIncreasing.reindex (increasing : IsIncreasing offsets.toList) :
    IsIncreasing (reindex offsets name old? new?).toList := by
  have kept :
      ∀ test : UInt16 × String → Bool, IsIncreasing (offsets.toList.filter test) :=
    fun test => List.Pairwise.filter test increasing
  cases old? <;> cases new?
  · exact increasing
  · exact increasing.insertEntry _
  · exact kept _
  · exact (kept _).insertEntry _

end Reindex

/-! ## Both indexes -/

/--
The symbols stand in order of their names in capitals, and the index in order
of offset and name. It holds exactly the offsets of the records.
-/
structure IsIndexed (group : ModuleSymbols) : Prop where
  byName : group.byName.IsOrdered
  keys : ∀ entry ∈ group.byName, entry.1 = Text.capitals entry.2.name
  offsets : IsIncreasing group.offsets.toList
  indexed :
    ∀ offset name,
      (offset, name) ∈ group.offsets ↔
        ∃ entry ∈ group.byName, entry.2.name = name ∧ entry.2.offset? = some offset

/-- A symbol is defined unless another spelling of its name is there. -/
theorem insert_eq
    (group : ModuleSymbols)
    (name : String)
    (definition : SymbolDefinition) :
    group.insert name definition =
      if (group.byName.find? (Text.capitals name)).all (·.name = name) then
        { group with
          byName := group.byName.insert (Text.capitals name) (record name definition)
          offsets :=
            reindex group.offsets name
              ((group.byName.find? (Text.capitals name)).bind (·.offset?)) definition.offset? }
      else
        group := by
  simp only [insert]
  cases group.byName.find? (Text.capitals name) with
  | none =>
      rfl
  | some previous =>
      by_cases same : previous.name = name <;> simp [same]

/-- The record of a name is the one found under it in capitals. -/
theorem exists_record_iff
    {byName : NameMap KnownSymbol}
    (ordered : byName.IsOrdered)
    (keys : ∀ entry ∈ byName, entry.1 = Text.capitals entry.2.name)
    (offset : UInt16)
    (name : String) :
    (∃ entry ∈ byName, entry.2.name = name ∧ entry.2.offset? = some offset) ↔
      ∃ symbol,
        byName.find? (Text.capitals name) = some symbol ∧
          symbol.name = name ∧ symbol.offset? = some offset := by
  constructor
  · rintro ⟨⟨key, symbol⟩, member, rfl, placed⟩
    have found := (ordered.mem_iff_find? _).mp member
    rw [keys _ member] at found
    exact ⟨symbol, found, rfl, placed⟩
  · rintro ⟨symbol, found, same, placed⟩
    exact ⟨(Text.capitals name, symbol), (ordered.mem_iff_find? _).mpr found, same, placed⟩

theorem isIndexed_empty
    (module : String)
    (base : UInt16)
    (length : Nat) :
    (empty module base length).IsIndexed where
  byName := NameMap.isOrdered_nil
  keys := nofun
  offsets := List.Pairwise.nil
  indexed := by simp [empty]

/-- Defining a symbol keeps both indexes as they should be. -/
theorem IsIndexed.insert
    {group : ModuleSymbols}
    (isIndexed : group.IsIndexed)
    (name : String)
    (definition : SymbolDefinition) :
    (group.insert name definition).IsIndexed := by
  rw [insert_eq]
  split
  · rename_i noClash
    have ordered := isIndexed.byName.insert (Text.capitals name) (record name definition)
    have keys :
        ∀ entry ∈ group.byName.insert (Text.capitals name) (record name definition),
          entry.1 = Text.capitals entry.2.name := by
      intro entry member
      rcases NameMap.mem_insert member with rfl | wasThere
      · rfl
      · exact isIndexed.keys entry wasThere
    refine ⟨ordered, keys, isIndexed.offsets.reindex, fun offset other => ?_⟩
    rw [exists_record_iff ordered keys, mem_reindex, isIndexed.indexed,
      exists_record_iff isIndexed.byName isIndexed.keys, NameMap.find?_insert]
    by_cases sameKey : Text.capitals other = Text.capitals name
    · -- The record under this key is a new one, and an old one had the same name.
      rw [if_pos sameKey, sameKey]
      constructor
      · rintro (⟨rfl, placed⟩ | ⟨⟨symbol, found, rfl, placed⟩, stays⟩)
        · exact ⟨_, rfl, rfl, placed⟩
        · rw [found] at stays noClash
          exact absurd ⟨of_decide_eq_true noClash, placed⟩ stays
      · rintro ⟨symbol, isNew, sameName, placed⟩
        cases isNew
        exact .inl ⟨sameName.symm, placed⟩
    · have different : other ≠ name := fun same => sameKey (congrArg _ same)
      simp [sameKey, different]
  · exact isIndexed

/-! ## Definitions one after another -/

/--
The record that some definitions leave under a name in capitals: it has the
first spelling given for the name, and the last definition given under exactly
that spelling.
-/
def surviving?
    (symbols : List (String × SymbolDefinition))
    (key : String) :
    Option KnownSymbol := do
  let first ← symbols.find? fun symbol => Text.capitals symbol.1 = key
  let last ← symbols.reverse.find? fun symbol => symbol.1 = first.1
  return record first.1 last.2

/-- One more definition counts unless another spelling came first. -/
theorem surviving?_append_singleton
    (symbols : List (String × SymbolDefinition))
    (name : String)
    (definition : SymbolDefinition)
    (key : String) :
    surviving? (symbols ++ [(name, definition)]) key =
      if Text.capitals name = key ∧ (surviving? symbols key).all (·.name = name) then
        some (record name definition)
      else
        surviving? symbols key := by
  unfold surviving?
  rw [List.find?_append]
  cases given : symbols.find? fun symbol => Text.capitals symbol.1 = key with
  | none =>
      by_cases here : Text.capitals name = key <;> simp [here]
  | some first =>
      have firstKey := List.find?_some given
      rw [decide_eq_true_iff] at firstKey
      have isGiven : (symbols.reverse.find? fun symbol => symbol.1 = first.1).isSome := by
        rw [List.find?_isSome]
        exact ⟨first, List.mem_reverse.mpr (List.mem_of_find?_eq_some given), decide_eq_true rfl⟩
      obtain ⟨last, lastGiven⟩ := Option.isSome_iff_exists.mp isGiven
      by_cases same : name = first.1
      · simp [same, firstKey, lastGiven, record]
      · simp [same, Ne.symm same, lastGiven, record]

/-- What is found after one more definition, in the same words. -/
theorem find?_byName_insert
    (group : ModuleSymbols)
    (name : String)
    (definition : SymbolDefinition)
    (key : String) :
    (group.insert name definition).byName.find? key =
      if Text.capitals name = key ∧ (group.byName.find? key).all (·.name = name) then
        some (record name definition)
      else
        group.byName.find? key := by
  rw [insert_eq]
  by_cases here : Text.capitals name = key
  · subst here
    split <;> rename_i clashes <;> simp [clashes, NameMap.find?_insert]
  · split <;> simp [here, Ne.symm here, NameMap.find?_insert]

/-- A group of symbols defined in order. -/
def ofDefinitions
    (module : String)
    (base : UInt16)
    (length : Nat)
    (symbols : List (String × SymbolDefinition)) :
    ModuleSymbols :=
  symbols.foldl (fun group symbol => group.insert symbol.1 symbol.2) (empty module base length)

theorem ofDefinitions_isIndexed
    (module : String)
    (base : UInt16)
    (length : Nat)
    (symbols : List (String × SymbolDefinition)) :
    (ofDefinitions module base length symbols).IsIndexed := by
  induction symbols using List.reverseRecOn with
  | nil =>
      exact isIndexed_empty module base length
  | append_singleton earlier symbol inductionHypothesis =>
      rw [ofDefinitions, List.foldl_append]
      exact inductionHypothesis.insert symbol.1 symbol.2

theorem find?_ofDefinitions
    (module : String)
    (base : UInt16)
    (length : Nat)
    (symbols : List (String × SymbolDefinition))
    (key : String) :
    (ofDefinitions module base length symbols).byName.find? key = surviving? symbols key := by
  induction symbols using List.reverseRecOn with
  | nil =>
      rfl
  | append_singleton earlier symbol inductionHypothesis =>
      rw [ofDefinitions, List.foldl_append, surviving?_append_singleton, ← inductionHypothesis]
      exact find?_byName_insert _ _ _ _

end ModuleSymbols

/--
A group of symbols that is added to a table has its two indexes in agreement,
in whatever order and however often its symbols are defined. Of the definitions
of a name the first one decides on its spelling, and of those that are spelled
like it the last one counts.
-/
theorem SymbolTable.added_groups_are_indexed
    (table : SymbolTable)
    (module : String)
    (base : UInt16)
    (length : Nat)
    (symbols : List (String × SymbolDefinition)) :
    ∃ group : ModuleSymbols,
      (table.withModule module base length symbols).groups = table.groups ++ [group] ∧
        group.IsIndexed ∧
        ∀ key, group.byName.find? key = ModuleSymbols.surviving? symbols key :=
  ⟨ModuleSymbols.ofDefinitions module base length symbols, rfl,
    ModuleSymbols.ofDefinitions_isIndexed module base length symbols,
    ModuleSymbols.find?_ofDefinitions module base length symbols⟩

end Monitor8080
