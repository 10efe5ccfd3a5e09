import Monitor8080.Proofs.SymbolIndexes
import Monitor8080.Symbols.Encoding
namespace Monitor8080

/-!
# Searching symbols by address

The index of a group is in order, so halving it leads to the place of an offset:
all entries before it are below the offset and all others above it. The symbol
at an address is the one of the first entry there, and if there is none, the
symbol before the address is the one of the last entry below it.
-/

/-! ## Halving the index -/

section Halving

variable {offsets : Array (UInt16 × String)} {offset : UInt16}

/-- Entries stand in order of their offsets. -/
def AscendsByOffset (offsets : Array (UInt16 × String)) : Prop :=
  ∀ ⦃first second : Nat⦄ ⦃entry other : UInt16 × String⦄,
    first ≤ second →
      offsets[first]? = some entry → offsets[second]? = some other → entry.1 ≤ other.1

theorem ModuleSymbols.IsIncreasing.ascendsByOffset
    (increasing : IsIncreasing offsets.toList) :
    AscendsByOffset offsets := by
  intro first second entry other inOrder isFirst isSecond
  rcases Nat.eq_or_lt_of_le inOrder with rfl | before
  · rw [isFirst] at isSecond
    cases isSecond
    exact UInt16.le_refl _
  · obtain ⟨insideFirst, rfl⟩ := Array.getElem?_eq_some_iff.mp isFirst
    obtain ⟨insideSecond, rfl⟩ := Array.getElem?_eq_some_iff.mp isSecond
    have less :=
      List.pairwise_iff_getElem.mp increasing first second insideFirst insideSecond before
    simp only [Array.getElem_toList, Prod.lex_def] at less
    rcases less with below | ⟨same, -⟩
    · exact UInt16.le_of_lt below
    · exact UInt16.le_of_eq same

/-- Whether the entry of a number is above an offset. -/
def isAboveAt (offsets : Array (UInt16 × String)) (offset : UInt16) (index : Nat) : Bool :=
  (offsets[index]?).any fun entry => offset < entry.1

theorem isAboveAt_of_getElem?
    {index : Nat}
    {entry : UInt16 × String}
    (isEntry : offsets[index]? = some entry) :
    isAboveAt offsets offset index = decide (offset < entry.1) := by
  rw [isAboveAt, isEntry, Option.any_some]

/-- What comes after an entry above the offset is above it, too. -/
theorem AscendsByOffset.isAboveAt_mono
    (ascends : AscendsByOffset offsets)
    {first second : Nat}
    (isAbove : isAboveAt offsets offset first)
    (inOrder : first ≤ second)
    (inside : second < offsets.size) :
    isAboveAt offsets offset second := by
  have isFirst : offsets[first]? = some offsets[first] := Array.getElem?_eq_getElem (by omega)
  have isSecond : offsets[second]? = some offsets[second] := Array.getElem?_eq_getElem inside
  rw [isAboveAt_of_getElem? isFirst, decide_eq_true_iff] at isAbove
  rw [isAboveAt_of_getElem? isSecond, decide_eq_true_iff]
  exact UInt16.lt_of_lt_of_le isAbove (ascends inOrder isFirst isSecond)

theorem halve_of_le_one
    {base size : Nat}
    (small : size ≤ 1) :
    halve offsets offset base size = base := by
  rw [halve, if_pos small]

theorem halve_of_one_lt
    {base size : Nat}
    (large : 1 < size) :
    halve offsets offset base size =
      halve offsets offset
        (if isAboveAt offsets offset (base + size / 2) then base else base + size / 2)
        (size - size / 2) := by
  rw [halve, if_neg (Nat.not_le.mpr large)]
  rfl

/-- Halving ends before all entries above the offset, and at the first of all if that is above it. -/
theorem halve_spec
    (offset : UInt16)
    (ascends : AscendsByOffset offsets)
    {base size : Nat}
    (positive : 0 < size)
    (inside : base + size ≤ offsets.size) :
    base ≤ halve offsets offset base size ∧
      halve offsets offset base size < base + size ∧
      (halve offsets offset base size = base ∨
        isAboveAt offsets offset (halve offsets offset base size) = false) ∧
      ∀ later,
        halve offsets offset base size < later →
          later < base + size → isAboveAt offsets offset later := by
  induction size using Nat.strongRecOn generalizing base with
  | ind size inductionHypothesis =>
      rcases Nat.lt_or_ge 1 size with large | small
      · rw [halve_of_one_lt large]
        cases isAbove : isAboveAt offsets offset (base + size / 2) with
        | true =>
            -- Everything from the middle on is above the offset.
            rw [if_pos rfl]
            obtain ⟨atLeast, below, isBelow, above⟩ :=
              @inductionHypothesis (size - size / 2) (by omega) base (by omega) (by omega)
            refine ⟨atLeast, by omega, isBelow, fun later isLater within => ?_⟩
            rcases Nat.lt_or_ge later (base + (size - size / 2)) with early | late
            · exact above later isLater early
            · exact ascends.isAboveAt_mono isAbove (by omega) (by omega)
        | false =>
            rw [if_neg Bool.false_ne_true]
            obtain ⟨atLeast, below, isBelow, above⟩ :=
              @inductionHypothesis (size - size / 2) (by omega) (base + size / 2) (by omega) (by omega)
            refine ⟨by omega, by omega, .inr ?_, fun later isLater within => ?_⟩
            · rcases isBelow with here | isBelow
              · rw [here, isAbove]
              · exact isBelow
            · exact above later isLater (by omega)
      · rw [halve_of_le_one small]
        exact ⟨Nat.le_refl _, by omega, .inl rfl, fun later isLater within => by omega⟩

/-- The place of an offset is at an entry with it, or divides the entries below it from those above. -/
theorem indexPlace_cases
    (offset : UInt16)
    (ascends : AscendsByOffset offsets) :
    (∃ index entry,
      indexPlace offsets offset = .here index ∧
        offsets[index]? = some entry ∧ entry.1 = offset) ∨
      ∃ index,
        indexPlace offsets offset = .before index ∧
          index ≤ offsets.size ∧
          ∀ other entry,
            offsets[other]? = some entry →
              if other < index then entry.1 < offset else offset < entry.1 := by
  unfold indexPlace
  simp only
  rcases Nat.eq_zero_or_pos offsets.size with isEmpty | positive
  · obtain rfl := Array.eq_empty_of_size_eq_zero isEmpty
    exact .inr ⟨0, rfl, Nat.zero_le _, fun other entry isEntry => by simp at isEntry⟩
  · have whole : 0 + offsets.size ≤ offsets.size := by omega
    obtain ⟨-, below, isBelow, above⟩ := halve_spec offset ascends positive whole
    generalize halve offsets offset 0 offsets.size = index at below isBelow above ⊢
    have isThere : offsets[index]? = some offsets[index] := Array.getElem?_eq_getElem (by omega)
    rw [isThere]
    simp only
    split
    · rename_i same
      exact .inl ⟨index, _, rfl, isThere, same⟩
    · rename_i different
      have laterAbove :
          ∀ other entry, index < other → offsets[other]? = some entry → offset < entry.1 := by
        intro other entry isLater isEntry
        obtain ⟨inside, -⟩ := Array.getElem?_eq_some_iff.mp isEntry
        have isAbove := above other isLater (by omega)
        rwa [isAboveAt_of_getElem? isEntry, decide_eq_true_iff] at isAbove
      right
      split
      · rename_i less
        refine ⟨index + 1, rfl, by omega, fun other entry isEntry => ?_⟩
        split
        · rename_i isEarlier
          exact UInt16.lt_of_le_of_lt (ascends (by omega) isEntry isThere) less
        · exact laterAbove other entry (by omega) isEntry
      · rename_i notLess
        have isAbove : offset < offsets[index].1 :=
          UInt16.lt_of_le_of_ne (UInt16.not_lt.mp notLess) (Ne.symm different)
        have isFirst : index = 0 := by
          rcases isBelow with isFirst | notAbove
          · exact isFirst
          · rw [isAboveAt_of_getElem? isThere, decide_eq_false_iff_not] at notAbove
            exact absurd isAbove notAbove
        refine ⟨index, rfl, by omega, fun other entry isEntry => ?_⟩
        rw [if_neg (by omega)]
        exact UInt16.lt_of_lt_of_le isAbove (ascends (by omega) isThere isEntry)

/-- Going back from an entry ends at the first one that has its offset. -/
theorem firstAt_spec
    (ascends : AscendsByOffset offsets)
    {index : Nat}
    {entry : UInt16 × String}
    (isThere : offsets[index]? = some entry)
    (here : entry.1 = offset) :
    ∃ first,
      offsets[firstAt offsets offset index]? = some first ∧
        first.1 = offset ∧
        ∀ other earlier,
          other < firstAt offsets offset index →
            offsets[other]? = some earlier → earlier.1 < offset := by
  induction index generalizing entry with
  | zero =>
      refine ⟨entry, isThere, here, fun other earlier isEarlier => ?_⟩
      exact absurd isEarlier (Nat.not_lt_zero other)
  | succ index inductionHypothesis =>
      obtain ⟨inside, -⟩ := Array.getElem?_eq_some_iff.mp isThere
      have isBefore : offsets[index]? = some offsets[index] := Array.getElem?_eq_getElem (by omega)
      rw [firstAt, isBefore, Option.any_some]
      split
      · rename_i same
        exact inductionHypothesis isBefore (of_decide_eq_true same)
      · rename_i different
        rw [decide_eq_true_iff] at different
        refine ⟨entry, isThere, here, fun other earlier isEarlier isEntry => ?_⟩
        have atMost : offsets[index].1 ≤ offset := here ▸ ascends (by omega) isBefore isThere
        exact UInt16.lt_of_le_of_lt (ascends (by omega) isEntry isBefore)
          (UInt16.lt_of_le_of_ne atMost different)

end Halving

/-! ## The symbol that an address follows -/

namespace ModuleSymbols

/-- The entry at an offset; of several the one whose name comes first. -/
structure IsEntryAt
    (group : ModuleSymbols)
    (offset : UInt16)
    (entry : UInt16 × String) : Prop where
  member : entry ∈ group.offsets
  here : entry.1 = offset
  first : ∀ other ∈ group.offsets, other.1 = offset → other = entry ∨ entry.2 < other.2

/-- The entry below an offset that is the last one in order of offset and name. -/
structure IsEntryBelow
    (group : ModuleSymbols)
    (offset : UInt16)
    (entry : UInt16 × String) : Prop where
  member : entry ∈ group.offsets
  below : entry.1 < offset
  last :
    ∀ other ∈ group.offsets,
      other.1 < offset → other = entry ∨ Prod.Lex (· < ·) (· < ·) other entry

/-- The symbol at an offset, or else the nearest one before it. -/
inductive Follows (group : ModuleSymbols) (offset : UInt16) : Option FoundSymbol → Prop where
  | here
      {entry : UInt16 × String}
      (isHere : group.IsEntryAt offset entry) :
      Follows group offset (some (group.matchOf entry))
  | behind
      {entry : UInt16 × String}
      (noneHere : ∀ other ∈ group.offsets, other.1 ≠ offset)
      (isBelow : group.IsEntryBelow offset entry) :
      Follows group offset (some (group.matchOf entry))
  | ahead (allAbove : ∀ other ∈ group.offsets, offset < other.1) :
      Follows group offset none

variable {group : ModuleSymbols} {offset : UInt16}

/-- Two entries of the index are in order if their numbers are. -/
theorem IsIncreasing.lex
    (increasing : IsIncreasing group.offsets.toList)
    {first second : Nat}
    {entry other : UInt16 × String}
    (before : first < second)
    (isFirst : group.offsets[first]? = some entry)
    (isSecond : group.offsets[second]? = some other) :
    Prod.Lex (· < ·) (· < ·) entry other := by
  obtain ⟨insideFirst, rfl⟩ := Array.getElem?_eq_some_iff.mp isFirst
  obtain ⟨insideSecond, rfl⟩ := Array.getElem?_eq_some_iff.mp isSecond
  exact List.pairwise_iff_getElem.mp increasing first second insideFirst insideSecond before

theorem isEntryAt_firstAt
    (increasing : IsIncreasing group.offsets.toList)
    {index : Nat}
    {entry : UInt16 × String}
    (isThere : group.offsets[index]? = some entry)
    (here : entry.1 = offset) :
    ∃ first,
      group.offsets[firstAt group.offsets offset index]? = some first ∧
        group.IsEntryAt offset first := by
  obtain ⟨first, isFirst, atOffset, earlierBelow⟩ :=
    firstAt_spec increasing.ascendsByOffset isThere here
  refine ⟨first, isFirst, Array.mem_of_getElem? isFirst, atOffset, fun other member same => ?_⟩
  obtain ⟨place, isOther⟩ := Array.getElem?_of_mem member
  rcases Nat.lt_trichotomy place (firstAt group.offsets offset index) with earlier | rfl | later
  · have isBelow := earlierBelow place other earlier isOther
    rw [same] at isBelow
    exact absurd isBelow (UInt16.lt_irrefl _)
  · rw [isFirst] at isOther
    cases isOther
    exact .inl rfl
  · have inOrder := increasing.lex later isFirst isOther
    rw [Prod.lex_def, atOffset, same] at inOrder
    rcases inOrder with less | ⟨-, less⟩
    · exact absurd less (UInt16.lt_irrefl _)
    · exact .inr less

/-- The entry before the place of an offset is the last one below it. -/
theorem isEntryBelow_before
    (increasing : IsIncreasing group.offsets.toList)
    {index : Nat}
    (divides :
      ∀ other entry,
        group.offsets[other]? = some entry →
          if other < index + 1 then entry.1 < offset else offset < entry.1)
    {entry : UInt16 × String}
    (isThere : group.offsets[index]? = some entry) :
    group.IsEntryBelow offset entry := by
  have below := divides index entry isThere
  rw [if_pos (Nat.lt_succ_self index)] at below
  refine ⟨Array.mem_of_getElem? isThere, below, fun other member otherBelow => ?_⟩
  obtain ⟨place, isOther⟩ := Array.getElem?_of_mem member
  rcases Nat.lt_trichotomy place index with earlier | rfl | later
  · exact .inr (increasing.lex earlier isOther isThere)
  · rw [isThere] at isOther
    cases isOther
    exact .inl rfl
  · have above := divides place other isOther
    rw [if_neg (by omega)] at above
    exact absurd above (UInt16.lt_asymm otherBelow)

/-- Where an index divides the entries below an offset from those above, none is at the offset. -/
theorem ne_offset_of_divides
    {index : Nat}
    (divides :
      ∀ other entry,
        group.offsets[other]? = some entry →
          if other < index then entry.1 < offset else offset < entry.1) :
    ∀ other ∈ group.offsets, other.1 ≠ offset := by
  rintro other member rfl
  obtain ⟨place, isOther⟩ := Array.getElem?_of_mem member
  have apart := divides place other isOther
  split at apart <;> exact UInt16.lt_irrefl _ apart

/-- What is found nearest to an offset tells the symbol that the offset follows. -/
theorem follows_lookup?
    (increasing : IsIncreasing group.offsets.toList)
    (offset : UInt16) :
    group.Follows offset
      ((group.lookup? offset true).bind fun found => found.matching? <|> found.preceding?) := by
  unfold lookup?
  rcases indexPlace_cases offset increasing.ascendsByOffset with
    ⟨index, entry, isPlace, isThere, here⟩ | ⟨index, isPlace, inside, divides⟩
  · obtain ⟨first, isFirst, isHere⟩ := isEntryAt_firstAt increasing isThere here
    simp only [isPlace, matchAt?, isFirst, Option.map_some, Option.bind_some]
    exact .here isHere
  · have noneHere := ne_offset_of_divides divides
    simp only [isPlace, ↓reduceIte]
    cases index with
    | zero =>
        have allAbove : ∀ other ∈ group.offsets, offset < other.1 := by
          intro other member
          obtain ⟨place, isOther⟩ := Array.getElem?_of_mem member
          exact divides place other isOther
        simp only [↓reduceIte]
        split <;> exact .ahead allAbove
    | succ index =>
        have isThere : group.offsets[index]? = some group.offsets[index] :=
          Array.getElem?_eq_getElem inside
        simp only [Nat.succ_ne_zero, ↓reduceIte, Nat.add_sub_cancel, matchAt?, isThere,
          Option.map_some, Option.isNone_some, Bool.false_eq_true, false_and, Option.bind_some]
        exact .behind noneHere (isEntryBelow_before increasing divides isThere)

theorem not_lex_self (entry : UInt16 × String) :
    ¬Prod.Lex (· < ·) (· < ·) entry entry := by
  rw [Prod.lex_def]
  rintro (less | ⟨-, less⟩)
  · exact UInt16.lt_irrefl _ less
  · exact String.lt_irrefl _ less

theorem IsEntryAt.unique
    {entry other : UInt16 × String}
    (isHere : group.IsEntryAt offset entry)
    (otherIsHere : group.IsEntryAt offset other) :
    entry = other := by
  rcases isHere.first other otherIsHere.member otherIsHere.here with same | less
  · exact same.symm
  · rcases otherIsHere.first entry isHere.member isHere.here with same | greater
    · exact same
    · exact absurd greater (String.lt_asymm less)

theorem IsEntryBelow.unique
    {entry other : UInt16 × String}
    (isBelow : group.IsEntryBelow offset entry)
    (otherIsBelow : group.IsEntryBelow offset other) :
    entry = other := by
  rcases isBelow.last other otherIsBelow.member otherIsBelow.below with same | less
  · exact same.symm
  · rcases otherIsBelow.last entry isBelow.member isBelow.below with same | greater
    · exact same
    · exact absurd (lex_trans less greater) (not_lex_self other)

/-- An offset follows one symbol only. -/
theorem Follows.unique
    {symbol? other? : Option FoundSymbol}
    (follows : group.Follows offset symbol?)
    (otherFollows : group.Follows offset other?) :
    symbol? = other? := by
  cases follows with
  | here isHere =>
      cases otherFollows with
      | here otherIsHere => rw [isHere.unique otherIsHere]
      | behind noneHere => exact absurd isHere.here (noneHere _ isHere.member)
      | ahead allAbove =>
          exact absurd isHere.here (UInt16.ne_of_lt (allAbove _ isHere.member)).symm
  | behind noneHere isBelow =>
      cases otherFollows with
      | here isHere => exact absurd isHere.here (noneHere _ isHere.member)
      | behind _ otherIsBelow => rw [isBelow.unique otherIsBelow]
      | ahead allAbove => exact absurd isBelow.below (UInt16.lt_asymm (allAbove _ isBelow.member))
  | ahead allAbove =>
      cases otherFollows with
      | here isHere => exact absurd isHere.here (UInt16.ne_of_lt (allAbove _ isHere.member)).symm
      | behind _ isBelow => exact absurd isBelow.below (UInt16.lt_asymm (allAbove _ isBelow.member))
      | ahead => rfl

end ModuleSymbols

namespace SymbolTable

/-- The index of every group is in order, which adding groups and loading symbol files keeps. -/
def IsOrdered (table : SymbolTable) : Prop :=
  ∀ group ∈ table.groups, ModuleSymbols.IsIncreasing group.offsets.toList

theorem isOrdered_empty : empty.IsOrdered :=
  nofun

/-- A group more leaves a table in order, however its symbols are defined. -/
theorem IsOrdered.withModule
    {table : SymbolTable}
    (ordered : table.IsOrdered)
    (module : String)
    (base : UInt16)
    (length : Nat)
    (symbols : List (String × SymbolDefinition)) :
    (table.withModule module base length symbols).IsOrdered := by
  intro group member
  rcases List.mem_append.mp member with wasThere | isNew
  · exact ordered group wasThere
  · rw [List.mem_singleton.mp isNew]
    exact (ModuleSymbols.ofDefinitions_isIndexed module base length symbols).offsets

/-- A symbol file leaves a table in order. -/
theorem IsOrdered.loadText?
    {table after : SymbolTable}
    (ordered : table.IsOrdered)
    {text : String}
    {count : Nat}
    (loaded : table.loadText? text = some (count, after)) :
    after.IsOrdered := by
  have adds :
      ∀ (files : List SymbolListing) (table : SymbolTable),
        table.IsOrdered →
          (files.foldl
            (fun table file => table.withModule file.module file.base file.length file.symbols)
            table).IsOrdered := by
    intro files
    induction files with
    | nil =>
        exact fun table ordered => ordered
    | cons file files inductionHypothesis =>
        exact fun table ordered => inductionHypothesis _ <|
          ordered.withModule file.module file.base file.length file.symbols
  simp only [SymbolTable.loadText?, Option.bind_eq_bind, Option.bind_eq_some_iff, Option.pure_def,
    Option.some.injEq, Prod.mk.injEq] at loaded
  obtain ⟨value, -, kept, -, files, -, -, rfl⟩ := loaded
  exact adds files table ordered

/--
The symbol at an address, or else the nearest one before it, of the first group
that contains the address.
-/
inductive Follows (table : SymbolTable) (address : UInt16) : Option FoundSymbol → Prop where
  | inside
      {group : ModuleSymbols}
      {symbol? : Option FoundSymbol}
      (found : table.groups.find? (·.contains address) = some group)
      (follows : group.Follows (address - group.base) symbol?) :
      Follows table address symbol?
  | outside (nowhere : ∀ group ∈ table.groups, group.contains address = false) :
      Follows table address none

/-- What is found nearest to an address tells the symbol that the address follows. -/
theorem follows_vicinity?
    {table : SymbolTable}
    (ordered : table.IsOrdered)
    (address : UInt16) :
    table.Follows address
      ((table.vicinity? address true).bind fun found => found.matching? <|> found.preceding?) := by
  unfold vicinity?
  cases found : table.groups.find? (·.contains address) with
  | none =>
      refine .outside fun group member => ?_
      simpa using List.find?_eq_none.mp found group member
  | some group =>
      have increasing := ordered group (List.mem_of_find?_eq_some found)
      exact .inside found (ModuleSymbols.follows_lookup? increasing (address - group.base))

/-- An address follows one symbol only. -/
theorem Follows.unique
    {table : SymbolTable}
    {address : UInt16}
    {symbol? other? : Option FoundSymbol}
    (follows : table.Follows address symbol?)
    (otherFollows : table.Follows address other?) :
    symbol? = other? := by
  cases follows with
  | inside found follows =>
      cases otherFollows with
      | inside otherFound otherFollows =>
          obtain rfl := Option.some.inj (found.symm.trans otherFound)
          exact follows.unique otherFollows
      | outside nowhere =>
          have apart := nowhere _ (List.mem_of_find?_eq_some found)
          rw [List.find?_some found] at apart
          cases apart
  | outside nowhere =>
      cases otherFollows with
      | inside found =>
          have apart := nowhere _ (List.mem_of_find?_eq_some found)
          rw [List.find?_some found] at apart
          cases apart
      | outside => rfl

end SymbolTable

end Monitor8080
