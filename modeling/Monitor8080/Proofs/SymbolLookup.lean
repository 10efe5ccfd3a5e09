import Monitor8080.Symbols.Table
namespace Monitor8080

/-!
# Ends of groups that are no words

Looking an address up takes the end of a group as soon as the address is not
below the base. An end that is no word lies beyond all addresses, so a lookup
comes to it only at the first group in which the address would lie by plain
numbers: all others are passed by. Hence a lookup fails exactly if that group
ends beyond the words, and otherwise tells what plain numbers tell.
-/

/-! ## Words -/

/-- A word is a number of its size. -/
theorem word?_eq_some_iff {value word : Nat} :
    word? value = some word ↔ word = value ∧ value ≤ wordLimit := by
  rw [word?]
  split
  · rename_i fits
    simp [fits, eq_comm]
  · rename_i beyond
    simp [beyond]

/-- A number is no word if it is beyond the limit. -/
theorem word?_eq_none_iff {value : Nat} : word? value = none ↔ wordLimit < value := by
  rw [word?]
  split
  · rename_i fits
    simp [fits]
  · rename_i beyond
    simpa using beyond

/-! ## Groups -/

namespace ModuleSymbols

/-- The end of a group is a word. -/
def Fits (group : ModuleSymbols) : Prop :=
  group.base.toNat + group.length ≤ wordLimit

instance (group : ModuleSymbols) : Decidable group.Fits :=
  inferInstanceAs (Decidable (_ ≤ _))

variable {group : ModuleSymbols} {address : UInt16}

/-- A group contains the addresses from its base up to its end. -/
theorem contains_iff :
    group.contains address ↔
      group.base.toNat ≤ address.toNat ∧ address.toNat < group.base.toNat + group.length := by
  simp [contains]

/-- Whether an address lies in a group is told as long as the end is a word, if that takes the end. -/
theorem within?_eq_none_iff :
    group.within? address = none ↔
      group.base ≤ address ∧ wordLimit < group.base.toNat + group.length := by
  rw [within?]
  split
  · rename_i reached
    rw [Option.map_eq_none_iff, word?_eq_none_iff]
    exact (and_iff_right reached).symm
  · rename_i before
    simp [before]

/-- Where the end of a group is a word, it is told whether an address is inside. -/
theorem contains_of_within?
    {isInside : Bool}
    (told : group.within? address = some isInside) :
    group.contains address = isInside := by
  rw [within?] at told
  split at told
  · rename_i reached
    obtain ⟨ending, isWord, rfl⟩ := Option.map_eq_some_iff.mp told
    rw [(word?_eq_some_iff.mp isWord).1, contains, decide_eq_true (UInt16.le_iff_toNat_le.mp reached),
      Bool.true_and]
  · rename_i before
    cases told
    rw [contains, decide_eq_false (mt UInt16.le_iff_toNat_le.mpr before), Bool.false_and]

/-- What is told of an address and a group, if it is told. -/
theorem within?_eq (group : ModuleSymbols) (address : UInt16) :
    group.within? address =
      if group.base ≤ address ∧ wordLimit < group.base.toNat + group.length then
        none
      else
        some (decide (group.base.toNat ≤ address.toNat ∧
          address.toNat < group.base.toNat + group.length)) := by
  split
  · rename_i beyond
    exact within?_eq_none_iff.mpr beyond
  · rename_i fits
    cases told : group.within? address with
    | none =>
        exact absurd (within?_eq_none_iff.mp told) fits
    | some isInside =>
        rw [← contains_of_within? told, contains, Bool.decide_and]

/-- An address for which nothing is told lies in the group, which ends beyond all addresses. -/
theorem contains_of_within?_eq_none (untold : group.within? address = none) :
    group.contains address ∧ ¬ group.Fits := by
  obtain ⟨reached, beyond⟩ := within?_eq_none_iff.mp untold
  have inside := address.toNat_lt
  refine ⟨contains_iff.mpr ⟨UInt16.le_iff_toNat_le.mp reached, ?_⟩, Nat.not_le.mpr beyond⟩
  unfold wordLimit at beyond
  omega

/-- An address is told to be inside only if the end of the group is a word. -/
theorem fits_of_within?
    {isInside : Bool}
    (told : group.within? address = some isInside)
    (contained : group.contains address) :
    group.Fits := by
  refine Nat.le_of_not_lt fun beyond => ?_
  have reached := UInt16.le_iff_toNat_le.mpr (contains_iff.mp contained).1
  rw [within?_eq_none_iff.mpr ⟨reached, beyond⟩] at told
  cases told

end ModuleSymbols

/-! ## Tables -/

namespace SymbolTable

/-- The search for a group stops at the first one that contains the address by plain numbers. -/
theorem groupAt_eq (address : UInt16) (groups : List ModuleSymbols) :
    groupAt address groups =
      match groups.find? (·.contains address) with
      | some group => if group.Fits then .ok (some group) else .error .sum
      | none => .ok none := by
  induction groups with
  | nil =>
      rfl
  | cons group groups inductionHypothesis =>
      rw [groupAt, List.find?_cons]
      cases told : group.within? address with
      | none =>
          obtain ⟨contained, beyond⟩ := ModuleSymbols.contains_of_within?_eq_none told
          simp only [contained, if_neg beyond]
      | some isInside =>
          have same := ModuleSymbols.contains_of_within? told
          cases isInside with
          | true =>
              simp only [same, if_pos (ModuleSymbols.fits_of_within? told same)]
          | false =>
              simp only [same]
              exact inductionHypothesis

/-- The first group in which an address lies by plain numbers ends at no word. -/
def OverflowsAt (table : SymbolTable) (address : UInt16) : Prop :=
  ∃ group, table.groups.find? (·.contains address) = some group ∧ ¬ group.Fits

variable {table : SymbolTable} {address : UInt16}

/-- Nothing is looked up where the end of a group is no word. -/
theorem lookup_of_overflowsAt (overflows : table.OverflowsAt address) (isNearest : Bool) :
    table.lookup address isNearest = .error .sum := by
  obtain ⟨group, found, beyond⟩ := overflows
  rw [lookup, groupAt_eq, found]
  simp only [if_neg beyond]
  rfl

/-- Elsewhere what is looked up is the vicinity. -/
theorem lookup_of_not_overflowsAt (fits : ¬ table.OverflowsAt address) (isNearest : Bool) :
    table.lookup address isNearest = .ok (table.vicinity? address isNearest) := by
  rw [lookup, groupAt_eq, vicinity?]
  cases found : table.groups.find? (·.contains address) with
  | none =>
      rfl
  | some group =>
      have groupFits : group.Fits :=
        Decidable.byContradiction fun beyond => fits ⟨group, found, beyond⟩
      simp only [if_pos groupFits]
      rfl

/-- A lookup fails exactly where the numbers are too large, and tells what they tell otherwise. -/
theorem lookup_eq_error_iff {isNearest : Bool} {overflow : Overflow} :
    table.lookup address isNearest = .error overflow ↔
      table.OverflowsAt address ∧ overflow = .sum := by
  by_cases overflows : table.OverflowsAt address
  · rw [lookup_of_overflowsAt overflows, Except.error.injEq]
    exact ⟨fun same => ⟨overflows, same.symm⟩, fun both => both.2.symm⟩
  · rw [lookup_of_not_overflowsAt overflows]
    exact ⟨nofun, fun both => absurd both.1 overflows⟩

/-- Where nothing is looked up, some group has an end that is no word. -/
theorem OverflowsAt.exists_group (overflows : table.OverflowsAt address) :
    ∃ group ∈ table.groups, group.within? address = none := by
  obtain ⟨group, found, beyond⟩ := overflows
  have isContained := (List.find?_eq_some_iff_append.mp found).1
  have contained := ModuleSymbols.contains_iff.mp isContained
  refine ⟨group, List.mem_of_find?_eq_some found, ModuleSymbols.within?_eq_none_iff.mpr ?_⟩
  exact ⟨UInt16.le_iff_toNat_le.mpr contained.1, Nat.lt_of_not_le beyond⟩

/-- Everything is looked up if the end of every group is a word. -/
theorem not_overflowsAt (fits : ∀ group ∈ table.groups, group.Fits) (address : UInt16) :
    ¬ table.OverflowsAt address := by
  rintro ⟨group, found, beyond⟩
  exact beyond (fits group (List.mem_of_find?_eq_some found))

end SymbolTable

end Monitor8080
