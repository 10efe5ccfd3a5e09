import Mathlib.Data.List.DropRight
import Monitor8080.Sentry.History
namespace Monitor8080

/-!
# Rings of addresses

Of all the addresses that were recorded in a ring, the one at a place of their
list is in the slot of that number, counted around the ring, until as many more
were recorded as there are slots. So the filled slots hold the last addresses,
and walking back from the cursor is walking back in the list.
-/

namespace AddressRing

/-- Two places that are less than one round apart have different slots. -/
theorem mod_ne_of_lt
    {earlier later size : Nat}
    (before : earlier < later)
    (close : later < earlier + size) :
    earlier % size ≠ later % size := by
  intro same
  have divides : size ∣ later - earlier :=
    Nat.dvd_of_mod_eq_zero (Nat.sub_mod_eq_zero_of_mod_eq same.symm)
  have nothing : later - earlier = 0 := Nat.eq_zero_of_dvd_of_lt divides (by omega)
  omega

/-- The first elements of a list are those at the first places. -/
theorem filterMap_range_getElem? (list : List α) (count : Nat) :
    (List.range count).filterMap (list[·]?) = list.take count := by
  induction count with
  | zero =>
      rfl
  | succ count inductionHypothesis =>
      rw [List.range_succ, List.filterMap_append, inductionHypothesis, List.take_add_one]
      cases found : list[count]? <;> simp [found]

/-- A ring holds the last of some addresses: all of them, or as many as it has slots. -/
structure Traces (ring : AddressRing) (size : Nat) (addresses : List UInt16) : Prop where
  size_eq : ring.slots.size = size
  cursor : ring.cursor = addresses.length % size
  filled :
    ∀ (place : Nat) (isRecorded : place < addresses.length),
      addresses.length ≤ place + size →
        ring.slots[place % size]? = some (some addresses[place])
  unfilled :
    ∀ slot, addresses.length ≤ slot → slot < size → ring.slots[slot]? = some none

/-- The ring with a fetch recorded, if there is one. -/
def recordIf (ring : AddressRing) : Option (UInt16 × UInt8) → AddressRing
  | some fetch => ring.record fetch.1
  | none => ring

variable {ring : AddressRing} {size : Nat} {addresses : List UInt16}

namespace Traces

/-- A ring with nothing in its slots holds no addresses. -/
theorem of_none
    (size_eq : ring.slots.size = size)
    (cursor : ring.cursor = 0)
    (unfilled : ∀ slot, slot < size → ring.slots[slot]? = some none) :
    ring.Traces size [] where
  size_eq := size_eq
  cursor := cursor.trans (Nat.zero_mod size).symm
  filled place isRecorded := absurd isRecorded (Nat.not_lt_zero place)
  unfilled slot _ := unfilled slot

/-- A ring that was allocated has nothing recorded. -/
theorem ofSize (positive : 0 < size) : (AddressRing.ofSize size positive).Traces size [] := by
  refine .of_none Array.size_replicate rfl fun slot inside => ?_
  exact Array.getElem?_replicate.trans (if_pos inside)

/-- A ring that was cleared has nothing recorded. -/
theorem clear (traces : ring.Traces size addresses) : ring.clear.Traces size [] := by
  refine .of_none (Array.size_map.trans traces.size_eq) rfl fun slot inside => ?_
  rw [← traces.size_eq] at inside
  rw [AddressRing.clear, Array.getElem?_map, Array.getElem?_eq_getElem inside]
  rfl

theorem positive (traces : ring.Traces size addresses) : 0 < size := by
  rw [← traces.size_eq]
  exact Nat.zero_lt_of_lt ring.cursor_lt

/-- The ring records one more address, over the oldest one if it is full. -/
theorem record (traces : ring.Traces size addresses) (address : UInt16) :
    (ring.record address).Traces size (addresses ++ [address]) := by
  obtain ⟨slots, cursor, cursor_lt⟩ := ring
  obtain ⟨sized, isCursor, filled, unfilled⟩ := traces
  obtain rfl : slots.size = size := sized
  simp only at isCursor filled unfilled
  refine ⟨Array.size_set cursor_lt, ?_, fun place isRecorded isHeld => ?_, fun slot beyond inside => ?_⟩
  · rw [List.length_append, List.length_singleton, ← Nat.mod_add_mod, ← isCursor]
    rfl
  · rw [List.length_append, List.length_singleton] at isRecorded isHeld
    rcases Nat.lt_succ_iff_lt_or_eq.mp isRecorded with isEarlier | rfl
    · -- The slot of an address that is still held is not the one that is filled now.
      have other : place % slots.size ≠ cursor := by
        rw [isCursor]
        exact mod_ne_of_lt isEarlier (by omega)
      rw [AddressRing.record, List.getElem_append_left isEarlier]
      exact (Array.getElem?_set_ne cursor_lt other.symm).trans (filled place isEarlier (by omega))
    · rw [AddressRing.record, List.getElem_concat_length rfl, ← isCursor]
      exact Array.getElem?_set_self cursor_lt
  · rw [List.length_append, List.length_singleton] at beyond
    have other : cursor ≠ slot := by
      rw [isCursor, Nat.mod_eq_of_lt (by omega)]
      omega
    exact (Array.getElem?_set_ne cursor_lt other).trans (unfilled slot (by omega) inside)

theorem recordIf
    (traces : ring.Traces size addresses)
    (fetched? : Option (UInt16 × UInt8)) :
    (ring.recordIf fetched?).Traces size (addresses ++ fetched?.toList.map Prod.fst) := by
  cases fetched? with
  | none =>
      simp only [Option.toList_none, List.map_nil, List.append_nil]
      exact traces
  | some fetch =>
      exact traces.record fetch.1

/-! ## What a ring shows -/

/-- The slot at the cursor tells whether all slots are filled. -/
theorem length_eq (traces : ring.Traces size addresses) :
    ring.length = min addresses.length size := by
  have positive := traces.positive
  obtain ⟨slots, cursor, cursor_lt⟩ := ring
  obtain ⟨sized, isCursor, filled, unfilled⟩ := traces
  obtain rfl : slots.size = size := sized
  simp only at isCursor filled unfilled
  have atCursor : slots[cursor]? = some slots[cursor] := Array.getElem?_eq_getElem cursor_lt
  rw [AddressRing.length]
  rcases Nat.lt_or_ge addresses.length slots.size with few | full
  · have isLength : cursor = addresses.length := isCursor.trans (Nat.mod_eq_of_lt few)
    rw [unfilled cursor (Nat.le_of_eq isLength.symm) cursor_lt] at atCursor
    rw [← Option.some.inj atCursor, Nat.min_eq_left (Nat.le_of_lt few), ← isLength]
    rfl
  · have oldest := filled (addresses.length - slots.size) (by omega) (by omega)
    rw [← Nat.mod_eq_sub_mod full, ← isCursor] at oldest
    rw [oldest] at atCursor
    rw [← Option.some.inj atCursor, Nat.min_eq_right full]
    rfl

/-- Walking back from the cursor is walking back in the list, as far as addresses are held. -/
theorem entries_eq (traces : ring.Traces size addresses) (back count : Nat) :
    ring.entries back count =
      (addresses.rtake (min back ring.length)).take (min count (min back ring.length)) := by
  have positive := traces.positive
  have isLength := traces.length_eq
  obtain ⟨rfl, isCursor, filled, unfilled⟩ := traces
  rw [AddressRing.entries]
  generalize reached : min back ring.length = reach
  have held : reach ≤ addresses.length ∧ reach ≤ ring.slots.size := by
    omega
  have start :
      (ring.cursor + ring.slots.size - reach) % ring.slots.size =
        (addresses.length - reach) % ring.slots.size := by
    rw [isCursor, Nat.add_sub_assoc held.2, Nat.mod_add_mod, ← Nat.add_sub_assoc held.2,
      Nat.sub_add_comm held.1, Nat.add_mod_right]
  have slot :
      ∀ index ∈ List.range (min reach count),
        (ring.slots[(addresses.length - reach + index) % ring.slots.size]?).join =
          (addresses.rtake reach)[index]? := by
    intro index member
    have inside : index < min reach count := List.mem_range.mp member
    rw [filled _ (by omega) (by omega), List.rtake, List.getElem?_drop,
      List.getElem?_eq_getElem (by omega)]
    rfl
  simp only [start, Nat.mod_add_mod]
  rw [List.filterMap_congr slot, filterMap_range_getElem?, Nat.min_comm]

end Traces

end AddressRing

end Monitor8080
