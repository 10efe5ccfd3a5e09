namespace Monitor8080

/-!
# Execution history

While it is recorded, the history holds the addresses of the last fetches, as
many as its capacity, in a ring of slots. Beside it, every fetch is counted by
its opcode, whether addresses are recorded or not. A capacity beyond all memory
can be asked for, but then nothing can be recorded.
-/

/--
Slots that are filled one after the other and over again. The cursor is at the
slot that is filled next, so all are filled once that one is.
-/
structure AddressRing where
  slots : Array (Option UInt16)
  cursor : Nat
  cursor_lt : cursor < slots.size

namespace AddressRing

/-- A ring with nothing in its slots. -/
def ofSize (size : Nat) (positive : 0 < size) : AddressRing where
  slots := Array.replicate size none
  cursor := 0
  cursor_lt := by rwa [Array.size_replicate]

/-- The ring with one more address, in the place of the oldest if all slots are filled. -/
def record (ring : AddressRing) (address : UInt16) : AddressRing :=
  match ring with
  | ⟨slots, cursor, cursor_lt⟩ =>
      let next := (cursor + 1) % slots.size
      ⟨slots.set cursor (some address) cursor_lt, next, by
        rw [Array.size_set]
        exact Nat.mod_lt _ (Nat.zero_lt_of_lt cursor_lt)⟩

/-- How many slots are filled. -/
def length (ring : AddressRing) : Nat :=
  match ring with
  | ⟨slots, cursor, _⟩ => if slots[cursor].isSome then slots.size else cursor

/-- Up to `count` addresses from the one `back` slots before the cursor on, oldest first. -/
def entries (ring : AddressRing) (back count : Nat) : List UInt16 :=
  let back := min back ring.length
  let start := (ring.cursor + ring.slots.size - back) % ring.slots.size
  (List.range (min back count)).filterMap fun index =>
    (ring.slots[(start + index) % ring.slots.size]?).join

/-- The ring with nothing in its slots any more. -/
def clear (ring : AddressRing) : AddressRing where
  slots := ring.slots.map fun _ => none
  cursor := 0
  cursor_lt := by
    rw [Array.size_map]
    exact Nat.zero_lt_of_lt ring.cursor_lt

end AddressRing

/-- The recorded addresses, if they are being recorded, and the opcode counts. -/
structure History where
  ring? : Option AddressRing
  capacity : Nat
  capacity_pos : 0 < capacity
  counts : Vector Nat 256

namespace History

/-- A history that records no addresses yet; it has room for at least one. -/
def ofCapacity (capacity : Nat) : History where
  ring? := none
  capacity := max capacity 1
  capacity_pos := Nat.le_max_right capacity 1
  counts := Vector.replicate 256 0

/-- The least capacity for which there cannot be room. -/
def capacityLimit : Nat := 0x2000000000000000

/-- Whether there can be room for as many addresses as the capacity says. -/
def hasRoom (history : History) : Bool :=
  history.capacity < capacityLimit

def isOn (history : History) : Bool :=
  history.ring?.isSome

/-- The history with recording switched on or off; what was recorded stays while it is on. -/
def enable (history : History) (isWanted : Bool) : History :=
  match isWanted, history.ring? with
  | true, none =>
      { history with ring? := some (AddressRing.ofSize history.capacity history.capacity_pos) }
  | false, some _ => { history with ring? := none }
  | true, some _ | false, none => history

/-- The history with one more fetch. -/
def record (history : History) (address : UInt16) (opcode : UInt8) : History :=
  match history with
  | ⟨ring?, capacity, capacity_pos, counts⟩ =>
      ⟨ring?.map (·.record address), capacity, capacity_pos,
        counts.set opcode.toNat (counts.get opcode.toFin + 1) opcode.toNat_lt⟩

/-- How many addresses are held. -/
def length (history : History) : Nat :=
  match history.ring? with
  | some ring => ring.length
  | none => 0

def isEmpty (history : History) : Bool :=
  history.length = 0

/-- Up to `count` addresses from the one `back` fetches ago on, oldest first. -/
def entries (history : History) (back count : Nat) : List UInt16 :=
  match history.ring? with
  | some ring => ring.entries back count
  | none => []

/-- The history without its addresses, which goes on recording if it did. -/
def clear (history : History) : History :=
  { history with ring? := history.ring?.map AddressRing.clear }

/-- Whether the count of an opcode is listed before another: high counts and low opcodes first. -/
def isListedBefore (left right : UInt8 × Nat) : Bool :=
  right.2 < left.2 || (left.2 == right.2 && left.1 ≤ right.1)

/-- Every counted opcode with its count, the most frequent first. -/
def frequencies (history : History) : List (UInt8 × Nat) :=
  let counted :=
    (List.finRange 256).map fun index => (UInt8.ofFin index, history.counts.get index)
  (counted.filter (0 < ·.2)).mergeSort isListedBefore

/-- The history with every opcode count at zero. -/
def forgetFrequencies (history : History) : History :=
  { history with counts := Vector.replicate 256 0 }

end History

end Monitor8080
