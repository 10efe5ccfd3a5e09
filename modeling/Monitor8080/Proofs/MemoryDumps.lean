import Mathlib.Algebra.Order.Floor.Div
import Monitor8080.Proofs.DecodedBytes
import Monitor8080.Proofs.RecordedSteps
namespace Monitor8080

/-!
# Dumps that are read back

A line of a dump has columns: an address, units in hexadecimal and a character
for each byte. Read back, the lines of a dump show every byte of a stretch of
memory once and in order. The next dump goes on where the last one ended, and
so dumps one after the other show memory without a gap.
-/

/-! ## Columns -/

namespace Text

/-- The columns of a text that blanks stand between. -/
def columns (cs : List Char) : List (List Char) :=
  (pieces ' ' cs).filter (!·.isEmpty)

/-- The number that one or more digits write in hexadecimal, in either letter case. -/
def hexNumber? (cs : List Char) : Option Nat :=
  magnitude? 16 (cs.map Char.toLower)

theorem pieces_append
    {separator : Char}
    {piece rest first : List Char}
    {others : List (List Char)}
    (apart : ∀ c ∈ piece, c ≠ separator)
    (same : pieces separator rest = first :: others) :
    pieces separator (piece ++ rest) = (piece ++ first) :: others := by
  induction piece with
  | nil =>
      exact same
  | cons c piece inductionHypothesis =>
      have other : c ≠ separator := apart c List.mem_cons_self
      rw [List.cons_append, pieces, if_neg other,
        inductionHypothesis fun c member => apart c (List.mem_cons_of_mem _ member)]
      rfl

/-- A column that a text starts with ends at the first blank. -/
theorem columns_append
    {column rest : List Char}
    (isVisible : ∀ c ∈ column, c ≠ ' ')
    (isSome : column ≠ [])
    (ends : ∀ c ∈ rest.head?, c = ' ') :
    columns (column ++ rest) = column :: columns rest := by
  have shown : column.isEmpty = false := List.isEmpty_eq_false_iff.mpr isSome
  cases rest with
  | nil =>
      have cut : pieces ' ' [] = [[]] := rfl
      rw [columns, columns, pieces_append isVisible cut, cut]
      simp [shown]
  | cons c rest =>
      obtain rfl : c = ' ' := ends c rfl
      have cut : pieces ' ' (' ' :: rest) = [] :: pieces ' ' rest := if_pos rfl
      rw [columns, columns, pieces_append isVisible cut, cut]
      simp [shown]

theorem columns_replicate (count : Nat) : columns (List.replicate count ' ') = [] := by
  induction count with
  | zero =>
      rfl
  | succ count inductionHypothesis =>
      have cut :
          pieces ' ' (List.replicate (count + 1) ' ') =
            [] :: pieces ' ' (List.replicate count ' ') :=
        if_pos rfl
      rw [columns, cut]
      exact inductionHypothesis

/-- Texts that are joined by blanks are the columns, with as many blanks after them as there are. -/
theorem columns_join
    {texts : List String}
    (isVisible : ∀ text ∈ texts, ∀ c ∈ text.toList, c ≠ ' ')
    (isSome : ∀ text ∈ texts, text.toList ≠ [])
    (blanks : Nat) :
    columns ((join " " texts).toList ++ List.replicate blanks ' ') =
      texts.map String.toList := by
  induction texts with
  | nil =>
      exact columns_replicate blanks
  | cons text texts inductionHypothesis =>
      have rest :=
        inductionHypothesis
          (fun text member => isVisible text (List.mem_cons_of_mem _ member))
          (fun text member => isSome text (List.mem_cons_of_mem _ member))
      have visible := isVisible text List.mem_cons_self
      have notEmpty := isSome text List.mem_cons_self
      cases texts with
      | nil =>
          have ends : ∀ c ∈ (List.replicate blanks ' ').head?, c = ' ' := by
            intro c member
            exact List.eq_of_mem_replicate (List.mem_of_mem_head? member)
          rw [show join " " [text] = text from String.intercalate_singleton,
            columns_append visible notEmpty ends, columns_replicate]
          rfl
      | cons next texts =>
          have joined :
              (join " " (text :: next :: texts)).toList ++ List.replicate blanks ' ' =
                text.toList ++
                  ' ' :: ((join " " (next :: texts)).toList ++ List.replicate blanks ' ') := by
            simp [join, String.intercalate_cons_cons]
          rw [joined, columns_append visible notEmpty (by simp)]
          exact congrArg (text.toList :: ·) rest

theorem length_join_add_one
    {texts : List String}
    {width : Nat}
    (sized : ∀ text ∈ texts, text.length = width)
    (isSome : texts ≠ []) :
    (join " " texts).length + 1 = texts.length * (width + 1) := by
  induction texts with
  | nil =>
      exact absurd rfl isSome
  | cons text texts inductionHypothesis =>
      have first := sized text List.mem_cons_self
      cases texts with
      | nil =>
          rw [show join " " [text] = text from String.intercalate_singleton, first]
          simp
      | cons next texts =>
          have rest :=
            inductionHypothesis
              (fun text member => sized text (List.mem_cons_of_mem _ member)) nofun
          have joined :
              (join " " (text :: next :: texts)).length =
                text.length + 1 + (join " " (next :: texts)).length := by
            simp [join, String.intercalate_cons_cons, Nat.add_assoc, show " ".length = 1 from rfl]
          rw [joined, List.length_cons, Nat.succ_mul, ← rest, first]
          omega

end Text

/-! ## Units -/

theorem MemoryUnit.bytes_pos (unit : MemoryUnit) : 0 < unit.bytes := by
  cases unit <;> decide

theorem MemoryUnit.bytes_le_four (unit : MemoryUnit) : unit.bytes ≤ 4 := by
  cases unit <;> decide

theorem unitsPerLine_mul (unit : MemoryUnit) : unitsPerLine unit * unit.bytes = dumpLineBytes := by
  cases unit <;> rfl

namespace Memory

variable (memory : Memory) (unit : MemoryUnit)

/-- The units that follow one another from an address on, each with its lowest byte first. -/
def unitsFrom (address : UInt16) (count : Nat) : List Nat :=
  (List.range count).map fun index =>
    littleEndian (memory.bytesFrom (address + UInt16.ofNat (index * unit.bytes)) unit.bytes)

theorem length_unitsFrom
    (address : UInt16)
    (count : Nat) :
    (memory.unitsFrom unit address count).length = count := by
  rw [unitsFrom, List.length_map, List.length_range]

/-- Units in two parts, of which the second one begins where the first one ends. -/
theorem unitsFrom_add
    (address : UInt16)
    (first second : Nat) :
    memory.unitsFrom unit address (first + second) =
      memory.unitsFrom unit address first ++
        memory.unitsFrom unit (address + UInt16.ofNat (first * unit.bytes)) second := by
  have further (index : Nat) :
      address + UInt16.ofNat ((first + index) * unit.bytes) =
        address + UInt16.ofNat (first * unit.bytes) + UInt16.ofNat (index * unit.bytes) := by
    rw [Nat.add_mul, UInt16.ofNat_add, UInt16.add_assoc]
  simp only [unitsFrom, List.range_add, List.map_append, List.map_map, Function.comp_def, further]

end Memory

/-! ## Rows -/

/-- What a line of a dump shows. -/
structure DumpRow where
  address : Nat
  units : List Nat
  text : List Char
  deriving Repr, DecidableEq

namespace DumpRow

/-- What is read from a line: the digits of an address, units between blanks, and a text behind them. -/
def ofLine? (unit : MemoryUnit) (line : String) : Option DumpRow := do
  let width := unitsPerLine unit * (2 * unit.bytes + 1)
  let address ← Text.hexNumber? (line.toList.take 4)
  let units ← (Text.columns ((line.toList.drop 6).take width)).mapM Text.hexNumber?
  return ⟨address, units, line.toList.drop (7 + width)⟩

/-- The row for a number of units from an address on. -/
def ofMemory (memory : Memory) (unit : MemoryUnit) (address : UInt16) (count : Nat) : DumpRow :=
  ⟨address.toNat, memory.unitsFrom unit address count,
    (memory.bytesFrom address (count * unit.bytes)).map dumpChar⟩

end DumpRow

section Lines

variable (memory : Memory) (unit : MemoryUnit)

/-- The unit at an address in hexadecimal, its lowest byte last. -/
def dumpUnit (address : UInt16) : String :=
  String.ofList <|
    Text.fixedHexDigits (2 * unit.bytes) (littleEndian (memory.bytesFrom address unit.bytes))

/-- The line that shows a number of units from an address on. -/
def dumpLine (address : UInt16) (count : Nat) : String :=
  let items :=
    (List.range count).map fun index =>
      dumpUnit memory unit (address + UInt16.ofNat (index * unit.bytes))
  let chars := (memory.bytesFrom address (count * unit.bytes)).map dumpChar
  Text.hexWord address ++ "  "
    ++ Text.padRight (unitsPerLine unit * (2 * unit.bytes + 1)) (Text.join " " items)
    ++ " " ++ String.ofList chars

theorem toList_dumpUnit (address : UInt16) :
    (dumpUnit memory unit address).toList =
      Text.fixedHexDigits (2 * unit.bytes)
        (littleEndian (memory.bytesFrom address unit.bytes)) :=
  String.toList_ofList

theorem length_dumpUnit (address : UInt16) :
    (dumpUnit memory unit address).length = 2 * unit.bytes := by
  rw [← String.length_toList, toList_dumpUnit, Text.length_fixedHexDigits]

/-- A unit is read back. -/
theorem hexNumber?_dumpUnit (address : UInt16) :
    Text.hexNumber? (dumpUnit memory unit address).toList =
      some (littleEndian (memory.bytesFrom address unit.bytes)) := by
  have positive := unit.bytes_pos
  have bounded := littleEndian_lt (memory.bytesFrom address unit.bytes)
  rw [Memory.length_bytesFrom, show 256 = 16 ^ 2 from rfl, ← Nat.pow_mul] at bounded
  rw [toList_dumpUnit]
  exact Text.magnitude?_fixedHexDigits (by omega) bounded

/-- The units of a line are read back from its columns. -/
theorem mapM_columns_join
    (address : UInt16)
    (count blanks : Nat) :
    let items :=
      (List.range count).map fun index =>
        dumpUnit memory unit (address + UInt16.ofNat (index * unit.bytes))
    (Text.columns ((Text.join " " items).toList ++ List.replicate blanks ' ')).mapM
        Text.hexNumber? =
      some (memory.unitsFrom unit address count) := by
  intro items
  have ofDigits : ∀ item ∈ items, ∃ value,
      item.toList = Text.fixedHexDigits (2 * unit.bytes) value := by
    intro item member
    obtain ⟨index, -, rfl⟩ := List.mem_map.mp member
    exact ⟨_, toList_dumpUnit ..⟩
  have isVisible : ∀ item ∈ items, ∀ c ∈ item.toList, c ≠ ' ' := by
    intro item member
    obtain ⟨value, digits⟩ := ofDigits item member
    rw [digits]
    exact Text.forall_mem_fixedHexDigits (by decide) _ _
  have isSome : ∀ item ∈ items, item.toList ≠ [] := by
    intro item member isEmpty
    obtain ⟨value, digits⟩ := ofDigits item member
    have positive := unit.bytes_pos
    have length := congrArg List.length (digits.symm.trans isEmpty)
    rw [Text.length_fixedHexDigits, List.length_nil] at length
    omega
  have everyUnit :
      (fun index =>
          Text.hexNumber?
            (dumpUnit memory unit (address + UInt16.ofNat (index * unit.bytes))).toList) =
        fun index =>
          some (littleEndian
            (memory.bytesFrom (address + UInt16.ofNat (index * unit.bytes)) unit.bytes)) :=
    funext fun index => hexNumber?_dumpUnit ..
  rw [Text.columns_join isVisible isSome, List.mapM_map, List.mapM_map]
  exact (congrArg (List.mapM · (List.range count)) everyUnit).trans List.mapM_pure

/-- A line has an address, a column for the units, which has the width of a full line, and a text. -/
theorem exists_toList_dumpLine
    (address : UInt16)
    {count : Nat}
    (isSome : 0 < count)
    (fits : count ≤ unitsPerLine unit) :
    ∃ columns : List Char,
      (dumpLine memory unit address count).toList =
          ((Text.hexWord address).toList ++ [' ', ' ']) ++
            (columns ++ ([' '] ++ (memory.bytesFrom address (count * unit.bytes)).map dumpChar)) ∧
        columns.length = unitsPerLine unit * (2 * unit.bytes + 1) ∧
        (Text.columns columns).mapM Text.hexNumber? =
          some (memory.unitsFrom unit address count) := by
  let items :=
    (List.range count).map fun index =>
      dumpUnit memory unit (address + UInt16.ofNat (index * unit.bytes))
  let blanks := unitsPerLine unit * (2 * unit.bytes + 1) - (Text.join " " items).length
  have sized : ∀ item ∈ items, item.length = 2 * unit.bytes := by
    intro item member
    obtain ⟨index, -, rfl⟩ := List.mem_map.mp member
    exact length_dumpUnit ..
  have someItem : items ≠ [] := by
    rw [Ne, List.map_eq_nil_iff, List.range_eq_nil]
    exact Nat.ne_of_gt isSome
  have joined : (Text.join " " items).length + 1 = count * (2 * unit.bytes + 1) := by
    rw [Text.length_join_add_one sized someItem, List.length_map, List.length_range]
  have inside :
      count * (2 * unit.bytes + 1) ≤ unitsPerLine unit * (2 * unit.bytes + 1) :=
    Nat.mul_le_mul_right _ fits
  refine ⟨(Text.join " " items).toList ++ List.replicate blanks ' ', ?_, ?_, ?_⟩
  · simp [dumpLine, Text.padRight, items, blanks]
  · rw [List.length_append, List.length_replicate, String.length_toList]
    omega
  · exact mapM_columns_join memory unit address count blanks

/-- A line is read back as the row that it is for. -/
theorem ofLine?_dumpLine
    (address : UInt16)
    {count : Nat}
    (isSome : 0 < count)
    (fits : count ≤ unitsPerLine unit) :
    DumpRow.ofLine? unit (dumpLine memory unit address count) =
      some (.ofMemory memory unit address count) := by
  obtain ⟨columns, written, width, units⟩ :=
    exists_toList_dumpLine memory unit address isSome fits
  have headLength := Text.length_toList_hexWord address
  have address? : Text.hexNumber? (Text.hexWord address).toList = some address.toNat := by
    rw [Text.toList_hexWord]
    exact Text.magnitude?_fixedHexDigits (by decide) address.toNat_lt
  have atAddress :
      (dumpLine memory unit address count).toList.take 4 = (Text.hexWord address).toList := by
    rw [written, List.append_assoc, List.take_left' headLength]
  have atColumns :
      (dumpLine memory unit address count).toList.drop 6 =
        columns ++ ([' '] ++ (memory.bytesFrom address (count * unit.bytes)).map dumpChar) := by
    rw [written, List.drop_left' (by rw [List.length_append, headLength]; rfl)]
  have atText :
      (dumpLine memory unit address count).toList.drop
          (7 + unitsPerLine unit * (2 * unit.bytes + 1)) =
        (memory.bytesFrom address (count * unit.bytes)).map dumpChar := by
    rw [show 7 + unitsPerLine unit * (2 * unit.bytes + 1) = 6 + (columns.length + 1) by omega,
      ← List.drop_drop, atColumns, ← List.append_assoc,
      List.drop_left' (by rw [List.length_append]; rfl)]
  rw [DumpRow.ofLine?, atAddress, address?]
  simp only [Option.bind_eq_bind, Option.bind_some]
  rw [atColumns, List.take_left' width, units, atText]
  rfl

end Lines

/-! ## The scan of a dump -/

/-- The last byte is the highest digit. -/
theorem littleEndian_concat (bytes : List UInt8) (byte : UInt8) :
    littleEndian (bytes ++ [byte]) = littleEndian bytes + 256 ^ bytes.length * byte.toNat := by
  rw [littleEndian_eq_ofDigits, littleEndian_eq_ofDigits, List.map_append, Nat.ofDigits_append,
    List.length_map, List.map_singleton, Nat.ofDigits_singleton]

/-- A byte put above the bytes of a unit is the highest digit of what they write. -/
theorem or_shiftLeft_toUInt32
    {value count : Nat}
    (below : value < 256 ^ count)
    (few : count < 4)
    (byte : UInt8) :
    UInt32.ofNat value ||| (byte.toUInt32 <<< UInt32.ofNat (8 * count)) =
      UInt32.ofNat (value + 256 ^ count * byte.toNat) := by
  have high := byte.toNat_lt
  have power : 256 ^ count = 2 ^ (8 * count) := (Nat.pow_mul 2 8 count).symm
  rw [power] at below ⊢
  have joined := Nat.two_pow_add_eq_or_of_lt below byte.toNat
  -- With fewer than four bytes below it, the byte is not shifted out of the word.
  have room : 2 ^ (8 * count) * 2 ^ 8 ≤ 2 ^ 32 := by
    rw [← Nat.pow_add]
    exact Nat.pow_le_pow_right (by decide) (by omega)
  have fits : 2 ^ (8 * count) * byte.toNat + value < 2 ^ 32 := by
    calc 2 ^ (8 * count) * byte.toNat + value
        < 2 ^ (8 * count) * byte.toNat + 2 ^ (8 * count) := by omega
      _ = 2 ^ (8 * count) * (byte.toNat + 1) := (Nat.mul_succ ..).symm
      _ ≤ 2 ^ (8 * count) * 2 ^ 8 := Nat.mul_le_mul_left _ high
      _ ≤ 2 ^ 32 := room
  have shifted :
      (byte.toUInt32 <<< UInt32.ofNat (8 * count)).toNat = 2 ^ (8 * count) * byte.toNat := by
    rw [UInt32.toNat_shiftLeft, UInt8.toNat_toUInt32, UInt32.toNat_ofNat', Nat.shiftLeft_eq,
      show 8 * count % 2 ^ 32 % 32 = 8 * count by omega, Nat.mul_comm]
    exact Nat.mod_eq_of_lt (by omega)
  apply UInt32.toNat.inj
  rw [UInt32.toNat_or, shifted, UInt32.toNat_ofNat', UInt32.toNat_ofNat', Nat.or_comm,
    Nat.mod_eq_of_lt (by omega), ← joined, Nat.add_comm value, Nat.mod_eq_of_lt fits]

section Scan

variable (memory : Memory) (unit : MemoryUnit) (location : Location) (address : UInt16)

/-- A unit that is read byte by byte has the value of its bytes, and a character for each. -/
theorem UnitScan.read_movedTo
    {count : Nat}
    (few : count ≤ 4) :
    UnitScan.read memory (location.movedTo address) count =
      ⟨location.movedTo (address + UInt16.ofNat count),
        UInt32.ofNat (littleEndian (memory.bytesFrom address count)),
        (memory.bytesFrom address count).map dumpChar⟩ := by
  induction count with
  | zero =>
      rw [show UInt16.ofNat 0 = 0 from rfl, UInt16.add_zero]
      rfl
  | succ count inductionHypothesis =>
      have below := littleEndian_lt (memory.bytesFrom address count)
      have behind : address + UInt16.ofNat count + 1 = address + UInt16.ofNat (count + 1) := by
        rw [UInt16.ofNat_add, UInt16.add_assoc]
        rfl
      have bytes :
          memory.bytesFrom address (count + 1) =
            memory.bytesFrom address count ++ [memory.byte (address + UInt16.ofNat count)] :=
        memory.bytesFrom_add address count 1
      have before := inductionHypothesis (Nat.le_of_succ_le few)
      rw [UnitScan.read] at before ⊢
      rw [Memory.length_bytesFrom] at below
      rw [List.range_succ, List.foldl_append, before, bytes, littleEndian_concat,
        Memory.length_bytesFrom, ← or_shiftLeft_toUInt32 below few, List.map_append, ← behind]
      rfl

/-- The digits of a unit that is read are those of its bytes, of which none is cut off. -/
theorem hexPadded_read :
    Text.hexPadded (2 * unit.bytes)
        (UnitScan.read memory (location.movedTo address) unit.bytes).value.toNat =
      dumpUnit memory unit address := by
  have positive := unit.bytes_pos
  have below := littleEndian_lt (memory.bytesFrom address unit.bytes)
  rw [Memory.length_bytesFrom, show 256 = 16 ^ 2 from rfl, ← Nat.pow_mul] at below
  have word : 16 ^ (2 * unit.bytes) ≤ 2 ^ 32 := by
    cases unit <;> decide
  rw [UnitScan.read_movedTo memory location address unit.bytes_le_four,
    UInt32.toNat_ofNat_of_lt' (Nat.lt_of_lt_of_le below word)]
  exact Text.hexPadded_eq_fixedHexDigits (by omega) below

namespace LineScan

/-- A line that is read unit by unit shows them in order, and is behind the last one. -/
theorem readUnits_movedTo (items : List String) (chars : List Char) (count : Nat) :
    readUnits memory unit ⟨location.movedTo address, items, chars⟩ count =
      ⟨location.movedTo (address + UInt16.ofNat (count * unit.bytes)),
        items ++
          (List.range count).map fun index =>
            dumpUnit memory unit (address + UInt16.ofNat (index * unit.bytes)),
        chars ++ (memory.bytesFrom address (count * unit.bytes)).map dumpChar⟩ := by
  induction count generalizing address items chars with
  | zero =>
      simp [readUnits, Memory.bytesFrom]
  | succ count inductionHypothesis =>
      have bytes : (count + 1) * unit.bytes = unit.bytes + count * unit.bytes := by
        rw [Nat.succ_mul, Nat.add_comm]
      have further (index : Nat) :
          address + UInt16.ofNat ((index + 1) * unit.bytes) =
            address + UInt16.ofNat unit.bytes + UInt16.ofNat (index * unit.bytes) := by
        rw [Nat.succ_mul, Nat.add_comm, UInt16.ofNat_add, UInt16.add_assoc]
      have first :
          readUnit memory unit ⟨location.movedTo address, items, chars⟩ =
            ⟨location.movedTo (address + UInt16.ofNat unit.bytes),
              items ++ [dumpUnit memory unit address],
              chars ++ (memory.bytesFrom address unit.bytes).map dumpChar⟩ := by
        rw [readUnit, hexPadded_read,
          UnitScan.read_movedTo memory location address unit.bytes_le_four]
      rw [readUnits, first, inductionHypothesis, bytes, Memory.bytesFrom_add, UInt16.ofNat_add,
        UInt16.add_assoc, List.range_succ_eq_map]
      simp only [List.map_cons, List.map_map, List.map_append, Function.comp_def,
        Nat.succ_eq_add_one, further, Nat.zero_mul, List.append_assoc, List.singleton_append]
      rw [show UInt16.ofNat 0 = 0 from rfl, UInt16.add_zero]

/-- The text of a line that is read is the line for its units. -/
theorem text_readUnits (count : Nat) :
    text unit (location.movedTo address)
        (readUnits memory unit ⟨location.movedTo address, [], []⟩ count) =
      dumpLine memory unit address count := by
  rw [readUnits_movedTo]
  rfl

end LineScan

theorem dumpFrom_zero : dumpFrom memory unit location 0 = ⟨[], location⟩ := by
  rw [dumpFrom, if_pos rfl]

/-- A dump has a line of as many units as fit, and goes on behind them. -/
theorem dumpFrom_of_pos
    {count : Nat}
    (isSome : 0 < count) :
    let first := min count (unitsPerLine unit)
    let rest :=
      dumpFrom memory unit (location.movedTo (address + UInt16.ofNat (first * unit.bytes)))
        (count - first)
    dumpFrom memory unit (location.movedTo address) count =
      ⟨dumpLine memory unit address first :: rest.lines, rest.location⟩ := by
  intro first rest
  rw [dumpFrom, if_neg (Nat.ne_of_gt isSome)]
  simp only
  rw [LineScan.text_readUnits, LineScan.length_items_readUnits, LineScan.readUnits_movedTo,
    List.length_nil, Nat.zero_add]

/-- A dump ends behind its last unit. -/
theorem location_dumpFrom (count : Nat) :
    (dumpFrom memory unit (location.movedTo address) count).location =
      location.movedTo (address + UInt16.ofNat (count * unit.bytes)) := by
  have full := unitsPerLine_pos unit
  induction count using Nat.strong_induction_on generalizing address with
  | _ count inductionHypothesis =>
      rcases Nat.eq_zero_or_pos count with rfl | isSome
      · rw [dumpFrom_zero, Nat.zero_mul, show UInt16.ofNat 0 = 0 from rfl, UInt16.add_zero]
      · rw [dumpFrom_of_pos memory unit location address isSome]
        simp only
        rw [inductionHypothesis _ (by omega), UInt16.add_assoc, ← UInt16.ofNat_add, ← Nat.add_mul,
          Nat.add_sub_cancel' (Nat.min_le_left ..)]

end Scan

/-! ## Dumps -/

/--
Rows show a number of units from an address on: the units in order, as many as
fit on every row but the last one, behind the address of the first one of them
and before a character for each byte.
-/
structure ShowsUnits
    (memory : Memory)
    (unit : MemoryUnit)
    (start : UInt16)
    (count : Nat)
    (rows : List DumpRow) : Prop where
  units : rows.flatMap (·.units) = memory.unitsFrom unit start count
  sized : ∀ row ∈ rows, row.units ≠ [] ∧ row.units.length * unit.bytes ≤ dumpLineBytes
  full : ∀ row ∈ rows.dropLast, row.units.length * unit.bytes = dumpLineBytes
  address :
    ∀ index (inside : index < rows.length),
      let before := (rows.take index).flatMap (·.units)
      rows[index].address = (start + UInt16.ofNat (before.length * unit.bytes)).toNat
  text : rows.flatMap (·.text) = (memory.bytesFrom start (count * unit.bytes)).map dumpChar
  characters : ∀ row ∈ rows, row.text.length = row.units.length * unit.bytes

namespace ShowsUnits

variable {memory : Memory} {unit : MemoryUnit} {start : UInt16}

theorem nil : ShowsUnits memory unit start 0 [] where
  units := rfl
  sized := nofun
  full := nofun
  address := nofun
  text := by
    rw [Nat.zero_mul]
    rfl
  characters := nofun

/-- A row goes before others that begin where it ends, if it is full unless there are none. -/
theorem cons
    {first more : Nat}
    {rows : List DumpRow}
    (isSome : 0 < first)
    (fits : first ≤ unitsPerLine unit)
    (filled : rows ≠ [] → first = unitsPerLine unit)
    (rest : ShowsUnits memory unit (start + UInt16.ofNat (first * unit.bytes)) more rows) :
    ShowsUnits memory unit start (first + more)
      (.ofMemory memory unit start first :: rows) := by
  have firstLength : (DumpRow.ofMemory memory unit start first).units.length = first :=
    memory.length_unitsFrom unit start first
  refine ⟨?_, ?_, ?_, ?_, ?_, ?_⟩
  · rw [List.flatMap_cons, rest.units, Memory.unitsFrom_add]
    rfl
  · rintro row (_ | ⟨_, member⟩)
    · refine ⟨List.ne_nil_of_length_pos (by omega), ?_⟩
      rw [firstLength, ← unitsPerLine_mul unit]
      exact Nat.mul_le_mul_right _ fits
    · exact rest.sized row member
  · intro row member
    cases rows with
    | nil =>
        cases member
    | cons next rows =>
        rcases List.mem_cons.mp member with rfl | member
        · rw [firstLength, filled nofun, unitsPerLine_mul]
        · exact rest.full row member
  · intro index inside before
    cases index with
    | zero =>
        simp [before, DumpRow.ofMemory]
    | succ index =>
        have length :
            before.length = first + ((rows.take index).flatMap (·.units)).length := by
          simp only [before, List.take_succ_cons, List.flatMap_cons, List.length_append,
            firstLength]
        rw [length, Nat.add_mul, UInt16.ofNat_add, ← UInt16.add_assoc]
        exact rest.address index (Nat.lt_of_succ_lt_succ inside)
  · rw [List.flatMap_cons, rest.text, Nat.add_mul, Memory.bytesFrom_add, List.map_append]
    rfl
  · rintro row (_ | ⟨_, member⟩)
    · rw [firstLength, DumpRow.ofMemory, List.length_map, Memory.length_bytesFrom]
    · exact rest.characters row member

end ShowsUnits

/-- The lines of a dump are read back as rows that show its units. -/
theorem exists_rows_of_dumpFrom
    (memory : Memory)
    (unit : MemoryUnit)
    (location : Location)
    (start : UInt16)
    (count : Nat) :
    ∃ rows,
      (dumpFrom memory unit (location.movedTo start) count).lines.mapM (DumpRow.ofLine? unit) =
          some rows ∧
        ShowsUnits memory unit start count rows := by
  have full := unitsPerLine_pos unit
  induction count using Nat.strong_induction_on generalizing start with
  | _ count inductionHypothesis =>
      rcases Nat.eq_zero_or_pos count with rfl | isSome
      · rw [dumpFrom_zero]
        exact ⟨[], rfl, .nil⟩
      · rw [dumpFrom_of_pos memory unit location start isSome]
        simp only
        rcases Nat.lt_or_ge (unitsPerLine unit) count with more | fits
        · rw [Nat.min_eq_right (Nat.le_of_lt more)]
          obtain ⟨rows, read, shows⟩ :=
            inductionHypothesis (count - unitsPerLine unit) (by omega)
              (start + UInt16.ofNat (unitsPerLine unit * unit.bytes))
          refine ⟨.ofMemory memory unit start (unitsPerLine unit) :: rows, ?_, ?_⟩
          · rw [List.mapM_cons, ofLine?_dumpLine memory unit start full (Nat.le_refl _), read]
            rfl
          · have whole := shows.cons full (Nat.le_refl _) fun _ => rfl
            rwa [Nat.add_sub_cancel' (Nat.le_of_lt more)] at whole
        · -- What is left fits on one line, the only one that need not be full.
          rw [Nat.min_eq_left fits, Nat.sub_self, dumpFrom_zero]
          refine ⟨[.ofMemory memory unit start count], ?_, ?_⟩
          · rw [List.mapM_cons, ofLine?_dumpLine memory unit start isSome fits]
            rfl
          · exact ShowsUnits.nil.cons isSome fits (absurd rfl)

/-- A dump that is asked for: the unit, and how many bytes. -/
structure DumpRequest where
  unit : MemoryUnit
  length : Nat
  deriving Repr, DecidableEq

namespace DumpRequest

variable (request : DumpRequest)

/-- The units that cover the bytes, of which there are no more than addresses. -/
def count : Nat :=
  min request.length Memory.size ⌈/⌉ request.unit.bytes

/-- The bytes that are shown. -/
def bytes : Nat :=
  request.count * request.unit.bytes

theorem count_eq : request.count = dumpUnits request.unit request.length :=
  Nat.ceilDiv_eq_add_pred_div _ _

theorem bytes_le : request.bytes ≤ Memory.size := by
  rw [bytes, count_eq, dumpUnits, Memory.size]
  cases request.unit <;> simp only [MemoryUnit.bytes] <;> omega

end DumpRequest

/-- Rows show what a dump is asked for, and no address twice. -/
structure IsDump
    (memory : Memory)
    (request : DumpRequest)
    (start : UInt16)
    (rows : List DumpRow) : Prop
    extends ShowsUnits memory request.unit start request.count rows where
  distinct :
    ∀ first second,
      first < second →
        second < request.bytes →
          start + UInt16.ofNat first ≠ start + UInt16.ofNat second

/-- The lines of a dump show what it is asked for. -/
theorem exists_isDump_of_dumpFrom
    (memory : Memory)
    (request : DumpRequest)
    (location : Location)
    (start : UInt16) :
    ∃ rows,
      (dumpFrom memory request.unit (location.movedTo start) request.count).lines.mapM
            (DumpRow.ofLine? request.unit) =
          some rows ∧
        IsDump memory request start rows := by
  obtain ⟨rows, read, shows⟩ :=
    exists_rows_of_dumpFrom memory request.unit location start request.count
  refine ⟨rows, read, shows, fun first second before inside same => ?_⟩
  have secondInside : second < Memory.size := Nat.lt_of_lt_of_le inside request.bytes_le
  exact Nat.ne_of_lt before
    (Memory.add_ofNat_inj (Nat.lt_trans before secondInside) secondInside same)

/-- Lines show dumps one after the other, of which each begins where the one before it ends. -/
inductive ShowsInTurn (memory : Memory) : UInt16 → List DumpRequest → List String → Prop
  | nil (start : UInt16) : ShowsInTurn memory start [] []
  | cons
      {request : DumpRequest}
      {start : UInt16}
      {lines : List String}
      {rows : List DumpRow}
      {requests : List DumpRequest}
      {others : List String}
      (read : lines.mapM (DumpRow.ofLine? request.unit) = some rows)
      (shown : IsDump memory request start rows)
      (rest : ShowsInTurn memory (start + UInt16.ofNat request.bytes) requests others) :
      ShowsInTurn memory start (request :: requests) (lines ++ others)

/-! ## Commands -/

namespace Session

/-- A dump starts at an address: the one that a text means, else the cursor, else the next instruction. -/
def MeansStart (session : Session) (start : UInt16) : Option String → Prop
  | some text => session.monitor.addressOf session.machine text = .ok start
  | none => session.monitor.dumpCursor.address?.getD session.pc = start

/-- A dump is to show a number of bytes: the value of a text, else the configured one. -/
def MeansLength (session : Session) (length : Nat) : Option String → Prop
  | some text =>
      ∃ value, session.monitor.evaluate session.machine text = .ok value ∧ value.toInt = length
  | none => session.monitor.config.dumpBytes = length

/-- A session after dumps: lines were printed, and the cursor is at an address. -/
structure Dumped
    (before after : Session)
    (lines : List String)
    (next : UInt16) : Prop where
  machine : after.machine = before.machine
  config : after.monitor.config = before.monitor.config
  output : after.monitor.output.toList = before.monitor.output.toList ++ lines
  cursor : after.monitor.dumpCursor.address? = some next

theorem Dumped.trans
    {before middle after : Session}
    {lines others : List String}
    {next last : UInt16}
    (first : before.Dumped middle lines next)
    (second : middle.Dumped after others last) :
    before.Dumped after (lines ++ others) last where
  machine := second.machine.trans first.machine
  config := second.config.trans first.config
  output := by rw [second.output, first.output, List.append_assoc]
  cursor := second.cursor

end Session

namespace Operation

variable {session : Session} {start : UInt16} {length : Nat} {address? length? : Option String}

theorem place_run_of_meansStart (startMeant : session.MeansStart start address?) :
    ∃ cursor,
      (place address? session.monitor.dumpCursor).run session = (.ok cursor, session) ∧
        cursor.address? = some start := by
  cases address? with
  | some text =>
      exact ⟨.ofAddress start, place_run startMeant _, rfl⟩
  | none =>
      rw [Session.MeansStart] at startMeant
      -- A cursor that was never set gives way to the next instruction.
      cases set : session.monitor.dumpCursor.address? with
      | some address =>
          rw [set] at startMeant
          have isSet : session.monitor.dumpCursor.isSet = true :=
            congrArg Option.isSome set
          refine ⟨session.monitor.dumpCursor, ?_, set.trans (congrArg some startMeant)⟩
          rw [place, if_pos isSet]
          rfl
      | none =>
          rw [set] at startMeant
          have isUnset : ¬session.monitor.dumpCursor.isSet = true := by
            rw [Location.isSet, set]
            exact Bool.false_ne_true
          refine ⟨.ofAddress session.pc, ?_, congrArg some startMeant⟩
          rw [place, if_neg isUnset]
          rfl

theorem countOr_run_of_meansLength (lengthMeant : session.MeansLength length length?) :
    (countOr session.monitor.config.dumpBytes length?).run session = (.ok length, session) := by
  cases length? with
  | none =>
      exact congrArg (fun length => (Except.ok length, session)) lengthMeant
  | some text =>
      obtain ⟨value, evaluated, same⟩ := lengthMeant
      have notNegative : ¬value < 0 := by
        rw [Int64.lt_iff_toInt_lt, same, Int64.toInt_zero]
        omega
      rw [countOr, count, run_bind, run_evaluate evaluated]
      simp only [if_neg notNegative, same]
      rfl

/-- A dump prints lines that show what it is asked for, and puts the cursor behind the last unit. -/
theorem dump_run
    (unit : MemoryUnit)
    (startMeant : session.MeansStart start address?)
    (lengthMeant : session.MeansLength length length?) :
    let request : DumpRequest := ⟨unit, length⟩
    ∃ after lines rows,
      (dump unit address? length?).run session = (.ok (), after) ∧
        session.Dumped after lines (start + UInt16.ofNat request.bytes) ∧
        lines.mapM (DumpRow.ofLine? unit) = some rows ∧
        IsDump session.machine.memory request start rows := by
  intro request
  obtain ⟨cursor, placed, here⟩ := place_run_of_meansStart startMeant
  have counted := countOr_run_of_meansLength lengthMeant
  obtain ⟨rows, read, shown⟩ :=
    exists_isDump_of_dumpFrom session.machine.memory request cursor start
  have ends := location_dumpFrom session.machine.memory unit cursor start request.count
  rw [Location.movedTo_address here, request.count_eq] at read ends
  rw [dump, run_bind, run_observe]
  simp only
  rw [run_bind, placed]
  simp only
  rw [run_bind, run_observe]
  simp only
  rw [run_bind, counted]
  simp only
  rw [run_bind, run_observe]
  refine ⟨_, _, rows, rfl, ⟨rfl, ?_, ?_, ?_⟩, read, shown⟩
  · exact Monitor.printAll_config ..
  · exact Monitor.printAll_output ..
  · rw [DumpRequest.bytes, request.count_eq]
    exact congrArg Location.address? ends

/-- Dumps without arguments, one after the other. -/
def dumpInTurn : List MemoryUnit → Operation Unit
  | [] => pure ()
  | unit :: units => do
      dump unit none none
      dumpInTurn units

/-- Dumps without arguments show memory from the cursor on, without a gap. -/
theorem dumpInTurn_run
    (here : session.monitor.dumpCursor.address? = some start)
    (units : List MemoryUnit) :
    let requests : List DumpRequest :=
      units.map fun unit => ⟨unit, session.monitor.config.dumpBytes⟩
    ∃ after lines,
      (dumpInTurn units).run session = (.ok (), after) ∧
        session.Dumped after lines
          (start + UInt16.ofNat (requests.map DumpRequest.bytes).sum) ∧
        ShowsInTurn session.machine.memory start requests lines := by
  induction units generalizing session start with
  | nil =>
      refine ⟨session, [], rfl, ⟨rfl, rfl, (List.append_nil _).symm, ?_⟩, .nil start⟩
      exact here.trans (congrArg some (UInt16.add_zero start).symm)
  | cons unit units inductionHypothesis =>
      intro requests
      have startMeant : session.MeansStart start none := by
        rw [Session.MeansStart, here]
        rfl
      have lengthMeant : session.MeansLength session.monitor.config.dumpBytes none := rfl
      obtain ⟨middle, lines, rows, ran, dumped, read, isDump⟩ :=
        dump_run unit startMeant lengthMeant
      obtain ⟨after, others, ranOn, dumpedOn, shown⟩ := inductionHypothesis dumped.cursor
      rw [dumped.config, UInt16.add_assoc, ← UInt16.ofNat_add] at dumpedOn
      rw [dumped.config, dumped.machine] at shown
      refine ⟨after, _, ?_, dumped.trans dumpedOn, .cons read isDump shown⟩
      rw [dumpInTurn, run_bind, ran]
      exact ranOn

end Operation

/--
A dump, and after it any number of dumps without arguments, print lines that
show consecutive memory: read back, the lines of each one show its units in
order and no address twice, with as many units on every line but the last one
as fit, and each one begins at the address where the one before it ends. The
cursor ends behind the last one.
-/
theorem dumps_show_consecutive_memory
    {session : Session}
    {address? length? : Option String}
    {start : UInt16}
    {length : Nat}
    (unit : MemoryUnit)
    (startMeant : session.MeansStart start address?)
    (lengthMeant : session.MeansLength length length?)
    (units : List MemoryUnit) :
    let requests : List DumpRequest :=
      ⟨unit, length⟩ :: units.map fun unit => ⟨unit, session.monitor.config.dumpBytes⟩
    let total := (requests.map DumpRequest.bytes).sum
    ∃ after lines,
      (Operation.dump unit address? length? >>= fun _ => Operation.dumpInTurn units).run session =
          (.ok (), after) ∧
        session.Dumped after lines (start + UInt16.ofNat total) ∧
        ShowsInTurn session.machine.memory start requests lines ∧
        ∀ first second,
          first < second →
            second < total →
              total ≤ Memory.size →
                start + UInt16.ofNat first ≠ start + UInt16.ofNat second := by
  intro requests total
  obtain ⟨middle, lines, rows, ran, dumped, read, isDump⟩ :=
    Operation.dump_run unit startMeant lengthMeant
  obtain ⟨after, others, ranOn, dumpedOn, shown⟩ := Operation.dumpInTurn_run dumped.cursor units
  rw [dumped.config, UInt16.add_assoc, ← UInt16.ofNat_add] at dumpedOn
  rw [dumped.config, dumped.machine] at shown
  refine ⟨after, _, ?_, dumped.trans dumpedOn, .cons read isDump shown, ?_⟩
  · rw [Operation.run_bind, ran]
    exact ranOn
  · intro first second before inside fits same
    have secondInside : second < Memory.size := Nat.lt_of_lt_of_le inside fits
    exact Nat.ne_of_lt before
      (Memory.add_ofNat_inj (Nat.lt_trans before secondInside) secondInside same)

/-- Of three dumps around the end of memory, the last one ends where so many bytes do. -/
theorem three_dumps_go_around_the_end :
    let session : Session := ⟨.ofConfig .default, .initial⟩
    session.MeansStart 0xFFF0 (some (Text.hexWord 0xFFF0)) ∧
      session.MeansLength 128 none ∧
      ∃ after lines,
        (Operation.dump .byte (some (Text.hexWord 0xFFF0)) none >>= fun _ =>
              Operation.dumpInTurn [.word, .doubleWord]).run session =
            (.ok (), after) ∧
          session.Dumped after lines 0x0170 ∧
          ShowsInTurn session.machine.memory 0xFFF0
            [⟨.byte, 128⟩, ⟨.word, 128⟩, ⟨.doubleWord, 128⟩] lines := by
  intro session
  have startMeant : session.MeansStart 0xFFF0 (some (Text.hexWord 0xFFF0)) :=
    Monitor.addressOf_hexWord rfl rfl _
  have lengthMeant : session.MeansLength 128 none := rfl
  obtain ⟨after, lines, ran, dumped, shown, -⟩ :=
    dumps_show_consecutive_memory .byte startMeant lengthMeant [.word, .doubleWord]
  have next :
      (0xFFF0 : UInt16) +
          UInt16.ofNat
            (List.map DumpRequest.bytes
              [⟨.byte, 128⟩, ⟨.word, 128⟩, ⟨.doubleWord, 128⟩]).sum =
        0x0170 := by
    decide +kernel
  exact ⟨startMeant, lengthMeant, after, lines, ran, next ▸ dumped, shown⟩

end Monitor8080
