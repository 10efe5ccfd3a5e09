import Monitor8080.Monitor.Basic
import Monitor8080.Symbols.Encoding
namespace Monitor8080

/-!
# Snapshots

A snapshot is what a monitor remembers from one session to the next. It is
stored as JSON values in numbered slots, one for each part. A part whose slot
is missing is left alone when the snapshot is restored, and if any part is
malformed nothing is restored at all.
-/

/-! ## Slots -/

/-- Values in numbered slots, in increasing order of the numbers. -/
structure SlotTable where
  slots : List (UInt8 × Json)
  deriving Repr, Inhabited

namespace SlotTable

def empty : SlotTable :=
  ⟨[]⟩

def get? (table : SlotTable) (number : UInt8) : Option Json :=
  (table.slots.find? (·.1 == number)).map (·.2)

/-- A value put into a slot, in place of the one before if there was one. -/
def insertSlot (number : UInt8) (value : Json) : List (UInt8 × Json) → List (UInt8 × Json)
  | [] => [(number, value)]
  | (other, present) :: slots =>
      if number < other then
        (number, value) :: (other, present) :: slots
      else if number = other then
        (number, value) :: slots
      else
        (other, present) :: insertSlot number value slots

/-- The table with a value in a slot. -/
def insert (table : SlotTable) (number : UInt8) (value : Json) : SlotTable :=
  ⟨insertSlot number value table.slots⟩

/-- The table of values in any order, of which the last one for a slot counts. -/
def ofEntries (entries : List (UInt8 × Json)) : SlotTable :=
  entries.foldl (fun table entry => table.insert entry.1 entry.2) empty

/-- The number of the slot that a name writes in decimal digits. -/
def slotNumber? (name : String) : Option UInt8 :=
  ((List.finRange 256).find? fun number => toString number.val == name).map UInt8.ofFin

/-- How deep a value in a slot may nest, given the two objects that it stands in. -/
def slotDepthLimit : Nat :=
  Json.depthLimit - 2

/-- The slot that a member of an object fills. -/
def entryOfMember? (member : String × Json) : Option (UInt8 × Json) := do
  let number ← slotNumber? member.1
  let value ← member.2.keptWithin? slotDepthLimit
  return (number, value.dedup)

/-- The slots that an object fills. -/
def slotsOfJson? : Json → Option SlotTable
  | .object members => (members.mapM entryOfMember?).map ofEntries
  | _ => none

/-- The only field of a table as it is stored. -/
def slotsField : String := "slots"

/-- A table as it is stored. -/
def ofJson? (value : Json) : Option SlotTable := do
  let fields ← value.allFields? [slotsField]
  fields.required? slotsField slotsOfJson?

/-- Whether the names in an object are written without escapes. -/
def hasPlainNames : Json → Bool
  | .object members => members.all fun member => !member.1.contains '\\'
  | _ => true

/-- Whether the slot numbers in a stored table are written without escapes. -/
def hasPlainNumbers : Json → Bool
  | .object members =>
      members.all fun member =>
        Json.unescape? member.1 != some slotsField || hasPlainNames member.2
  | .array items => items.all hasPlainNames
  | _ => true

/-- The table that a text stores, in which the slot numbers are plain digits. -/
def ofText? (text : String) : Option SlotTable := do
  let written ← Json.written? text
  if hasPlainNumbers written then ofJson? written.unescaped else none

def toJson (table : SlotTable) : Json :=
  .object [
    (slotsField,
      .object (table.slots.map fun entry => (toString entry.1.toNat, entry.2)))]

end SlotTable

/-! ## What the slots hold -/

/-- What a monitor remembers; a part that is `none` was not stored. -/
structure Snapshot where
  codeCursor? : Option Location
  dumpCursor? : Option Location
  assembleCursor? : Option Location
  commandHistory? : Option (List String)
  dialect? : Option Dialect
  messages? : Option UInt32
  symbols? : Option SymbolTable
  bindings? : Option (NameMap Int64)
  deriving Repr, DecidableEq

namespace Snapshot

/-- A cursor as it is stored. -/
def cursorToJson (location : Location) : Json :=
  .array (location.toBytes.map fun byte => .ofNat byte.toNat)

/-- Variables as they are stored. -/
def bindingsToJson (bindings : NameMap Int64) : Json :=
  .object (bindings.map fun entry => (entry.1, .int entry.2.toInt))

/-- The slots that store a snapshot. -/
def toSlots (snapshot : Snapshot) : SlotTable :=
  ⟨[(0, snapshot.codeCursor?.map cursorToJson),
    (1, snapshot.dumpCursor?.map cursorToJson),
    (2, snapshot.assembleCursor?.map cursorToJson),
    (3, snapshot.commandHistory?.map fun lines => .array (lines.map .string)),
    (4, snapshot.dialect?.map fun dialect => .string dialect.name),
    (5, snapshot.messages?.map fun mask => .ofNat mask.toNat),
    (6, snapshot.symbols?.map SymbolTable.toJson),
    (7, snapshot.bindings?.map bindingsToJson)].filterMap
      fun (number, value?) => value?.map (number, ·)⟩

/-- What a slot holds, if it is there; what its value does not stand for is an error. -/
def part (table : SlotTable) (number : UInt8) (decode? : Json → Option α) :
    Except MonitorError (Option α) :=
  match table.get? number with
  | none => .ok none
  | some value =>
      match decode? value with
      | some content => .ok (some content)
      | none => .error .malformedJson

/-- The cursor that a slot holds, which has to be packed in three bytes. -/
def cursor (table : SlotTable) (number : UInt8) : Except MonitorError (Option Location) := do
  match ← part table number (Json.list? Json.byte?) with
  | none => return none
  | some bytes =>
      match Location.ofBytes? bytes with
      | some location => return some location
      | none => throw (.malformedSlot number.toNat)

/-- Variables as they are stored. -/
def bindingsOfJson? (value : Json) : Option (NameMap Int64) :=
  (value.entries? Json.int64?).map NameMap.ofEntries

/-- The snapshot that slots store; slots of other numbers are ignored. -/
def ofSlots (table : SlotTable) : Except MonitorError Snapshot := do
  return {
    codeCursor? := ← cursor table 0
    dumpCursor? := ← cursor table 1
    assembleCursor? := ← cursor table 2
    commandHistory? := ← part table 3 (Json.list? Json.text?)
    dialect? := ← part table 4 Dialect.ofJson?
    messages? := ← part table 5 Json.mask?
    symbols? := ← part table 6 SymbolTable.ofJson?
    bindings? := ← part table 7 bindingsOfJson? }

end Snapshot

namespace Monitor

/-- What the monitor remembers. -/
def snapshot (monitor : Monitor) : Snapshot where
  codeCursor? := some monitor.codeCursor
  dumpCursor? := some monitor.dumpCursor
  assembleCursor? := some monitor.assembleCursor
  commandHistory? := some monitor.commandHistory
  dialect? := some monitor.dialect
  messages? := some monitor.sentry.messages
  symbols? := some monitor.symbols
  bindings? := some monitor.bindings

/-- The slots that store what the monitor remembers. -/
def saved (monitor : Monitor) : SlotTable :=
  monitor.snapshot.toSlots

/-- The monitor with the parts of a snapshot, of whose operator lines it keeps as many as usual. -/
def withSnapshot (monitor : Monitor) (snapshot : Snapshot) : Monitor :=
  { monitor with
    codeCursor := snapshot.codeCursor?.getD monitor.codeCursor
    dumpCursor := snapshot.dumpCursor?.getD monitor.dumpCursor
    assembleCursor := snapshot.assembleCursor?.getD monitor.assembleCursor
    commandHistory :=
      match snapshot.commandHistory? with
      | some lines => lines.take monitor.config.commandHistoryLength
      | none => monitor.commandHistory
    dialect := snapshot.dialect?.getD monitor.dialect
    sentry := { monitor.sentry with
      messages := snapshot.messages?.getD monitor.sentry.messages }
    symbols := snapshot.symbols?.getD monitor.symbols
    bindings := snapshot.bindings?.getD monitor.bindings }

/-- The monitor with everything that slots store. -/
def restore (monitor : Monitor) (table : SlotTable) : Except MonitorError Monitor := do
  return monitor.withSnapshot (← Snapshot.ofSlots table)

end Monitor

end Monitor8080
