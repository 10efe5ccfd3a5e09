import Monitor8080.Proofs.JsonRoundTrips
import Monitor8080.Proofs.RoundTrips
namespace Monitor8080

/-!
# Stored state as text

What a monitor remembers is stored as JSON text, of which nothing is lost: the
text stands for exactly the slots that were stored, and no symbol table and no
variables are too large or nest too deep for that.
-/

/-! ## What is stored is kept -/

namespace Json

variable {nesting : Nat}

theorem isKept_ofNat
    {value : Nat}
    (fits : value < 0x10000000000000000) :
    IsKept nesting (.ofNat value) := by
  apply IsKept.int
  · omega
  · exact Int.ofNat_lt.mpr fits

theorem isKept_ofOption
    {encode : α → Json}
    (kept : ∀ value, IsKept nesting (encode value))
    (value? : Option α) :
    IsKept nesting (.ofOption encode value?) := by
  cases value? with
  | none =>
      exact .null
  | some value =>
      exact kept value

/-- What is kept of every value is kept of a list of them. -/
theorem isKept_array_map
    {encode : α → Json}
    {values : List α}
    (kept : ∀ value ∈ values, IsKept nesting (encode value)) :
    IsKept (nesting + 1) (.array (values.map encode)) :=
  .array (List.forall_mem_map.mpr kept)

/-- A map in order names nothing twice. -/
theorem isKept_object_map
    {encode : α → Json}
    {map : NameMap α}
    (ordered : map.IsOrdered)
    (kept : ∀ entry ∈ map, IsKept nesting (encode entry.2)) :
    IsKept (nesting + 1) (.object (map.map fun entry => (entry.1, encode entry.2))) := by
  have apart : ∀ {left right : String × α}, left.1 < right.1 → left.1 ≠ right.1 :=
    fun before same => String.lt_irrefl _ (same ▸ before)
  refine .object ?_ (List.forall_mem_map.mpr kept)
  rw [List.map_map]
  exact List.pairwise_map.mpr (List.Pairwise.imp apart ordered)

end Json

theorem KnownSymbol.isKept_toJson
    {nesting : Nat}
    (record : KnownSymbol) :
    record.toJson.IsKept (nesting + 1) := by
  have offset :
      (Json.ofOption (fun offset : UInt16 => .ofNat offset.toNat) record.offset?).IsKept nesting :=
    Json.isKept_ofOption
      (fun offset => Json.isKept_ofNat (Nat.lt_trans offset.toNat_lt (by decide))) _
  have text : ∀ text? : Option String, (Json.ofOption .string text?).IsKept nesting :=
    Json.isKept_ofOption .string
  have names : KnownSymbol.fieldNames.Nodup := by decide
  refine .object names ?_
  simp only [List.forall_mem_cons]
  exact ⟨.string _, offset, text _, text _, text _, nofun⟩

theorem ModuleSymbols.IsStorable.isKept_toJson
    {nesting : Nat}
    {group : ModuleSymbols}
    (storable : group.IsStorable) :
    group.toJson.IsKept (nesting + 3) := by
  have word : ∀ {nesting : Nat} (word : UInt16), (Json.ofNat word.toNat).IsKept nesting :=
    fun word => Json.isKept_ofNat (Nat.lt_trans word.toNat_lt (by decide))
  have byName :=
    Json.isKept_object_map storable.byName fun entry _ =>
      @KnownSymbol.isKept_toJson nesting entry.2
  have offsets :
      (Json.array (group.offsets.toList.map fun entry =>
        .array [.ofNat entry.1.toNat, .string entry.2])).IsKept (nesting + 2) := by
    refine Json.isKept_array_map fun entry _ => .array ?_
    simp only [List.forall_mem_cons]
    exact ⟨word entry.1, .string _, nofun⟩
  have names : ["module", "base", "length", "by_name", "offsets"].Nodup := by decide
  refine .object names ?_
  simp only [List.forall_mem_cons]
  exact ⟨.string _, word _, Json.isKept_ofNat storable.length, byName, offsets, nofun⟩

theorem SymbolTable.IsStorable.isKept_toJson
    {nesting : Nat}
    {table : SymbolTable}
    (storable : table.IsStorable) :
    table.toJson.IsKept (nesting + 5) := by
  have groups :
      (Json.array (table.groups.map ModuleSymbols.toJson)).IsKept (nesting + 4) :=
    Json.isKept_array_map fun group member => (storable group member).isKept_toJson
  refine .object (List.pairwise_singleton _ "groups") ?_
  simp only [List.forall_mem_cons]
  exact ⟨groups, nofun⟩

namespace Snapshot

theorem isKept_cursorToJson
    {nesting : Nat}
    (location : Location) :
    (cursorToJson location).IsKept (nesting + 1) :=
  Json.isKept_array_map fun byte _ =>
    Json.isKept_ofNat (Nat.lt_trans byte.toNat_lt (by decide))

theorem isKept_bindingsToJson
    {nesting : Nat}
    {bindings : NameMap Int64}
    (ordered : bindings.IsOrdered) :
    (bindingsToJson bindings).IsKept (nesting + 1) := by
  have value : ∀ value : Int64, (Json.int value.toInt).IsKept nesting := by
    intro value
    have least := value.le_toInt
    have most := value.toInt_lt
    apply Json.IsKept.int <;> omega
  exact @Json.isKept_object_map nesting _ (fun value : Int64 => .int value.toInt) bindings ordered
    fun entry _ => value entry.2

end Snapshot

/-! ## What is stored is read back -/

namespace SlotTable

/-- The numbers of the slots that a monitor stores. -/
def savedNumbers : List UInt8 :=
  [0, 1, 2, 3, 4, 5, 6, 7]

theorem slotNumber?_toString :
    ∀ number ∈ savedNumbers, slotNumber? (toString number.toNat) = some number := by
  decide +kernel

/-- Numbers are written in plain digits. -/
theorem no_backslash_in_toString :
    ∀ number ∈ savedNumbers, '\\' ∉ (Json.escapedText (toString number.toNat)).toList := by
  decide +kernel

theorem names_nodup : (savedNumbers.map fun number => toString number.toNat).Nodup := by
  decide +kernel

variable {table : SlotTable}

/-- The names of stored slots are written without escapes. -/
theorem hasPlainNumbers_asWritten
    (numbers : ∀ entry ∈ table.slots, entry.1 ∈ savedNumbers) :
    hasPlainNumbers table.toJson.asWritten = true := by
  have plain :
      hasPlainNames
          (.object (Json.membersAsWritten
            (table.slots.map fun entry => (toString entry.1.toNat, entry.2)))) =
        true := by
    rw [Json.membersAsWritten_eq_map, List.map_map, hasPlainNames, List.all_map, List.all_eq_true]
    intro entry member
    have isPlain := no_backslash_in_toString entry.1 (numbers entry member)
    simp only [Function.comp_apply, String.contains_char_eq, isPlain, decide_false, Bool.not_false]
  have written :
      table.toJson.asWritten =
        .object [
          (Json.escapedText slotsField,
            .object (Json.membersAsWritten
              (table.slots.map fun entry => (toString entry.1.toNat, entry.2))))] := rfl
  rw [written, hasPlainNumbers, List.all_cons, plain, Bool.or_true, List.all_nil, Bool.and_true]

/-- What was kept of a table is read back from the members of the object that stores it. -/
theorem ofJson?_toJson
    {nesting : Nat}
    (shallow : nesting < slotDepthLimit)
    (numbers : ∀ entry ∈ table.slots, entry.1 ∈ savedNumbers)
    (kept : ∀ entry ∈ table.slots, entry.2.IsKept nesting) :
    ofJson? table.toJson = some (ofEntries table.slots) := by
  have decodes :
      ∀ entry ∈ table.slots,
        entryOfMember? (toString entry.1.toNat, entry.2) = some entry := by
    intro entry member
    rw [entryOfMember?, slotNumber?_toString entry.1 (numbers entry member),
      (kept entry member).keptWithin?_eq shallow]
    simp only [Option.bind_eq_bind, Option.bind_some, (kept entry member).dedup_eq]
    rfl
  change ((table.slots.map _).mapM entryOfMember?).map ofEntries = _
  rw [Json.mapM_map_eq_some decodes, Option.map_some]

end SlotTable

namespace Monitor

variable {monitor : Monitor}

theorem mem_savedNumbers (monitor : Monitor) :
    ∀ entry ∈ monitor.saved.slots, entry.1 ∈ SlotTable.savedNumbers :=
  fun _ => List.mem_map_of_mem

/-- How deep the values nest that are stored of a monitor. -/
def savedNesting : Nat := 5

theorem HasStorableNames.isKept_saved (storable : monitor.HasStorableNames) :
    ∀ entry ∈ monitor.saved.slots, entry.2.IsKept savedNesting := by
  have cursor : ∀ location, (Snapshot.cursorToJson location).IsKept savedNesting :=
    @Snapshot.isKept_cursorToJson 4
  have history : (Json.array (monitor.commandHistory.map .string)).IsKept savedNesting :=
    @Json.isKept_array_map 4 _ _ _ fun line _ => .string line
  have mask : (Json.ofNat monitor.sentry.messages.toNat).IsKept savedNesting :=
    Json.isKept_ofNat (Nat.lt_trans monitor.sentry.messages.toNat_lt (by decide))
  change ∀ entry ∈ [((0 : UInt8), _), (1, _), (2, _), (3, _), (4, _), (5, _), (6, _), (7, _)], _
  simp only [List.forall_mem_cons]
  exact
    ⟨cursor _, cursor _, cursor _, history, .string _, mask, @storable.symbols.isKept_toJson 0,
      @Snapshot.isKept_bindingsToJson 4 _ storable.bindings, nofun⟩

theorem HasStorableNames.isKept_toJson (storable : monitor.HasStorableNames) :
    monitor.saved.toJson.IsKept (savedNesting + 2) := by
  have slots :
      (Json.object
        (monitor.saved.slots.map fun entry => (toString entry.1.toNat, entry.2))).IsKept
          (savedNesting + 1) := by
    refine .object ?_ (List.forall_mem_map.mpr storable.isKept_saved)
    exact SlotTable.names_nodup
  refine .object (List.pairwise_singleton _ _) ?_
  simp only [List.forall_mem_cons]
  exact ⟨slots, nofun⟩

/-- The text that is stored of a monitor stands for the JSON value of its slots. -/
theorem HasStorableNames.read?_saved (storable : monitor.HasStorableNames) :
    Json.read? monitor.saved.toJson.renderPretty = some monitor.saved.toJson :=
  storable.isKept_toJson.read?_renderPretty

/-- What is stored of a monitor is read back slot by slot. -/
theorem HasStorableNames.ofJson?_saved (storable : monitor.HasStorableNames) :
    SlotTable.ofJson? monitor.saved.toJson = some monitor.saved :=
  SlotTable.ofJson?_toJson (show savedNesting < SlotTable.slotDepthLimit by decide)
    monitor.mem_savedNumbers storable.isKept_saved

/-- The text that is stored of a monitor is read back slot by slot. -/
theorem HasStorableNames.ofText?_saved (storable : monitor.HasStorableNames) :
    SlotTable.ofText? monitor.saved.toJson.renderPretty = some monitor.saved := by
  rw [SlotTable.ofText?, storable.isKept_toJson.written?_renderPretty, Option.bind_eq_bind,
    Option.bind_some, SlotTable.hasPlainNumbers_asWritten monitor.mem_savedNumbers, if_pos rfl,
    Json.unescaped_asWritten, storable.ofJson?_saved]

end Monitor

end Monitor8080
