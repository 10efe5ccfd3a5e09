import Monitor8080.Monitor.Snapshot
import Monitor8080.Proofs.NameMaps
namespace Monitor8080

/-!
# Values as they are stored

What is stored of a number, a text, a list, a record or a map is read back as
it was. A count has to fit into 64 bits for that, and a map to stand in the
order of its names, as every map does that was read or inserted into.
-/

namespace Json

/-! ## Numbers and texts -/

theorem natBelow?_ofNat
    {bound value : Nat}
    (below : value < bound) :
    natBelow? bound (.ofNat value) = some value := by
  have isNatural : (0 : Int) ≤ value ∧ (value : Int) < bound := by omega
  exact (if_pos isNatural).trans (congrArg some (Int.toNat_natCast value))

theorem byte?_ofNat (byte : UInt8) : byte? (.ofNat byte.toNat) = some byte := by
  rw [byte?, natBelow?_ofNat byte.toNat_lt, Option.map_some, UInt8.ofNat_toNat]

theorem word?_ofNat (word : UInt16) : word? (.ofNat word.toNat) = some word := by
  rw [word?, natBelow?_ofNat word.toNat_lt, Option.map_some, UInt16.ofNat_toNat]

theorem mask?_ofNat (mask : UInt32) : mask? (.ofNat mask.toNat) = some mask := by
  rw [mask?, natBelow?_ofNat mask.toNat_lt, Option.map_some, UInt32.ofNat_toNat]

theorem int64?_int (value : Int64) : int64? (.int value.toInt) = some value := by
  have inRange : -0x8000000000000000 ≤ value.toInt ∧ value.toInt ≤ 0x7FFFFFFFFFFFFFFF := by
    have least := value.le_toInt
    have most := value.toInt_lt
    omega
  rw [int64?, Text.int64?, if_pos inRange, Int64.ofInt_toInt]

/-- A natural number is read only if it is below the bound. -/
theorem lt_of_natBelow?
    {bound value : Nat}
    {stored : Json}
    (read : natBelow? bound stored = some value) :
    value < bound := by
  unfold natBelow? at read
  split at read
  · split at read
    · rename_i inRange
      have number := Option.some.inj read
      omega
    · cases read
  · cases read

/-! ## Lists, objects and what may be missing -/

/-- Values that are decoded one by one are the ones that were encoded. -/
theorem mapM_map_eq_some
    {decode? : β → Option α}
    {encode : α → β}
    {values : List α}
    (decodes : ∀ value ∈ values, decode? (encode value) = some value) :
    (values.map encode).mapM decode? = some values := by
  induction values with
  | nil =>
      rfl
  | cons value rest inductionHypothesis =>
      have restDecodes :=
        inductionHypothesis fun other member => decodes other (List.mem_cons_of_mem value member)
      rw [List.map_cons, List.mapM_cons, decodes value List.mem_cons_self, restDecodes]
      rfl

/-- Every value of a list that is decoded one by one was decoded from something. -/
theorem exists_of_mem_mapM
    {decode? : β → Option α}
    {items : List β}
    {values : List α}
    (decoded : items.mapM decode? = some values)
    {value : α}
    (member : value ∈ values) :
    ∃ item, decode? item = some value := by
  induction items generalizing values with
  | nil =>
      cases decoded
      cases member
  | cons item rest inductionHypothesis =>
      rw [List.mapM_cons] at decoded
      obtain ⟨first, firstDecoded, others⟩ := Option.bind_eq_some_iff.mp decoded
      obtain ⟨later, laterDecoded, whole⟩ := Option.bind_eq_some_iff.mp others
      cases whole
      rcases List.mem_cons.mp member with rfl | inRest
      · exact ⟨item, firstDecoded⟩
      · exact inductionHypothesis laterDecoded inRest

section Decoded

variable {decode? : Json → Option α} {encode : α → Json}

theorem list?_array
    {values : List α}
    (decodes : ∀ value ∈ values, decode? (encode value) = some value) :
    list? decode? (.array (values.map encode)) = some values :=
  mapM_map_eq_some decodes

theorem entries?_object
    {entries : List (String × α)}
    (decodes : ∀ entry ∈ entries, decode? (encode entry.2) = some entry.2) :
    entries? decode? (.object (entries.map fun entry => (entry.1, encode entry.2))) =
      some entries := by
  refine mapM_map_eq_some fun entry member => ?_
  rw [decodes entry member]
  rfl

/-- A map in order is read back from the object that stores it. -/
theorem ofEntries_entries?_object
    {map : NameMap α}
    (ordered : map.IsOrdered)
    (decodes : ∀ entry ∈ map, decode? (encode entry.2) = some entry.2) :
    (entries? decode? (.object (map.map fun entry => (entry.1, encode entry.2)))).map
        NameMap.ofEntries =
      some map := by
  rw [entries?_object decodes, Option.map_some, ordered.ofEntries_eq]

/-- What may be null is read back if it is not written as null itself. -/
theorem orNull?_ofOption
    (decodes : ∀ value, decode? (encode value) = some value)
    (written : ∀ value, encode value ≠ .null)
    (value? : Option α) :
    orNull? decode? (.ofOption encode value?) = some value? := by
  cases value? with
  | none =>
      rfl
  | some value =>
      have notNull := written value
      unfold orNull? ofOption
      split
      · contradiction
      · rw [decodes value]
        rfl

omit encode in
theorem Fields.required?_of_lookup
    {fields : Fields}
    {name : String}
    {value : Json}
    (found : fields.lookup name = some value) :
    fields.required? name decode? = decode? value := by
  rw [required?, found, Option.bind_some]

end Decoded

end Json

/-! ## Symbols -/

theorem KnownSymbol.ofJson?_toJson (record : KnownSymbol) :
    ofJson? record.toJson = some record := by
  have offset :=
    Json.orNull?_ofOption Json.word?_ofNat (fun _ => Json.noConfusion) record.offset?
  have text :
      ∀ text? : Option String,
        Json.orNull? Json.text? (.ofOption .string text?) = some text? :=
    Json.orNull?_ofOption (fun _ => rfl) fun _ => Json.noConfusion
  calc ofJson? record.toJson
    _ = (do
          let offset? ←
            Json.orNull? Json.word? (.ofOption (fun offset => .ofNat offset.toNat) record.offset?)
          let rawNote? ← Json.orNull? Json.text? (.ofOption .string record.rawNote?)
          let note? ← Json.orNull? Json.text? (.ofOption .string record.note?)
          let comment? ← Json.orNull? Json.text? (.ofOption .string record.comment?)
          return ⟨record.name, offset?, rawNote?, note?, comment?⟩) := rfl
    _ = some record := by
      rw [offset, text, text, text]
      rfl

namespace ModuleSymbols

/-- The names of the group stand in order, and its length fits into 64 bits. -/
structure IsStorable (group : ModuleSymbols) : Prop where
  length : group.length < 0x10000000000000000
  byName : group.byName.IsOrdered

variable {group : ModuleSymbols}

theorem IsStorable.ofJson?_toJson (storable : group.IsStorable) :
    ofJson? group.toJson = some group := by
  have base := Json.word?_ofNat group.base
  have length : Json.count? (.ofNat group.length) = some group.length :=
    Json.natBelow?_ofNat storable.length
  have byName :=
    Json.ofEntries_entries?_object storable.byName fun entry _ => entry.2.ofJson?_toJson
  have offsets :
      Json.list? entryOfJson?
          (.array (group.offsets.toList.map fun entry =>
            .array [.ofNat entry.1.toNat, .string entry.2])) =
        some group.offsets.toList := by
    refine Json.list?_array fun entry _ => ?_
    change (do return (← Json.word? (.ofNat entry.1.toNat), entry.2)) = some entry
    rw [Json.word?_ofNat]
    rfl
  have members :
      ∃ fields : Json.Fields,
        group.toJson.allFields? ["module", "base", "length", "by_name", "offsets"] = some fields ∧
          fields.lookup "module" = some (.string group.module) ∧
          fields.lookup "base" = some (.ofNat group.base.toNat) ∧
          fields.lookup "length" = some (.ofNat group.length) ∧
          fields.lookup "by_name" =
            some (.object (group.byName.map fun entry => (entry.1, entry.2.toJson))) ∧
          fields.lookup "offsets" =
            some
              (.array (group.offsets.toList.map fun entry =>
                .array [.ofNat entry.1.toNat, .string entry.2])) :=
    ⟨_, rfl, rfl, rfl, rfl, rfl, rfl⟩
  obtain ⟨fields, given, moduleField, baseField, lengthField, byNameField, offsetsField⟩ := members
  unfold ofJson?
  rw [given]
  simp only [Option.bind_eq_bind, Option.bind_some, Json.Fields.required?_of_lookup moduleField,
    Json.Fields.required?_of_lookup baseField, Json.Fields.required?_of_lookup lengthField,
    Json.Fields.required?_of_lookup byNameField, Json.Fields.required?_of_lookup offsetsField,
    base, length, byName, offsets, Json.text?, Option.pure_def, Array.toArray_toList]

/-- Whatever group is read can be stored. -/
theorem isStorable_of_ofJson?
    {value : Json}
    (read : ofJson? value = some group) :
    group.IsStorable := by
  obtain ⟨fields, -, read⟩ := Option.bind_eq_some_iff.mp read
  obtain ⟨module, -, read⟩ := Option.bind_eq_some_iff.mp read
  obtain ⟨base, -, read⟩ := Option.bind_eq_some_iff.mp read
  obtain ⟨length, lengthRead, read⟩ := Option.bind_eq_some_iff.mp read
  obtain ⟨byName, byNameRead, read⟩ := Option.bind_eq_some_iff.mp read
  obtain ⟨offsets, -, read⟩ := Option.bind_eq_some_iff.mp read
  cases read
  obtain ⟨lengthField, -, counted⟩ := Option.bind_eq_some_iff.mp lengthRead
  obtain ⟨byNameField, -, listed⟩ := Option.bind_eq_some_iff.mp byNameRead
  obtain ⟨entries, -, rfl⟩ := Option.map_eq_some_iff.mp listed
  exact ⟨Json.lt_of_natBelow? counted, NameMap.isOrdered_ofEntries entries⟩

theorem IsStorable.insert
    (storable : group.IsStorable)
    (name : String)
    (definition : SymbolDefinition) :
    (group.insert name definition).IsStorable := by
  unfold ModuleSymbols.insert
  simp only
  split
  · exact storable
  · exact ⟨storable.length, storable.byName.insert _ _⟩

end ModuleSymbols

namespace SymbolTable

/-- Every group of the table can be stored. -/
def IsStorable (table : SymbolTable) : Prop :=
  ∀ group ∈ table.groups, group.IsStorable

theorem IsStorable.ofJson?_toJson
    {table : SymbolTable}
    (storable : table.IsStorable) :
    ofJson? table.toJson = some table := by
  have groups :
      Json.list? ModuleSymbols.ofJson? (.array (table.groups.map ModuleSymbols.toJson)) =
        some table.groups :=
    Json.list?_array fun group member => (storable group member).ofJson?_toJson
  calc ofJson? table.toJson
    _ = (do
          return ⟨← Json.list? ModuleSymbols.ofJson?
            (.array (table.groups.map ModuleSymbols.toJson))⟩) := rfl
    _ = some table := by
      rw [groups]
      rfl

/-- Whatever table is read can be stored. -/
theorem isStorable_of_ofJson?
    {table : SymbolTable}
    {value : Json}
    (read : ofJson? value = some table) :
    table.IsStorable := by
  obtain ⟨fields, -, read⟩ := Option.bind_eq_some_iff.mp read
  obtain ⟨groups, groupsRead, read⟩ := Option.bind_eq_some_iff.mp read
  cases read
  obtain ⟨groupsField, -, listed⟩ := Option.bind_eq_some_iff.mp groupsRead
  unfold Json.list? at listed
  split at listed
  · intro group member
    obtain ⟨item, groupRead⟩ := Json.exists_of_mem_mapM listed member
    exact ModuleSymbols.isStorable_of_ofJson? groupRead
  · cases listed

theorem isStorable_empty : empty.IsStorable := nofun

/-- A table stays storable with one more group whose length fits into 64 bits. -/
theorem IsStorable.withModule
    {table : SymbolTable}
    (storable : table.IsStorable)
    (module : String)
    (base : UInt16)
    {length : Nat}
    (fits : length < 0x10000000000000000)
    (symbols : List (String × SymbolDefinition)) :
    (table.withModule module base length symbols).IsStorable := by
  have inserted :
      ∀ group : ModuleSymbols,
        group.IsStorable →
          (symbols.foldl (fun group symbol => group.insert symbol.1 symbol.2)
            group).IsStorable := by
    induction symbols with
    | nil =>
        exact fun _ => id
    | cons symbol rest inductionHypothesis =>
        exact fun group groupStorable =>
          inductionHypothesis _ (groupStorable.insert symbol.1 symbol.2)
  intro group member
  rcases List.mem_append.mp member with wasThere | isNew
  · exact storable group wasThere
  · cases List.mem_singleton.mp isNew
    exact inserted _ ⟨fits, NameMap.isOrdered_nil⟩

end SymbolTable

end Monitor8080
