import Monitor8080.Json.Decoding
import Monitor8080.Json.Limits
import Monitor8080.Json.Reader
import Monitor8080.Symbols.Table
namespace Monitor8080

/-!
# Symbols as JSON

A symbol file holds a group or a list of groups, each symbol given by its
offset or by a record. A saved table holds every group with its records and
its index, and is read back as it stands.
-/

namespace SymbolDefinition

/-- The field of a definition that holds its note. -/
def noteField : String := "annotation"

/-- A symbol's definition: its offset, or an object with whatever is known of it. -/
def ofJson? (value : Json) : Option SymbolDefinition :=
  match value with
  | .int _ => value.word?.map fun offset => ⟨some offset, none, none⟩
  | .object _ => do
      let fields ← value.fields? ["offset", noteField, "comment"]
      return {
        offset? := ← fields.optional? "offset" Json.word?
        note? := ← fields.optional? noteField Json.text?
        comment? := ← fields.optional? "comment" Json.text? }
  | _ => none

end SymbolDefinition

/-- A group as a symbol file gives it. -/
structure SymbolListing where
  module : String
  base : UInt16
  length : Nat
  symbols : NameMap SymbolDefinition
  deriving Repr, DecidableEq

namespace SymbolListing

/-- A group of a symbol file; of a name given twice the last definition counts. -/
def ofJson? (value : Json) : Option SymbolListing := do
  let fields ← value.fields? ["module", "base", "length", "symbols"]
  let symbols? (value : Json) : Option (NameMap SymbolDefinition) :=
    (value.entries? SymbolDefinition.ofJson?).map NameMap.ofEntries
  return {
    module := ← fields.required? "module" Json.text?
    base := ← fields.defaulted? "base" Json.word? 0
    length := ← fields.required? "length" Json.count?
    symbols := ← fields.defaulted? "symbols" symbols? [] }

/-- The groups of a symbol file: a value is first taken for one group, then for a list. -/
def groups? (value : Json) : Option (List SymbolListing) :=
  match ofJson? value with
  | some group => some [group]
  | none => value.list? ofJson?

end SymbolListing

namespace SymbolTable

/-- The table with the groups of a symbol file, and how many they are. -/
def loadText? (table : SymbolTable) (text : String) : Option (Nat × SymbolTable) := do
  let value ← Json.read? text
  let files ← SymbolListing.groups? (← value.keep?)
  let table :=
    files.foldl (fun table file => table.withModule file.module file.base file.length file.symbols)
      table
  return (files.length, table)

end SymbolTable

namespace KnownSymbol

/-- The fields of a saved record. -/
def fieldNames : List String :=
  ["name", "offset", "raw_annotation", SymbolDefinition.noteField, "comment"]

def ofJson? (value : Json) : Option KnownSymbol := do
  let fields ← value.allFields? fieldNames
  return {
    name := ← fields.required? "name" Json.text?
    offset? := ← fields.optional? "offset" Json.word?
    rawNote? := ← fields.optional? "raw_annotation" Json.text?
    note? := ← fields.optional? SymbolDefinition.noteField Json.text?
    comment? := ← fields.optional? "comment" Json.text? }

def toJson (record : KnownSymbol) : Json :=
  .object [
    ("name", .string record.name),
    ("offset", .ofOption (fun offset => .ofNat offset.toNat) record.offset?),
    ("raw_annotation", .ofOption .string record.rawNote?),
    (SymbolDefinition.noteField, .ofOption .string record.note?),
    ("comment", .ofOption .string record.comment?)]

end KnownSymbol

namespace ModuleSymbols

/-- An entry of a saved index. -/
def entryOfJson? : Json → Option (UInt16 × String)
  | .array [offset, name] => do return (← offset.word?, ← name.text?)
  | _ => none

/-- A saved group, whose index is not compared with its records. -/
def ofJson? (value : Json) : Option ModuleSymbols := do
  let fields ← value.allFields? ["module", "base", "length", "by_name", "offsets"]
  let records? (value : Json) : Option (NameMap KnownSymbol) :=
    (value.entries? KnownSymbol.ofJson?).map NameMap.ofEntries
  return {
    module := ← fields.required? "module" Json.text?
    base := ← fields.required? "base" Json.word?
    length := ← fields.required? "length" Json.count?
    byName := ← fields.required? "by_name" records?
    offsets := (← fields.required? "offsets" (Json.list? entryOfJson?)).toArray }

def toJson (group : ModuleSymbols) : Json :=
  .object [
    ("module", .string group.module),
    ("base", .ofNat group.base.toNat),
    ("length", .ofNat group.length),
    ("by_name", .object (group.byName.map fun entry => (entry.1, entry.2.toJson))),
    ("offsets",
      .array (group.offsets.toList.map fun entry =>
        .array [.ofNat entry.1.toNat, .string entry.2]))]

end ModuleSymbols

namespace SymbolTable

def ofJson? (value : Json) : Option SymbolTable := do
  let fields ← value.allFields? ["groups"]
  return ⟨← fields.required? "groups" (Json.list? ModuleSymbols.ofJson?)⟩

def toJson (table : SymbolTable) : Json :=
  .object [("groups", .array (table.groups.map ModuleSymbols.toJson))]

end SymbolTable

end Monitor8080
