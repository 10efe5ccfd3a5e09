import Monitor8080.MachineWord
import Monitor8080.Memory.Basic
import Monitor8080.NameMap
import Monitor8080.Text.Capitals
namespace Monitor8080

/-!
# Symbol groups

A group names addresses of one module by their offsets from its base. Names
are found whatever the case of their letters, so of two spellings that agree
in capitals the first one counts. Beside the names the group keeps an index of
its offsets, in order of offset and name, for searching by address.
-/

/-- A symbol as a symbol file defines it. -/
structure SymbolDefinition where
  offset? : Option UInt16
  note? : Option String
  comment? : Option String
  deriving Repr, DecidableEq

/-- A symbol of a group; `note?` is what `rawNote?` writes. -/
structure KnownSymbol where
  name : String
  offset? : Option UInt16
  rawNote? : Option String
  note? : Option String
  comment? : Option String
  deriving Repr, DecidableEq

/-- Symbols of one module, by name in capitals and by offset. -/
structure ModuleSymbols where
  module : String
  base : UInt16
  length : Nat
  byName : NameMap KnownSymbol
  offsets : Array (UInt16 × String)
  deriving Repr, DecidableEq

/-- A symbol found in a group, without the dots that its name starts with. -/
structure FoundSymbol where
  name : String
  address : UInt16
  offset : UInt16
  note? : Option String
  comment? : Option String
  deriving Repr, DecidableEq

/-- The characters of a note in which two double quotes stand for one. -/
def undoubleQuotes : List Char → List Char
  | '\x22' :: '\x22' :: rest => '\x22' :: undoubleQuotes rest
  | c :: rest => c :: undoubleQuotes rest
  | [] => []

namespace ModuleSymbols

def empty (module : String) (base : UInt16) (length : Nat) : ModuleSymbols :=
  ⟨module, base, length, [], #[]⟩

/-- Whether an address lies in the group, whose end is a number of any size. -/
def contains (group : ModuleSymbols) (address : UInt16) : Bool :=
  group.base.toNat ≤ address.toNat && address.toNat < group.base.toNat + group.length

/-- Whether an address lies in the group; `none` if that takes the end of the group, which is no word. -/
def within? (group : ModuleSymbols) (address : UInt16) : Option Bool :=
  if group.base ≤ address then
    (word? (group.base.toNat + group.length)).map (address.toNat < ·)
  else
    some false

/-- Whether one entry of the index stands before another. -/
def isBefore (left right : UInt16 × String) : Bool :=
  left.1 < right.1 || (left.1 == right.1 && left.2 < right.2)

/-- An entry put in its place in the index, which holds it only once. -/
def insertEntry (entry : UInt16 × String) : List (UInt16 × String) → List (UInt16 × String)
  | [] => [entry]
  | other :: entries =>
      if entry = other then other :: entries
      else if isBefore entry other then entry :: other :: entries
      else other :: insertEntry entry entries

/-- The index with another offset for a name, in place of the one before. -/
def reindex (offsets : Array (UInt16 × String)) (name : String)
    (old? new? : Option UInt16) : Array (UInt16 × String) :=
  let kept :=
    match old? with
    | some old => offsets.toList.filter (· ≠ (old, name))
    | none => offsets.toList
  match new? with
  | some new => (insertEntry (new, name) kept).toArray
  | none => kept.toArray

/-- The record of a symbol. -/
def record (name : String) (definition : SymbolDefinition) : KnownSymbol where
  name := name
  offset? := definition.offset?
  rawNote? := definition.note?
  note? := definition.note?.map fun note => String.ofList (undoubleQuotes note.toList)
  comment? := definition.comment?

/-- The group with a symbol defined, unless another spelling of its name is there. -/
def insert (group : ModuleSymbols) (name : String) (definition : SymbolDefinition) :
    ModuleSymbols :=
  let key := Text.capitals name
  let previous? := group.byName.find? key
  if previous?.any (·.name ≠ name) then
    group
  else
    { group with
      byName := group.byName.insert key (record name definition)
      offsets :=
        reindex group.offsets name (previous?.bind (·.offset?)) definition.offset? }

/-- The symbol of an entry of the index. -/
def matchOf (group : ModuleSymbols) (entry : UInt16 × String) : FoundSymbol :=
  let record? := group.byName.find? (Text.capitals entry.2)
  { name := String.ofList (entry.2.toList.dropWhile (· == '.'))
    address := group.base + entry.1
    offset := entry.1
    note? := record?.bind (·.note?)
    comment? := record?.bind (·.comment?) }

/-- The symbols of the group in order of offset and name. -/
def listed (group : ModuleSymbols) : List FoundSymbol :=
  group.offsets.toList.map group.matchOf

end ModuleSymbols

end Monitor8080
