import Monitor8080.Location
import Monitor8080.Symbols.Module
import Monitor8080.Text.Number
namespace Monitor8080

/-!
# The symbol table

The table holds groups in the order in which they were added. A name means
what the first group says that gives it an offset, and an address belongs to
the first group that contains it. In there the symbol at the address is found
by halving the index, and so are its neighbours.
-/

/-- The groups of symbols, oldest first. -/
structure SymbolTable where
  groups : List ModuleSymbols
  deriving Repr, DecidableEq, Inhabited

/-- The symbol at an address, or the neighbours of the address. -/
structure Vicinity where
  matching? : Option FoundSymbol
  preceding? : Option FoundSymbol
  following? : Option FoundSymbol
  deriving Repr, DecidableEq

/--
Halves the `size` entries from `base` on down to one, keeping the half that
starts at or before an offset.
-/
def halve (offsets : Array (UInt16 × String)) (offset : UInt16) (base size : Nat) : Nat :=
  if size ≤ 1 then
    base
  else
    let middle := base + size / 2
    let isAfter := (offsets[middle]?).any fun entry => offset < entry.1
    halve offsets offset (if isAfter then base else middle) (size - size / 2)
termination_by size
decreasing_by omega

/-- Where an offset stands in the index: at an entry, or before the entry of a number. -/
inductive IndexPlace where
  | here (index : Nat)
  | before (index : Nat)
  deriving Repr, DecidableEq

/-- The place of an offset in the index. -/
def indexPlace (offsets : Array (UInt16 × String)) (offset : UInt16) : IndexPlace :=
  let index := halve offsets offset 0 offsets.size
  match offsets[index]? with
  | none => .before 0
  | some entry =>
      if entry.1 = offset then .here index
      else if entry.1 < offset then .before (index + 1)
      else .before index

/-- The first of the entries up to an index that share an offset without a gap. -/
def firstAt (offsets : Array (UInt16 × String)) (offset : UInt16) : (index : Nat) → Nat
  | 0 => 0
  | index + 1 =>
      if (offsets[index]?).any (·.1 = offset) then
        firstAt offsets offset index
      else
        index + 1

namespace ModuleSymbols

/-- The symbol of the entry of a number. -/
def matchAt? (group : ModuleSymbols) (index : Nat) : Option FoundSymbol :=
  (group.offsets[index]?).map group.matchOf

/-- The symbol at an offset, or its neighbours if they are asked for. -/
def lookup? (group : ModuleSymbols) (offset : UInt16) (isNearest : Bool) :
    Option Vicinity :=
  match indexPlace group.offsets offset with
  | .here index =>
      (group.matchAt? (firstAt group.offsets offset index)).map fun found =>
        ⟨some found, none, none⟩
  | .before index =>
      if isNearest then
        let preceding? := if index = 0 then none else group.matchAt? (index - 1)
        let following? := group.matchAt? index
        if preceding?.isNone ∧ following?.isNone then none
        else some ⟨none, preceding?, following?⟩
      else
        none

end ModuleSymbols

namespace SymbolTable

def empty : SymbolTable :=
  ⟨[]⟩

def isEmpty (table : SymbolTable) : Bool :=
  table.groups.isEmpty

/-- The table with one more group, of symbols defined in order. -/
def withModule (table : SymbolTable) (module : String) (base : UInt16) (length : Nat)
    (symbols : List (String × SymbolDefinition)) : SymbolTable :=
  let group :=
    symbols.foldl (fun group symbol => group.insert symbol.1 symbol.2)
      (ModuleSymbols.empty module base length)
  ⟨table.groups ++ [group]⟩

/-- The first group in which an address lies, unless the search comes to an end that is no word. -/
def groupAt (address : UInt16) :
    (groups : List ModuleSymbols) → Except Overflow (Option ModuleSymbols)
  | [] => .ok none
  | group :: groups =>
      match group.within? address with
      | none => .error .sum
      | some true => .ok (some group)
      | some false => groupAt address groups

/-- The symbol at an address, or its neighbours if they are asked for. -/
def lookup (table : SymbolTable) (address : UInt16) (isNearest : Bool) :
    Except Overflow (Option Vicinity) := do
  let group? ← groupAt address table.groups
  return group?.bind fun group => group.lookup? (address - group.base) isNearest

/-- What there is at an address, or near it, where the ends of groups are numbers of any size. -/
def vicinity? (table : SymbolTable) (address : UInt16) (isNearest : Bool) :
    Option Vicinity := do
  let group ← table.groups.find? (·.contains address)
  group.lookup? (address - group.base) isNearest

/-- The symbol that stands exactly at an address. -/
def exactAt? (table : SymbolTable) (address : UInt16) : Option FoundSymbol :=
  (table.vicinity? address false).bind (·.matching?)

/-- The address of a name, if the text is one. -/
def addressNamed? (table : SymbolTable) (name : String) : Option UInt16 :=
  if Text.isName name then
    let key := Text.capitals name
    table.groups.findSome? fun group => do
      let record ← group.byName.find? key
      let offset ← record.offset?
      return group.base + offset
  else
    none

/-- Every symbol with the module of its group, group by group. -/
def listed (table : SymbolTable) : List (String × FoundSymbol) :=
  table.groups.flatMap fun group => group.listed.map (group.module, ·)

end SymbolTable

end Monitor8080
