import Mathlib.Data.List.Basic
import Monitor8080.Proofs.NameExpressions
import Monitor8080.Proofs.SymbolLookup
import Monitor8080.Proofs.SymbolVicinity
namespace Monitor8080

/-!
# Names and addresses of symbols

A name is looked for in every group until one gives it an offset, whatever the
case of its letters, and an address only in the first group that covers it.
Where both ways lead to one group they agree: the address of a name is that of a
symbol, and the symbol is listed there under the name.
-/

namespace Text

/-! ## Letter case -/

/-- Two texts are the same but for the case of letters of ASCII. -/
def IsCaseVariant (variant name : String) : Prop :=
  variant.toList.map Char.toUpper = name.toList.map Char.toUpper

theorem toNat_toUpper (c : Char) :
    c.toUpper.toNat =
      if 0x61 ≤ c.toNat ∧ c.toNat ≤ 0x7A then c.toNat - 0x20 else c.toNat := by
  have bounds : 'a'.val ≤ c.val ∧ c.val ≤ 'z'.val ↔ 0x61 ≤ c.toNat ∧ c.toNat ≤ 0x7A := by
    simp [UInt32.le_iff_toNat_le]
  unfold Char.toUpper
  split
  · rename_i small
    have range := bounds.mp small
    have wraps : (c.val + ('A'.val - 'a'.val)).toNat = (c.toNat + (2 ^ 32 - 0x20)) % 2 ^ 32 :=
      UInt32.toNat_add _ _
    rw [if_pos range]
    change (c.val + ('A'.val - 'a'.val)).toNat = _
    omega
  · rename_i other
    rw [if_neg (fun small => other (bounds.mpr small))]

theorem isNameStart_toUpper (c : Char) : isNameStart c.toUpper = isNameStart c := by
  rw [Bool.eq_iff_iff, isNameStart_iff, isNameStart_iff, toNat_toUpper]
  split <;> omega

theorem isWordChar_toUpper (c : Char) : isWordChar c.toUpper = isWordChar c := by
  rw [Bool.eq_iff_iff, isWordChar_iff, isWordChar_iff, isNameStart_toUpper, isDigit_iff,
    isDigit_iff, toNat_toUpper]
  by_cases starts : isNameStart c
  · simp [starts]
  · rw [isNameStart_iff] at starts
    rw [if_neg (by omega)]

theorem isNameChars_map_toUpper (cs : List Char) :
    isNameChars (cs.map Char.toUpper) = isNameChars cs := by
  cases cs with
  | nil => rfl
  | cons first rest =>
      simp only [List.map_cons, isNameChars, isNameStart_toUpper, List.all_map,
        Function.comp_def, isWordChar_toUpper]

/-- The capitals of a name are its letters in upper case. -/
theorem capitals_of_isName
    {text : String}
    (named : isName text) :
    capitals text = String.ofList (text.toList.map Char.toUpper) := by
  have ascii : ∀ c ∈ text.toList, capital c = [c.toUpper] := by
    obtain ⟨first, rest, written, starts, goesOn⟩ := exists_of_isName named
    have ofWord : ∀ c ∈ text.toList, isWordChar c := by
      rw [written, List.forall_mem_cons]
      exact ⟨isWordChar_iff.mpr (.inl starts), goesOn⟩
    intro c member
    have inWord := ofWord c member
    rw [isWordChar_iff, isNameStart_iff, isDigit_iff] at inWord
    exact if_pos (by omega)
  rw [capitals, ← List.flatMap_pure_eq_map]
  exact congrArg String.ofList (List.flatMap_congr ascii)

theorem IsCaseVariant.isName
    {variant name : String}
    (isVariant : IsCaseVariant variant name)
    (named : isName name) :
    isName variant := by
  rwa [Text.isName, ← isNameChars_map_toUpper, isVariant, isNameChars_map_toUpper]

theorem IsCaseVariant.capitals
    {variant name : String}
    (isVariant : IsCaseVariant variant name)
    (named : Text.isName name) :
    capitals variant = capitals name := by
  rw [capitals_of_isName (isVariant.isName named), capitals_of_isName named, isVariant]

/-- No dots are left out before a name. -/
theorem dropDots_of_isName
    {text : String}
    (named : isName text) :
    String.ofList (text.toList.dropWhile (· == '.')) = text := by
  obtain ⟨first, rest, written, starts, -⟩ := exists_of_isName named
  have noDot : ¬ first = '.' := by
    rintro rfl
    revert starts
    decide
  rw [written, List.dropWhile_cons, if_neg (by simpa using noDot), ← written, String.ofList_toList]

end Text

open ModuleSymbols (surviving? record)

namespace SymbolListing

/-! ## Names that are given an offset -/

/--
A listing gives a name an offset: the last definition of the name has it, and no
other spelling of the name comes before its first definition.
-/
structure Gives (listing : SymbolListing) (name : String) (offset : UInt16) : Prop where
  last :
    ∃ definition,
      listing.symbols.reverse.find? (·.1 = name) = some (name, definition) ∧
        definition.offset? = some offset
  spelling :
    ∀ symbol,
      List.find? (fun symbol => Text.capitals symbol.1 = Text.capitals name) listing.symbols =
          some symbol →
        symbol.1 = name

variable {listing : SymbolListing} {name : String} {offset : UInt16}

/-- A name that is given an offset is that of a symbol there. -/
theorem Gives.exists_places
    (given : listing.Gives name offset) :
    ∃ symbol, symbol.name = name ∧ listing.Places offset symbol := by
  obtain ⟨⟨definition, isLast, placed⟩, spelling⟩ := given
  have isThere :
      (List.find? (fun symbol => Text.capitals symbol.1 = Text.capitals name)
        listing.symbols).isSome := by
    rw [List.find?_isSome]
    exact ⟨(name, definition), List.mem_reverse.mp (List.mem_of_find?_eq_some isLast),
      decide_eq_true rfl⟩
  obtain ⟨first, isFirst⟩ := Option.isSome_iff_exists.mp isThere
  have survives :
      surviving? listing.symbols (Text.capitals name) = some (record name definition) := by
    rw [surviving?, isFirst]
    simp [spelling first isFirst, isLast]
  exact ⟨record name definition, rfl, survives, placed⟩

end SymbolListing

namespace SymbolTable

/-- What the groups of a table are asked for a name, the first answer of which counts. -/
theorem addressNamed?_ofListings
    {name : String}
    (named : Text.isName name)
    (listings : List SymbolListing) :
    (ofListings listings).addressNamed? name =
      listings.findSome? fun listing =>
        ((surviving? listing.symbols (Text.capitals name)).bind (·.offset?)).map
          (listing.base + ·) := by
  rw [addressNamed?, if_pos named, groups_ofListings, List.findSome?_map]
  congr 1
  funext listing
  rw [Function.comp_apply, listing.header_group.2.1, listing.group_eq_ofDefinitions,
    ModuleSymbols.find?_ofDefinitions]
  cases surviving? listing.symbols (Text.capitals name) with
  | none => rfl
  | some symbol => cases placed : symbol.offset? <;> simp [placed]

section Agreement

variable {earlier later : List SymbolListing} {listing : SymbolListing}
variable {name : String} {offset : UInt16} {symbol : KnownSymbol}

/-- The first group that gives a name an offset decides on its address. -/
theorem addressNamed?_of_places
    (named : Text.isName name)
    (places : listing.Places offset symbol)
    (sameKey : Text.capitals name = Text.capitals symbol.name)
    (notEarlier :
      ∀ other ∈ earlier,
        (surviving? other.symbols (Text.capitals name)).bind (·.offset?) = none) :
    (ofListings (earlier ++ listing :: later)).addressNamed? name =
      some (listing.base + offset) := by
  have noneEarlier :
      (earlier.findSome? fun listing =>
        ((surviving? listing.symbols (Text.capitals name)).bind (·.offset?)).map
          (listing.base + ·)) = none := by
    rw [List.findSome?_eq_none_iff]
    intro other member
    rw [notEarlier other member, Option.map_none]
  rw [addressNamed?_ofListings named, List.findSome?_append, noneEarlier, Option.none_or,
    List.findSome?_cons, sameKey, places.survives, Option.bind_some, places.placed]
  rfl

/-- Whether looking up an address fails, the first listing that covers it decides. -/
theorem lookup_of_find?
    {listings : List SymbolListing}
    {address : UInt16}
    (found : listings.find? (·.group.contains address) = some listing)
    (isNearest : Bool) :
    (ofListings listings).lookup address isNearest =
      if listing.base.toNat + listing.length ≤ wordLimit then
        .ok ((ofListings listings).vicinity? address isNearest)
      else
        .error .sum := by
  have asked :
      (ofListings listings).groups.find? (·.contains address) = some listing.group := by
    rw [groups_ofListings, List.find?_map]
    exact congrArg (Option.map SymbolListing.group) found
  obtain ⟨-, base, length⟩ := listing.header_group
  have overflows_iff :
      (ofListings listings).OverflowsAt address ↔
        ¬ listing.base.toNat + listing.length ≤ wordLimit := by
    rw [OverflowsAt, asked, ← base, ← length]
    constructor
    · rintro ⟨group, ⟨⟩, beyond⟩
      exact beyond
    · exact fun beyond => ⟨listing.group, rfl, beyond⟩
  split
  · rename_i fits
    exact lookup_of_not_overflowsAt (fun overflows => overflows_iff.mp overflows fits) isNearest
  · rename_i beyond
    exact lookup_of_overflowsAt (overflows_iff.mpr beyond) isNearest

/--
At the address of a symbol that no group before covers, some symbol is found if
the end of its group is a word.
-/
theorem lookup_of_places
    (places : listing.Places offset symbol)
    (inside : offset.toNat < listing.length)
    (fits : listing.base.toNat + offset.toNat ≤ 0xFFFF)
    (notEarlier : ∀ other ∈ earlier, ¬ other.Covers (listing.base + offset))
    (isNearest : Bool) :
    ∃ found,
      found.offset = offset ∧
        found.address = listing.base + offset ∧
          (ofListings (earlier ++ listing :: later)).lookup (listing.base + offset) isNearest =
            if listing.base.toNat + listing.length ≤ wordLimit then
              .ok (some ⟨some found, none, none⟩)
            else
              .error .sum := by
  have address : (listing.base + offset).toNat = listing.base.toNat + offset.toNat := by
    rw [UInt16.toNat_add, Nat.mod_eq_of_lt (by omega)]
  have covers : listing.Covers (listing.base + offset) := by
    rw [SymbolListing.Covers, address]
    omega
  have distance : listing.base + offset - listing.base = offset := by
    rw [UInt16.add_comm, UInt16.add_sub_cancel]
  have found := find?_contains_iff.mpr ⟨covers, earlier, later, rfl, notEarlier⟩
  rw [lookup_of_find? found, vicinity?_of_find? found, distance]
  have located := listing.locates_lookup? offset isNearest
  generalize listing.group.lookup? offset isNearest = result? at located
  cases located with
  | here isHere =>
      obtain ⟨-, here, -⟩ := isHere
      exact ⟨_, here, (listing.address_shown _).trans (congrArg (listing.base + ·) here), rfl⟩
  | between noneHere | alone noneHere | unasked noneHere =>
      exact absurd rfl (noneHere offset symbol places)

/-- A symbol is listed under its name with its address. -/
theorem mem_listed_of_places
    (named : Text.isName symbol.name)
    (places : listing.Places offset symbol) :
    ∃ found,
      (listing.module, found) ∈ (ofListings (earlier ++ listing :: later)).listed ∧
        found.name = symbol.name ∧ found.address = listing.base + offset ∧
          found.offset = offset := by
  have member : listing.group ∈ (ofListings (earlier ++ listing :: later)).groups := by
    rw [groups_ofListings]
    exact List.mem_map_of_mem (List.mem_append_right earlier List.mem_cons_self)
  have indexed : (offset, symbol.name) ∈ listing.group.offsets :=
    SymbolListing.mem_offsets_iff.mpr ⟨symbol, places, rfl⟩
  have listed : listing.shown (offset, symbol) ∈ listing.group.listed := by
    rw [← SymbolListing.matchOf_group places]
    exact List.mem_map_of_mem (Array.mem_toList_iff.mpr indexed)
  refine ⟨listing.shown (offset, symbol), ?_, Text.dropDots_of_isName named,
    listing.address_shown _, rfl⟩
  rw [SymbolTable.listed, List.mem_flatMap]
  refine ⟨listing.group, member, ?_⟩
  rw [← listing.header_group.1]
  exact List.mem_map_of_mem listed

/--
A name that a listing gives an offset, and that no listing before it gives one,
is found under each of its spellings at that offset from the base, around the
end of the address space. If the address is in the group and below that end, and
no group before covers it, then the name is listed there under the module of the
group; and a symbol with that offset is found exactly at the address, whether or
not neighbours are asked for, if the end of the group is a word. Otherwise
nothing is told, as that end is too large a sum.
-/
theorem names_and_addresses_lead_to_each_other
    (named : Text.isName name)
    (given : listing.Gives name offset)
    (notNamedEarlier :
      ∀ other ∈ earlier,
        (surviving? other.symbols (Text.capitals name)).bind (·.offset?) = none) :
    let table := ofListings (earlier ++ listing :: later)
    let address := listing.base + offset
    (∀ variant,
      Text.IsCaseVariant variant name → table.addressNamed? variant = some address) ∧
      (offset.toNat < listing.length →
        listing.base.toNat + offset.toNat ≤ 0xFFFF →
        (∀ other ∈ earlier, ¬ other.Covers address) →
          (∀ isNearest,
            ∃ found,
              found.offset = offset ∧
                found.address = address ∧
                  table.lookup address isNearest =
                    if listing.base.toNat + listing.length ≤ wordLimit then
                      .ok (some ⟨some found, none, none⟩)
                    else
                      .error .sum) ∧
          ∃ found,
            (listing.module, found) ∈ table.listed ∧
              found.name = name ∧ found.address = address ∧ found.offset = offset) := by
  intro table address
  obtain ⟨symbol, rfl, places⟩ := given.exists_places
  constructor
  · intro variant isVariant
    have sameKey := isVariant.capitals named
    refine addressNamed?_of_places (isVariant.isName named) places sameKey ?_
    rwa [sameKey]
  · intro inside fits notCoveredEarlier
    exact ⟨lookup_of_places places inside fits notCoveredEarlier,
      mem_listed_of_places named places⟩

end Agreement

/-- A listing of a name that stands nowhere. -/
def unplacedListing : SymbolListing :=
  ⟨"LOW", 0x0000, 0x0100, [("START", ⟨none, none, none⟩)]⟩

/-- A listing of a name in another spelling, which moves. -/
def movedListing : SymbolListing :=
  ⟨"MAIN", 0x0200, 0x0100,
    [("Start", ⟨some 1, none, none⟩), ("Loop", ⟨some 8, none, none⟩),
      ("Start", ⟨some 8, none, none⟩)]⟩

/-- A name without an offset does not hide the one of the next group, which is defined twice. -/
theorem start_is_found_both_ways :
    let table := ofListings [unplacedListing, movedListing]
    table.addressNamed? "sTaRT" = some 0x0208 ∧
      (∃ found,
        found.offset = 8 ∧ table.lookup 0x0208 true = .ok (some ⟨some found, none, none⟩)) ∧
        ∃ found,
          ("MAIN", found) ∈ table.listed ∧ found.name = "Start" ∧ found.address = 0x0208 := by
  intro table
  have given : movedListing.Gives "Start" 8 := by
    refine ⟨⟨⟨some 8, none, none⟩, by decide, rfl⟩, fun symbol isFirst => ?_⟩
    have start :
        List.find? (fun symbol => Text.capitals symbol.1 = Text.capitals "Start")
            movedListing.symbols =
          some ("Start", ⟨some 1, none, none⟩) := by
      decide
    cases start.symm.trans isFirst
    rfl
  have notNamed :
      ∀ other ∈ [unplacedListing],
        (surviving? other.symbols (Text.capitals "Start")).bind (·.offset?) = none := by
    decide
  have sum : movedListing.base + 8 = 0x0208 := by decide
  have notCovered : ∀ other ∈ [unplacedListing], ¬ other.Covers (movedListing.base + 8) := by
    intro other member
    obtain rfl := List.mem_singleton.mp member
    exact fun covers => absurd covers.2 (by decide)
  have variant : Text.IsCaseVariant "sTaRT" "Start" := by
    unfold Text.IsCaseVariant
    decide
  obtain ⟨byName, byAddress⟩ :=
    @names_and_addresses_lead_to_each_other [unplacedListing] [] movedListing "Start" 8 (by decide)
      given notNamed
  obtain ⟨exactly, found, listed, named, address, -⟩ :=
    byAddress (by decide) (by decide) notCovered
  obtain ⟨other, offset, -, isExact⟩ := exactly true
  have byVariant := byName "sTaRT" variant
  rw [sum] at byVariant isExact address
  rw [if_pos (by decide)] at isExact
  exact ⟨byVariant, ⟨other, offset, isExact⟩, found, listed, named, address⟩

/-- The text of a symbol file with one symbol, in a group that ends at no word. -/
def overlongText : String :=
  "\x7b\x22module\x22:\x22M\x22,\x22base\x22:1,\x22length\x22:18446744073709551615"
    ++ ",\x22symbols\x22:\x7b\x22X\x22:0\x7d\x7d"

def overlongListing : SymbolListing :=
  ⟨"M", 1, 0xFFFFFFFFFFFFFFFF, [("X", ⟨some 0, none, none⟩)]⟩

/-- A symbol in a group that ends at no word is found by its name, but not at its address. -/
theorem symbol_in_overlong_group_is_not_found :
    let table := ofListings [overlongListing]
    empty.loadText? overlongText = some (1, table) ∧
      overlongListing.Gives "X" 0 ∧
        overlongListing.Covers 1 ∧
          table.addressNamed? "x" = some 1 ∧ table.lookup 1 true = .error .sum := by
  intro table
  refine ⟨by decide +kernel, ⟨⟨⟨some 0, none, none⟩, by decide, rfl⟩, fun symbol isFirst => ?_⟩,
    ⟨by decide, by decide⟩, by decide +kernel, by decide +kernel⟩
  have first :
      List.find? (fun symbol => Text.capitals symbol.1 = Text.capitals "X") overlongListing.symbols =
        some ("X", ⟨some 0, none, none⟩) := by
    decide
  cases first.symm.trans isFirst
  rfl

end SymbolTable

end Monitor8080
