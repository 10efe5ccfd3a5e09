import Monitor8080.Proofs.SymbolFiles
import Monitor8080.Proofs.SymbolSearch
namespace Monitor8080

/-!
# What stands at an address and around it

A table is built from listings, each of which defines the symbols of one group
in some order, a name perhaps more than once. Looking an address up in the table
is compared here with going through all the definitions of the first listing
that covers the address: through those at the address, those below it and those
above it. The two ways always lead to the same symbols.
-/

/-! ## Listings -/

/-- Entries in order of offset and name. -/
def Ascending (left right : UInt16 × String) : Prop :=
  Prod.Lex (· < ·) (· < ·) left right

/-- Entries in the opposite order. -/
def Descending (left right : UInt16 × String) : Prop :=
  Ascending right left

theorem Ascending.asymm
    {left right : UInt16 × String}
    (before : Ascending left right) :
    ¬ Ascending right left :=
  fun after => ModuleSymbols.not_lex_self left (ModuleSymbols.lex_trans before after)

namespace SymbolListing

theorem group_eq_ofDefinitions (listing : SymbolListing) :
    listing.group =
      .ofDefinitions listing.module listing.base listing.length listing.symbols :=
  rfl

/-- Whether an address lies in the group. -/
def Covers (listing : SymbolListing) (address : UInt16) : Prop :=
  listing.base.toNat ≤ address.toNat ∧
    address.toNat < listing.base.toNat + listing.length

/-- A symbol that the definitions leave, at its offset. -/
structure Places (listing : SymbolListing) (offset : UInt16) (symbol : KnownSymbol) : Prop where
  survives :
    ModuleSymbols.surviving? listing.symbols (Text.capitals symbol.name) = some symbol
  placed : symbol.offset? = some offset

/-- A symbol as it is shown: without leading dots, and with its own note and comment. -/
def shown (listing : SymbolListing) (place : UInt16 × KnownSymbol) : FoundSymbol where
  name := String.ofList (place.2.name.toList.dropWhile (· == '.'))
  address := UInt16.ofNat ((listing.base.toNat + place.1.toNat) % 0x10000)
  offset := place.1
  note? := place.2.note?
  comment? := place.2.comment?

/-- In some order, the first of the symbols whose offsets meet a condition, if there are any. -/
def IsFirst
    (listing : SymbolListing)
    (precedes : UInt16 × String → UInt16 × String → Prop)
    (meets : UInt16 → Prop) :
    Option (UInt16 × KnownSymbol) → Prop
  | none => ∀ offset symbol, listing.Places offset symbol → ¬ meets offset
  | some (offset, symbol) =>
      listing.Places offset symbol ∧ meets offset ∧
        ∀ otherOffset other,
          listing.Places otherOffset other →
          meets otherOffset →
            (otherOffset, other) = (offset, symbol) ∨
              precedes (offset, symbol.name) (otherOffset, other.name)

/-- What a listing has to tell about an offset, and about its neighbours if they are asked for. -/
inductive Locates
    (listing : SymbolListing)
    (offset : UInt16) :
    Bool → Option Vicinity → Prop where
  | here
      {isNearest : Bool}
      {place : UInt16 × KnownSymbol}
      (isHere : listing.IsFirst Ascending (· = offset) (some place)) :
      Locates listing offset isNearest (some ⟨some (listing.shown place), none, none⟩)
  | between
      {below? above? : Option (UInt16 × KnownSymbol)}
      (noneHere : listing.IsFirst Ascending (· = offset) none)
      (isBelow : listing.IsFirst Descending (· < offset) below?)
      (isAbove : listing.IsFirst Ascending (offset < ·) above?)
      (found : below?.isSome ∨ above?.isSome) :
      Locates listing offset true
        (some ⟨none, below?.map listing.shown, above?.map listing.shown⟩)
  | alone
      (noneHere : listing.IsFirst Ascending (· = offset) none)
      (noneBelow : listing.IsFirst Descending (· < offset) none)
      (noneAbove : listing.IsFirst Ascending (offset < ·) none) :
      Locates listing offset true none
  | unasked
      (noneHere : listing.IsFirst Ascending (· = offset) none) :
      Locates listing offset false none

/-- The first of some symbols is one symbol only. -/
theorem IsFirst.unique
    {listing : SymbolListing}
    {precedes : UInt16 × String → UInt16 × String → Prop}
    {meets : UInt16 → Prop}
    {place? other? : Option (UInt16 × KnownSymbol)}
    (asymmetric : ∀ {left right}, precedes left right → ¬ precedes right left)
    (isFirst : listing.IsFirst precedes meets place?)
    (otherIsFirst : listing.IsFirst precedes meets other?) :
    place? = other? := by
  cases place? with
  | none =>
      cases other? with
      | none => rfl
      | some other => exact absurd otherIsFirst.2.1 (isFirst _ _ otherIsFirst.1)
  | some place =>
      cases other? with
      | none => exact absurd isFirst.2.1 (otherIsFirst _ _ isFirst.1)
      | some other =>
          rcases isFirst.2.2 _ _ otherIsFirst.1 otherIsFirst.2.1 with same | before
          · exact congrArg some same.symm
          · rcases otherIsFirst.2.2 _ _ isFirst.1 isFirst.2.1 with same | after
            · exact congrArg some same
            · exact absurd after (asymmetric before)

/-- A listing tells one thing about an offset only. -/
theorem Locates.unique
    {listing : SymbolListing}
    {offset : UInt16}
    {isNearest : Bool}
    {result? other? : Option Vicinity}
    (locates : listing.Locates offset isNearest result?)
    (otherLocates : listing.Locates offset isNearest other?) :
    result? = other? := by
  cases locates with
  | here isHere =>
      cases otherLocates with
      | here otherIsHere =>
          cases isHere.unique Ascending.asymm otherIsHere
          rfl
      | between noneHere | alone noneHere | unasked noneHere =>
          cases isHere.unique Ascending.asymm noneHere
  | between noneHere isBelow isAbove found =>
      cases otherLocates with
      | here isHere => cases isHere.unique Ascending.asymm noneHere
      | between _ otherIsBelow otherIsAbove =>
          rw [isBelow.unique Ascending.asymm otherIsBelow,
            isAbove.unique Ascending.asymm otherIsAbove]
      | alone _ noneBelow noneAbove =>
          cases isBelow.unique Ascending.asymm noneBelow
          cases isAbove.unique Ascending.asymm noneAbove
          simp at found
  | alone noneHere noneBelow noneAbove =>
      cases otherLocates with
      | here isHere => cases isHere.unique Ascending.asymm noneHere
      | between _ isBelow isAbove found =>
          cases isBelow.unique Ascending.asymm noneBelow
          cases isAbove.unique Ascending.asymm noneAbove
          simp at found
      | alone => rfl
  | unasked noneHere =>
      cases otherLocates with
      | here isHere => cases isHere.unique Ascending.asymm noneHere
      | unasked => rfl

end SymbolListing

/-! ## The index of a group -/

namespace ModuleSymbols

/-- In some order, the first entry of the index whose offset meets a condition, if there is one. -/
def IsFirst
    (group : ModuleSymbols)
    (precedes : UInt16 × String → UInt16 × String → Prop)
    (meets : UInt16 → Prop) :
    Option (UInt16 × String) → Prop
  | none => ∀ entry ∈ group.offsets, ¬ meets entry.1
  | some entry =>
      entry ∈ group.offsets ∧ meets entry.1 ∧
        ∀ other ∈ group.offsets, meets other.1 → other = entry ∨ precedes entry other

variable {group : ModuleSymbols} {offset : UInt16}

theorem IsEntryAt.isFirst
    {entry : UInt16 × String}
    (isHere : group.IsEntryAt offset entry) :
    group.IsFirst Ascending (· = offset) (some entry) := by
  refine ⟨isHere.member, isHere.here, fun other member same => ?_⟩
  rcases isHere.first other member same with isEntry | less
  · exact .inl isEntry
  · right
    rw [Ascending, Prod.lex_def]
    exact .inr ⟨isHere.here.trans same.symm, less⟩

section Dividing

variable (increasing : IsIncreasing group.offsets.toList)
variable {index : Nat}
variable
  (divides :
    ∀ other entry,
      group.offsets[other]? = some entry →
        if other < index then entry.1 < offset else offset < entry.1)

include increasing divides

/-- The entry before the place of an offset is the nearest one below it. -/
theorem isFirst_preceding
    (inside : index ≤ group.offsets.size) :
    group.IsFirst Descending (· < offset)
      (if index = 0 then none else group.offsets[index - 1]?) := by
  cases index with
  | zero =>
      intro entry member
      obtain ⟨place, isEntry⟩ := Array.getElem?_of_mem member
      exact UInt16.lt_asymm (divides place entry isEntry)
  | succ index =>
      have isThere : group.offsets[index]? = some group.offsets[index] :=
        Array.getElem?_eq_getElem inside
      have isBelow := isEntryBelow_before increasing divides isThere
      rw [if_neg (Nat.succ_ne_zero index), Nat.add_sub_cancel, isThere]
      exact ⟨isBelow.member, isBelow.below, isBelow.last⟩

/-- The entry at the place of an offset is the nearest one above it. -/
theorem isFirst_following :
    group.IsFirst Ascending (offset < ·) group.offsets[index]? := by
  cases isThere : group.offsets[index]? with
  | none =>
      intro entry member
      obtain ⟨place, isEntry⟩ := Array.getElem?_of_mem member
      obtain ⟨within, -⟩ := Array.getElem?_eq_some_iff.mp isEntry
      have below := divides place entry isEntry
      rw [if_pos (Nat.lt_of_lt_of_le within (Array.getElem?_eq_none_iff.mp isThere))] at below
      exact UInt16.lt_asymm below
  | some entry =>
      have above := divides index entry isThere
      rw [if_neg (Nat.lt_irrefl index)] at above
      refine ⟨Array.mem_of_getElem? isThere, above, fun other member otherAbove => ?_⟩
      obtain ⟨place, isOther⟩ := Array.getElem?_of_mem member
      rcases Nat.lt_trichotomy place index with earlier | rfl | later
      · have below := divides place other isOther
        rw [if_pos earlier] at below
        exact absurd below (UInt16.lt_asymm otherAbove)
      · rw [isThere] at isOther
        cases isOther
        exact .inl rfl
      · exact .inr (increasing.lex later isThere isOther)

end Dividing

end ModuleSymbols

namespace SymbolListing

/-- Definitions change neither where a group lies nor whose it is. -/
theorem header_group (listing : SymbolListing) :
    listing.group.module = listing.module ∧
      listing.group.base = listing.base ∧
      listing.group.length = listing.length := by
  rw [group_eq_ofDefinitions]
  induction listing.symbols using List.reverseRecOn with
  | nil =>
      exact ⟨rfl, rfl, rfl⟩
  | append_singleton earlier symbol inductionHypothesis =>
      rw [ModuleSymbols.ofDefinitions, List.foldl_append, List.foldl_cons, List.foldl_nil,
        ModuleSymbols.insert_eq]
      split <;> exact inductionHypothesis

variable {listing : SymbolListing}

/-- The index of the group holds the symbols that the definitions leave. -/
theorem mem_offsets_iff
    {offset : UInt16}
    {name : String} :
    (offset, name) ∈ listing.group.offsets ↔
      ∃ symbol, listing.Places offset symbol ∧ symbol.name = name := by
  have isIndexed : listing.group.IsIndexed := ModuleSymbols.ofDefinitions_isIndexed _ _ _ _
  rw [isIndexed.indexed, ModuleSymbols.exists_record_iff isIndexed.byName isIndexed.keys,
    group_eq_ofDefinitions, ModuleSymbols.find?_ofDefinitions]
  constructor
  · rintro ⟨symbol, survives, rfl, placed⟩
    exact ⟨symbol, ⟨survives, placed⟩, rfl⟩
  · rintro ⟨symbol, places, rfl⟩
    exact ⟨symbol, places.survives, rfl, places.placed⟩

theorem contains_group_iff
    {address : UInt16} :
    listing.group.contains address ↔ listing.Covers address := by
  obtain ⟨-, base, length⟩ := listing.header_group
  rw [ModuleSymbols.contains, base, length, Bool.and_eq_true, decide_eq_true_iff,
    decide_eq_true_iff]
  rfl

theorem address_shown
    (listing : SymbolListing)
    (place : UInt16 × KnownSymbol) :
    (listing.shown place).address = listing.base + place.1 := by
  rw [shown, ← UInt16.toNat_inj]
  simp [UInt16.toNat_add]

theorem matchOf_group
    {offset : UInt16}
    {symbol : KnownSymbol}
    (places : listing.Places offset symbol) :
    listing.group.matchOf (offset, symbol.name) = listing.shown (offset, symbol) := by
  have record : listing.group.byName.find? (Text.capitals symbol.name) = some symbol := by
    rw [group_eq_ofDefinitions, ModuleSymbols.find?_ofDefinitions, places.survives]
  have address :
      listing.group.base + offset = (listing.shown (offset, symbol)).address := by
    rw [listing.header_group.2.1, address_shown]
  simp only [ModuleSymbols.matchOf, record, Option.bind_some, address]
  rfl

/-- What is first in the index is first among the symbols that the definitions leave. -/
theorem exists_isFirst
    {precedes : UInt16 × String → UInt16 × String → Prop}
    {meets : UInt16 → Prop}
    {present? : Option (UInt16 × String)}
    (isFirst : listing.group.IsFirst precedes meets present?) :
    ∃ place?,
      listing.IsFirst precedes meets place? ∧
        present?.map listing.group.matchOf = place?.map listing.shown := by
  cases present? with
  | none =>
      refine ⟨none, fun offset symbol places => ?_, rfl⟩
      exact isFirst (offset, symbol.name) (mem_offsets_iff.mpr ⟨symbol, places, rfl⟩)
  | some entry =>
      obtain ⟨member, meet, precede⟩ := isFirst
      obtain ⟨symbol, places, named⟩ := mem_offsets_iff.mp member
      refine ⟨some (entry.1, symbol), ⟨places, meet, ?_⟩, ?_⟩
      · intro otherOffset other otherPlaces meets
        have otherMember := mem_offsets_iff.mpr ⟨other, otherPlaces, rfl⟩
        rcases precede _ otherMember meets with same | before
        · -- Two symbols of one spelling are found under one key.
          have sameName : other.name = symbol.name := (congrArg Prod.snd same).trans named.symm
          have sameSymbol : some other = some symbol := by
            rw [← otherPlaces.survives, ← places.survives, sameName]
          have sameOffset : otherOffset = entry.1 := congrArg Prod.fst same
          exact .inl (Prod.ext sameOffset (Option.some.inj sameSymbol))
        · rw [named]
          exact .inr before
      · rw [Option.map_some, Option.map_some, ← matchOf_group places, named]

/-- Halving the index leads to what the listing has to tell. -/
theorem locates_lookup?
    (listing : SymbolListing)
    (offset : UInt16)
    (isNearest : Bool) :
    listing.Locates offset isNearest (listing.group.lookup? offset isNearest) := by
  have increasing : ModuleSymbols.IsIncreasing listing.group.offsets.toList :=
    (ModuleSymbols.ofDefinitions_isIndexed _ _ _ _).offsets
  unfold ModuleSymbols.lookup?
  rcases indexPlace_cases offset increasing.ascendsByOffset with
    ⟨index, entry, isPlace, isThere, here⟩ | ⟨index, isPlace, inside, divides⟩
  · obtain ⟨first, isFirst, isHere⟩ :=
      ModuleSymbols.isEntryAt_firstAt increasing isThere here
    obtain ⟨place?, isFirstPlace, same⟩ := exists_isFirst isHere.isFirst
    simp only [isPlace, ModuleSymbols.matchAt?, isFirst, same]
    cases place? with
    | none => cases same
    | some place => exact .here isFirstPlace
  · have noneAt : listing.group.IsFirst Ascending (· = offset) none :=
      ModuleSymbols.ne_offset_of_divides divides
    obtain ⟨here?, noneHere, sameHere⟩ := exists_isFirst noneAt
    obtain rfl := Option.map_eq_none_iff.mp sameHere.symm
    obtain ⟨below?, isBelow, sameBelow⟩ :=
      exists_isFirst (ModuleSymbols.isFirst_preceding increasing divides inside)
    obtain ⟨above?, isAbove, sameAbove⟩ :=
      exists_isFirst (ModuleSymbols.isFirst_following increasing divides)
    have preceding :
        (if index = 0 then none else listing.group.matchAt? (index - 1)) =
          below?.map listing.shown := by
      rw [← sameBelow]
      split <;> rfl
    have following : listing.group.matchAt? index = above?.map listing.shown := sameAbove
    simp only [isPlace, preceding, following]
    cases isNearest with
    | false =>
        exact .unasked noneHere
    | true =>
        rw [if_pos rfl]
        split
        · rename_i isEmpty
          simp only [Option.isNone_map, Option.isNone_iff_eq_none] at isEmpty
          obtain ⟨rfl, rfl⟩ := isEmpty
          exact .alone noneHere isBelow isAbove
        · rename_i isFound
          refine .between noneHere isBelow isAbove ?_
          rw [or_iff_not_imp_left]
          simpa [Option.isSome_iff_ne_none] using isFound

end SymbolListing

namespace SymbolTable

/-- The table with the groups of some listings, in their order. -/
def ofListings (listings : List SymbolListing) : SymbolTable :=
  listings.foldl
    (fun table listing =>
      table.withModule listing.module listing.base listing.length listing.symbols)
    empty

theorem groups_ofListings (listings : List SymbolListing) :
    (ofListings listings).groups = listings.map SymbolListing.group := by
  rw [ofListings, foldl_withModule]
  rfl

variable {listings : List SymbolListing} {address : UInt16} {isNearest : Bool}

/-- The group that is asked is that of the first listing that covers the address. -/
theorem find?_contains_iff
    {listing : SymbolListing} :
    listings.find? (·.group.contains address) = some listing ↔
      listing.Covers address ∧
        ∃ earlier later,
          listings = earlier ++ listing :: later ∧
            ∀ other ∈ earlier, ¬ other.Covers address := by
  simp [List.find?_eq_some_iff_append, ← SymbolListing.contains_group_iff]

/--
What some listings have to tell about an address: the first one that covers it
decides, and tells about the distance of the address from its base.
-/
inductive Locates
    (listings : List SymbolListing)
    (address : UInt16)
    (isNearest : Bool) :
    Option Vicinity → Prop where
  | inside
      {earlier later : List SymbolListing}
      {listing : SymbolListing}
      {result? : Option Vicinity}
      (parts : listings = earlier ++ listing :: later)
      (notEarlier : ∀ other ∈ earlier, ¬ other.Covers address)
      (covers : listing.Covers address)
      (locates :
        listing.Locates (UInt16.ofNat (address.toNat - listing.base.toNat)) isNearest result?) :
      Locates listings address isNearest result?
  | outside (nowhere : ∀ listing ∈ listings, ¬ listing.Covers address) :
      Locates listings address isNearest none

/-- The first listing that covers an address is asked about the distance from its base. -/
theorem vicinity?_of_find?
    {listing : SymbolListing}
    (found : listings.find? (·.group.contains address) = some listing)
    (isNearest : Bool) :
    (ofListings listings).vicinity? address isNearest =
      listing.group.lookup? (address - listing.base) isNearest := by
  have asked :
      (ofListings listings).groups.find? (·.contains address) = some listing.group := by
    rw [groups_ofListings, List.find?_map]
    exact congrArg (Option.map SymbolListing.group) found
  unfold vicinity?
  rw [asked, ← listing.header_group.2.1]
  rfl

theorem locates_vicinity?
    (listings : List SymbolListing)
    (address : UInt16)
    (isNearest : Bool) :
    Locates listings address isNearest ((ofListings listings).vicinity? address isNearest) := by
  cases found : listings.find? (·.group.contains address) with
  | none =>
      have nowhere : ∀ listing ∈ listings, ¬ listing.Covers address := by
        intro listing member
        rw [← SymbolListing.contains_group_iff]
        exact List.find?_eq_none.mp found listing member
      unfold vicinity?
      rw [groups_ofListings, List.find?_map]
      change Locates _ _ _ (((listings.find? (·.group.contains address)).map _).bind _)
      rw [found]
      exact .outside nowhere
  | some listing =>
      obtain ⟨covers, earlier, later, parts, notEarlier⟩ := find?_contains_iff.mp found
      have distance :
          address - listing.base = UInt16.ofNat (address.toNat - listing.base.toNat) := by
        have small := address.toNat_lt
        rw [← UInt16.toNat_inj, UInt16.toNat_sub_of_le _ _ (UInt16.le_iff_toNat_le.mpr covers.1),
          UInt16.toNat_ofNat', Nat.mod_eq_of_lt (by omega)]
      rw [vicinity?_of_find? found, distance]
      exact .inside parts notEarlier covers (listing.locates_lookup? _ isNearest)

/-- Listings tell one thing about an address only. -/
theorem Locates.unique
    {result? other? : Option Vicinity}
    (locates : Locates listings address isNearest result?)
    (otherLocates : Locates listings address isNearest other?) :
    result? = other? := by
  cases locates with
  | inside parts notEarlier covers locates =>
      cases otherLocates with
      | inside otherParts otherNotEarlier otherCovers otherLocates =>
          have found := find?_contains_iff.mpr ⟨covers, _, _, parts, notEarlier⟩
          rw [find?_contains_iff.mpr ⟨otherCovers, _, _, otherParts, otherNotEarlier⟩] at found
          cases found
          exact locates.unique otherLocates
      | outside nowhere =>
          rw [parts] at nowhere
          exact absurd covers (nowhere _ (by simp))
  | outside nowhere =>
      cases otherLocates with
      | inside parts _ covers =>
          rw [parts] at nowhere
          exact absurd covers (nowhere _ (by simp))
      | outside => rfl

/--
Looking up an address gives exactly what going through all the definitions
gives, for every table, address and wish for neighbours. The first group that
contains the address is asked. The symbol at the address is the one there whose
name comes first. If there is none and neighbours are wanted, they are the last
symbol below the address and the first one above it, in order of offset and
name, as far as there are such. Nothing is found otherwise. A symbol is shown
without its leading dots, at its offset from the base around the end of the
address space, with the note and the comment of its own record.
-/
theorem vicinity_iff_locates
    (listings : List SymbolListing)
    (address : UInt16)
    (isNearest : Bool)
    (result? : Option Vicinity) :
    (ofListings listings).vicinity? address isNearest = result? ↔
      Locates listings address isNearest result? := by
  constructor
  · rintro rfl
    exact locates_vicinity? listings address isNearest
  · exact (locates_vicinity? listings address isNearest).unique

/-- Between two names at one offset and a local one, the later name and the local one are next. -/
example :
    (ofListings
          [⟨"M", 0x0100, 0x0100,
            [("START", ⟨some 4, none, none⟩), ("MAIN", ⟨some 4, none, none⟩),
              (".LOOP", ⟨some 8, none, some "twice"⟩)]⟩]).vicinity? 0x0106 true =
      some
        ⟨none, some ⟨"START", 0x0104, 4, none, none⟩,
          some ⟨"LOOP", 0x0108, 8, none, some "twice"⟩⟩ := by
  decide +kernel

end SymbolTable

end Monitor8080
