import Mathlib.Data.List.DropRight
import Monitor8080.Json.Limits
import Monitor8080.Proofs.JsonScalars
namespace Monitor8080.Json

/-!
# Round trips of JSON values

A value that is printed over several lines is read back as it is written, if
its numbers are integers of 64 bits and all of it is text. What is written
stands for the value, which is kept as it is if it does not nest too deep and
tells the names in its objects apart.
-/

/--
A value whose arrays and objects nest no deeper than that, whose numbers are
integers of 64 bits and whose objects give no name twice.
-/
inductive IsKept : (nesting : Nat) → Json → Prop where
  | null : IsKept nesting .null
  | bool (value : Bool) : IsKept nesting (.bool value)
  | int
      {value : Int}
      (least : -0x8000000000000000 ≤ value)
      (most : value < 0x10000000000000000) :
      IsKept nesting (.int value)
  | string (text : String) : IsKept nesting (.string text)
  | array
      {items : List Json}
      (kept : ∀ item ∈ items, IsKept nesting item) :
      IsKept (nesting + 1) (.array items)
  | object
      {members : List (String × Json)}
      (names : (members.map (·.1)).Nodup)
      (kept : ∀ member ∈ members, IsKept nesting member.2) :
      IsKept (nesting + 1) (.object members)

mutual

/-- The value with its texts and names as they are written. -/
def asWritten : Json → Json
  | .string text => .string (escapedText text)
  | .array items => .array (itemsAsWritten items)
  | .object members => .object (membersAsWritten members)
  | value => value

def itemsAsWritten : List Json → List Json
  | [] => []
  | item :: items => asWritten item :: itemsAsWritten items

def membersAsWritten : List (String × Json) → List (String × Json)
  | [] => []
  | (name, value) :: members => (escapedText name, asWritten value) :: membersAsWritten members

end

theorem membersAsWritten_eq_map (members : List (String × Json)) :
    membersAsWritten members =
      members.map fun member => (escapedText member.1, member.2.asWritten) := by
  induction members with
  | nil =>
      rfl
  | cons member members inductionHypothesis =>
      rw [membersAsWritten, inductionHypothesis, List.map_cons]

mutual

/-- What is written of a value stands for the value. -/
theorem unescaped_asWritten : ∀ value : Json, unescaped (asWritten value) = value
  | .null | .bool _ | .int _ | .float _ | .unreadable => rfl
  | .string text => by
      rw [asWritten, unescaped, unescape?_escapedText]
  | .array items => by
      rw [asWritten, unescaped, unescapedItems_itemsAsWritten items]
  | .object members => by
      rw [asWritten, unescaped, unescapedMembers?_membersAsWritten members]

theorem unescapedItems_itemsAsWritten :
    ∀ items : List Json, unescapedItems (itemsAsWritten items) = items
  | [] => rfl
  | item :: items => by
      rw [itemsAsWritten, unescapedItems, unescaped_asWritten item,
        unescapedItems_itemsAsWritten items]

theorem unescapedMembers?_membersAsWritten :
    ∀ members : List (String × Json),
      unescapedMembers? (membersAsWritten members) = some members
  | [] => rfl
  | (name, value) :: members => by
      rw [membersAsWritten, unescapedMembers?, unescape?_escapedText,
        unescapedMembers?_membersAsWritten members, unescaped_asWritten value]
      rfl

end

/-! ## Blanks -/

/-- Characters that are all blanks. -/
def AreBlank (blanks : List Char) : Prop :=
  ∀ c ∈ blanks, (c == ' ' || c == '\t' || c == '\n' || c == '\r') = true

theorem skipBlanks_append
    {blanks : List Char}
    (areBlank : AreBlank blanks)
    (rest : List Char) :
    skipBlanks (blanks ++ rest) = skipBlanks rest :=
  List.dropWhile_append_of_pos areBlank

theorem areBlank_indentation (depth : Nat) : AreBlank (indentation depth).toList := by
  intro c member
  rw [indentation, String.toList_ofList] at member
  rw [List.eq_of_mem_replicate member]
  rfl

theorem skipBlanks_newLine (rest : List Char) : skipBlanks ('\n' :: rest) = skipBlanks rest :=
  rfl

theorem skipBlanks_space (rest : List Char) : skipBlanks (' ' :: rest) = skipBlanks rest :=
  rfl

theorem skipBlanks_skipBlanks (cs : List Char) : skipBlanks (skipBlanks cs) = skipBlanks cs :=
  List.dropWhile_idempotent _ _

section SameRest

variable {left right : List Char} (same : skipBlanks left = skipBlanks right) (fuel : Nat)

include same

/-- Blanks in front make no difference to a value, an item or a member. -/
theorem value?_congr : value? fuel left = value? fuel right := by
  cases fuel with
  | zero =>
      rfl
  | succ fuel =>
      rw [value?, value?, same]

theorem items?_congr : items? fuel left = items? fuel right := by
  cases fuel with
  | zero =>
      rfl
  | succ fuel =>
      rw [items?, items?, value?_congr same]

theorem members?_congr : members? fuel left = members? fuel right := by
  cases fuel with
  | zero =>
      rfl
  | succ fuel =>
      rw [members?, members?, same]

end SameRest

/-! ## Reading what is printed -/

/-- A value is read back as it is written, at whatever depth it stands and whatever follows it. -/
def IsReadBack (value : Json) : Prop :=
  ∀ (depth fuel : Nat) (rest : List Char),
    EndsValue rest →
      2 * (renderPrettyAt depth value).length < fuel →
        value? fuel ((renderPrettyAt depth value).toList ++ rest) = some (value.asWritten, rest)

/-- No fuel is too little for any text, even for an empty one. -/
theorem isReadBack_of_succ
    {value : Json}
    (read :
      ∀ (depth fuel : Nat) (rest : List Char),
        EndsValue rest →
          2 * (renderPrettyAt depth value).length < fuel + 1 →
            value? (fuel + 1) ((renderPrettyAt depth value).toList ++ rest) =
              some (value.asWritten, rest)) :
    IsReadBack value := by
  intro depth fuel rest ends enough
  cases fuel with
  | zero =>
      cases enough
  | succ fuel =>
      exact read depth fuel rest ends enough

theorem toList_block
    (opening closing : String)
    (depth : Nat)
    (lines : List String) :
    (block opening closing depth lines).toList =
      opening.toList ++
        ('\n' :: ((Text.join ",\n" lines).toList ++
          ('\n' :: ((indentation depth).toList ++ closing.toList)))) := by
  simp [block]

theorem toList_join_cons_cons (line next : String) (lines : List String) :
    (Text.join ",\n" (line :: next :: lines)).toList =
      line.toList ++ (',' :: '\n' :: (Text.join ",\n" (next :: lines)).toList) := by
  simp [Text.join, String.intercalate_cons_cons]

theorem length_join_cons_cons (line next : String) (lines : List String) :
    (Text.join ",\n" (line :: next :: lines)).length =
      line.length + (Text.join ",\n" (next :: lines)).length + 2 := by
  rw [← String.length_toList, toList_join_cons_cons]
  simp only [List.length_append, List.length_cons, String.length_toList]
  omega

theorem join_singleton (line : String) : Text.join ",\n" [line] = line :=
  String.intercalate_singleton

/-- The blanks before the bracket that closes a block are skipped. -/
theorem skipBlanks_closing
    (depth : Nat)
    {closing : Char}
    (isBracket : closing = ']' ∨ closing = '\x7d')
    (rest : List Char) :
    skipBlanks ('\n' :: ((indentation depth).toList ++ closing :: rest)) = closing :: rest := by
  change skipBlanks ((indentation depth).toList ++ closing :: rest) = closing :: rest
  rw [skipBlanks_append (areBlank_indentation depth)]
  rcases isBracket with rfl | rfl <;> rfl

theorem endsValue_newLine (rest : List Char) : EndsValue ('\n' :: rest) :=
  fun _ next => .inr (Option.some.inj next).symm

theorem endsValue_comma (rest : List Char) : EndsValue (',' :: rest) :=
  fun _ next => .inl (Option.some.inj next).symm

/-! ### Items -/

/-- An item is read, and then the closing bracket or, after a comma, further items. -/
theorem items?_cons
    {fuel : Nat}
    {cs after rest : List Char}
    {item : Json}
    {items : List Json}
    (read : value? fuel cs = some (item, after))
    (goesOn :
      skipBlanks after = ']' :: rest ∧ items = [] ∨
        ∃ next, skipBlanks after = ',' :: next ∧ items? fuel next = some (items, rest)) :
    items? (fuel + 1) cs = some (item :: items, rest) := by
  rw [items?, read]
  rcases goesOn with ⟨closed, rfl⟩ | ⟨next, comma, nextRead⟩
  · simp only [Option.bind_eq_bind, Option.bind_some, closed]
    rfl
  · simp only [Option.bind_eq_bind, Option.bind_some, comma, nextRead]
    rfl

/-- Items on lines of their own are read back up to the closing bracket. -/
theorem items?_renderPrettyItems
    {items : List Json}
    (nonempty : items ≠ [])
    (areReadBack : ∀ item ∈ items, IsReadBack item)
    (depth : Nat)
    {fuel : Nat}
    (enough : 2 * (Text.join ",\n" (renderPrettyItems depth items)).length + 1 < fuel)
    (outer : Nat)
    (rest : List Char) :
    items? fuel
        ((Text.join ",\n" (renderPrettyItems depth items)).toList ++
          ('\n' :: ((indentation outer).toList ++ ']' :: rest))) =
      some (itemsAsWritten items, rest) := by
  induction items generalizing fuel with
  | nil =>
      contradiction
  | cons item others inductionHypothesis =>
      obtain ⟨itemRead, othersRead⟩ := List.forall_mem_cons.mp areReadBack
      have indented := skipBlanks_append (areBlank_indentation depth)
      cases fuel with
      | zero =>
          cases enough
      | succ fuel =>
          cases others with
          | nil =>
              simp only [renderPrettyItems, join_singleton, String.length_append,
                String.toList_append, List.append_assoc] at enough ⊢
              have read := fun after ends => itemRead depth fuel after ends (by omega)
              rw [items?_congr (indented _)]
              refine items?_cons (read _ (endsValue_newLine _)) (.inl ⟨?_, rfl⟩)
              exact skipBlanks_closing outer (.inl rfl) rest
          | cons next others =>
              simp only [renderPrettyItems, length_join_cons_cons, toList_join_cons_cons,
                String.length_append, String.toList_append, List.append_assoc, List.cons_append]
                at enough inductionHypothesis ⊢
              have read := fun after ends => itemRead depth fuel after ends (by omega)
              have nextRead :=
                @inductionHypothesis (List.cons_ne_nil next others) othersRead fuel (by omega)
              rw [items?_congr (indented _)]
              refine items?_cons (read _ (endsValue_comma _)) (.inr ⟨_, rfl, ?_⟩)
              exact (items?_congr (skipBlanks_newLine _) fuel).trans nextRead

/-! ### Members -/

theorem toList_quoted_append (text : String) (rest : List Char) :
    (quoted text).toList ++ rest =
      '\x22' :: (text.toList.flatMap escapedChar ++ '\x22' :: rest) := by
  rw [quoted, String.toList_ofList, List.append_assoc, List.cons_append, List.singleton_append]

/-- A member is read, and then the closing brace or, after a comma, further members. -/
theorem members?_cons
    {fuel : Nat}
    {cs after rest : List Char}
    (name : String)
    {value : Json}
    {members : List (String × Json)}
    (read : value? fuel cs = some (value, after))
    (goesOn :
      skipBlanks after = '\x7d' :: rest ∧ members = [] ∨
        ∃ next, skipBlanks after = ',' :: next ∧ members? fuel next = some (members, rest)) :
    members? (fuel + 1) ((quoted name).toList ++ (':' :: ' ' :: cs)) =
      some ((escapedText name, value) :: members, rest) := by
  rw [toList_quoted_append, members?]
  change (string? (name.toList.flatMap escapedChar ++ '\x22' :: ':' :: ' ' :: cs)).bind _ = _
  rw [string?_escapedText]
  change (value? fuel (' ' :: cs)).bind _ = _
  rw [value?_congr (skipBlanks_space cs), read]
  rcases goesOn with ⟨closed, rfl⟩ | ⟨next, comma, nextRead⟩
  · simp only [Option.bind_some, closed]
    rfl
  · simp only [Option.bind_eq_bind, Option.bind_some, comma, nextRead]
    rfl

/-- Members on lines of their own are read back up to the closing brace. -/
theorem members?_renderPrettyMembers
    {members : List (String × Json)}
    (nonempty : members ≠ [])
    (areReadBack : ∀ member ∈ members, IsReadBack member.2)
    (depth : Nat)
    {fuel : Nat}
    (enough : 2 * (Text.join ",\n" (renderPrettyMembers depth members)).length + 1 < fuel)
    (outer : Nat)
    (rest : List Char) :
    members? fuel
        ((Text.join ",\n" (renderPrettyMembers depth members)).toList ++
          ('\n' :: ((indentation outer).toList ++ '\x7d' :: rest))) =
      some (membersAsWritten members, rest) := by
  induction members generalizing fuel with
  | nil =>
      contradiction
  | cons member others inductionHypothesis =>
      obtain ⟨name, value⟩ := member
      obtain ⟨valueRead, othersRead⟩ := List.forall_mem_cons.mp areReadBack
      simp only at valueRead
      have indented := skipBlanks_append (areBlank_indentation depth)
      cases fuel with
      | zero =>
          cases enough
      | succ fuel =>
          cases others with
          | nil =>
              simp only [renderPrettyMembers, join_singleton, String.length_append,
                String.toList_append, List.append_assoc] at enough ⊢
              have read := fun after ends => valueRead depth fuel after ends (by omega)
              rw [members?_congr (indented _)]
              refine members?_cons name (read _ (endsValue_newLine _)) (.inl ⟨?_, rfl⟩)
              exact skipBlanks_closing outer (.inr rfl) rest
          | cons next others =>
              simp only [renderPrettyMembers, length_join_cons_cons, toList_join_cons_cons,
                String.length_append, String.toList_append, List.append_assoc, List.cons_append]
                at enough inductionHypothesis ⊢
              have read := fun after ends => valueRead depth fuel after ends (by omega)
              have nextRead :=
                @inductionHypothesis (List.cons_ne_nil next others) othersRead fuel (by omega)
              rw [members?_congr (indented _)]
              refine members?_cons name (read _ (endsValue_comma _)) (.inr ⟨_, rfl, ?_⟩)
              exact (members?_congr (skipBlanks_newLine _) fuel).trans nextRead

/-! ### Values -/

/-- What starts with a minus or a digit is read as a number. -/
theorem value?_eq_number?
    {c : Char}
    (starts : c = '-' ∨ c.isDigit = true)
    (fuel : Nat)
    (rest : List Char) :
    value? (fuel + 1) (c :: rest) = number? (c :: rest) := by
  have noBlank : ¬ (c == ' ' || c == '\t' || c == '\n' || c == '\r') = true := by
    intro isBlank
    simp only [Bool.or_eq_true, beq_iff_eq] at isBlank
    rcases isBlank with ((rfl | rfl) | rfl) | rfl <;> simp at starts
  have same : skipBlanks (c :: rest) = c :: rest := List.dropWhile_cons_of_neg noBlank
  rw [value?, same]
  split
  case h_1 => contradiction
  case h_8 => rfl
  all_goals
    rename_i same
    cases same
    simp at starts

/-- The text of an integer starts with a minus or a digit. -/
theorem exists_toString_eq_cons (value : Int) :
    ∃ c cs, (toString value).toList = c :: cs ∧ (c = '-' ∨ c.isDigit = true) := by
  have digits : ∀ magnitude : Nat, ∃ c cs, magnitude.repr.toList = c :: cs ∧ c.isDigit = true := by
    intro magnitude
    rw [Nat.toList_repr]
    obtain ⟨first, others, same⟩ := List.exists_cons_of_ne_nil (@Nat.toDigits_ne_nil magnitude 10)
    refine ⟨first, others, same, ?_⟩
    exact Nat.isDigit_of_mem_toDigits (by decide) (by decide) (same ▸ List.mem_cons_self)
  rw [Int.toString_eq_repr, Int.repr_eq_if]
  split
  · obtain ⟨c, cs, same, isDigit⟩ := digits value.toNat
    exact ⟨c, cs, same, .inr isDigit⟩
  · exact ⟨'-', _, by rw [String.toList_append]; rfl, .inl rfl⟩

section Containers

variable {fuel : Nat} {cs rest : List Char}

/-- No item starts with the bracket that closes an array, so one with items is not empty. -/
theorem value?_array
    {items : List Json}
    (read : items? fuel cs = some (items, rest)) :
    value? (fuel + 1) ('[' :: cs) = some (.array items, rest) := by
  have unblanked := (items?_congr (skipBlanks_skipBlanks cs) fuel).trans read
  have same : skipBlanks ('[' :: cs) = '[' :: cs := rfl
  simp only [value?, same]
  generalize skipBlanks cs = shown at unblanked ⊢
  split
  · cases fuel with
    | zero =>
        cases unblanked
    | succ fuel =>
        cases fuel <;> cases unblanked
  · rw [unblanked]
    rfl

/-- Nor does a member start with the brace that closes an object. -/
theorem value?_object
    {members : List (String × Json)}
    (read : members? fuel cs = some (members, rest)) :
    value? (fuel + 1) ('\x7b' :: cs) = some (.object members, rest) := by
  have unblanked := (members?_congr (skipBlanks_skipBlanks cs) fuel).trans read
  have same : skipBlanks ('\x7b' :: cs) = '\x7b' :: cs := rfl
  simp only [value?, same]
  generalize skipBlanks cs = shown at unblanked ⊢
  split
  · cases fuel <;> cases unblanked
  · rw [unblanked]
    rfl

end Containers

/-- Lines in brackets take two characters more than the lines, and two new lines. -/
theorem lines_lt_of_block_lt
    {opening closing : String}
    {depth fuel : Nat}
    {lines : List String}
    (isBracket : opening.length = 1)
    (enough : 2 * (block opening closing depth lines).length < fuel + 1) :
    2 * (Text.join ",\n" lines).length + 1 < fuel := by
  rw [← String.length_toList, toList_block] at enough
  simp only [List.length_append, List.length_cons, String.length_toList] at enough
  omega

theorem isReadBack_null : IsReadBack .null := by
  refine isReadBack_of_succ fun depth fuel rest _ _ => ?_
  change value? (fuel + 1) ("null".toList ++ rest) = some (.null, rest)
  rfl

theorem isReadBack_bool (value : Bool) : IsReadBack (.bool value) := by
  refine isReadBack_of_succ fun depth fuel rest _ _ => ?_
  cases value with
  | true =>
      change value? (fuel + 1) ("true".toList ++ rest) = some (.bool true, rest)
      rfl
  | false =>
      change value? (fuel + 1) ("false".toList ++ rest) = some (.bool false, rest)
      rfl

theorem isReadBack_int
    {value : Int}
    (least : -0x8000000000000000 ≤ value)
    (most : value < 0x10000000000000000) :
    IsReadBack (.int value) := by
  refine isReadBack_of_succ fun depth fuel rest ends _ => ?_
  obtain ⟨c, cs, same, starts⟩ := exists_toString_eq_cons value
  have read := ends.number?_toString least most
  change value? (fuel + 1) ((toString value).toList ++ rest) = some (.int value, rest)
  rw [same, List.cons_append] at read ⊢
  rw [value?_eq_number? starts, read]

theorem isReadBack_string (text : String) : IsReadBack (.string text) := by
  refine isReadBack_of_succ fun depth fuel rest _ _ => ?_
  change value? (fuel + 1) ((quoted text).toList ++ rest) = some (.string (escapedText text), rest)
  rw [toList_quoted_append]
  change (string? (text.toList.flatMap escapedChar ++ '\x22' :: rest)).map _ = _
  rw [string?_escapedText]
  rfl

theorem isReadBack_array
    {items : List Json}
    (areReadBack : ∀ item ∈ items, IsReadBack item) :
    IsReadBack (.array items) := by
  refine isReadBack_of_succ fun depth fuel rest _ enough => ?_
  cases items with
  | nil =>
      change value? (fuel + 1) ("[]".toList ++ rest) = some (.array [], rest)
      rfl
  | cons item items =>
      have read :=
        items?_renderPrettyItems (List.cons_ne_nil item items) areReadBack (depth + 1)
          (lines_lt_of_block_lt rfl enough) depth rest
      change value? (fuel + 1) ((block "[" "]" depth _).toList ++ rest) = _
      simp only [toList_block, List.append_assoc, List.cons_append]
      exact value?_array ((items?_congr (skipBlanks_newLine _) fuel).trans read)

theorem isReadBack_object
    {members : List (String × Json)}
    (areReadBack : ∀ member ∈ members, IsReadBack member.2) :
    IsReadBack (.object members) := by
  refine isReadBack_of_succ fun depth fuel rest _ enough => ?_
  cases members with
  | nil =>
      change value? (fuel + 1) ("\x7b\x7d".toList ++ rest) = some (.object [], rest)
      rfl
  | cons member members =>
      have read :=
        members?_renderPrettyMembers (List.cons_ne_nil member members) areReadBack (depth + 1)
          (lines_lt_of_block_lt rfl enough) depth rest
      change value? (fuel + 1) ((block "\x7b" "\x7d" depth _).toList ++ rest) = _
      simp only [toList_block, List.append_assoc, List.cons_append]
      exact value?_object ((members?_congr (skipBlanks_newLine _) fuel).trans read)

/-- Whatever is kept is read back as it is written. -/
theorem IsKept.isReadBack
    {nesting : Nat}
    {value : Json}
    (kept : value.IsKept nesting) :
    IsReadBack value := by
  induction kept with
  | null =>
      exact isReadBack_null
  | bool value =>
      exact isReadBack_bool value
  | int least most =>
      exact isReadBack_int least most
  | string text =>
      exact isReadBack_string text
  | array kept inductionHypothesis =>
      exact isReadBack_array inductionHypothesis
  | object names kept inductionHypothesis =>
      exact isReadBack_object inductionHypothesis

section Kept

variable {nesting : Nat} {value : Json}

/-- The text of whatever is kept is read back as it is written. -/
theorem IsKept.written?_renderPretty (kept : value.IsKept nesting) :
    written? value.renderPretty = some value.asWritten := by
  have enough : 2 * value.renderPretty.length < 2 * value.renderPretty.toList.length + 2 := by
    rw [String.length_toList]
    omega
  have read := kept.isReadBack 0 _ [] (fun _ next => nomatch next) enough
  rw [List.append_nil] at read
  change value? _ value.renderPretty.toList = _ at read
  rw [written?, read]
  rfl

/-- The text of whatever is kept stands for it. -/
theorem IsKept.read?_renderPretty (kept : value.IsKept nesting) :
    read? value.renderPretty = some value := by
  rw [read?, kept.written?_renderPretty, Option.map_some, unescaped_asWritten]

end Kept

/-! ## Keeping what was read -/

theorem itemsKeptWithin?_eq
    {limit : Nat}
    {items : List Json}
    (kept : ∀ item ∈ items, keptWithin? limit item = some item) :
    itemsKeptWithin? limit items = some items := by
  induction items with
  | nil =>
      rfl
  | cons item items inductionHypothesis =>
      obtain ⟨itemKept, itemsKept⟩ := List.forall_mem_cons.mp kept
      rw [itemsKeptWithin?, itemKept, inductionHypothesis itemsKept]
      rfl

theorem membersKeptWithin?_eq
    {limit : Nat}
    {members : List (String × Json)}
    (kept : ∀ member ∈ members, keptWithin? limit member.2 = some member.2) :
    membersKeptWithin? limit members = some members := by
  induction members with
  | nil =>
      rfl
  | cons member members inductionHypothesis =>
      obtain ⟨name, value⟩ := member
      obtain ⟨valueKept, membersKept⟩ := List.forall_mem_cons.mp kept
      rw [membersKeptWithin?, valueKept, inductionHypothesis membersKept]
      rfl

theorem dedupItems_eq
    {items : List Json}
    (same : ∀ item ∈ items, item.dedup = item) :
    dedupItems items = items := by
  induction items with
  | nil =>
      rfl
  | cons item items inductionHypothesis =>
      obtain ⟨itemSame, itemsSame⟩ := List.forall_mem_cons.mp same
      rw [dedupItems, itemSame, inductionHypothesis itemsSame]

/-- Members of different names are added one after another to those before. -/
theorem dedupMembers_eq
    {members reduced : List (String × Json)}
    (names : ((reduced ++ members).map (·.1)).Nodup)
    (same : ∀ member ∈ members, member.2.dedup = member.2) :
    dedupMembers members reduced = reduced ++ members := by
  induction members generalizing reduced with
  | nil =>
      exact (List.append_nil reduced).symm
  | cons member members inductionHypothesis =>
      obtain ⟨name, value⟩ := member
      obtain ⟨valueSame, membersSame⟩ := List.forall_mem_cons.mp same
      simp only at valueSame
      have isNew : reduced.any (·.1 == name) = false := by
        rw [List.any_eq_false]
        intro other present sameName
        rw [List.map_append, List.nodup_append] at names
        refine names.2.2 other.1 (List.mem_map_of_mem present) name List.mem_cons_self ?_
        exact eq_of_beq sameName
      rw [List.append_cons] at names ⊢
      rw [dedupMembers, setMember, isNew, valueSame]
      exact inductionHypothesis names membersSame

theorem IsKept.keptWithin?_eq
    {nesting : Nat}
    {value : Json}
    (kept : value.IsKept nesting)
    {limit : Nat}
    (shallow : nesting < limit) :
    keptWithin? limit value = some value := by
  induction kept generalizing limit with
  | null | bool _ | int _ _ | string _ =>
      unfold keptWithin?
      rfl
  | array kept inductionHypothesis =>
      match limit, shallow with
      | limit + 2, shallow =>
          have itemsKept := fun item member =>
            @inductionHypothesis item member (limit + 1) (Nat.lt_of_succ_lt_succ shallow)
          change (itemsKeptWithin? (limit + 1) _).map _ = _
          rw [itemsKeptWithin?_eq itemsKept, Option.map_some]
  | object names kept inductionHypothesis =>
      match limit, shallow with
      | limit + 2, shallow =>
          have membersKept := fun member present =>
            @inductionHypothesis member present (limit + 1) (Nat.lt_of_succ_lt_succ shallow)
          change (membersKeptWithin? (limit + 1) _).map _ = _
          rw [membersKeptWithin?_eq membersKept, Option.map_some]

theorem IsKept.dedup_eq
    {nesting : Nat}
    {value : Json}
    (kept : value.IsKept nesting) :
    value.dedup = value := by
  induction kept with
  | null | bool _ | int _ _ | string _ =>
      rfl
  | array kept inductionHypothesis =>
      rw [dedup, dedupItems_eq inductionHypothesis]
  | object names kept inductionHypothesis =>
      rw [dedup, @dedupMembers_eq _ [] names inductionHypothesis, List.nil_append]

end Monitor8080.Json
