import Monitor8080.Pattern.Reader
namespace Monitor8080.Pattern

/-!
# Valid patterns

A pattern that can be read is valid if it nests at most 250 deep, names no
group twice, uses only properties that exist, can match nothing but whole
characters, and takes no more room than ten megabytes when it is prepared for
matching. `isPattern` decides whether a text is a valid pattern.
-/

/-! ## Nesting -/

/-- How deep patterns may nest. -/
def depthLimit : Nat := 250

mutual

def CharSet.depth : CharSet → Nat
  | .char _ | .range _ _ | .named _ _ | .union [] => 0
  | .union items => 1 + CharSet.depthOfAll items
  | .bracketed _ body => 1 + body.depth
  | .combined _ left right => 1 + max left.depth right.depth

def CharSet.depthOfAll : List CharSet → Nat
  | [] => 0
  | item :: items => max item.depth (CharSet.depthOfAll items)

end

mutual

def depth : Pattern → Nat
  | .literal _ _ | .dot | .assertion | .flags _ | .sequence [] => 0
  | .oneOf set => set.depth
  | .repetition _ _ body => 1 + depth body
  | .group _ _ body => 1 + depth body
  | .sequence items => 1 + depthOfAll items
  | .choice branches => 1 + depthOfAll branches

def depthOfAll : List Pattern → Nat
  | [] => 0
  | item :: items => max (depth item) (depthOfAll items)

end

/-! ## Names of groups -/

mutual

/-- The names of the groups in a pattern. -/
def names : Pattern → List String
  | .literal _ _ | .dot | .assertion | .flags _ | .oneOf _ => []
  | .repetition _ _ body => names body
  | .group name? _ body => name?.toList ++ names body
  | .sequence items => namesInAll items
  | .choice branches => namesInAll branches

/-- The names of the groups in some patterns. -/
def namesInAll : List Pattern → List String
  | [] => []
  | item :: items => names item ++ namesInAll items

end

/-! ## Characters and bytes -/

mutual

/-- Whether every property that a set names exists. -/
def CharSet.isKnown : CharSet → Bool
  | .named (.property name) _ => name.isKnown
  | .char _ | .range _ _ | .named _ _ => true
  | .union items => CharSet.areKnown items
  | .bracketed _ body => body.isKnown
  | .combined _ left right => left.isKnown && right.isKnown

/-- Whether every property that some sets name exists. -/
def CharSet.areKnown : List CharSet → Bool
  | [] => true
  | item :: items => item.isKnown && CharSet.areKnown items

end

mutual

/--
Whether a set of bytes holds those that are no characters of their own. It has
a meaning only if it names no property and no such byte, and if no brackets
come out as a set with such bytes.
-/
def CharSet.holdsHighBytes? : CharSet → Option Bool
  | .char c => if c.toNat < 0x80 then some false else none
  | .range first last => if first.toNat < 0x80 ∧ last.toNat < 0x80 then some false else none
  | .named (.property _) _ => none
  | .named .ascii isNegated => some isNegated
  | .named _ isNegated => if isNegated then none else some false
  | .union items => CharSet.anyHoldsHighBytes? items
  | .bracketed isNegated body => do
      if (← body.holdsHighBytes?) = isNegated then return false else none
  | .combined operation left right => do
      let left ← left.holdsHighBytes?
      let right ← right.holdsHighBytes?
      return match operation with
        | .intersection => left && right
        | .difference => left && !right
        | .symmetricDifference => left != right

/-- Whether any of some sets of bytes holds those that are no characters of their own. -/
def CharSet.anyHoldsHighBytes? : List CharSet → Option Bool
  | [] => some false
  | item :: items => do
      let first ← item.holdsHighBytes?
      let others ← CharSet.anyHoldsHighBytes? items
      return first || others

end

/-- Whether a set means characters only. -/
def CharSet.isSound (isUnicode : Bool) (set : CharSet) : Bool :=
  if isUnicode then set.isKnown else set.holdsHighBytes? == some false

mutual

/--
Whether characters are those of Unicode after a pattern, given whether they
are before it; `none` if the pattern means something else than characters.
-/
def modeAfter? : (isUnicode : Bool) → Pattern → Option Bool
  | isUnicode, .literal c isByte =>
      if isUnicode || !isByte || c.toNat < 0x80 then some isUnicode else none
  | isUnicode, .dot => if isUnicode then some isUnicode else none
  | isUnicode, .assertion => some isUnicode
  | isUnicode, .oneOf set => if set.isSound isUnicode then some isUnicode else none
  | isUnicode, .flags change => some (change.isUnicode?.getD isUnicode)
  | isUnicode, .repetition _ _ body => modeAfter? isUnicode body
  | isUnicode, .group _ change body => do
      let _ ← modeAfter? (change.isUnicode?.getD isUnicode) body
      return isUnicode
  | isUnicode, .sequence items => modeAfterAll? isUnicode items
  | isUnicode, .choice branches => modeAfterAll? isUnicode branches

/-- Whether characters are those of Unicode after some patterns. -/
def modeAfterAll? : (isUnicode : Bool) → List Pattern → Option Bool
  | isUnicode, [] => some isUnicode
  | isUnicode, item :: items => do modeAfterAll? (← modeAfter? isUnicode item) items

end

/-! ## Room -/

/--
The bytes that a pattern takes when it is prepared for matching, which is done
once for reading a text forward and once for reading it backward.
-/
structure Room where
  forward : Nat
  backward : Nat
  deriving Repr, DecidableEq

namespace Room

/-- How many bytes there are for either direction. -/
def limit : Nat := 10 * 1024 * 1024

/-- The same room in both directions. -/
def both (bytes : Nat) : Room :=
  ⟨bytes, bytes⟩

instance : Add Room :=
  ⟨fun left right => ⟨left.forward + right.forward, left.backward + right.backward⟩⟩

/-- The room for so many copies. -/
def times (count : Nat) (room : Room) : Room :=
  ⟨count * room.forward, count * room.backward⟩

/-- Whether there is as much room. -/
def fits (room : Room) : Bool :=
  room.forward ≤ limit && room.backward ≤ limit

def state : Room :=
  both 32

/-- The room for a state that branches. -/
def branch : Room :=
  both 40

/-- The room for any character but a few. -/
def anyChar : Room :=
  ⟨424, 1000⟩

end Room

/-- Categories and properties whose characters lie in hundreds of runs. -/
def scatteredNames : List String :=
  ["l", "letter", "lo", "otherletter", "lc", "casedletter", "lu", "uppercaseletter", "ll",
    "lowercaseletter", "cn", "unassigned", "assigned", "alpha", "alphabetic", "idc", "idcontinue",
    "ids", "idstart", "xidc", "xidcontinue", "xids", "xidstart", "upper", "uppercase", "lower",
    "lowercase", "ci", "caseignorable", "grbase", "graphemebase", "cwl", "changeswhenlowercased",
    "cwu", "changeswhenuppercased", "cwt", "changeswhentitlecased", "cwcf",
    "changeswhencasefolded"]

/-- The room that a named set takes, estimated by how many runs its characters lie in. -/
def NamedSet.room : NamedSet → Room
  | .digit => ⟨1408, 4640⟩
  | .blank => ⟨424, 680⟩
  | .word => ⟨19872, 48148⟩
  | .ascii => Room.both 16
  | .property name =>
      let value := PropertyName.normal (name.value?.getD name.name)
      if scatteredNames.contains value then ⟨14000, 36000⟩ else ⟨2000, 4000⟩

mutual

/-- The room that a set takes beside the states at its ends. -/
def CharSet.room : CharSet → Room
  | .char c => if c.toNat < 0x80 then Room.both 8 else ⟨80, 68⟩
  | .range first last =>
      if first.toNat < 0x80 ∧ last.toNat < 0x80 then Room.both 8 else ⟨160, 200⟩
  | .named set _ => set.room
  | .union items => CharSet.roomForAll items
  | .bracketed isNegated body =>
      if isNegated then Room.anyChar + body.room else body.room
  | .combined _ left right => left.room + right.room

/-- The room that some sets take together. -/
def CharSet.roomForAll : List CharSet → Room
  | [] => Room.both 0
  | item :: items => item.room + CharSet.roomForAll items

end

mutual

/-- Whether a pattern matches nothing but places between characters. -/
def isPlace : Pattern → Bool
  | .literal _ _ | .dot | .oneOf _ => false
  | .assertion | .flags _ => true
  | .repetition _ most? body => most? == some 0 || isPlace body
  | .group _ _ body => isPlace body
  | .sequence items => arePlaces items
  | .choice branches => arePlaces branches

/-- Whether all of some patterns match nothing but places between characters. -/
def arePlaces : List Pattern → Bool
  | [] => true
  | item :: items => isPlace item && arePlaces items

end

/-- The room for a body that is repeated; a place is not repeated more than once. -/
def repeatedRoom (least : Nat) (most? : Option Nat) (isPlace : Bool) (body : Room) : Room :=
  if isPlace then
    body + Room.branch
  else
    match most? with
    | some most =>
        body.times least + (body + Room.branch).times (most - least) + Room.state
    | none => body.times (max least 1) + Room.branch

mutual

/-- The room that a pattern takes; only groups read forward are told apart from what they hold. -/
def room : Pattern → Room
  | .literal c _ => Room.state.times c.utf8Size
  | .dot => Room.anyChar
  | .assertion | .flags _ => Room.state
  | .oneOf set => Room.state + Room.state + set.room
  | .repetition least most? body => repeatedRoom least most? (isPlace body) (room body)
  | .group _ _ body => ⟨64, 0⟩ + room body
  | .sequence items => roomForAll items
  | .choice branches => Room.state + Room.branch + roomForAll branches

/-- The room that some patterns take together. -/
def roomForAll : List Pattern → Room
  | [] => Room.both 0
  | item :: items => room item + roomForAll items

end

/-! ## Validity -/

def isValid (pattern : Pattern) : Bool :=
  depth pattern ≤ depthLimit
    && (names pattern).Nodup
    && (modeAfter? true pattern).isSome
    && (room pattern).fits

/-- Whether a text is a valid pattern. -/
def isPattern (text : String) : Bool :=
  match read? text with
  | some pattern => pattern.isValid
  | none => false

end Monitor8080.Pattern
