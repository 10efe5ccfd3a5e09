import Monitor8080.Location
namespace Monitor8080

/-!
# Breakpoints

Execution, read and write breakpoints are kept in three lists in the order in
which they were set. A countdown stops execution after a number of fetches.
While the breakpoints are muted nothing stops, and an excuse lets one fetch at
one address pass, so that execution can go on from a breakpoint.
-/

/-- What a breakpoint waits for. -/
inductive BreakKind where
  | exec
  | read
  | write
  deriving Repr, DecidableEq, Inhabited

namespace BreakKind

/-- The kinds in listing order. -/
def all : List BreakKind :=
  [.exec, .read, .write]

/-- The command that sets a breakpoint of the kind. -/
def tag : BreakKind → String
  | .exec => "bp"
  | .read => "br"
  | .write => "bw"

/-- The access that memory has to watch for the kind. -/
def access? : BreakKind → Option Access
  | .exec => none
  | .read => some .read
  | .write => some .write

/-- The kind that waits for an access. -/
def ofAccess : Access → BreakKind
  | .read => .read
  | .write => .write

end BreakKind

/-- A breakpoint that was reached, or the countdown that ran out. -/
inductive Hit where
  | countdown (address : UInt16)
  /-- `consumed` tells that a temporary entry went away, even if a permanent one is reported. -/
  | entry (kind : BreakKind) (location : Location) (consumed : Bool)
  deriving Repr, DecidableEq

/-- Why a breakpoint was not set. -/
inductive BreakpointError where
  | unset (location : Location)
  | duplicate (kind : BreakKind) (address : UInt16)
  deriving Repr, DecidableEq

/-- The breakpoints and what holds them back. -/
structure Breakpoints where
  exec : List Location
  read : List Location
  write : List Location
  countdown? : Option Nat
  muting : Nat
  excused? : Option UInt16
  deriving Repr, DecidableEq, Inhabited

namespace Breakpoints

def empty : Breakpoints :=
  ⟨[], [], [], none, 0, none⟩

/-- The entries of a kind, oldest first. -/
def entries (breakpoints : Breakpoints) : BreakKind → List Location
  | .exec => breakpoints.exec
  | .read => breakpoints.read
  | .write => breakpoints.write

def withEntries (breakpoints : Breakpoints) (kind : BreakKind)
    (locations : List Location) : Breakpoints :=
  match kind with
  | .exec => { breakpoints with exec := locations }
  | .read => { breakpoints with read := locations }
  | .write => { breakpoints with write := locations }

/-- Every entry with its kind, in listing order. -/
def listed (breakpoints : Breakpoints) : List (BreakKind × Location) :=
  BreakKind.all.flatMap fun kind => (breakpoints.entries kind).map (kind, ·)

/-- The first entry of a kind at an address. -/
def find? (breakpoints : Breakpoints) (kind : BreakKind) (address : UInt16) :
    Option Location :=
  (breakpoints.entries kind).find? fun entry => entry.address? = some address

def isEmpty (breakpoints : Breakpoints) : Bool :=
  breakpoints.exec.isEmpty && breakpoints.read.isEmpty && breakpoints.write.isEmpty

/-- Whether a fetch or an access can be stopped at all. -/
def isWaiting (breakpoints : Breakpoints) : Bool :=
  breakpoints.countdown?.isSome || !breakpoints.isEmpty

def isMuted (breakpoints : Breakpoints) : Bool :=
  0 < breakpoints.muting

/-! ## Setting and removing -/

/--
The breakpoints with one more entry. A second permanent entry at an address is
an error, and a second temporary one changes nothing.
-/
def add (breakpoints : Breakpoints) (kind : BreakKind) (location : Location) :
    Except BreakpointError Breakpoints :=
  match location.address? with
  | none => .error (.unset location)
  | some address =>
      -- A permanent and a temporary entry may stand at one address.
      let present := breakpoints.entries kind
      let isPresent :=
        present.any fun entry =>
          entry.address? = some address ∧ entry.isTemporary = location.isTemporary
      if isPresent then
        if location.isTemporary then .ok breakpoints else .error (.duplicate kind address)
      else
        .ok (breakpoints.withEntries kind (present ++ [location]))

/-- The entries of every kind that a test picks out, in listing order. -/
def picked (breakpoints : Breakpoints) (test : Location → Bool) :
    List (BreakKind × Location) :=
  breakpoints.listed.filter fun entry => test entry.2

/-- The breakpoints without the entries that a test picks out. -/
def without (breakpoints : Breakpoints) (test : Location → Bool) : Breakpoints :=
  { breakpoints with
    exec := breakpoints.exec.filter (!test ·)
    read := breakpoints.read.filter (!test ·)
    write := breakpoints.write.filter (!test ·) }

/-- Removes every entry that a test picks out, and tells which ones they were. -/
def removeWhere (breakpoints : Breakpoints) (test : Location → Bool) :
    List (BreakKind × Location) × Breakpoints :=
  (breakpoints.picked test, breakpoints.without test)

def remove (breakpoints : Breakpoints) (address : UInt16) :
    List (BreakKind × Location) × Breakpoints :=
  breakpoints.removeWhere fun entry => entry.address? = some address

def removeTemporary (breakpoints : Breakpoints) :
    List (BreakKind × Location) × Breakpoints :=
  breakpoints.removeWhere (·.isTemporary)

def clear (breakpoints : Breakpoints) : List (BreakKind × Location) × Breakpoints :=
  breakpoints.removeWhere fun _ => true

/-- The breakpoints with a countdown of some fetches; a count of zero disarms it. -/
def startCountdown (breakpoints : Breakpoints) (count : Nat) : Breakpoints :=
  { breakpoints with countdown? := if count = 0 then none else some count }

/-- The breakpoints muted once more. -/
def mute (breakpoints : Breakpoints) : Breakpoints :=
  { breakpoints with muting := breakpoints.muting + 1 }

/-- The breakpoints muted once less. -/
def unmute (breakpoints : Breakpoints) : Breakpoints :=
  { breakpoints with muting := breakpoints.muting - 1 }

/-- The breakpoints with the next fetch excused, if it is at an address. -/
def excuse (breakpoints : Breakpoints) (address : UInt16) : Breakpoints :=
  { breakpoints with excused? := some address }

/-! ## Hits -/

/-- Whether an entry lies in a range that may go around the end of the address space. -/
def isInRange (address : UInt16) (length : Nat) (entry : Location) : Bool :=
  match entry.address? with
  | some place => (place - address).toNat < max length 1
  | none => false

/--
Looks for an entry of a kind in a range. The oldest permanent one is reported,
else the oldest temporary one, and all temporary ones in the range go away.
-/
def hitWithin (breakpoints : Breakpoints) (kind : BreakKind) (address : UInt16)
    (length : Nat) : Option Hit × Breakpoints :=
  let present := breakpoints.entries kind
  let isReached := isInRange address length
  let permanent? := present.find? fun entry => isReached entry && !entry.isTemporary
  let temporary? := present.find? fun entry => isReached entry && entry.isTemporary
  let left := present.filter fun entry => !(isReached entry && entry.isTemporary)
  ((permanent? <|> temporary?).map fun location =>
      .entry kind location temporary?.isSome,
    breakpoints.withEntries kind left)

/-- The hit of an access to some addresses from one on. -/
def hitByAccess (breakpoints : Breakpoints) (kind : Access) (address : UInt16)
    (length : Nat) : Option Hit × Breakpoints :=
  if breakpoints.isMuted then
    (none, breakpoints)
  else
    breakpoints.hitWithin (.ofAccess kind) address length

/-- The hit of a fetch that no countdown forbids, unless the fetch is excused. -/
def hitByFetch (breakpoints : Breakpoints) (address : UInt16) : Option Hit × Breakpoints :=
  -- The excuse is used up by the next fetch, wherever that is.
  let unexcused := { breakpoints with excused? := none }
  if breakpoints.excused? = some address then
    (none, unexcused)
  else
    unexcused.hitWithin .exec address 1

/-- The hit of the fetch of an opcode, which also counts the countdown down. -/
def hitByExecution (breakpoints : Breakpoints) (address : UInt16) :
    Option Hit × Breakpoints :=
  if breakpoints.isMuted then
    (none, breakpoints)
  else
    match breakpoints.countdown? with
    -- The countdown comes before the entries: a fetch that they refuse is counted too.
    | some 0 => (some (.countdown address), { breakpoints with countdown? := none })
    | some (count + 1) =>
        hitByFetch { breakpoints with countdown? := some count } address
    | none => breakpoints.hitByFetch address

end Breakpoints

end Monitor8080
