import Monitor8080.Proofs.EntryLedger
namespace Monitor8080

/-!
# Hits in ranges of addresses

An access is checked against all entries of its kind at once: those in a range
of addresses that may go around the end of the address space. The answer and
what is left of the entries are told here by the addresses of the range and by
the order in which the entries were stored, which is read off the ledger.
-/

/-- A location is at one of some addresses from one on, and the range has at least one. -/
def Location.LiesWithin (location : Location) (address : UInt16) (length : Nat) : Prop :=
  ∃ distance < max length 1, location.address? = some (address + UInt16.ofNat distance)

namespace Breakpoints

/-- The distance test finds the locations in the range, also behind the last address. -/
theorem isInRange_iff
    {address : UInt16}
    {length : Nat}
    {location : Location} :
    isInRange address length location = true ↔ location.LiesWithin address length := by
  unfold isInRange Location.LiesWithin
  cases location.address? with
  | none =>
      simp
  | some place =>
      simp only [decide_eq_true_eq, Option.some.injEq]
      constructor
      · intro near
        refine ⟨(place - address).toNat, near, ?_⟩
        rw [UInt16.ofNat_toNat, UInt16.add_comm, UInt16.sub_add_cancel]
      · rintro ⟨distance, near, rfl⟩
        rw [UInt16.add_comm, UInt16.add_sub_cancel, UInt16.toNat_ofNat']
        exact lt_of_le_of_lt (Nat.mod_le _ _) near

instance (location : Location) (address : UInt16) (length : Nat) :
    Decidable (location.LiesWithin address length) :=
  decidable_of_iff _ isInRange_iff

theorem isInRange_eq_decide (address : UInt16) (length : Nat) (location : Location) :
    isInRange address length location = decide (location.LiesWithin address length) := by
  rw [← Bool.coe_iff_coe, isInRange_iff, decide_eq_true_iff]

/-! ## The oldest entry -/

/-- A line is the first to be stored among those of a kind that are listed and pass a test. -/
structure Line.IsOldest
    (line : Line)
    (ledger : List Line)
    (kind : BreakKind)
    (test : Location → Prop) : Prop where
  member : line ∈ ledger
  listed : line.locationAs? kind .listed = some line.location
  passes : test line.location
  oldest :
    ∀ other ∈ ledger, other.locationAs? kind .listed = some other.location →
      test other.location → line.storedBy ≤ other.storedBy

/-- A line that is listed under some location is listed under its own. -/
theorem Line.eq_of_locationAs?
    {line : Line}
    {kind : BreakKind}
    {fate : Fate}
    {location : Location}
    (found : line.locationAs? kind fate = some location) :
    line.location = location := by
  unfold locationAs? at found
  split at found
  · exact Option.some.inj found
  · cases found

/-- A search in the entries of a kind stops at the one that was stored first. -/
theorem exists_isOldest
    {calls : List Call}
    {ledger : List Line}
    (accounts : Accounts calls ledger)
    {kind : BreakKind}
    {test : Location → Prop}
    [DecidablePred test]
    {location : Location}
    (found :
      ((empty.afterCalls calls).entries kind).find? (fun entry => test entry) = some location) :
    ∃ line : Line, line.IsOldest ledger kind test ∧ line.location = location := by
  rw [accounts.listed, entriesWith, List.find?_filterMap, Option.bind_eq_some_iff] at found
  obtain ⟨line, first, named⟩ := found
  have same := line.eq_of_locationAs? named
  obtain ⟨passed, before, after, split, failed⟩ := List.find?_eq_some_iff_append.mp first
  have inOrder := accounts.inOrder
  rw [split] at inOrder
  refine ⟨line, ⟨?_, same ▸ named, ?_, ?_⟩, same⟩
  · rw [split]
    exact List.mem_append_right _ List.mem_cons_self
  · simpa [named, same] using passed
  · intro other member listed passes
    rw [split] at member
    rcases List.mem_append.mp member with earlier | later
    · have rejected := failed other earlier
      simp [listed, passes] at rejected
    · rcases List.mem_cons.mp later with isLine | behind
      · rw [isLine]
      · have following := (List.pairwise_append.mp inOrder).2.1
        exact Nat.le_of_lt ((List.pairwise_cons.mp following).1 other behind)

/-! ## What an access finds -/

section Access

variable
  (calls : List Call)
  (ledger : List Line)
  (access : Access)
  (address : UInt16)
  (length : Nat)

/-- Some entry of the kind that waits for an access is in the range, permanent or temporary. -/
def Reaches (breakpoints : Breakpoints) (isTemporary : Bool) : Prop :=
  ∃ entry ∈ breakpoints.entries (.ofAccess access),
    entry.LiesWithin address length ∧ entry.isTemporary = isTemporary

/-- A line is the first to be stored of the permanent or of the temporary entries in the range. -/
def Line.IsFirstReached (isTemporary : Bool) (line : Line) : Prop :=
  line.IsOldest ledger (.ofAccess access) fun entry =>
    entry.LiesWithin address length ∧ entry.isTemporary = isTemporary

/-- What the check of an access to a range answers, and what it leaves. -/
structure ChecksRange
    (before : Breakpoints)
    (hit? : Option Hit)
    (after : Breakpoints) : Prop where
  stops :
    hit?.isSome ↔ ∃ entry ∈ before.entries (.ofAccess access), entry.LiesWithin address length
  /-- The oldest permanent entry is reported, and the oldest temporary one if there is none. -/
  reports :
    ∀ hit, hit? = some hit →
      ∃ (line : Line) (consumed : Bool),
        hit = .entry (.ofAccess access) line.location consumed ∧
          (line.IsFirstReached ledger access address length false ∨
            ¬ before.Reaches access address length false ∧
              line.IsFirstReached ledger access address length true) ∧
          (consumed = true ↔ before.Reaches access address length true)
  leaves :
    after.entries (.ofAccess access) =
      (before.entries (.ofAccess access)).filter fun entry =>
        ¬ (entry.LiesWithin address length ∧ entry.isTemporary = true)
  others : ∀ kind, kind ≠ .ofAccess access → after.entries kind = before.entries kind
  countdown : after.countdown? = before.countdown?
  muting : after.muting = before.muting
  excuse : after.excused? = before.excused?

end Access

/-- The entry that a check finds in a range among the permanent or the temporary ones. -/
def firstReached?
    (breakpoints : Breakpoints)
    (kind : BreakKind)
    (address : UInt16)
    (length : Nat)
    (isTemporary : Bool) : Option Location :=
  (breakpoints.entries kind).find? fun entry =>
    entry.LiesWithin address length ∧ entry.isTemporary = isTemporary

/-- A check of a range told by the addresses in it, and not by the distances to its start. -/
theorem hitWithin_eq
    (breakpoints : Breakpoints)
    (kind : BreakKind)
    (address : UInt16)
    (length : Nat) :
    breakpoints.hitWithin kind address length =
      (((breakpoints.firstReached? kind address length false).or
          (breakpoints.firstReached? kind address length true)).map fun location =>
            .entry kind location (breakpoints.firstReached? kind address length true).isSome,
        breakpoints.withEntries kind
          ((breakpoints.entries kind).filter fun entry =>
            ¬ (entry.LiesWithin address length ∧ entry.isTemporary = true))) := by
  simp [hitWithin, firstReached?, isInRange_eq_decide, Option.orElse_eq_or]

section Check

variable
  {breakpoints : Breakpoints}
  {access : Access}
  {address : UInt16}
  {length : Nat}
  {isTemporary : Bool}

theorem firstReached?_isSome :
    (breakpoints.firstReached? (.ofAccess access) address length isTemporary).isSome ↔
      breakpoints.Reaches access address length isTemporary := by
  simp [firstReached?, Reaches]

/-- An entry in the range is a permanent or a temporary one. -/
theorem reaches_or_reaches :
    breakpoints.Reaches access address length false ∨
        breakpoints.Reaches access address length true ↔
      ∃ entry ∈ breakpoints.entries (.ofAccess access), entry.LiesWithin address length := by
  constructor
  · rintro (⟨entry, member, within, -⟩ | ⟨entry, member, within, -⟩)
    · exact ⟨entry, member, within⟩
    · exact ⟨entry, member, within⟩
  · rintro ⟨entry, member, within⟩
    cases kept : entry.isTemporary with
    | false =>
        exact .inl ⟨entry, member, within, kept⟩
    | true =>
        exact .inr ⟨entry, member, within, kept⟩

end Check

/-- A check of the range of an access reports what was stored first and leaves all it should. -/
theorem Accounts.checksRange_hitWithin
    {calls : List Call}
    {ledger : List Line}
    (accounts : Accounts calls ledger)
    (access : Access)
    (address : UInt16)
    (length : Nat) :
    ChecksRange ledger access address length (empty.afterCalls calls)
      ((empty.afterCalls calls).hitWithin (.ofAccess access) address length).1
      ((empty.afterCalls calls).hitWithin (.ofAccess access) address length).2 := by
  rw [hitWithin_eq]
  constructor
  case stops =>
    rw [Option.isSome_map, Option.isSome_or, Bool.or_eq_true, firstReached?_isSome,
      firstReached?_isSome]
    exact reaches_or_reaches
  case reports =>
    intro hit found
    obtain ⟨location, chosen, rfl⟩ := Option.map_eq_some_iff.mp found
    rcases Option.or_eq_some_iff.mp chosen with permanent | ⟨noPermanent, temporary⟩
    · obtain ⟨line, isFirst, rfl⟩ := exists_isOldest accounts permanent
      exact ⟨line, _, rfl, .inl isFirst, firstReached?_isSome⟩
    · obtain ⟨line, isFirst, rfl⟩ := exists_isOldest accounts temporary
      refine ⟨line, _, rfl, .inr ⟨?_, isFirst⟩, firstReached?_isSome⟩
      rw [← firstReached?_isSome, noPermanent]
      exact Bool.false_ne_true
  case leaves =>
    exact entries_withEntries ..
  case others =>
    exact fun kind different => entries_withEntries_of_ne different _
  case countdown =>
    cases access <;> rfl
  case muting =>
    exact withEntries_muting _
  case excuse =>
    exact withEntries_excused? _

/--
Whatever was asked of the breakpoints before, a check of an access that is not
muted stops exactly if an entry of the access is in the range. It reports the
permanent entry in the range that was stored first, or else the temporary one
that was. The temporary entries in the range go away, and nothing else changes.
-/
theorem access_checks_are_exact
    (calls : List Call)
    (audible : (empty.afterCalls calls).isMuted = false) :
    ∃ ledger,
      Accounts calls ledger ∧
        ∀ access address length,
          ChecksRange ledger access address length (empty.afterCalls calls)
            ((empty.afterCalls calls).hitByAccess access address length).1
            ((empty.afterCalls calls).hitByAccess access address length).2 := by
  obtain ⟨ledger, accounts⟩ := exists_accounts calls
  refine ⟨ledger, accounts, fun access address length => ?_⟩
  simp only [hitByAccess, audible, Bool.false_eq_true, ↓reduceIte]
  exact accounts.checksRange_hitWithin access address length

/-- Calls that leave a temporary entry before a permanent one on each side of the last address. -/
def callsAroundEnd : List Call :=
  [.add .read (.temporary 0xFFFF), .add .read (.ofAddress 1), .add .read (.temporary 0),
    .add .read (.ofAddress 0xFFFE), .add .write (.ofAddress 0), .excuse 5, .startCountdown 3]

/--
A read of four bytes that goes around the end of the address space is told of
the permanent entry that was stored first, and takes both temporary ones away.
-/
theorem access_checks_are_exact_around_end :
    (empty.afterCalls callsAroundEnd).isMuted = false ∧
      (empty.afterCalls callsAroundEnd).hitByAccess .read 0xFFFE 4 =
        (some (.entry .read (.ofAddress 1) true),
          { (empty.afterCalls callsAroundEnd) with
            read := [.ofAddress 1, .ofAddress 0xFFFE] }) ∧
      ∃ ledger,
        Accounts callsAroundEnd ledger ∧
          ∀ access address length,
            ChecksRange ledger access address length (empty.afterCalls callsAroundEnd)
              ((empty.afterCalls callsAroundEnd).hitByAccess access address length).1
              ((empty.afterCalls callsAroundEnd).hitByAccess access address length).2 :=
  ⟨by decide, by decide, access_checks_are_exact callsAroundEnd (by decide)⟩

end Breakpoints
end Monitor8080
