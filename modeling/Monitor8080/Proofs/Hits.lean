import Mathlib.Tactic.ByContra
import Monitor8080.Sentry.Guarded
namespace Monitor8080

/-!
# Hits of breakpoints

A check of one address stops exactly if an entry of the kind is there, and it
names such an entry. A check that does not stop leaves all entries in place.
-/

namespace Breakpoints

/-- There is an entry of a kind at an address, permanent or temporary. -/
def HasEntry
    (breakpoints : Breakpoints)
    (kind : BreakKind)
    (address : UInt16) : Prop :=
  ∃ entry ∈ breakpoints.entries kind, entry.address? = some address

/-- A range of one address holds the entries at that address. -/
theorem isInRange_one
    (address : UInt16)
    (entry : Location) :
    isInRange address 1 entry = decide (entry.address? = some address) := by
  unfold isInRange
  cases found : entry.address? with
  | none =>
      simp
  | some place =>
      have distance : (place - address).toNat = 0 ↔ place = address := by
        rw [← UInt16.toNat_zero, UInt16.toNat_inj]
        exact UInt16.sub_eq_iff_eq_add.trans (by rw [UInt16.zero_add])
      simp [distance]

section Within

variable {breakpoints : Breakpoints} {kind : BreakKind} {address : UInt16}

@[simp] theorem entries_withEntries
    (breakpoints : Breakpoints)
    (kind : BreakKind)
    (locations : List Location) :
    (breakpoints.withEntries kind locations).entries kind = locations := by
  cases kind <;> rfl

theorem entries_withEntries_of_ne
    {other : BreakKind}
    (different : other ≠ kind)
    (locations : List Location) :
    (breakpoints.withEntries kind locations).entries other = breakpoints.entries other := by
  cases kind <;> cases other <;> first | rfl | exact absurd rfl different

@[simp] theorem withEntries_entries :
    breakpoints.withEntries kind (breakpoints.entries kind) = breakpoints := by
  cases kind <;> rfl

@[simp] theorem withEntries_muting (locations : List Location) :
    (breakpoints.withEntries kind locations).muting = breakpoints.muting := by
  cases kind <;> rfl

@[simp] theorem withEntries_excused? (locations : List Location) :
    (breakpoints.withEntries kind locations).excused? = breakpoints.excused? := by
  cases kind <;> rfl

@[simp] theorem entries_startCountdown (count : Nat) :
    (breakpoints.startCountdown count).entries kind = breakpoints.entries kind := by
  cases kind <;> rfl

@[simp] theorem entries_mute : breakpoints.mute.entries kind = breakpoints.entries kind := by
  cases kind <;> rfl

@[simp] theorem entries_unmute : breakpoints.unmute.entries kind = breakpoints.entries kind := by
  cases kind <;> rfl

@[simp] theorem entries_excuse :
    (breakpoints.excuse address).entries kind = breakpoints.entries kind := by
  cases kind <;> rfl

/-- Empty breakpoints have no entry of any kind. -/
theorem entries_of_isEmpty
    (empty : breakpoints.isEmpty)
    (kind : BreakKind) :
    breakpoints.entries kind = [] := by
  simp only [isEmpty, Bool.and_eq_true, List.isEmpty_iff] at empty
  obtain ⟨⟨noExec, noRead⟩, noWrite⟩ := empty
  cases kind with
  | exec =>
      exact noExec
  | read =>
      exact noRead
  | write =>
      exact noWrite

/-- Where there is an entry, something is waited for. -/
theorem isWaiting_of_hasEntry
    (occupied : breakpoints.HasEntry kind address) :
    breakpoints.isWaiting := by
  obtain ⟨entry, member, -⟩ := occupied
  have notEmpty : breakpoints.isEmpty = false := by
    rw [Bool.eq_false_iff]
    intro empty
    rw [entries_of_isEmpty empty kind] at member
    cases member
  simp [isWaiting, notEmpty]

/-- A check of one address finds nothing if no entry is there. -/
theorem hitWithin_of_not_hasEntry (free : ¬ breakpoints.HasEntry kind address) :
    breakpoints.hitWithin kind address 1 = (none, breakpoints) := by
  have notReached :
      ∀ entry ∈ breakpoints.entries kind, isInRange address 1 entry = false := by
    intro entry member
    rw [isInRange_one, decide_eq_false_iff_not]
    exact fun here => free ⟨entry, member, here⟩
  have noPermanent :
      (breakpoints.entries kind).find?
          (fun entry => isInRange address 1 entry && !entry.isTemporary) = none := by
    rw [List.find?_eq_none]
    intro entry member
    simp [notReached entry member]
  have noTemporary :
      (breakpoints.entries kind).find?
          (fun entry => isInRange address 1 entry && entry.isTemporary) = none := by
    rw [List.find?_eq_none]
    intro entry member
    simp [notReached entry member]
  have allLeft :
      (breakpoints.entries kind).filter
          (fun entry => !(isInRange address 1 entry && entry.isTemporary)) =
        breakpoints.entries kind := by
    rw [List.filter_eq_self]
    intro entry member
    simp [notReached entry member]
  simp only [hitWithin, noPermanent, noTemporary, allLeft, withEntries_entries]
  rfl

/-- An entry that a search in a range of one address finds is there, and at the address. -/
private theorem of_find?_isInRange
    {entries : List Location}
    {test : Location → Bool}
    {location : Location}
    (found :
      entries.find? (fun entry => isInRange address 1 entry && test entry) = some location) :
    location ∈ entries ∧ location.address? = some address := by
  have inRange := List.find?_some found
  rw [Bool.and_eq_true, isInRange_one, decide_eq_true_iff] at inRange
  exact ⟨List.mem_of_find?_eq_some found, inRange.1⟩

/-- A check of one address names an entry that is there. -/
theorem hitWithin_of_hasEntry (occupied : breakpoints.HasEntry kind address) :
    ∃ location consumed,
      (breakpoints.hitWithin kind address 1).1 = some (.entry kind location consumed) ∧
        location ∈ breakpoints.entries kind ∧
        location.address? = some address := by
  obtain ⟨entry, member, here⟩ := occupied
  have reached : isInRange address 1 entry = true := by
    rw [isInRange_one, decide_eq_true_iff]
    exact here
  let permanent? :=
    (breakpoints.entries kind).find?
      fun entry => isInRange address 1 entry && !entry.isTemporary
  let temporary? :=
    (breakpoints.entries kind).find?
      fun entry => isInRange address 1 entry && entry.isTemporary
  have named :
      (breakpoints.hitWithin kind address 1).1 =
        (permanent? <|> temporary?).map fun location =>
          .entry kind location temporary?.isSome := rfl
  cases permanent : permanent? with
  | some location =>
      refine ⟨location, temporary?.isSome, ?_, of_find?_isInRange permanent⟩
      rw [named, permanent]
      rfl
  | none =>
      have isTemporary : entry.isTemporary = true := by
        have notPermanent := List.find?_eq_none.mp permanent entry member
        simpa [reached] using notPermanent
      have foundOne : temporary?.isSome := by
        rw [List.find?_isSome]
        exact ⟨entry, member, by simp [reached, isTemporary]⟩
      obtain ⟨location, temporary⟩ := Option.isSome_iff_exists.mp foundOne
      refine ⟨location, true, ?_, of_find?_isInRange temporary⟩
      rw [named, permanent, temporary]
      rfl

/-- A temporary entry that a check names has gone away. -/
theorem not_mem_of_hitWithin
    {length : Nat}
    {named : BreakKind}
    {location : Location}
    {consumed : Bool}
    (hit :
      (breakpoints.hitWithin kind address length).1 = some (.entry named location consumed))
    (isTemporary : location.isTemporary) :
    location ∉ (breakpoints.hitWithin kind address length).2.entries named := by
  unfold hitWithin at hit
  simp only [Option.map_eq_some_iff, Option.orElse_eq_orElse, Option.orElse_eq_or] at hit
  obtain ⟨found, chosen, same⟩ := hit
  cases same
  have reached : isInRange address length location := by
    rcases Option.or_eq_some_iff.mp chosen with permanent | ⟨-, temporary⟩
    · have both := List.find?_some permanent
      exact (Bool.and_eq_true_iff.mp both).1
    · have both := List.find?_some temporary
      exact (Bool.and_eq_true_iff.mp both).1
  simp only [hitWithin, entries_withEntries, List.mem_filter, not_and]
  intro member
  simp [reached, isTemporary]

/-- A check of one address stops exactly if an entry is there. -/
theorem hitWithin_isSome_iff :
    (breakpoints.hitWithin kind address 1).1.isSome ↔ breakpoints.HasEntry kind address := by
  constructor
  · intro stopped
    by_contra free
    rw [hitWithin_of_not_hasEntry free] at stopped
    simp at stopped
  · intro occupied
    obtain ⟨location, consumed, hit, -⟩ := hitWithin_of_hasEntry occupied
    rw [hit]
    rfl

/-- A check takes entries of its kind away at most, and leaves the others. -/
theorem entries_hitWithin_sublist (length : Nat) (other : BreakKind) :
    ((breakpoints.hitWithin kind address length).2.entries other).Sublist
      (breakpoints.entries other) := by
  by_cases same : other = kind
  · subst other
    simp only [hitWithin, entries_withEntries]
    exact List.filter_sublist
  · simp only [hitWithin, entries_withEntries_of_ne same]
    exact List.Sublist.refl _

end Within

/-! ## Accesses -/

/-- Breakpoints with the entries that wait for accesses left out. -/
def forFetches (breakpoints : Breakpoints) : Breakpoints :=
  { breakpoints with read := [], write := [] }

/-- A check of an access leaves alone what is checked when an opcode is fetched. -/
theorem forFetches_hitByAccess
    (breakpoints : Breakpoints)
    (kind : Access)
    (address : UInt16)
    (length : Nat) :
    (breakpoints.hitByAccess kind address length).2.forFetches = breakpoints.forFetches := by
  unfold hitByAccess
  split
  · rfl
  · cases kind <;> rfl

/-- A check of an access takes entries away at most. -/
theorem entries_hitByAccess_sublist
    (breakpoints : Breakpoints)
    (kind : Access)
    (address : UInt16)
    (length : Nat)
    (other : BreakKind) :
    ((breakpoints.hitByAccess kind address length).2.entries other).Sublist
      (breakpoints.entries other) := by
  unfold hitByAccess
  split
  · exact List.Sublist.refl _
  · exact entries_hitWithin_sublist length other

/-! ## Fetches -/

/-- The breakpoints after a fetch was counted and the excuse used up. -/
def counted (breakpoints : Breakpoints) : Breakpoints :=
  { breakpoints with
    countdown? := breakpoints.countdown?.map (· - 1)
    excused? := none }

section Fetch

variable {breakpoints : Breakpoints} {address : UInt16}

@[simp] theorem entries_counted (kind : BreakKind) :
    breakpoints.counted.entries kind = breakpoints.entries kind := by
  cases kind <;> rfl

/-- Muted breakpoints let every fetch pass and stay as they are. -/
theorem hitByExecution_of_isMuted (muted : breakpoints.isMuted) :
    breakpoints.hitByExecution address = (none, breakpoints) := by
  simp only [hitByExecution, muted, ↓reduceIte]

/-- A countdown at zero stops the fetch, and is disarmed. -/
theorem hitByExecution_of_expired
    (audible : breakpoints.isMuted = false)
    (expired : breakpoints.countdown? = some 0) :
    breakpoints.hitByExecution address =
      (some (.countdown address), { breakpoints with countdown? := none }) := by
  simp only [hitByExecution, audible, expired, Bool.false_eq_true, ↓reduceIte]

/-- A fetch that is not muted and no countdown stops is counted, and checked unless it is excused. -/
theorem hitByExecution_of_running
    (audible : breakpoints.isMuted = false)
    (running : breakpoints.countdown? ≠ some 0) :
    breakpoints.hitByExecution address =
      if breakpoints.excused? = some address then (none, breakpoints.counted)
      else breakpoints.counted.hitWithin .exec address 1 := by
  obtain ⟨exec, read, write, countdown?, muting, excused?⟩ := breakpoints
  simp only [hitByExecution, audible, Bool.false_eq_true, ↓reduceIte]
  cases countdown? with
  | none =>
      rfl
  | some count =>
      cases count with
      | zero =>
          exact absurd rfl running
      | succ count =>
          rfl

/-- The check of a fetch takes entries away at most. -/
theorem entries_hitByExecution_sublist (other : BreakKind) :
    ((breakpoints.hitByExecution address).2.entries other).Sublist
      (breakpoints.entries other) := by
  by_cases muted : breakpoints.isMuted
  · simp only [hitByExecution_of_isMuted muted, List.Sublist.refl]
  · rw [Bool.not_eq_true] at muted
    by_cases expired : breakpoints.countdown? = some 0
    · rw [hitByExecution_of_expired muted expired]
      cases other <;> exact List.Sublist.refl _
    · rw [hitByExecution_of_running muted expired]
      rw [← entries_counted other]
      split
      · exact List.Sublist.refl _
      · exact entries_hitWithin_sublist 1 other

/-- The check of a fetch leaves the entries that wait for accesses alone. -/
theorem entries_hitByExecution_ofAccess (kind : Access) :
    (breakpoints.hitByExecution address).2.entries (.ofAccess kind) =
      breakpoints.entries (.ofAccess kind) := by
  have different : BreakKind.ofAccess kind ≠ .exec := by
    cases kind <;> exact nofun
  by_cases muted : breakpoints.isMuted
  · rw [hitByExecution_of_isMuted muted]
  · rw [Bool.not_eq_true] at muted
    by_cases expired : breakpoints.countdown? = some 0
    · rw [hitByExecution_of_expired muted expired]
      cases kind <;> rfl
    · rw [hitByExecution_of_running muted expired]
      split
      · exact entries_counted _
      · rw [hitWithin, entries_withEntries_of_ne different, entries_counted]

/-- The check of a fetch neither mutes the breakpoints nor ends their muting. -/
@[simp] theorem hitByExecution_muting :
    (breakpoints.hitByExecution address).2.muting = breakpoints.muting := by
  by_cases muted : breakpoints.isMuted
  · rw [hitByExecution_of_isMuted muted]
  · rw [Bool.not_eq_true] at muted
    by_cases expired : breakpoints.countdown? = some 0
    · rw [hitByExecution_of_expired muted expired]
    · rw [hitByExecution_of_running muted expired]
      split
      · rfl
      · exact withEntries_muting _

/-- A fetch is stopped by the countdown, or by an execution breakpoint at its address. -/
theorem hitByExecution_names
    {hit : Hit}
    (stopped : (breakpoints.hitByExecution address).1 = some hit) :
    hit = .countdown address ∨
      ∃ location consumed,
        hit = .entry .exec location consumed ∧
          location ∈ breakpoints.exec ∧
          location.address? = some address := by
  by_cases muted : breakpoints.isMuted
  · simp [hitByExecution_of_isMuted muted] at stopped
  · rw [Bool.not_eq_true] at muted
    by_cases expired : breakpoints.countdown? = some 0
    · rw [hitByExecution_of_expired muted expired] at stopped
      cases stopped
      exact .inl rfl
    · rw [hitByExecution_of_running muted expired] at stopped
      split at stopped
      · cases stopped
      · right
        have occupied : breakpoints.counted.HasEntry .exec address :=
          hitWithin_isSome_iff.mp (by rw [stopped]; rfl)
        obtain ⟨location, consumed, named, member, here⟩ := hitWithin_of_hasEntry occupied
        rw [stopped] at named
        exact ⟨location, consumed, Option.some.inj named, member, here⟩

end Fetch

end Breakpoints

end Monitor8080
