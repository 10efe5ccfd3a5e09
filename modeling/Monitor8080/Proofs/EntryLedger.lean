import Mathlib.Data.List.Infix
import Mathlib.Data.List.Nodup
import Monitor8080.Proofs.Placement
namespace Monitor8080

/-!
# Where entries go

Whatever is asked of breakpoints in whatever order, each entry that was stored
is listed still, or one call took it away: a removal that returned it, or a
check that a temporary entry was reached by. A ledger has a line for each
stored entry and is kept call by call.
-/

/-- What tells an entry from the others of its kind. -/
def Location.slot (location : Location) : Option UInt16 × Bool :=
  (location.address?, location.isTemporary)

namespace Breakpoints

/-! ## Calls -/

/-- What can be asked of breakpoints. -/
inductive Call where
  | add (kind : BreakKind) (location : Location)
  | remove (address : UInt16)
  | clear
  | removeTemporary
  | checkExecution (address : UInt16)
  | checkAccess (access : Access) (address : UInt16) (length : Nat)
  | startCountdown (count : Nat)
  | mute
  | unmute
  | excuse (address : UInt16)

/-- What breakpoints answer. -/
inductive Reply where
  | done
  | refused (error : BreakpointError)
  | returned (entries : List (BreakKind × Location))
  | checked (hit? : Option Hit)

/-- The entries that an answer hands over. -/
def Reply.entries : Reply → List (BreakKind × Location)
  | .returned entries => entries
  | _ => []

/-- The answer to a call, and the breakpoints after it. -/
def answer (breakpoints : Breakpoints) : Call → Reply × Breakpoints
  | .add kind location =>
      match breakpoints.add kind location with
      | .error error => (.refused error, breakpoints)
      | .ok added => (.done, added)
  | .remove address => Prod.map .returned id (breakpoints.remove address)
  | .clear => Prod.map .returned id breakpoints.clear
  | .removeTemporary => Prod.map .returned id breakpoints.removeTemporary
  | .checkExecution address => Prod.map .checked id (breakpoints.hitByExecution address)
  | .checkAccess access address length =>
      Prod.map .checked id (breakpoints.hitByAccess access address length)
  | .startCountdown count => (.done, breakpoints.startCountdown count)
  | .mute => (.done, breakpoints.mute)
  | .unmute => (.done, breakpoints.unmute)
  | .excuse address => (.done, breakpoints.excuse address)

/-- The breakpoints after some calls. -/
def afterCalls (breakpoints : Breakpoints) (calls : List Call) : Breakpoints :=
  calls.foldl (fun breakpoints call => (breakpoints.answer call).2) breakpoints

theorem afterCalls_concat
    (breakpoints : Breakpoints)
    (calls : List Call)
    (call : Call) :
    breakpoints.afterCalls (calls ++ [call]) =
      ((breakpoints.afterCalls calls).answer call).2 :=
  List.foldl_concat _ _ _ _

/-! ## What a call stores and takes away -/

/-- Whether an entry of a kind is as permanent as a location, and at its address. -/
def isOccupied (breakpoints : Breakpoints) (kind : BreakKind) (location : Location) : Bool :=
  (breakpoints.entries kind).any fun entry => entry.slot = location.slot

/-- The entry that a call stores, if it stores one. -/
def stored (breakpoints : Breakpoints) : Call → List (BreakKind × Location)
  | .add kind location =>
      if location.isSet && !breakpoints.isOccupied kind location then [(kind, location)] else []
  | _ => []

/-- Whether a call returns the entries that it takes away. -/
def Call.isRemoval : Call → Bool
  | .remove _ | .clear | .removeTemporary => true
  | _ => false

/-- Whether a check is one for an entry of a kind, which is temporary and so is taken away. -/
def Call.reaches : Call → BreakKind → Location → Bool
  | .checkExecution address, kind, entry =>
      decide (kind = .exec) && (isInRange address 1 entry && entry.isTemporary)
  | .checkAccess access address length, kind, entry =>
      decide (kind = .ofAccess access) && (isInRange address length entry && entry.isTemporary)
  | _, _, _ => false

/-- Whether a check looks at the entries at all. -/
def heeds (breakpoints : Breakpoints) : Call → Bool
  | .checkExecution address =>
      !breakpoints.isMuted && decide (breakpoints.countdown? ≠ some 0) &&
        decide (breakpoints.excused? ≠ some address)
  | _ => !breakpoints.isMuted

/-- Whether a call takes away an entry of a kind. -/
def takes (breakpoints : Breakpoints) : Call → BreakKind → Location → Bool
  | .remove address, _, entry => decide (entry.address? = some address)
  | .clear, _, _ => true
  | .removeTemporary, _, entry => entry.isTemporary
  | call, kind, entry => breakpoints.heeds call && call.reaches kind entry

section Answer

variable (breakpoints : Breakpoints)

/--
An entry without an address is refused, and one whose slot is occupied is
refused or passed over. All others are stored behind those of their kind.
-/
theorem answer_add (kind : BreakKind) (location : Location) :
    breakpoints.answer (.add kind location) =
      match location.address? with
      | none => (.refused (.unset location), breakpoints)
      | some address =>
          if breakpoints.isOccupied kind location then
            (if location.isTemporary then .done else .refused (.duplicate kind address),
              breakpoints)
          else
            (.done,
              breakpoints.withEntries kind (breakpoints.entries kind ++ [location])) := by
  cases here : location.address? with
  | none =>
      simp [answer, add, here]
  | some address =>
      have sameTest :
          (breakpoints.entries kind).any (fun entry =>
              entry.address? = some address ∧ entry.isTemporary = location.isTemporary) =
            breakpoints.isOccupied kind location := by
        simp only [isOccupied, Location.slot, here, Prod.mk.injEq]
      simp only [answer, add, here, sameTest]
      cases breakpoints.isOccupied kind location <;> cases location.isTemporary <;> rfl

/-- An addition stores its entry, or leaves everything as it was. -/
theorem entries_answer_add (kind other : BreakKind) (location : Location) :
    (breakpoints.answer (.add kind location)).2.entries other =
      breakpoints.entries other ++
        ((breakpoints.stored (.add kind location)).filter (·.1 = other)).map (·.2) := by
  rw [answer_add]
  cases here : location.address? with
  | none =>
      simp [stored, Location.isSet, here]
  | some address =>
      cases occupied : breakpoints.isOccupied kind location with
      | true =>
          simp [stored, occupied]
      | false =>
          by_cases same : kind = other
          · subst other
            simp [stored, Location.isSet, here, occupied]
          · simp [stored, Location.isSet, here, occupied, same,
              entries_withEntries_of_ne (Ne.symm same)]

/-- A check of a range takes the temporary entries in it away, and leaves the others in order. -/
theorem entries_hitWithin
    (kind other : BreakKind)
    (address : UInt16)
    (length : Nat) :
    (breakpoints.hitWithin kind address length).2.entries other =
      (breakpoints.entries other).filter fun entry =>
        !(decide (other = kind) && (isInRange address length entry && entry.isTemporary)) := by
  by_cases same : other = kind
  · subst other
    simp [hitWithin]
  · simp [hitWithin, entries_withEntries_of_ne same, same]

theorem entries_answer_checkAccess
    (access : Access)
    (address : UInt16)
    (length : Nat)
    (kind : BreakKind) :
    (breakpoints.answer (.checkAccess access address length)).2.entries kind =
      (breakpoints.entries kind).filter
        (!breakpoints.takes (.checkAccess access address length) kind ·) := by
  cases muted : breakpoints.isMuted with
  | true =>
      simp [answer, hitByAccess, takes, heeds, muted]
  | false =>
      simp [answer, hitByAccess, takes, heeds, Call.reaches, muted, entries_hitWithin]

theorem entries_answer_checkExecution (address : UInt16) (kind : BreakKind) :
    (breakpoints.answer (.checkExecution address)).2.entries kind =
      (breakpoints.entries kind).filter
        (!breakpoints.takes (.checkExecution address) kind ·) := by
  cases muted : breakpoints.isMuted with
  | true =>
      simp [answer, hitByExecution_of_isMuted muted, takes, heeds, muted]
  | false =>
      by_cases expired : breakpoints.countdown? = some 0
      · simp only [answer, hitByExecution_of_expired muted expired]
        cases kind <;> simp [takes, heeds, expired, entries]
      · simp only [answer, hitByExecution_of_running muted expired]
        by_cases excused : breakpoints.excused? = some address
        · simp [takes, heeds, excused]
        · simp [takes, heeds, Call.reaches, muted, expired, excused, entries_hitWithin]

/-- A call filters the entries that it takes away out of each kind and puts what it stores last. -/
theorem entries_answer (call : Call) (kind : BreakKind) :
    (breakpoints.answer call).2.entries kind =
      (breakpoints.entries kind).filter (!breakpoints.takes call kind ·) ++
        ((breakpoints.stored call).filter (·.1 = kind)).map (·.2) := by
  cases call with
  | add added location =>
      rw [entries_answer_add]
      simp [takes, Call.reaches]
  | remove address =>
      simp [answer, remove, removeWhere, takes, stored]
  | clear =>
      simp [answer, clear, removeWhere, takes, stored]
  | removeTemporary =>
      simp [answer, removeTemporary, removeWhere, takes, stored]
  | checkExecution address =>
      rw [entries_answer_checkExecution]
      simp [stored]
  | checkAccess access address length =>
      rw [entries_answer_checkAccess]
      simp [stored]
  | startCountdown count | mute | unmute | excuse address =>
      simp [answer, takes, Call.reaches, stored]

/-- What a removal returns are the entries that it takes away, and no other call returns any. -/
theorem entries_reply (call : Call) :
    (breakpoints.answer call).1.entries =
      if call.isRemoval then
        BreakKind.all.flatMap fun kind =>
          ((breakpoints.entries kind).filter (breakpoints.takes call kind)).map (kind, ·)
      else [] := by
  have picked_eq :
      ∀ test : Location → Bool,
        breakpoints.picked test =
          BreakKind.all.flatMap fun kind =>
            ((breakpoints.entries kind).filter test).map (kind, ·) := by
    intro test
    simp only [picked, listed, List.filter_flatMap, List.filter_map]
    rfl
  cases call with
  | remove address =>
      exact picked_eq fun entry => entry.address? = some address
  | clear =>
      exact picked_eq fun _ => true
  | removeTemporary =>
      exact picked_eq (·.isTemporary)
  | add kind location =>
      simp only [answer]
      split <;> rfl
  | checkExecution address | checkAccess access address length
  | startCountdown count | mute | unmute | excuse address =>
      rfl

/-- A check that reaches a temporary entry tells so. -/
theorem consumed_of_mem_hitWithin
    {kind : BreakKind}
    {address : UInt16}
    {length : Nat}
    {entry : Location}
    (member : entry ∈ breakpoints.entries kind)
    (reached : isInRange address length entry && entry.isTemporary) :
    ∃ location,
      (breakpoints.hitWithin kind address length).1 = some (.entry kind location true) := by
  have found :
      ((breakpoints.entries kind).find? fun entry =>
        isInRange address length entry && entry.isTemporary).isSome :=
    List.find?_isSome.mpr ⟨entry, member, reached⟩
  simp only [hitWithin, found]
  obtain ⟨temporary, foundTemporary⟩ := Option.isSome_iff_exists.mp found
  rw [foundTemporary]
  cases (breakpoints.entries kind).find? fun entry =>
      isInRange address length entry && !entry.isTemporary with
  | none =>
      exact ⟨temporary, rfl⟩
  | some permanent =>
      exact ⟨permanent, rfl⟩

/-- What takes an entry away is a removal, or a check that reaches the entry and tells so. -/
theorem reply_of_takes
    {call : Call}
    {kind : BreakKind}
    {entry : Location}
    (member : entry ∈ breakpoints.entries kind)
    (taken : breakpoints.takes call kind entry)
    (noRemoval : call.isRemoval = false) :
    call.reaches kind entry ∧
      ∃ location,
        (breakpoints.answer call).1 = .checked (some (.entry kind location true)) := by
  cases call with
  | remove address | clear | removeTemporary =>
      cases noRemoval
  | checkExecution address =>
      simp only [takes, heeds, Bool.and_eq_true, Bool.not_eq_true', decide_eq_true_eq] at taken
      obtain ⟨⟨⟨audible, running⟩, unexcused⟩, reached⟩ := taken
      have parts := reached
      simp only [Call.reaches, Bool.and_eq_true, decide_eq_true_eq] at parts
      obtain ⟨rfl, isReached⟩ := parts
      rw [← entries_counted] at member
      obtain ⟨location, hit⟩ :=
        consumed_of_mem_hitWithin _ member (Bool.and_eq_true_iff.mpr isReached)
      refine ⟨reached, location, ?_⟩
      simp only [answer, hitByExecution_of_running audible running, if_neg unexcused]
      exact congrArg Reply.checked hit
  | checkAccess access address length =>
      simp only [takes, heeds, Bool.and_eq_true, Bool.not_eq_true'] at taken
      obtain ⟨audible, reached⟩ := taken
      have parts := reached
      simp only [Call.reaches, Bool.and_eq_true, decide_eq_true_eq] at parts
      obtain ⟨rfl, isReached⟩ := parts
      obtain ⟨location, hit⟩ :=
        breakpoints.consumed_of_mem_hitWithin member (Bool.and_eq_true_iff.mpr isReached)
      refine ⟨reached, location, ?_⟩
      simp only [answer, hitByAccess, audible, Bool.false_eq_true, ↓reduceIte]
      exact congrArg Reply.checked hit
  | add added location | startCountdown count | mute | unmute | excuse address =>
      simp [takes, Call.reaches] at taken

end Answer

/-! ## Orderly entries -/

/-- Every entry has an address, and no two of a kind have one slot. -/
structure IsOrderly (breakpoints : Breakpoints) : Prop where
  isSet : ∀ kind, ∀ entry ∈ breakpoints.entries kind, entry.isSet
  single : ∀ kind, ((breakpoints.entries kind).map Location.slot).Nodup

/-- A call stores nothing, or an entry with an address whose slot is free. -/
theorem stored_cases (breakpoints : Breakpoints) (call : Call) :
    breakpoints.stored call = [] ∨
      ∃ kind location,
        breakpoints.stored call = [(kind, location)] ∧
          call = .add kind location ∧
          location.isSet ∧
          ∀ entry ∈ breakpoints.entries kind, entry.slot ≠ location.slot := by
  cases call with
  | add kind location =>
      by_cases free : location.isSet && !breakpoints.isOccupied kind location
      · right
        refine ⟨kind, location, if_pos free, rfl, ?_⟩
        simpa [isOccupied] using free
      · exact .inl (if_neg free)
  | _ =>
      exact .inl rfl

theorem IsOrderly.answer
    {breakpoints : Breakpoints}
    (orderly : breakpoints.IsOrderly)
    (call : Call) :
    (breakpoints.answer call).2.IsOrderly := by
  have left :
      ∀ kind,
        (((breakpoints.entries kind).filter (!breakpoints.takes call kind ·)).map
          Location.slot).Nodup :=
    fun kind => (List.filter_sublist.map _).nodup (orderly.single kind)
  rcases breakpoints.stored_cases call with nothing | ⟨added, location, one, -, isSet, isFree⟩
  · constructor
    · intro kind entry member
      rw [entries_answer, nothing, List.filter_nil, List.map_nil, List.append_nil] at member
      exact orderly.isSet kind entry (List.mem_of_mem_filter member)
    · intro kind
      rw [entries_answer, nothing, List.filter_nil, List.map_nil, List.append_nil]
      exact left kind
  · constructor
    · intro kind entry member
      rw [entries_answer, one, List.mem_append] at member
      rcases member with earlier | new
      · exact orderly.isSet kind entry (List.mem_of_mem_filter earlier)
      · obtain ⟨pair, isPair, rfl⟩ := List.mem_map.mp new
        cases List.mem_singleton.mp (List.mem_of_mem_filter isPair)
        exact isSet
    · intro kind
      rw [entries_answer, one]
      by_cases same : added = kind
      · subst kind
        simp only [List.filter_cons, decide_true, ↓reduceIte, List.filter_nil, List.map_cons,
          List.map_nil, List.map_append]
        refine List.nodup_append.mpr ⟨left added, List.nodup_singleton _, ?_⟩
        intro slot isLeft other isNew same
        cases List.mem_singleton.mp isNew
        subst slot
        obtain ⟨entry, stays, sameSlot⟩ := List.mem_map.mp isLeft
        exact isFree entry (List.mem_of_mem_filter stays) sameSlot
      · simp only [List.filter_cons, same, decide_false, Bool.false_eq_true, ↓reduceIte,
          List.filter_nil, List.map_nil, List.append_nil]
        exact left kind

theorem isOrderly_empty : empty.IsOrderly where
  isSet kind entry member := by
    cases kind <;> cases member
  single kind := by
    cases kind <;> exact List.nodup_nil

theorem isOrderly_afterCalls (calls : List Call) : (empty.afterCalls calls).IsOrderly := by
  induction calls using List.reverseRecOn with
  | nil =>
      exact isOrderly_empty
  | append_singleton earlier call inductionHypothesis =>
      rw [afterCalls_concat]
      exact inductionHypothesis.answer call

/-! ## The ledger -/

/-- What became of an entry that was stored, with the number of the call that took it away. -/
inductive Fate where
  | listed
  | returned (call : Nat)
  | consumed (call : Nat)
  deriving DecidableEq

/-- The call that took an entry away. -/
def Fate.call? : Fate → Option Nat
  | .listed => none
  | .returned call | .consumed call => some call

/-- A line of the ledger: an entry, the number of the call that stored it, and its fate. -/
structure Line where
  kind : BreakKind
  location : Location
  storedBy : Nat
  fate : Fate

/-- The location of a line, if it is of a kind and has a fate. -/
def Line.locationAs? (line : Line) (kind : BreakKind) (fate : Fate) : Option Location :=
  if line.kind = kind ∧ line.fate = fate then some line.location else none

/-- The entries of a kind with one fate, in the order of the ledger. -/
def entriesWith (ledger : List Line) (kind : BreakKind) (fate : Fate) : List Location :=
  ledger.filterMap (·.locationAs? kind fate)

/-- The entries that a call stored. -/
def entriesStoredBy (ledger : List Line) (call : Nat) : List (BreakKind × Location) :=
  (ledger.filter fun line => line.storedBy = call).map fun line => (line.kind, line.location)

/--
A ledger has a line for each entry that some calls from empty breakpoints
stored, in storing order, and no other. It lists exactly what is listed and
lets each removal return what it did return. What else is gone was reached by
a check, which told so. The calls are numbered by how many come before them.
-/
structure Accounts (calls : List Call) (ledger : List Line) : Prop where
  inOrder : ledger.Pairwise (·.storedBy < ·.storedBy)
  storedBefore : ∀ line ∈ ledger, line.storedBy < calls.length
  goneLater :
    ∀ line ∈ ledger, ∀ number, line.fate.call? = some number →
      line.storedBy < number ∧ number < calls.length
  stored :
    ∀ earlier call, earlier ++ [call] <+: calls →
      entriesStoredBy ledger earlier.length = (empty.afterCalls earlier).stored call
  listed :
    ∀ kind, (empty.afterCalls calls).entries kind = entriesWith ledger kind .listed
  returned :
    ∀ earlier call, earlier ++ [call] <+: calls →
      ((empty.afterCalls earlier).answer call).1.entries =
        BreakKind.all.flatMap fun kind =>
          (entriesWith ledger kind (.returned earlier.length)).map (kind, ·)
  consumed :
    ∀ earlier call, earlier ++ [call] <+: calls →
      ∀ line ∈ ledger, line.fate = .consumed earlier.length →
        call.reaches line.kind line.location ∧
          ∃ location,
            ((empty.afterCalls earlier).answer call).1 =
              .checked (some (.entry line.kind location true))

/-- A line that gets another fate if it is listed and a test picks it out. -/
def Line.settled
    (line : Line)
    (isTaken : BreakKind → Location → Bool)
    (fate : Fate) : Line :=
  if line.fate = .listed ∧ isTaken line.kind line.location then { line with fate } else line

/-- The lines of what a call stores. -/
def newLines (breakpoints : Breakpoints) (call : Call) (number : Nat) : List Line :=
  (breakpoints.stored call).map fun entry => ⟨entry.1, entry.2, number, .listed⟩

/-- The fate of what a call takes away. -/
def Call.fate (call : Call) (number : Nat) : Fate :=
  if call.isRemoval then .returned number else .consumed number

/-- The ledger after one more call. -/
def keep
    (breakpoints : Breakpoints)
    (call : Call)
    (number : Nat)
    (ledger : List Line) : List Line :=
  ledger.map (·.settled (breakpoints.takes call) (call.fate number)) ++
    breakpoints.newLines call number

/-! ## Keeping the ledger -/

theorem entriesWith_append (first second : List Line) (kind : BreakKind) (fate : Fate) :
    entriesWith (first ++ second) kind fate =
      entriesWith first kind fate ++ entriesWith second kind fate :=
  List.filterMap_append

theorem entriesStoredBy_append (first second : List Line) (call : Nat) :
    entriesStoredBy (first ++ second) call =
      entriesStoredBy first call ++ entriesStoredBy second call := by
  simp only [entriesStoredBy, List.filter_append, List.map_append]

section Settled

variable
  {line : Line}
  {ledger : List Line}
  {isTaken : BreakKind → Location → Bool}
  {fate : Fate}

@[simp] theorem Line.settled_storedBy : (line.settled isTaken fate).storedBy = line.storedBy := by
  unfold settled
  split <;> rfl

/-- A line that is settled stays as it is, or it was listed and has the new fate. -/
theorem Line.settled_cases :
    line.settled isTaken fate = line ∨
      line.fate = .listed ∧
        isTaken line.kind line.location ∧
        line.settled isTaken fate = { line with fate } := by
  by_cases taken : line.fate = .listed ∧ isTaken line.kind line.location
  · exact .inr ⟨taken.1, taken.2, if_pos taken⟩
  · exact .inl (if_neg taken)

/-- Settling keeps which call stored which entry. -/
theorem entriesStoredBy_settled (call : Nat) :
    entriesStoredBy (ledger.map (·.settled isTaken fate)) call = entriesStoredBy ledger call := by
  simp only [entriesStoredBy, List.filter_map, List.map_map]
  congr 1
  · funext line
    rcases line.settled_cases with same | ⟨-, -, moved⟩
    · rw [Function.comp_apply, same]
    · rw [Function.comp_apply, moved]
  · simp [Function.comp_def]

/-- A line that is picked out has its new fate instead of being listed. -/
theorem Line.locationAs?_settled (kind : BreakKind) (other : Fate) :
    (line.settled isTaken fate).locationAs? kind other =
      if line.fate = .listed ∧ isTaken line.kind line.location then
        if line.kind = kind ∧ fate = other then some line.location else none
      else
        line.locationAs? kind other := by
  unfold settled
  split <;> rfl

/-- Listed after settling is what was listed and not picked out. -/
theorem entriesWith_settled_listed (leaves : fate ≠ .listed) (kind : BreakKind) :
    entriesWith (ledger.map (·.settled isTaken fate)) kind .listed =
      (entriesWith ledger kind .listed).filter (!isTaken kind ·) := by
  simp only [entriesWith, List.filterMap_map, List.filter_filterMap]
  refine List.filterMap_congr fun line _ => ?_
  rw [Function.comp_apply, Line.locationAs?_settled]
  unfold Line.locationAs?
  grind

/-- What has a new fate after settling is what was listed and picked out. -/
theorem entriesWith_settled_self
    (isNew : ∀ line ∈ ledger, line.fate ≠ fate)
    (kind : BreakKind) :
    entriesWith (ledger.map (·.settled isTaken fate)) kind fate =
      (entriesWith ledger kind .listed).filter (isTaken kind) := by
  simp only [entriesWith, List.filterMap_map, List.filter_filterMap]
  refine List.filterMap_congr fun line member => ?_
  have different := isNew line member
  rw [Function.comp_apply, Line.locationAs?_settled]
  unfold Line.locationAs?
  grind

/-- What had another fate than listed has it still. -/
theorem entriesWith_settled_of_ne
    {other : Fate}
    (gone : other ≠ .listed)
    (different : other ≠ fate)
    (kind : BreakKind) :
    entriesWith (ledger.map (·.settled isTaken fate)) kind other =
      entriesWith ledger kind other := by
  simp only [entriesWith, List.filterMap_map]
  refine List.filterMap_congr fun line _ => ?_
  rw [Function.comp_apply, Line.locationAs?_settled]
  unfold Line.locationAs?
  grind

end Settled

theorem mem_newLines
    {breakpoints : Breakpoints}
    {call : Call}
    {number : Nat}
    {line : Line}
    (member : line ∈ breakpoints.newLines call number) :
    line.storedBy = number ∧ line.fate = .listed := by
  obtain ⟨entry, -, rfl⟩ := List.mem_map.mp member
  exact ⟨rfl, rfl⟩

/-- A line that was not in the ledger is listed. -/
theorem entriesWith_newLines
    (breakpoints : Breakpoints)
    (call : Call)
    (number : Nat)
    (kind : BreakKind)
    (fate : Fate) :
    entriesWith (breakpoints.newLines call number) kind fate =
      if fate = .listed then
        ((breakpoints.stored call).filter (·.1 = kind)).map (·.2)
      else [] := by
  rcases breakpoints.stored_cases call with nothing | ⟨added, location, one, -⟩
  · simp [entriesWith, newLines, nothing]
  · by_cases isListed : fate = .listed
    · subst fate
      by_cases same : added = kind <;> simp [entriesWith, newLines, one, Line.locationAs?, same]
    · simp [entriesWith, newLines, one, Line.locationAs?, isListed, Ne.symm isListed]

theorem entriesStoredBy_newLines
    (breakpoints : Breakpoints)
    (call : Call)
    (number other : Nat) :
    entriesStoredBy (breakpoints.newLines call number) other =
      if number = other then breakpoints.stored call else [] := by
  rcases breakpoints.stored_cases call with nothing | ⟨added, location, one, -⟩
  · simp [entriesStoredBy, newLines, nothing]
  · by_cases same : number = other <;> simp [entriesStoredBy, newLines, one, same]

theorem Call.fate_ne_listed (call : Call) (number : Nat) : call.fate number ≠ .listed := by
  unfold Call.fate
  split <;> exact nofun

theorem Call.fate_call? (call : Call) (number : Nat) : (call.fate number).call? = some number := by
  unfold Call.fate
  split <;> rfl

namespace Accounts

variable {calls : List Call} {ledger : List Line}

/-- No line has a fate yet that the next call gives. -/
theorem fate_ne
    (accounts : Accounts calls ledger)
    {line : Line}
    (member : line ∈ ledger)
    {fate : Fate}
    (isNext : fate.call? = some calls.length) :
    line.fate ≠ fate := by
  intro same
  rw [← same] at isNext
  exact absurd (accounts.goneLater line member _ isNext).2 (Nat.lt_irrefl _)

theorem mem_entries
    (accounts : Accounts calls ledger)
    {line : Line}
    (member : line ∈ ledger)
    (isListed : line.fate = .listed) :
    line.location ∈ (empty.afterCalls calls).entries line.kind := by
  rw [accounts.listed, entriesWith, List.mem_filterMap]
  exact ⟨line, member, if_pos ⟨rfl, isListed⟩⟩

section Keep

variable (accounts : Accounts calls ledger) (call : Call)

include accounts

theorem keep_inOrder :
    (Breakpoints.keep (empty.afterCalls calls) call calls.length ledger).Pairwise
      (·.storedBy < ·.storedBy) := by
  rw [Breakpoints.keep, List.pairwise_append, List.pairwise_map]
  refine ⟨?_, ?_, ?_⟩
  · simpa only [Line.settled_storedBy] using accounts.inOrder
  · rcases (empty.afterCalls calls).stored_cases call with nothing | ⟨kind, location, one, -⟩
    · simp [newLines, nothing]
    · simp [newLines, one]
  · intro earlier isEarlier new isNew
    obtain ⟨origin, member, rfl⟩ := List.mem_map.mp isEarlier
    rw [Line.settled_storedBy, (mem_newLines isNew).1]
    exact accounts.storedBefore origin member

theorem keep_storedBefore :
    ∀ line ∈ Breakpoints.keep (empty.afterCalls calls) call calls.length ledger,
      line.storedBy < (calls ++ [call]).length := by
  intro line member
  rw [List.length_append, List.length_singleton]
  rcases List.mem_append.mp member with isEarlier | isNew
  · obtain ⟨origin, isOrigin, rfl⟩ := List.mem_map.mp isEarlier
    rw [Line.settled_storedBy]
    exact Nat.lt_succ_of_lt (accounts.storedBefore origin isOrigin)
  · rw [(mem_newLines isNew).1]
    exact Nat.lt_succ_self _

theorem keep_goneLater :
    ∀ line ∈ Breakpoints.keep (empty.afterCalls calls) call calls.length ledger,
      ∀ number, line.fate.call? = some number →
        line.storedBy < number ∧ number < (calls ++ [call]).length := by
  intro line member number gone
  rw [List.length_append, List.length_singleton]
  rcases List.mem_append.mp member with isEarlier | isNew
  · obtain ⟨origin, isOrigin, rfl⟩ := List.mem_map.mp isEarlier
    rw [Line.settled_storedBy]
    rcases origin.settled_cases with same | ⟨-, -, moved⟩
    · rw [same] at gone
      obtain ⟨later, before⟩ := accounts.goneLater origin isOrigin number gone
      exact ⟨later, Nat.lt_succ_of_lt before⟩
    · rw [moved, call.fate_call?] at gone
      cases gone
      exact ⟨accounts.storedBefore origin isOrigin, Nat.lt_succ_self _⟩
  · rw [(mem_newLines isNew).2] at gone
    cases gone

/-- What a call stored stays in the ledger, and the next call adds what it stores. -/
theorem entriesStoredBy_keep (number : Nat) :
    entriesStoredBy (Breakpoints.keep (empty.afterCalls calls) call calls.length ledger) number =
      if number = calls.length then (empty.afterCalls calls).stored call
      else entriesStoredBy ledger number := by
  rw [Breakpoints.keep, entriesStoredBy_append, entriesStoredBy_settled, entriesStoredBy_newLines]
  by_cases isLast : number = calls.length
  · subst number
    have nothingYet : entriesStoredBy ledger calls.length = [] := by
      simp only [entriesStoredBy, List.map_eq_nil_iff, List.filter_eq_nil_iff, decide_eq_true_eq]
      exact fun line member => Nat.ne_of_lt (accounts.storedBefore line member)
    simp [nothingYet]
  · simp [isLast, Ne.symm isLast]

theorem entriesWith_keep_listed (kind : BreakKind) :
    entriesWith (Breakpoints.keep (empty.afterCalls calls) call calls.length ledger) kind .listed =
      (empty.afterCalls (calls ++ [call])).entries kind := by
  rw [Breakpoints.keep, entriesWith_append]
  rw [entriesWith_settled_listed (call.fate_ne_listed _), entriesWith_newLines, if_pos rfl]
  rw [afterCalls_concat, entries_answer, accounts.listed]

/-- What is gone stays so, and the next call settles what it takes away. -/
theorem entriesWith_keep_gone {fate : Fate} (gone : fate ≠ .listed) (kind : BreakKind) :
    entriesWith (Breakpoints.keep (empty.afterCalls calls) call calls.length ledger) kind fate =
      if fate = call.fate calls.length then
        ((empty.afterCalls calls).entries kind).filter ((empty.afterCalls calls).takes call kind)
      else entriesWith ledger kind fate := by
  rw [Breakpoints.keep, entriesWith_append, entriesWith_newLines, if_neg gone, List.append_nil]
  split
  · subst fate
    rw [entriesWith_settled_self fun line member =>
      accounts.fate_ne member (call.fate_call? _), accounts.listed]
  · rename_i different
    rw [entriesWith_settled_of_ne gone different]

/-- What the last call returns has the fate that it is returned by it. -/
theorem returned_keep :
    ((empty.afterCalls calls).answer call).1.entries =
      BreakKind.all.flatMap fun kind =>
        (entriesWith (Breakpoints.keep (empty.afterCalls calls) call calls.length ledger) kind
          (.returned calls.length)).map (kind, ·) := by
  have gone : Fate.returned calls.length ≠ .listed := nofun
  rw [entries_reply]
  cases removal : call.isRemoval with
  | true =>
      have isFate : Fate.returned calls.length = call.fate calls.length := by
        simp [Call.fate, removal]
      simp only [accounts.entriesWith_keep_gone call gone, if_pos isFate, if_true]
  | false =>
      have noFate : Fate.returned calls.length ≠ call.fate calls.length := by
        simp [Call.fate, removal]
      have nothing : ∀ kind, entriesWith ledger kind (.returned calls.length) = [] := by
        intro kind
        rw [entriesWith, List.filterMap_eq_nil_iff]
        exact fun line member => if_neg fun both => accounts.fate_ne member rfl both.2
      simp [accounts.entriesWith_keep_gone call gone, noFate, nothing]

/-- What the last call consumed it reached, and it told so. -/
theorem consumed_keep
    {line : Line}
    (member : line ∈ Breakpoints.keep (empty.afterCalls calls) call calls.length ledger)
    (isConsumed : line.fate = .consumed calls.length) :
    call.reaches line.kind line.location ∧
      ∃ location,
        ((empty.afterCalls calls).answer call).1 =
          .checked (some (.entry line.kind location true)) := by
  rcases List.mem_append.mp member with isEarlier | isNew
  · obtain ⟨origin, isOrigin, rfl⟩ := List.mem_map.mp isEarlier
    rcases origin.settled_cases with same | ⟨isListed, taken, moved⟩
    · rw [same] at isConsumed
      exact absurd isConsumed (accounts.fate_ne isOrigin rfl)
    · have wasListed := accounts.mem_entries isOrigin isListed
      rw [moved] at isConsumed ⊢
      have noRemoval : call.isRemoval = false := by
        cases removal : call.isRemoval with
        | true =>
            simp [Call.fate, removal] at isConsumed
        | false =>
            rfl
      exact reply_of_takes _ wasListed taken noRemoval
  · rw [(mem_newLines isNew).2] at isConsumed
    cases isConsumed

end Keep

/-- A call that is not the last of some calls has a lower number than the last one. -/
theorem length_lt_of_earlier
    {earlier : List Call}
    {call : Call}
    (before : earlier ++ [call] <+: calls) :
    earlier.length < calls.length := by
  have shorter := before.length_le
  rwa [List.length_append, List.length_singleton] at shorter

/-- A ledger that accounts for some calls does so after one more, once it is kept. -/
theorem keep (accounts : Accounts calls ledger) (call : Call) :
    Accounts (calls ++ [call])
      (Breakpoints.keep (empty.afterCalls calls) call calls.length ledger) where
  inOrder := accounts.keep_inOrder call
  storedBefore := accounts.keep_storedBefore call
  goneLater := accounts.keep_goneLater call
  listed kind := (accounts.entriesWith_keep_listed call kind).symm
  stored earlier next isNext := by
    rw [accounts.entriesStoredBy_keep]
    rcases List.prefix_concat_iff.mp isNext with isLast | before
    · obtain ⟨rfl, rfl⟩ := List.append_singleton_inj.mp isLast
      rw [if_pos rfl]
    · rw [if_neg (Nat.ne_of_lt (length_lt_of_earlier before))]
      exact accounts.stored earlier next before
  returned earlier next isNext := by
    rcases List.prefix_concat_iff.mp isNext with isLast | before
    · obtain ⟨rfl, rfl⟩ := List.append_singleton_inj.mp isLast
      exact accounts.returned_keep next
    · have gone : Fate.returned earlier.length ≠ .listed := nofun
      have noFate : Fate.returned earlier.length ≠ call.fate calls.length := by
        intro same
        have sameNumber := congrArg Fate.call? same
        rw [call.fate_call?] at sameNumber
        exact Nat.ne_of_lt (length_lt_of_earlier before) (Option.some.inj sameNumber)
      simp only [accounts.entriesWith_keep_gone call gone, if_neg noFate]
      exact accounts.returned earlier next before
  consumed earlier next isNext line member isConsumed := by
    rcases List.prefix_concat_iff.mp isNext with isLast | before
    · obtain ⟨rfl, rfl⟩ := List.append_singleton_inj.mp isLast
      exact accounts.consumed_keep next member isConsumed
    · rcases List.mem_append.mp member with isEarlier | isNew
      · obtain ⟨origin, isOrigin, rfl⟩ := List.mem_map.mp isEarlier
        rcases origin.settled_cases with same | ⟨-, -, moved⟩
        · rw [same] at isConsumed ⊢
          exact accounts.consumed earlier next before origin isOrigin isConsumed
        · have sameNumber := congrArg Fate.call? isConsumed
          rw [moved, call.fate_call?] at sameNumber
          exact
            absurd (Option.some.inj sameNumber) (Nat.ne_of_gt (length_lt_of_earlier before))
      · rw [(mem_newLines isNew).2] at isConsumed
        cases isConsumed

/-- The empty ledger accounts for no calls. -/
theorem nil : Accounts [] [] where
  inOrder := List.Pairwise.nil
  storedBefore _ member := absurd member List.not_mem_nil
  goneLater _ member := absurd member List.not_mem_nil
  stored earlier call isNext := by simp at isNext
  listed kind := by cases kind <;> rfl
  returned earlier call isNext := by simp at isNext
  consumed _ _ _ _ member := absurd member List.not_mem_nil

end Accounts

/-- Every sequence of calls is accounted for by a ledger. -/
theorem exists_accounts (calls : List Call) : ∃ ledger, Accounts calls ledger := by
  induction calls using List.reverseRecOn with
  | nil =>
      exact ⟨[], .nil⟩
  | append_singleton earlier call inductionHypothesis =>
      obtain ⟨ledger, accounts⟩ := inductionHypothesis
      exact ⟨_, accounts.keep call⟩

/--
Whatever is asked of empty breakpoints, the entries are orderly: each has an
address, and of each kind at most one permanent and one temporary entry are at
one address. A refused entry and a temporary one whose slot is occupied change
nothing, and a ledger accounts for every entry that was stored.
-/
theorem entries_are_accounted_for (calls : List Call) :
    (empty.afterCalls calls).IsOrderly ∧
      (∀ kind location error,
        ((empty.afterCalls calls).answer (.add kind location)).1 = .refused error →
          ((empty.afterCalls calls).answer (.add kind location)).2 = empty.afterCalls calls) ∧
      (∀ kind location,
        location.isSet →
          location.isTemporary →
            (∃ entry ∈ (empty.afterCalls calls).entries kind, entry.slot = location.slot) →
              (empty.afterCalls calls).answer (.add kind location) =
                (.done, empty.afterCalls calls)) ∧
      ∃ ledger, Accounts calls ledger := by
  refine ⟨isOrderly_afterCalls calls, ?_, ?_, exists_accounts calls⟩
  · intro kind location error refused
    rw [answer_add] at refused ⊢
    cases here : location.address? with
    | none =>
        rfl
    | some address =>
        rw [here] at refused
        cases occupied : (empty.afterCalls calls).isOccupied kind location with
        | true =>
            rfl
        | false =>
            rw [occupied] at refused
            cases refused
  · intro kind location isSet isTemporary present
    obtain ⟨address, here⟩ := Option.isSome_iff_exists.mp isSet
    have occupied : (empty.afterCalls calls).isOccupied kind location := by
      obtain ⟨entry, member, sameSlot⟩ := present
      exact List.any_eq_true.mpr ⟨entry, member, decide_eq_true sameSlot⟩
    rw [answer_add, here]
    simp [occupied, isTemporary]

end Breakpoints
end Monitor8080
