import Monitor8080.Proofs.WatchedEntries
namespace Monitor8080

/-!
# Entries that a step consumes

A step takes entries that wait for accesses away only by a hit that consumed a
temporary one. As long as no two temporary breakpoints of a kind are at one
address, it is a single entry, whether the hit names it or a permanent one
beside it.
-/

def Location.isTemporaryAt (address : UInt16) (location : Location) : Bool :=
  location.address? = some address && location.isTemporary

namespace Breakpoints

/-- How many temporary entries of a kind are at an address. -/
def temporaries (breakpoints : Breakpoints) (kind : BreakKind) (address : UInt16) : Nat :=
  (breakpoints.entries kind).countP (·.isTemporaryAt address)

/-- No two temporary entries of a kind are at one address. -/
def SingleTemporaries (breakpoints : Breakpoints) : Prop :=
  ∀ kind address, breakpoints.temporaries kind address ≤ 1

theorem temporaries_le_of_sublist
    {fewer more : Breakpoints}
    {kind : BreakKind}
    (sublist : (fewer.entries kind).Sublist (more.entries kind))
    (address : UInt16) :
    fewer.temporaries kind address ≤ more.temporaries kind address :=
  sublist.countP_le

theorem SingleTemporaries.mono
    {fewer more : Breakpoints}
    (single : more.SingleTemporaries)
    (sublist : ∀ kind, (fewer.entries kind).Sublist (more.entries kind)) :
    fewer.SingleTemporaries :=
  fun kind address =>
    Nat.le_trans (temporaries_le_of_sublist (sublist kind) address) (single kind address)

/-! ## Hits -/

/-- What a check of one address takes away are the temporary entries there. -/
theorem entries_hitWithin_one
    (breakpoints : Breakpoints)
    (kind : BreakKind)
    (address : UInt16) :
    (breakpoints.hitWithin kind address 1).2.entries kind =
      (breakpoints.entries kind).filter fun entry => !entry.isTemporaryAt address := by
  simp only [hitWithin, entries_withEntries, isInRange_one, Location.isTemporaryAt]

/-- A hit at one address tells whether a temporary entry was there, which it does if it names one. -/
theorem hitWithin_consumed
    {breakpoints : Breakpoints}
    {kind named : BreakKind}
    {address : UInt16}
    {location : Location}
    {consumed : Bool}
    (hit : (breakpoints.hitWithin kind address 1).1 = some (.entry named location consumed)) :
    named = kind ∧
      location.address? = some address ∧
      (consumed ↔ 0 < breakpoints.temporaries kind address) ∧
      (location.isTemporary → consumed) := by
  simp only [hitWithin, isInRange_one, Option.map_eq_some_iff, Option.orElse_eq_orElse,
    Option.orElse_eq_or] at hit
  obtain ⟨found, chosen, same⟩ := hit
  cases same
  have counted :
      ((breakpoints.entries kind).find? fun entry =>
          decide (entry.address? = some address) && entry.isTemporary).isSome ↔
        0 < breakpoints.temporaries kind address := by
    rw [List.find?_isSome, temporaries, List.countP_pos_iff]
    rfl
  refine ⟨rfl, ?_, counted, ?_⟩
  · rcases Option.or_eq_some_iff.mp chosen with permanent | ⟨-, temporary⟩
    · have both := List.find?_some permanent
      simpa using (Bool.and_eq_true_iff.mp both).1
    · have both := List.find?_some temporary
      simpa using (Bool.and_eq_true_iff.mp both).1
  · intro isTemporary
    rcases Option.or_eq_some_iff.mp chosen with permanent | ⟨-, temporary⟩
    · have both := List.find?_some permanent
      simp [isTemporary] at both
    · rw [temporary]
      rfl

/-- Where a hit was, there was one temporary entry if it consumed one, and none if not. -/
theorem temporaries_of_hit
    {breakpoints : Breakpoints}
    (single : breakpoints.SingleTemporaries)
    {kind named : BreakKind}
    {address : UInt16}
    {location : Location}
    {consumed : Bool}
    (hit : (breakpoints.hitWithin kind address 1).1 = some (.entry named location consumed)) :
    breakpoints.temporaries kind address = if consumed then 1 else 0 := by
  obtain ⟨-, -, anyTemporary, -⟩ := hitWithin_consumed hit
  have oneAtMost := single kind address
  cases consumed with
  | true =>
      have positive := anyTemporary.mp rfl
      rw [if_pos rfl]
      omega
  | false =>
      have absent := mt anyTemporary.mpr Bool.false_ne_true
      rw [if_neg Bool.false_ne_true]
      omega

/-- A check of one address takes one waiting entry away there if a temporary one is there. -/
theorem waiting_hitWithin
    (breakpoints : Breakpoints)
    (kind access : Access)
    (address place : UInt16) :
    (breakpoints.hitWithin (.ofAccess kind) address 1).2.waiting access place +
        (if access = kind ∧ place = address then
          breakpoints.temporaries (.ofAccess kind) address
        else 0) =
      breakpoints.waiting access place := by
  by_cases sameAccess : access = kind
  · subst access
    rw [waiting, waiting, entries_hitWithin_one, List.countP_filter]
    by_cases here : place = address
    · subst place
      rw [if_pos ⟨rfl, rfl⟩, temporaries, Nat.add_comm]
      rw [List.countP_eq_countP_filter_add (breakpoints.entries (.ofAccess kind))
        (fun entry => decide (entry.address? = some address)) (·.isTemporaryAt address)]
      rw [List.countP_filter, List.countP_filter]
      congr 2
      · funext entry
        simp only [Location.isTemporaryAt]
        cases decide (entry.address? = some address) <;> simp
    · rw [if_neg fun both => here both.2, Nat.add_zero]
      refine List.countP_congr fun entry _ => ?_
      simp only [Location.isTemporaryAt, Bool.and_eq_true, decide_eq_true_eq, Bool.not_eq_true']
      constructor
      · exact fun both => both.1
      · intro isThere
        refine ⟨isThere, ?_⟩
        simp [isThere, here]
  · have different : BreakKind.ofAccess access ≠ .ofAccess kind := by
      intro same
      cases access <;> cases kind <;> first | exact sameAccess rfl | cases same
    rw [if_neg fun both => sameAccess both.1, Nat.add_zero, waiting, hitWithin,
      entries_withEntries_of_ne different]
    rfl

end Breakpoints

/-! ## Steps -/

/-- Whether a reason to stop consumed a temporary entry that waited for an access at an address. -/
def Stop.consumes (access : Access) (address : UInt16) : Stop → Bool
  | .hit (.entry kind location consumed) => consumed && waitsFor access address (kind, location)
  | _ => false

/-- Whether a step ended by consuming a temporary entry that waited for an access at an address. -/
def StepEnd.consumes (access : Access) (address : UInt16) : StepEnd → Bool
  | .break reason => reason.consumes access address
  | _ => false

def Sentry.consumed (sentry : Sentry) (access : Access) (address : UInt16) : Bool :=
  sentry.pending?.any (·.consumes access address)

/--
What the accesses of an instruction keep account of: the entries that wait are
those from before, but for one that what is pending consumed. It was a
temporary one, and is consumed for sure if what is pending names it.
-/
structure Sentry.Accounts (origin : Breakpoints) (sentry : Sentry) : Prop where
  descends : sentry.DescendsFrom origin
  waiting :
    ∀ access address,
      sentry.breakpoints.waiting access address +
          (if sentry.consumed access address then 1 else 0) =
        origin.waiting access address
  temporary :
    ∀ access address,
      sentry.consumed access address → 0 < origin.temporaries (.ofAccess access) address
  named :
    ∀ kind location consumed,
      sentry.pending? = some (.hit (.entry kind location consumed)) →
        location.isTemporary → consumed

namespace Sentry

variable {origin : Breakpoints} {sentry : Sentry}

/-- While nothing is pending nothing was consumed. -/
theorem Accounts.of_idle
    (sameBreakpoints : sentry.breakpoints = origin)
    (idle : sentry.pending? = none) :
    sentry.Accounts origin where
  descends := by
    rw [← sameBreakpoints]
    exact .refl sentry
  waiting access address := by
    simp [consumed, idle, sameBreakpoints]
  temporary access address gone := by
    simp [consumed, idle] at gone
  named kind location consumed pending := by
    rw [idle] at pending
    cases pending

/-- While nothing is pending, an access that is noted changes nothing or hits an entry. -/
theorem noteAccess_cases
    (idle : sentry.pending? = none)
    (kind : Access)
    (address : UInt16) :
    (sentry.noteAccess kind address).pending? = none ∧
        (sentry.noteAccess kind address).breakpoints = sentry.breakpoints ∨
      ∃ location isConsumed,
        (sentry.breakpoints.hitWithin (.ofAccess kind) address 1).1 =
            some (.entry (.ofAccess kind) location isConsumed) ∧
          (sentry.noteAccess kind address).pending? =
            some (.hit (.entry (.ofAccess kind) location isConsumed)) ∧
          (sentry.noteAccess kind address).breakpoints =
            (sentry.breakpoints.hitWithin (.ofAccess kind) address 1).2 := by
  by_cases muted : sentry.breakpoints.isMuted
  · left
    simp [Sentry.noteAccess, Breakpoints.hitByAccess, idle, muted]
  · by_cases occupied : sentry.breakpoints.HasEntry (.ofAccess kind) address
    · right
      obtain ⟨location, isConsumed, hit, -⟩ := Breakpoints.hitWithin_of_hasEntry occupied
      refine ⟨location, isConsumed, hit, ?_, ?_⟩
      · simp [Sentry.noteAccess, Breakpoints.hitByAccess, idle, muted, hit]
      · simp [Sentry.noteAccess, Breakpoints.hitByAccess, idle, muted]
    · left
      have missed := Breakpoints.hitWithin_of_not_hasEntry occupied
      simp [Sentry.noteAccess, Breakpoints.hitByAccess, idle, muted, missed]

/-- An access that hits is accounted for, as it consumed the only temporary entry there or none. -/
theorem Accounts.of_hit
    {noted : Sentry}
    (sameWaiting :
      ∀ access place, sentry.breakpoints.waiting access place = origin.waiting access place)
    (noMore :
      ∀ kind, (sentry.breakpoints.entries kind).Sublist (origin.entries kind))
    (single : origin.SingleTemporaries)
    {kind : Access}
    {address : UInt16}
    {location : Location}
    {isConsumed : Bool}
    (hit :
      (sentry.breakpoints.hitWithin (.ofAccess kind) address 1).1 =
        some (.entry (.ofAccess kind) location isConsumed))
    (descends : noted.DescendsFrom origin)
    (pending : noted.pending? = some (.hit (.entry (.ofAccess kind) location isConsumed)))
    (left :
      noted.breakpoints = (sentry.breakpoints.hitWithin (.ofAccess kind) address 1).2) :
    noted.Accounts origin := by
  obtain ⟨-, here, anyTemporary, ifNamed⟩ := Breakpoints.hitWithin_consumed hit
  have consumedThere :
      ∀ access place,
        noted.consumed access place =
          (isConsumed && decide (access = kind ∧ place = address)) := by
    intro access place
    have sameKind : BreakKind.ofAccess kind = .ofAccess access ↔ access = kind := by
      cases kind <;> cases access <;> simp [BreakKind.ofAccess]
    simp [consumed, pending, Stop.consumes, waitsFor, here, sameKind, eq_comm]
  refine ⟨descends, ?_, ?_, ?_⟩
  · intro access place
    have taken := sentry.breakpoints.waiting_hitWithin kind access address place
    rw [Breakpoints.temporaries_of_hit (single.mono noMore) hit, sameWaiting] at taken
    rw [left, consumedThere, ← taken]
    cases isConsumed <;> simp
  · intro access place gone
    rw [consumedThere, Bool.and_eq_true, decide_eq_true_iff] at gone
    obtain ⟨wasConsumed, rfl, rfl⟩ := gone
    exact
      Nat.lt_of_lt_of_le (anyTemporary.mp wasConsumed)
        (Breakpoints.temporaries_le_of_sublist (noMore _) place)
  · intro named there wasConsumed reached
    rw [pending] at reached
    cases reached
    exact ifNamed

/-- Only the first hit of an instruction is noted, so what is accounted for stays so. -/
theorem Accounts.noteAccess
    (accounts : sentry.Accounts origin)
    (single : origin.SingleTemporaries)
    (kind : Access)
    (address : UInt16) :
    (sentry.noteAccess kind address).Accounts origin := by
  have descends := accounts.descends.noteAccess kind address
  cases pending : sentry.pending? with
  | some reason =>
      have unchanged : sentry.noteAccess kind address = sentry := by
        simp only [Sentry.noteAccess, pending]
      rw [unchanged]
      exact accounts
  | none =>
      have sameWaiting :
          ∀ access place,
            sentry.breakpoints.waiting access place = origin.waiting access place := by
        intro access place
        have accounted := accounts.waiting access place
        simpa [consumed, pending] using accounted
      rcases noteAccess_cases pending kind address with
        ⟨nothing, unchanged⟩ | ⟨location, isConsumed, hit, noted, left⟩
      · refine ⟨descends, ?_, ?_, ?_⟩
        · intro access place
          simpa [consumed, nothing, unchanged] using sameWaiting access place
        · intro access place gone
          simp [consumed, nothing] at gone
        · intro named there wasConsumed reached
          rw [nothing] at reached
          cases reached
      · exact .of_hit sameWaiting accounts.descends.fewer single hit descends noted left

/-- Noting an access to a port leaves pending what was, or makes the access the first reason. -/
theorem notePort_pending?
    (sentry : Sentry)
    (isBreak : Bool)
    (direction : PortDirection)
    (port byte : UInt8) :
    (sentry.notePort isBreak direction port byte).pending? = sentry.pending? ∨
      sentry.pending? = none ∧
        (sentry.notePort isBreak direction port byte).pending? =
          some (.port direction port byte) := by
  simp only [Sentry.notePort]
  split <;> split <;> simp_all

theorem Accounts.notePort
    (accounts : sentry.Accounts origin)
    (isBreak : Bool)
    (direction : PortDirection)
    (port byte : UInt8) :
    (sentry.notePort isBreak direction port byte).Accounts origin := by
  have descends := accounts.descends.notePort isBreak direction port byte
  have pendingCases := sentry.notePort_pending? isBreak direction port byte
  have sameConsumed :
      ∀ access address,
        (sentry.notePort isBreak direction port byte).consumed access address =
          sentry.consumed access address := by
    intro access address
    rcases pendingCases with same | ⟨nothing, stopped⟩
    · rw [consumed, same, consumed]
    · rw [consumed, stopped, consumed, nothing]
      rfl
  refine ⟨descends, ?_, ?_, ?_⟩
  · intro access address
    rw [notePort_breakpoints, sameConsumed]
    exact accounts.waiting access address
  · intro access address
    rw [sameConsumed]
    exact accounts.temporary access address
  · intro kind location isConsumed reached
    rcases pendingCases with same | ⟨-, stopped⟩
    · rw [same] at reached
      exact accounts.named kind location isConsumed reached
    · rw [stopped] at reached
      cases reached

end Sentry

namespace Session

variable {session : Session}

theorem execute_accounts
    (passed : session.fetchCheck.1 = none)
    (idle : session.monitor.sentry.pending? = none)
    (single : session.fetchCheck.2.SingleTemporaries) :
    session.execute.2.monitor.sentry.Accounts session.fetchCheck.2 := by
  have invariant :
      BusInvariant fun guarded : Guarded =>
        guarded.sentry.Accounts session.fetchCheck.2 :=
    Guarded.invariant_of_notes
      (fun _ kind address accounts => accounts.noteAccess single kind address)
      fun _ isBreak direction port byte accounts =>
        accounts.notePort isBreak direction port byte
  refine execute_keeps passed invariant ?_
  intro sentry sameBreakpoints samePending
  exact .of_idle sameBreakpoints (samePending.trans idle)

/--
What a step keeps account of: the entries that wait afterwards are those from
before, but for a temporary one that the step ended by consuming. If the step
ends at a temporary entry, it has consumed it.
-/
structure Accounts (session : Session) : Prop where
  waiting :
    ∀ access address,
      session.step.2.monitor.sentry.breakpoints.waiting access address +
          (if session.step.1.consumes access address then 1 else 0) =
        session.monitor.sentry.breakpoints.waiting access address
  temporary :
    ∀ access address,
      session.step.1.consumes access address →
        0 < session.monitor.sentry.breakpoints.temporaries (.ofAccess access) address
  released :
    ∀ access address,
      session.step.1.releases access address → session.step.1.consumes access address

/-- A step that ends at no entry that waits for accesses keeps account if it keeps these entries. -/
theorem Accounts.of_unmoved
    (sameEntries :
      ∀ access,
        session.step.2.monitor.sentry.breakpoints.entries (.ofAccess access) =
          session.monitor.sentry.breakpoints.entries (.ofAccess access))
    (unmoved :
      ∀ access address,
        session.step.1.consumes access address = false ∧
          session.step.1.releases access address = false) :
    session.Accounts where
  waiting access address := by
    rw [(unmoved access address).1, Breakpoints.waiting, sameEntries]
    rfl
  temporary access address consumes := by
    rw [(unmoved access address).1] at consumes
    cases consumes
  released access address releases := by
    rw [(unmoved access address).2] at releases
    cases releases

/-- A refused step consumed no entry but one that waits for fetches. -/
theorem accounts_of_refused
    {hit : Hit}
    (refused : session.fetchCheck.1 = some hit) :
    session.Accounts := by
  refine .of_unmoved ?_ ?_
  · intro access
    rw [step_breakpoints_of_refused refused, entries_fetchCheck_ofAccess]
  · intro access address
    rw [step_fst_of_refused refused]
    rcases refused_names refused with rfl | ⟨location, isConsumed, rfl, -⟩
    · exact ⟨rfl, rfl⟩
    · cases access <;> simp [StepEnd.consumes, Stop.consumes, StepEnd.releases, waitsFor,
        BreakKind.ofAccess]

theorem accounts_of_failed
    {error : StepError}
    (failed : (Core.step session.core).1 = .error error) :
    session.Accounts := by
  refine .of_unmoved ?_ ?_
  · intro access
    rw [step_breakpoints_of_failed failed]
  · intro access address
    rw [step_fst_of_failed failed]
    exact ⟨rfl, rfl⟩

/-- A temporary entry that was consumed, and named, is the one that the step releases. -/
theorem consumes_of_releases
    {origin : Breakpoints}
    {sentry : Sentry}
    (accounts : sentry.Accounts origin)
    {count : Nat}
    {access : Access}
    {address : UInt16}
    (releases : (StepEnd.ofOutcome sentry.pending? (.ok count)).releases access address) :
    sentry.consumed access address := by
  cases pending : sentry.pending? with
  | none =>
      rw [pending] at releases
      cases releases
  | some reason =>
      rw [pending] at releases
      cases reason with
      | port direction number byte =>
          cases releases
      | hit reached =>
          cases reached with
          | countdown place =>
              cases releases
          | entry kind location isConsumed =>
              obtain ⟨isTemporary, waits⟩ := Bool.and_eq_true_iff.mp releases
              have wasConsumed := accounts.named kind location isConsumed pending isTemporary
              rw [Sentry.consumed, pending]
              exact Bool.and_eq_true_iff.mpr ⟨wasConsumed, waits⟩

/-- A step that executes something consumed what its accesses left pending. -/
theorem accounts_of_executed
    (passed : session.fetchCheck.1 = none)
    {count : Nat}
    (executed : (Core.step session.core).1 = .ok count)
    (idle : session.monitor.sentry.pending? = none)
    (single : session.monitor.sentry.breakpoints.SingleTemporaries) :
    session.Accounts := by
  have ended := step_fst_of_executed passed executed
  have accounts :=
    execute_accounts passed idle (single.mono fun kind => entries_fetchCheck_sublist kind)
  have consumes :
      ∀ access address,
        session.step.1.consumes access address =
          session.execute.2.monitor.sentry.consumed access address := by
    intro access address
    rw [ended, Sentry.consumed]
    cases session.execute.2.monitor.sentry.pending? <;> rfl
  refine ⟨?_, ?_, ?_⟩
  · intro access address
    rw [step_breakpoints, consumes, accounts.waiting, Breakpoints.waiting,
      entries_fetchCheck_ofAccess]
    rfl
  · intro access address consumed
    rw [consumes] at consumed
    have temporary := accounts.temporary access address consumed
    rwa [Breakpoints.temporaries, entries_fetchCheck_ofAccess] at temporary
  · intro access address releases
    rw [ended] at releases
    rw [consumes]
    exact consumes_of_releases accounts releases

/-- Every step keeps account of what it consumes. -/
theorem step_accounts
    (idle : session.monitor.sentry.pending? = none)
    (single : session.monitor.sentry.breakpoints.SingleTemporaries) :
    session.Accounts := by
  rcases session.step_cases with ⟨hit, refused⟩ | ⟨error, failed⟩ | ⟨passed, count, executed⟩
  · exact accounts_of_refused refused
  · exact accounts_of_failed failed
  · exact accounts_of_executed passed executed idle single

end Session
end Monitor8080
