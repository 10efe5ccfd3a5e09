import Monitor8080.Proofs.Conclusion
import Monitor8080.Proofs.Hits
namespace Monitor8080

/-!
# Steps whose fetch is checked

A step makes one check at most when it fetches its opcode. If the check stops
the fetch, the step leaves everything as it was but the breakpoints. If it does
not, the step is the one that the processor makes on bare memory, and all that
its accesses do to the breakpoints is to take away entries that wait for them.
-/

/-! ## Accesses of an instruction -/

/-- A reason to stop names an entry of some breakpoints, if it is about an entry at all. -/
def Stop.NamesEntryOf (breakpoints : Breakpoints) : Stop → Prop
  | .hit (.entry kind location _) => location ∈ breakpoints.entries kind
  | _ => True

/-- A reason that names an entry of some breakpoints names one of any with more entries. -/
theorem Stop.NamesEntryOf.mono
    {fewer more : Breakpoints}
    {reason : Stop}
    (named : reason.NamesEntryOf fewer)
    (included : ∀ kind, fewer.entries kind ⊆ more.entries kind) :
    reason.NamesEntryOf more := by
  cases reason with
  | hit reached =>
      cases reached with
      | countdown address =>
          trivial
      | entry kind location consumed =>
          exact included kind named
  | port direction number byte =>
      trivial

/-- A reason to stop is no longer waited for, if it is about a temporary entry. -/
def Stop.IsReleasedFrom (breakpoints : Breakpoints) : Stop → Prop
  | .hit (.entry kind location _) =>
      location.isTemporary → location ∉ breakpoints.entries kind
  | _ => True

/--
What the accesses of an instruction keep: what is checked for fetches is as it
was, and entries that wait for accesses have only become fewer.
-/
structure Sentry.DescendsFrom
    (origin : Breakpoints)
    (sentry : Sentry) : Prop where
  forFetches : sentry.breakpoints.forFetches = origin.forFetches
  fewer :
    ∀ kind, (sentry.breakpoints.entries kind).Sublist (origin.entries kind)

/--
What the accesses of an instruction leave pending: nothing, or a reason that
comes after the instruction and names an entry, which is gone if it was
temporary.
-/
def Sentry.IsPromptedBy
    (origin : Breakpoints)
    (sentry : Sentry) : Prop :=
  ∀ reason,
    sentry.pending? = some reason →
      (StepEnd.break reason).isRetired ∧
        reason.NamesEntryOf origin ∧
        reason.IsReleasedFrom sentry.breakpoints

namespace Sentry

variable {origin : Breakpoints} {sentry : Sentry}

theorem DescendsFrom.refl (sentry : Sentry) : sentry.DescendsFrom sentry.breakpoints :=
  ⟨rfl, fun _ => .refl _⟩

/-- Noting an access keeps what accesses keep. -/
theorem DescendsFrom.noteAccess
    (descends : sentry.DescendsFrom origin)
    (kind : Access)
    (address : UInt16) :
    (sentry.noteAccess kind address).DescendsFrom origin := by
  unfold Sentry.noteAccess
  cases sentry.pending? with
  | some reason =>
      exact descends
  | none =>
      exact
        { forFetches :=
            (Breakpoints.forFetches_hitByAccess ..).trans descends.forFetches
          fewer := fun other =>
            (Breakpoints.entries_hitByAccess_sublist ..).trans (descends.fewer other) }

/-- Noting an access to a port leaves the breakpoints alone. -/
@[simp] theorem notePort_breakpoints
    (isBreak : Bool)
    (direction : PortDirection)
    (port byte : UInt8) :
    (sentry.notePort isBreak direction port byte).breakpoints = sentry.breakpoints := by
  simp only [notePort]
  split <;> split <;> rfl

/-- Noting an access to a port keeps what accesses keep. -/
theorem DescendsFrom.notePort
    (descends : sentry.DescendsFrom origin)
    (isBreak : Bool)
    (direction : PortDirection)
    (port byte : UInt8) :
    (sentry.notePort isBreak direction port byte).DescendsFrom origin :=
  ⟨by simpa using descends.forFetches, by simpa using descends.fewer⟩

/-- Noting an access leaves a reason of the instruction pending at most. -/
theorem IsPromptedBy.noteAccess
    (prompted : sentry.IsPromptedBy origin)
    (descends : sentry.DescendsFrom origin)
    (kind : Access)
    (address : UInt16) :
    (sentry.noteAccess kind address).IsPromptedBy origin := by
  intro reason
  unfold Sentry.noteAccess
  cases pending : sentry.pending? with
  | some earlier =>
      exact fun noted => prompted reason (pending ▸ noted)
  | none =>
      intro noted
      simp only [Option.map_eq_some_iff] at noted
      obtain ⟨hit, found, rfl⟩ := noted
      unfold Breakpoints.hitByAccess at found
      split at found
      · cases found
      · rename_i audible
        have occupied : sentry.breakpoints.HasEntry (.ofAccess kind) address :=
          Breakpoints.hitWithin_isSome_iff.mp (by rw [found]; rfl)
        obtain ⟨location, consumed, named, member, -⟩ :=
          Breakpoints.hitWithin_of_hasEntry occupied
        have released := Breakpoints.not_mem_of_hitWithin named
        rw [found] at named
        cases named
        refine ⟨by cases kind <;> rfl, (descends.fewer _).subset member, ?_⟩
        simp only [Breakpoints.hitByAccess, if_neg audible]
        exact released

/-- Noting an access to a port leaves a reason of the instruction pending at most. -/
theorem IsPromptedBy.notePort
    (prompted : sentry.IsPromptedBy origin)
    (isBreak : Bool)
    (direction : PortDirection)
    (port byte : UInt8) :
    (sentry.notePort isBreak direction port byte).IsPromptedBy origin := by
  intro reason
  simp only [Sentry.notePort]
  split
  · split
    · rintro ⟨⟩
      exact ⟨rfl, trivial, trivial⟩
    · exact prompted reason
  · split
    · rintro ⟨⟩
      exact ⟨rfl, trivial, trivial⟩
    · exact prompted reason

end Sentry

namespace Guarded

/-- What holds of a sentry and stays so whatever it notes is an invariant of the guarded bus. -/
theorem invariant_of_notes
    {property : Sentry → Prop}
    (noteAccess :
      ∀ sentry kind address, property sentry → property (sentry.noteAccess kind address))
    (notePort :
      ∀ sentry isBreak direction port byte,
        property sentry → property (sentry.notePort isBreak direction port byte)) :
    BusInvariant fun guarded : Guarded => property guarded.sentry := by
  refine .of_accesses ?_ ?_ ?_ ?_
  · rintro ⟨memory, sentry⟩ address holds
    simp only [Bus.read, Guarded.read]
    split
    · exact noteAccess sentry .read address holds
    · exact holds
  · rintro ⟨memory, sentry⟩ address value holds
    simp only [Bus.write, Guarded.write]
    split
    · exact noteAccess sentry .write address holds
    · exact holds
  · rintro ⟨memory, sentry⟩ port holds
    exact notePort sentry _ _ _ _ holds
  · rintro ⟨memory, sentry⟩ port value holds
    exact notePort sentry _ _ _ _ holds

/-- The accesses of an instruction keep what is checked for fetches, and the other entries at most. -/
theorem descendsFrom_invariant (origin : Breakpoints) :
    BusInvariant fun guarded : Guarded => guarded.sentry.DescendsFrom origin :=
  invariant_of_notes (fun _ kind address descends => descends.noteAccess kind address)
    fun _ isBreak direction port byte descends => descends.notePort isBreak direction port byte

/-- The accesses of an instruction leave pending what comes after it and names an entry. -/
theorem isPromptedBy_invariant (origin : Breakpoints) :
    BusInvariant fun guarded : Guarded =>
      guarded.sentry.DescendsFrom origin ∧ guarded.sentry.IsPromptedBy origin := by
  refine
    @invariant_of_notes
      (fun sentry => sentry.DescendsFrom origin ∧ sentry.IsPromptedBy origin) ?_ ?_
  · rintro sentry kind address ⟨descends, prompted⟩
    exact ⟨descends.noteAccess kind address, prompted.noteAccess descends kind address⟩
  · rintro sentry isBreak direction port byte ⟨descends, prompted⟩
    exact
      ⟨descends.notePort isBreak direction port byte,
        prompted.notePort isBreak direction port byte⟩

end Guarded

namespace Session

/-! ## The check of a step's fetch -/

/-- Whether a step has the fetch of its opcode checked. -/
def checksFetch (session : Session) : Bool :=
  session.monitor.sentry.isNeeded session.machine.memory
    && session.machine.cpu.isFetching
    && (session.machine.memory.fetch? session.pc).isSome

/-- What the check of a step's fetch finds, if there is one, and the breakpoints after it. -/
def fetchCheck (session : Session) : Option Hit × Breakpoints :=
  if session.checksFetch then
    session.monitor.sentry.breakpoints.hitByExecution session.pc
  else
    (none, session.monitor.sentry.breakpoints)

/-- The session after its fetch was refused, with the hit pending. -/
def refusedBy (session : Session) (hit : Hit) : Session :=
  session.updateMonitor fun monitor =>
    { monitor with
      sentry := { monitor.sentry with
        breakpoints := session.fetchCheck.2
        pending? := some (.hit hit) } }

variable {session : Session}

/-- Where there is an entry, the bus has to be guarded. -/
theorem isNeeded_of_hasEntry
    {kind : BreakKind}
    {address : UInt16}
    (occupied : session.monitor.sentry.breakpoints.HasEntry kind address) :
    session.monitor.sentry.isNeeded session.machine.memory := by
  simp [Sentry.isNeeded, Breakpoints.isWaiting_of_hasEntry occupied]

theorem checksFetch_iff :
    session.checksFetch ↔
      session.monitor.sentry.isNeeded session.machine.memory ∧
        session.machine.cpu.isFetching ∧
        ∃ opcode, session.machine.memory.fetch? session.pc = some opcode := by
  simp [checksFetch, Option.isSome_iff_exists, and_assoc]

/-- The check of a fetch takes entries away at most. -/
theorem entries_fetchCheck_sublist (kind : BreakKind) :
    (session.fetchCheck.2.entries kind).Sublist
      (session.monitor.sentry.breakpoints.entries kind) := by
  unfold fetchCheck
  split
  · exact Breakpoints.entries_hitByExecution_sublist kind
  · exact List.Sublist.refl _

/-- The check of a fetch leaves the entries that wait for accesses alone. -/
theorem entries_fetchCheck_ofAccess (kind : Access) :
    session.fetchCheck.2.entries (.ofAccess kind) =
      session.monitor.sentry.breakpoints.entries (.ofAccess kind) := by
  unfold fetchCheck
  split
  · exact Breakpoints.entries_hitByExecution_ofAccess kind
  · rfl

/-- The check of a fetch neither mutes the breakpoints nor ends their muting. -/
@[simp] theorem fetchCheck_muting :
    session.fetchCheck.2.muting = session.monitor.sentry.breakpoints.muting := by
  unfold fetchCheck
  split
  · exact Breakpoints.hitByExecution_muting
  · rfl

@[simp] theorem fetchCheck_isMuted :
    session.fetchCheck.2.isMuted = session.monitor.sentry.breakpoints.isMuted := by
  rw [Breakpoints.isMuted, fetchCheck_muting, Breakpoints.isMuted]

/-- A step whose fetch a hit refuses executes nothing. -/
theorem execute_of_refused
    {hit : Hit}
    (refused : session.fetchCheck.1 = some hit) :
    session.execute = (.error (.refusedFetch session.pc), session.refusedBy hit) := by
  have checked : session.checksFetch := by
    by_contra unchecked
    simp [fetchCheck, unchecked] at refused
  obtain ⟨needed, fetching, opcode, mapped⟩ := checksFetch_iff.mp checked
  have stopped :
      session.monitor.sentry.breakpoints.hitByExecution session.pc =
        (some hit, session.fetchCheck.2) := by
    rw [fetchCheck, if_pos checked] at refused ⊢
    rw [← refused]
  rw [execute, if_pos needed, executeGuarded_eq, guardedCore,
    Core.step_of_isFetching fetching,
    show session.machine.cpu.pc = session.pc from rfl, Guarded.fetch_of_hit mapped stopped]
  rfl

/-- A guarded fetch that the check lets pass comes to what it comes to on bare memory. -/
theorem fetch_of_passed
    (needed : session.monitor.sentry.isNeeded session.machine.memory)
    (fetching : session.machine.cpu.isFetching)
    (passed : session.fetchCheck.1 = none) :
    ∃ sentry,
      Bus.fetch session.guardedCore.bus session.pc =
          ((Bus.fetch session.machine.memory session.pc).1,
            ⟨(Bus.fetch session.machine.memory session.pc).2, sentry⟩) ∧
        sentry.breakpoints = session.fetchCheck.2 ∧
        sentry.pending? = session.monitor.sentry.pending? := by
  cases mapped : session.machine.memory.fetch? session.pc with
  | none =>
      refine ⟨session.monitor.sentry, ?_, ?_, rfl⟩
      · rw [guardedCore, Guarded.fetch_of_unmapped mapped]
        simp only [Bus.fetch, mapped]
      · simp [fetchCheck, checksFetch, mapped]
  | some opcode =>
      have checked : session.checksFetch :=
        checksFetch_iff.mpr ⟨needed, fetching, opcode, mapped⟩
      have unstopped :
          session.monitor.sentry.breakpoints.hitByExecution session.pc =
            (none, session.fetchCheck.2) := by
        rw [fetchCheck, if_pos checked] at passed ⊢
        rw [← passed]
      refine
        ⟨{ session.monitor.sentry with breakpoints := session.fetchCheck.2 }.noteFetch
            session.pc opcode,
          ?_, ?_, ?_⟩
      · rw [guardedCore, Guarded.fetch_of_passed mapped unstopped]
        simp only [Bus.fetch, mapped]
      · rfl
      · rfl

/-! ## Steps that nothing refuses -/

section Passed

variable (passed : session.fetchCheck.1 = none)

include passed

/-- A step that nothing refuses is the step that the processor makes on bare memory. -/
theorem execute_of_passed :
    session.execute.1 = (Core.step session.core).1 ∧
      session.execute.2.machine.cpu = (Core.step session.core).2.cpu ∧
      session.execute.2.machine.memory.Alike (Core.step session.core).2.bus := by
  unfold execute
  split
  · rename_i needed
    rw [executeGuarded_eq]
    by_cases poweredOff : session.machine.cpu.phase = .poweredOff
    · rw [core, guardedCore, Core.step_of_poweredOff poweredOff,
        Core.step_of_poweredOff poweredOff]
      exact ⟨rfl, rfl, .refl _⟩
    · have guarding :
          session.machine.cpu.isFetching = false →
            Guarded.Guards session.guardedCore.bus session.machine.memory :=
        fun _ => .refl _
      have agreement :=
        Guarded.guards_simulation.step guarding poweredOff poweredOff
          (by
            intro fetching
            obtain ⟨sentry, fetched, -⟩ := fetch_of_passed needed fetching passed
            rw [show session.machine.cpu.pc = session.pc from rfl, fetched]
            exact ⟨rfl, .refl _⟩)
      have samePhase :
          session.machine.cpu.phase = (Core.step session.guardedCore).2.cpu.phase :=
        (Core.step_phase session.guardedCore).symm
      have sameCpu :=
        calc (Core.step session.core).2.cpu
          _ = (Core.step session.guardedCore).2.cpu.inPhase session.machine.cpu.phase :=
              agreement.2.cpu
          _ = (Core.step session.guardedCore).2.cpu := by
              rw [samePhase, Cpu.inPhase_phase]
      exact ⟨agreement.1, sameCpu.symm, agreement.2.bus⟩
  · exact ⟨rfl, rfl, .refl _⟩

/-- What a step that nothing refuses keeps of what its fetch left. -/
theorem execute_keeps
    {property : Sentry → Prop}
    (invariant : BusInvariant fun guarded : Guarded => property guarded.sentry)
    (fetched :
      ∀ sentry : Sentry,
        sentry.breakpoints = session.fetchCheck.2 →
        sentry.pending? = session.monitor.sentry.pending? →
        property sentry) :
    property session.execute.2.monitor.sentry := by
  unfold execute
  split
  · rename_i needed
    rw [executeGuarded_eq]
    change property (Core.step session.guardedCore).2.bus.sentry
    refine invariant.step ?_ ?_
    · intro unfetched
      exact fetched _ (by simp [fetchCheck, checksFetch, unfetched]) rfl
    · intro fetching
      obtain ⟨sentry, fetchedBus, sameBreakpoints, samePending⟩ :=
        fetch_of_passed needed fetching passed
      change property (Bus.fetch session.guardedCore.bus session.pc).2.sentry
      rw [fetchedBus]
      exact fetched sentry sameBreakpoints samePending
  · rename_i needless
    rw [executeBare_eq]
    exact fetched _ (by simp [fetchCheck, checksFetch, needless]) rfl

/-- A step that nothing refuses takes away entries that wait for accesses at most. -/
theorem execute_descendsFrom :
    session.execute.2.monitor.sentry.DescendsFrom session.fetchCheck.2 := by
  refine execute_keeps passed (Guarded.descendsFrom_invariant _) ?_
  intro sentry sameBreakpoints samePending
  rw [← sameBreakpoints]
  exact .refl sentry

/-- A step that nothing refuses leaves pending what comes after it and names an entry. -/
theorem execute_isPromptedBy (idle : session.monitor.sentry.pending? = none) :
    session.execute.2.monitor.sentry.IsPromptedBy session.fetchCheck.2 := by
  let property (sentry : Sentry) : Prop :=
    sentry.DescendsFrom session.fetchCheck.2 ∧ sentry.IsPromptedBy session.fetchCheck.2
  have kept : property session.execute.2.monitor.sentry := by
    refine execute_keeps passed (Guarded.isPromptedBy_invariant _) ?_
    intro sentry sameBreakpoints samePending
    refine ⟨by rw [← sameBreakpoints]; exact .refl sentry, ?_⟩
    intro reason pending
    rw [samePending, idle] at pending
    cases pending
  exact kept.2

end Passed

end Session

end Monitor8080
