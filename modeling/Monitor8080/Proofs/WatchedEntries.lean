import Monitor8080.Proofs.ScriptDeeds
namespace Monitor8080

/-!
# Entries are watched

Memory tells of an access only where it is watched. Every entry that waits for
an access adds a watch, and every watch that goes away goes with an entry, so
an address is watched at least once for every entry that waits there.
-/

/-- Two memories in which the same is watched. -/
structure Memory.SameWatches (origin memory : Memory) : Prop where
  watches : ∀ kind, memory.watches kind = origin.watches kind
  portBreaks : ∀ direction, memory.portBreaks direction = origin.portBreaks direction

namespace Memory

variable {origin memory : Memory}

theorem SameWatches.refl (memory : Memory) : memory.SameWatches memory :=
  ⟨fun _ => rfl, fun _ => rfl⟩

theorem SameWatches.write
    (same : origin.SameWatches memory)
    (address : UInt16)
    (value : UInt8) :
    origin.SameWatches (memory.write address value) := by
  unfold Memory.write
  split
  · refine ⟨fun kind => ?_, fun direction => ?_⟩
    · rw [← same.watches]
      cases kind <;> rfl
    · rw [← same.portBreaks]
      cases direction <;> rfl
  · exact same

theorem SameWatches.output
    (same : origin.SameWatches memory)
    (port value : UInt8) :
    origin.SameWatches (memory.output port value) := by
  refine ⟨fun kind => ?_, fun direction => ?_⟩
  · rw [← same.watches]
    cases kind <;> rfl
  · rw [← same.portBreaks]
    cases direction <;> rfl

@[simp] theorem fetch_snd
    (memory : Memory)
    (address : UInt16) :
    (Bus.fetch memory address).2 = memory := by
  simp only [Bus.fetch]
  split <;> rfl

/-- No access changes what is watched. -/
theorem sameWatches_invariant (origin : Memory) : BusInvariant origin.SameWatches :=
  .of_accesses (fun _ _ same => same) (fun _ address value same => same.write address value)
    (fun _ _ same => same) fun _ port value same => same.output port value

end Memory

namespace Guarded

@[simp] theorem fetch_memory
    (guarded : Guarded)
    (address : UInt16) :
    (Bus.fetch guarded address).2.memory = guarded.memory := by
  simp only [Bus.fetch, Guarded.fetch]
  split
  · rfl
  · split <;> rfl

/-- No access through the guarded bus changes what is watched. -/
theorem sameWatches_invariant (origin : Memory) :
    BusInvariant fun guarded : Guarded => origin.SameWatches guarded.memory :=
  .of_accesses (fun _ _ same => same) (fun _ address value same => same.write address value)
    (fun _ _ same => same) fun _ port value same => same.output port value

end Guarded

/-! ## Counting entries and watches -/

namespace Breakpoints

/-- How many entries wait for an access at an address. -/
def waiting (breakpoints : Breakpoints) (access : Access) (address : UInt16) : Nat :=
  (breakpoints.entries (.ofAccess access)).countP fun entry => entry.address? = some address

/-- Where an entry is, one is counted. -/
theorem waiting_pos_iff
    {breakpoints : Breakpoints}
    {access : Access}
    {address : UInt16} :
    0 < breakpoints.waiting access address ↔
      breakpoints.HasEntry (.ofAccess access) address := by
  simp [waiting, HasEntry, List.countP_pos_iff]

end Breakpoints

/-- An entry, with its kind, that waits for an access at an address. -/
def waitsFor (access : Access) (address : UInt16) (entry : BreakKind × Location) : Bool :=
  entry.1 = .ofAccess access ∧ entry.2.address? = some address

/-- How often an address is watched for an access. -/
def Memory.watchCount (memory : Memory) (access : Access) (address : UInt16) : Nat :=
  (memory.watches access).count address

namespace Session

/-- A watch for a breakpoint is one more where the breakpoint waits. -/
theorem watchCount_watchFor
    (machine : Machine)
    (kind : BreakKind)
    (location : Location)
    (access : Access)
    (address : UInt16) :
    (watchFor machine kind location).memory.watchCount access address =
      machine.memory.watchCount access address +
        if waitsFor access address (kind, location) then 1 else 0 := by
  obtain ⟨address?, isTemporary, script?, commands⟩ := location
  cases address? with
  | none =>
      cases kind <;> simp [watchFor, waitsFor]
  | some place =>
      cases kind <;> cases access <;>
        simp [watchFor, waitsFor, BreakKind.access?, BreakKind.ofAccess, Memory.watch,
          Memory.watchCount, Memory.watches, Memory.withWatches, List.count_cons]

/-- A watch that goes with a breakpoint is one less where the breakpoint waited. -/
theorem watchCount_unwatchFor
    (machine : Machine)
    (kind : BreakKind)
    (location : Location)
    (access : Access)
    (address : UInt16) :
    (unwatchFor machine kind location).memory.watchCount access address =
      machine.memory.watchCount access address -
        if waitsFor access address (kind, location) then 1 else 0 := by
  obtain ⟨address?, isTemporary, script?, commands⟩ := location
  cases address? with
  | none =>
      cases kind <;> simp [unwatchFor, waitsFor]
  | some place =>
      cases kind <;> cases access <;>
        simp [unwatchFor, waitsFor, BreakKind.access?, BreakKind.ofAccess, Memory.unwatch,
          Memory.watchCount, Memory.watches, Memory.withWatches, List.count_erase]

/-- Watches that go with breakpoints are so many less as breakpoints waited there. -/
theorem watchCount_unwatchAll
    (machine : Machine)
    (removed : List (BreakKind × Location))
    (access : Access)
    (address : UInt16) :
    (unwatchAll machine removed).memory.watchCount access address =
      machine.memory.watchCount access address - removed.countP (waitsFor access address) := by
  induction removed generalizing machine with
  | nil =>
      rfl
  | cons entry rest inductionHypothesis =>
      obtain ⟨kind, location⟩ := entry
      rw [unwatchAll, List.foldl_cons]
      refine (inductionHypothesis _).trans ?_
      simp only [watchCount_unwatchFor, List.countP_cons]
      omega

end Session

namespace Breakpoints

/-- An entry that is added waits once more at most where it waits. -/
theorem waiting_add_le
    {breakpoints added : Breakpoints}
    {kind : BreakKind}
    {location : Location}
    (succeeded : breakpoints.add kind location = .ok added)
    (access : Access)
    (address : UInt16) :
    added.waiting access address ≤
      breakpoints.waiting access address +
        if waitsFor access address (kind, location) then 1 else 0 := by
  rcases add_cases succeeded with rfl | rfl
  · exact Nat.le_add_right _ _
  · by_cases sameKind : .ofAccess access = kind
    · subst kind
      simp [waiting, waitsFor, List.countP_append, List.countP_singleton]
    · rw [waiting, entries_withEntries_of_ne sameKind]
      exact Nat.le_add_right _ _

/-- What a test picks out waits where entries of the kind do that pass it. -/
theorem countP_picked
    (breakpoints : Breakpoints)
    (test : Location → Bool)
    (access : Access)
    (address : UInt16) :
    (breakpoints.picked test).countP (waitsFor access address) =
      ((breakpoints.entries (.ofAccess access)).filter test).countP
        fun entry => entry.address? = some address := by
  have otherKinds :
      ∀ (entries : List Location) (kind : BreakKind),
        kind ≠ .ofAccess access →
          ((entries.map (kind, ·)).filter fun entry => test entry.2).countP
              (waitsFor access address) = 0 := by
    intro entries kind different
    simp [List.countP_eq_zero, waitsFor, different]
  have sameKind :
      ∀ entries : List Location,
        ((entries.map (BreakKind.ofAccess access, ·)).filter fun entry => test entry.2).countP
            (waitsFor access address) =
          (entries.filter test).countP fun entry => entry.address? = some address := by
    intro entries
    induction entries with
    | nil =>
        rfl
    | cons entry rest inductionHypothesis =>
        simp only [List.map_cons, List.filter_cons]
        split
        · simp only [List.countP_cons, inductionHypothesis]
          simp [waitsFor]
        · exact inductionHypothesis
  unfold picked listed BreakKind.all
  simp only [List.flatMap_cons, List.flatMap_nil, List.append_nil, List.filter_append,
    List.countP_append]
  cases access with
  | read =>
      rw [otherKinds _ .exec nofun, otherKinds _ .write nofun]
      simpa [BreakKind.ofAccess] using sameKind _
  | write =>
      rw [otherKinds _ .exec nofun, otherKinds _ .read nofun]
      simpa [BreakKind.ofAccess] using sameKind _

/-- The entries that a test picks out and those that it leaves are all of them. -/
theorem waiting_without
    (breakpoints : Breakpoints)
    (test : Location → Bool)
    (access : Access)
    (address : UInt16) :
    (breakpoints.without test).waiting access address =
      breakpoints.waiting access address -
        (breakpoints.picked test).countP (waitsFor access address) := by
  have split :=
    List.countP_eq_countP_filter_add (breakpoints.entries (.ofAccess access))
      (fun entry => decide (entry.address? = some address)) test
  rw [waiting, entries_without, countP_picked, waiting, split]
  simp

end Breakpoints

namespace Session

/-! ## Steps -/

variable {session : Session}

/-- The processor's step leaves alone what is watched. -/
theorem execute_sameWatches (session : Session) :
    session.machine.memory.SameWatches session.execute.2.machine.memory := by
  unfold execute
  split
  · rw [executeGuarded_eq]
    refine (Guarded.sameWatches_invariant session.machine.memory).step ?_ ?_
    · exact fun _ => .refl _
    · intro fetching
      rw [Guarded.fetch_memory]
      exact .refl _
  · rw [executeBare_eq]
    refine (Memory.sameWatches_invariant session.machine.memory).step ?_ ?_
    · exact fun _ => .refl _
    · intro fetching
      rw [Memory.fetch_snd]
      exact .refl _

end Session

/-- Whether a step ends at a temporary entry that waited for an access at an address. -/
def StepEnd.releases (access : Access) (address : UInt16) : StepEnd → Bool
  | .break (.hit (.entry kind location _)) =>
      location.isTemporary && waitsFor access address (kind, location)
  | _ => false

namespace Session

/-- A step takes a watch away only with the temporary entry that it ends at. -/
theorem watchCount_step
    (session : Session)
    (access : Access)
    (address : UInt16) :
    session.step.2.machine.memory.watchCount access address =
      session.machine.memory.watchCount access address -
        if session.step.1.releases access address then 1 else 0 := by
  have concludedCount :
      session.concluded.2.machine.memory.watchCount access address =
        session.machine.memory.watchCount access address := by
    rw [Memory.watchCount, concluded, conclude_memory, flush_machine,
      session.execute_sameWatches.watches access]
    rfl
  rw [step_eq, ← concludedCount]
  cases session.concluded.1 with
  | cycles count =>
      rfl
  | fault error =>
      rfl
  | «break» reason =>
      cases reason with
      | port direction number byte =>
          rfl
      | hit reached =>
          cases reached with
          | countdown place =>
              rfl
          | entry kind location consumed =>
              simp only [releaseTemporary, StepEnd.releases]
              by_cases isTemporary : location.isTemporary
              · simp [isTemporary, watchCount_unwatchFor]
              · simp [isTemporary]

/-! ## Every entry is watched -/

/-- Every address is watched at least as often as entries wait there. -/
def Watched (session : Session) : Prop :=
  ∀ access address,
    session.monitor.sentry.breakpoints.waiting access address ≤
      session.machine.memory.watchCount access address

/-- Fewer entries wait less often. -/
theorem waiting_step_le
    (session : Session)
    (access : Access)
    (address : UInt16) :
    session.step.2.monitor.sentry.breakpoints.waiting access address ≤
      session.monitor.sentry.breakpoints.waiting access address :=
  (session.entries_step_sublist _).countP_le

/-- A list without one of its members counts it no more. -/
private theorem countP_lt_of_sublist
    {fewer entries : List Location}
    {location : Location}
    {test : Location → Bool}
    (sublist : fewer.Sublist entries)
    (member : location ∈ entries)
    (gone : location ∉ fewer)
    (counted : test location) :
    fewer.countP test < entries.countP test := by
  have withoutIt : fewer.Sublist (entries.erase location) := by
    have erased := sublist.erase location
    rwa [List.erase_of_not_mem gone] at erased
  calc fewer.countP test
    _ ≤ (entries.erase location).countP test := withoutIt.countP_le
    _ < (location :: entries.erase location).countP test := by
        rw [List.countP_cons_of_pos counted]
        exact Nat.lt_succ_self _
    _ = entries.countP test := ((List.perm_cons_erase member).countP_eq test).symm

variable {session : Session} {access : Access} {address : UInt16}

/-- With the temporary entry that a step ends at, one less waits there. -/
theorem waiting_step_lt
    (idle : session.monitor.sentry.pending? = none)
    (releases : session.step.1.releases access address) :
    session.step.2.monitor.sentry.breakpoints.waiting access address <
      session.monitor.sentry.breakpoints.waiting access address := by
  unfold StepEnd.releases at releases
  split at releases
  · rename_i kind location consumed ended
    obtain ⟨isTemporary, waits⟩ := Bool.and_eq_true_iff.mp releases
    obtain ⟨sameKind, here⟩ := of_decide_eq_true waits
    have sameKind : kind = .ofAccess access := sameKind
    subst kind
    rcases session.step_cases with ⟨hit, refused⟩ | ⟨error, failed⟩ | ⟨passed, count, executed⟩
    · rw [step_fst_of_refused refused] at ended
      cases ended
      rcases refused_names refused with counted | ⟨found, alsoConsumed, same, -⟩
      · cases counted
      · cases access <;> cases same
    · rw [step_fst_of_failed failed] at ended
      cases ended
    · obtain ⟨member, released⟩ :=
        (step_prompted_of_executed passed executed idle).2 _ ended
      exact
        countP_lt_of_sublist (session.entries_step_sublist _) member (released isTemporary)
          (decide_eq_true here)
  · cases releases

/-- A step keeps every entry watched. -/
theorem Watched.step
    (watched : session.Watched)
    (idle : session.monitor.sentry.pending? = none) :
    session.step.2.Watched := by
  intro access address
  have before := watched access address
  rw [watchCount_step]
  by_cases releases : session.step.1.releases access address
  · have fewer := waiting_step_lt idle releases
    rw [if_pos releases]
    omega
  · have noMore := session.waiting_step_le access address
    rw [if_neg releases]
    omega

theorem Does.watched
    {before after : Session}
    {deed : Deed}
    (does : before.Does deed after)
    (idle : before.monitor.sentry.pending? = none)
    (watched : before.Watched) :
    after.Watched := by
  cases does with
  | step =>
      exact watched.step idle
  | adjust adjusts =>
      intro access address
      rw [adjusts.breakpoints, Memory.watchCount, adjusts.watches]
      exact watched access address
  | place placed =>
      intro access address
      obtain ⟨added, -, machine⟩ := placeBreakpoint_ok placed
      rw [machine, watchCount_watchFor]
      exact
        Nat.le_trans (Breakpoints.waiting_add_le added access address)
          (Nat.add_le_add_right (watched access address) _)
  | remove address? =>
      intro access address
      obtain ⟨test, filtered, -, machine⟩ := before.removeBreakpoints_eq address?
      rw [filtered, machine, watchCount_unwatchAll, Breakpoints.waiting_without]
      exact Nat.sub_le_sub_right (watched access address) _
  | removeTemporary =>
      intro access address
      obtain ⟨filtered, -, machine⟩ := before.removeTemporaryBreakpoints_eq
      rw [filtered, machine, watchCount_unwatchAll, Breakpoints.waiting_without]
      exact Nat.sub_le_sub_right (watched access address) _
  | arm count =>
      intro access address
      rw [startCountdown_breakpoints]
      exact watched access address
  | enter =>
      intro access address
      rw [Run.enter_breakpoints, Run.enter_memory]
      exact watched access address
  | mute =>
      exact watched
  | unmute =>
      exact watched
  | resume =>
      exact watched

/-! ## Reachable sessions -/

/--
A session that operators and hosts can bring about: they do what comes down to
deeds, and a host may do anything to the machine but to watch addresses, such
as to switch port breakpoints.
-/
inductive Reachable : Session → Prop where
  | fresh (config : Config) (machine : Machine) : Reachable (.fresh config machine)
  | deed
      {before after : Session}
      {deed : Deed}
      (reachable : Reachable before)
      (does : before.Does deed after) :
      Reachable after
  | host
      {session : Session}
      (reachable : Reachable session)
      (machine : Machine)
      (sameWatches :
        ∀ kind, machine.memory.watches kind = session.machine.memory.watches kind) :
      Reachable ⟨session.monitor, machine⟩

namespace Reachable

/-- Deeds lead to what can be brought about. -/
theorem of_leads
    {before after : Session}
    (reachable : before.Reachable)
    (leads : before.Leads after) :
    after.Reachable := by
  obtain ⟨moments, chronicle⟩ := leads
  induction chronicle with
  | nil session =>
      exact reachable
  | cons does later inductionHypothesis =>
      exact inductionHypothesis (reachable.deed does)

/-- Operator lines and steps lead to what can be brought about. -/
theorem conduct
    {session : Session}
    (reachable : session.Reachable)
    (requests : List Request) :
    (session.conduct requests).Reachable :=
  reachable.of_leads (session.conduct_leads requests)

theorem idle
    {session : Session}
    (reachable : session.Reachable) :
    session.monitor.sentry.pending? = none := by
  induction reachable with
  | fresh config machine =>
      exact fresh_pending? config machine
  | deed reachable does inductionHypothesis =>
      exact does.idle inductionHypothesis
  | host reachable machine sameWatches inductionHypothesis =>
      exact inductionHypothesis

theorem watched
    {session : Session}
    (reachable : session.Reachable) :
    session.Watched := by
  induction reachable with
  | fresh config machine =>
      intro access address
      rw [fresh_breakpoints]
      cases access <;> exact Nat.zero_le _
  | deed reachable does inductionHypothesis =>
      exact does.watched reachable.idle inductionHypothesis
  | host reachable machine sameWatches inductionHypothesis =>
      intro access address
      rw [Memory.watchCount, sameWatches]
      exact inductionHypothesis access address

end Reachable

/-- Where an entry waits for an access, the address is watched. -/
theorem Watched.isWatched
    (watched : session.Watched)
    (occupied : session.monitor.sentry.breakpoints.HasEntry (.ofAccess access) address) :
    session.machine.memory.isWatched address access := by
  have counted := Nat.lt_of_lt_of_le (Breakpoints.waiting_pos_iff.mpr occupied)
    (watched access address)
  exact List.contains_iff_mem.mpr (List.count_pos_iff.mp counted)

end Session
end Monitor8080
