import Monitor8080.Proofs.AccessLogs
import Monitor8080.Proofs.WatchedEntries
namespace Monitor8080

/-!
# Awaited accesses

An access is awaited if an entry waits for it or its port stops execution. The
guarded bus holds on to the first awaited access of a step, so that a step
that is not refused stops exactly if it makes one, and names the first.
-/

namespace Session

/-- An access is awaited: an entry of its kind is at the address, or its port stops execution. -/
def Awaits (session : Session) : BusAccess → Prop
  | .memory kind address =>
      session.monitor.sentry.breakpoints.HasEntry (.ofAccess kind) address
  | .port direction number _ => session.machine.memory.hasPortBreak number direction

/-- A reason to stop names an access: by an entry that waits for it, or by the port and the byte. -/
def Names (session : Session) (reason : Stop) : BusAccess → Prop
  | .memory kind address =>
      ∃ location consumed,
        reason = .hit (.entry (.ofAccess kind) location consumed) ∧
          location ∈ session.monitor.sentry.breakpoints.entries (.ofAccess kind) ∧
          location.address? = some address
  | .port direction number byte => reason = .port direction number byte

/-- An access is the first awaited one of some. -/
def FirstAwaits
    (session : Session)
    (accesses : List BusAccess)
    (access : BusAccess) : Prop :=
  ∃ before after,
    accesses = before ++ access :: after ∧
      session.Awaits access ∧
      ∀ earlier ∈ before, ¬ session.Awaits earlier

/-- Whether a step's fetch is refused, so that the step executes nothing. -/
def isRefused (session : Session) : Bool :=
  match session.execute.1 with
  | .error (.refusedFetch _) => true
  | _ => false

/--
What is pending after some accesses of a step: nothing if none was awaited, or
else the reason that names the first one.
-/
inductive Tracks (session : Session) (log : List BusAccess) (sentry : Sentry) : Prop where
  | quiet
      (nothing : sentry.pending? = none)
      (untouched : sentry.breakpoints = session.fetchCheck.2)
      (unawaited : ∀ access ∈ log, ¬ session.Awaits access)
  | prompted
      (reason : Stop)
      (access : BusAccess)
      (pending : sentry.pending? = some reason)
      (first : session.FirstAwaits log access)
      (named : session.Names reason access)

/--
What the sentry is to make of an access: it keeps the reason that is pending,
and otherwise gives one exactly if the access is awaited.
-/
structure Heeds
    (session : Session)
    (access : BusAccess)
    (before after : Sentry) : Prop where
  kept : ∀ reason, before.pending? = some reason → after.pending? = some reason
  passed :
    before.pending? = none →
      before.breakpoints = session.fetchCheck.2 →
      ¬ session.Awaits access →
      after.pending? = none ∧ after.breakpoints = before.breakpoints
  stopped :
    before.pending? = none →
      before.breakpoints = session.fetchCheck.2 →
      session.Awaits access →
      ∃ reason, after.pending? = some reason ∧ session.Names reason access

variable {session : Session} {log : List BusAccess}

/-- The first awaited access stays the first when others follow. -/
theorem FirstAwaits.snoc
    {access : BusAccess}
    (first : session.FirstAwaits log access)
    (later : BusAccess) :
    session.FirstAwaits (log ++ [later]) access := by
  obtain ⟨before, after, rfl, awaited, unawaited⟩ := first
  refine ⟨before, after ++ [later], ?_, awaited, unawaited⟩
  rw [List.append_assoc, List.cons_append]

/-- A sentry that heeds every access keeps track of all of them. -/
theorem Tracks.snoc
    {before after : Sentry}
    (tracks : session.Tracks log before)
    {access : BusAccess}
    (heeds : session.Heeds access before after) :
    session.Tracks (log ++ [access]) after := by
  cases tracks with
  | quiet nothing untouched unawaited =>
      by_cases awaited : session.Awaits access
      · obtain ⟨reason, pending, named⟩ := heeds.stopped nothing untouched awaited
        exact .prompted reason access pending ⟨log, [], rfl, awaited, unawaited⟩ named
      · obtain ⟨stillNothing, same⟩ := heeds.passed nothing untouched awaited
        refine .quiet stillNothing (same.trans untouched) ?_
        intro other member
        rcases List.mem_append.mp member with earlier | last
        · exact unawaited other earlier
        · rw [List.mem_singleton.mp last]
          exact awaited
  | prompted reason other pending first named =>
      exact .prompted reason other (heeds.kept reason pending) (first.snoc access) named

/-! ## The accesses through the guarded bus -/

/-- A noted access is heeded, unless the breakpoints are muted. -/
theorem heeds_noteAccess
    (audible : session.monitor.sentry.breakpoints.isMuted = false)
    (kind : Access)
    (address : UInt16)
    (sentry : Sentry) :
    session.Heeds (.memory kind address) sentry (sentry.noteAccess kind address) := by
  have sameEntry :
      session.fetchCheck.2.HasEntry (.ofAccess kind) address ↔
        session.Awaits (.memory kind address) := by
    rw [Breakpoints.HasEntry, entries_fetchCheck_ofAccess]
    rfl
  have heard := fetchCheck_isMuted.trans audible
  refine ⟨?_, ?_, ?_⟩
  · intro reason pending
    simp only [Sentry.noteAccess, pending]
  · intro nothing untouched unawaited
    have free := mt sameEntry.mp unawaited
    rw [← untouched] at free heard
    have missed := Breakpoints.hitWithin_of_not_hasEntry free
    simp [Sentry.noteAccess, Breakpoints.hitByAccess, nothing, heard, missed]
  · intro nothing untouched awaited
    obtain ⟨location, consumed, hit, member, here⟩ :=
      Breakpoints.hitWithin_of_hasEntry (sameEntry.mpr awaited)
    rw [entries_fetchCheck_ofAccess] at member
    refine
      ⟨.hit (.entry (.ofAccess kind) location consumed), ?_,
        location, consumed, rfl, member, here⟩
    simp [Sentry.noteAccess, Breakpoints.hitByAccess, nothing, untouched, heard, hit]

/-- An access through the guarded bus is heeded, as every entry is watched. -/
theorem Watched.heeds_access
    (watched : session.Watched)
    (audible : session.monitor.sentry.breakpoints.isMuted = false)
    {memory : Memory}
    (sameWatches : session.machine.memory.SameWatches memory)
    (kind : Access)
    (address : UInt16)
    (sentry : Sentry) :
    session.Heeds (.memory kind address) sentry
      (if memory.isWatched address kind then sentry.noteAccess kind address else sentry) := by
  split
  · exact heeds_noteAccess audible kind address sentry
  · rename_i unwatched
    refine ⟨fun _ pending => pending, fun nothing _ _ => ⟨nothing, rfl⟩, ?_⟩
    intro nothing untouched awaited
    have isWatched := watched.isWatched awaited
    rw [Memory.isWatched, ← sameWatches.watches] at isWatched
    exact absurd isWatched unwatched

/-- An access to a port through the guarded bus is heeded, unless the breakpoints are muted. -/
theorem heeds_notePort
    (audible : session.monitor.sentry.breakpoints.isMuted = false)
    {memory : Memory}
    (sameWatches : session.machine.memory.SameWatches memory)
    (direction : PortDirection)
    (number byte : UInt8)
    (sentry : Sentry) :
    session.Heeds (.port direction number byte) sentry
      (sentry.notePort (memory.hasPortBreak number direction) direction number byte) := by
  have sameBreak :
      memory.hasPortBreak number direction ↔
        session.Awaits (.port direction number byte) := by
    rw [Memory.hasPortBreak, sameWatches.portBreaks]
    rfl
  have heard := fetchCheck_isMuted.trans audible
  refine ⟨?_, ?_, ?_⟩
  · intro reason pending
    simp only [Sentry.notePort]
    split <;> simp [pending]
  · intro nothing untouched unawaited
    have free := mt sameBreak.mp unawaited
    refine ⟨?_, Sentry.notePort_breakpoints ..⟩
    simp only [Sentry.notePort]
    split <;> simp [nothing, free]
  · intro nothing untouched awaited
    have occupied := sameBreak.mpr awaited
    refine ⟨.port direction number byte, ?_, rfl⟩
    simp only [Sentry.notePort]
    split <;> simp [nothing, occupied, untouched, heard]

/-- A guarded memory whose sentry keeps track of what the same memory logs. -/
structure Shadows
    (session : Session)
    (guarded : Guarded)
    (logged : Logged) : Prop where
  memory : guarded.memory = logged.memory
  sameWatches : session.machine.memory.SameWatches guarded.memory
  tracks : session.Tracks logged.log guarded.sentry

/-- The sentry keeps track of what is logged through all accesses of an instruction. -/
theorem Watched.shadows_simulation
    (watched : session.Watched)
    (audible : session.monitor.sentry.breakpoints.isMuted = false) :
    BusSimulation session.Shadows where
  read := by
    rintro ⟨memory, sentry⟩ ⟨_, log⟩ ⟨rfl, sameWatches, tracks⟩ address
    exact
      ⟨rfl, rfl, sameWatches,
        tracks.snoc (watched.heeds_access audible sameWatches .read address sentry)⟩
  write := by
    rintro ⟨memory, sentry⟩ ⟨_, log⟩ ⟨rfl, sameWatches, tracks⟩ address value
    exact
      ⟨rfl, sameWatches.write address value,
        tracks.snoc (watched.heeds_access audible sameWatches .write address sentry)⟩
  input := by
    rintro ⟨memory, sentry⟩ ⟨_, log⟩ ⟨rfl, sameWatches, tracks⟩ port
    exact
      ⟨rfl, rfl, sameWatches,
        tracks.snoc
          (heeds_notePort audible sameWatches .input port (memory.input port) sentry)⟩
  output := by
    rintro ⟨memory, sentry⟩ ⟨_, log⟩ ⟨rfl, sameWatches, tracks⟩ port value
    exact
      ⟨rfl, sameWatches.output port value,
        tracks.snoc (heeds_notePort audible sameWatches .output port value sentry)⟩

/-! ## Steps -/

/-- Where an access is awaited, the bus has to be guarded. -/
theorem isNeeded_of_awaits
    {access : BusAccess}
    (awaited : session.Awaits access) :
    session.monitor.sentry.isNeeded session.machine.memory := by
  cases access with
  | memory kind address =>
      exact isNeeded_of_hasEntry awaited
  | port direction number byte =>
      have someBreak : session.machine.memory.hasPortBreaks := by
        have someOf := List.ne_nil_of_mem (List.contains_iff_mem.mp awaited)
        cases direction with
        | input =>
            simp [Memory.hasPortBreaks, show session.machine.memory.inputBreaks ≠ [] from someOf]
        | output =>
            simp [Memory.hasPortBreaks, show session.machine.memory.outputBreaks ≠ [] from someOf]
      simp [Sentry.isNeeded, someBreak]

/-- After a step that executes something, what is pending is about the accesses that it made. -/
theorem Watched.execute_tracks
    (watched : session.Watched)
    (audible : session.monitor.sentry.breakpoints.isMuted = false)
    (idle : session.monitor.sentry.pending? = none)
    (passed : session.fetchCheck.1 = none)
    {count : Nat}
    (executed : (Core.step session.core).1 = .ok count) :
    session.Tracks session.core.accesses session.execute.2.monitor.sentry := by
  have powered : session.machine.cpu.phase ≠ .poweredOff := by
    intro poweredOff
    rw [core, Core.step_of_poweredOff poweredOff] at executed
    cases executed
  have tracksNothing :
      ∀ sentry : Sentry,
        sentry.breakpoints = session.fetchCheck.2 →
        sentry.pending? = session.monitor.sentry.pending? →
        session.Tracks [] sentry :=
    fun sentry untouched nothing =>
      .quiet (nothing.trans idle) untouched fun _ member => absurd member List.not_mem_nil
  unfold execute
  split
  · rename_i needed
    have shadowsUnfetched :
        session.machine.cpu.isFetching = false →
          session.Shadows session.guardedCore.bus ⟨session.machine.memory, []⟩ := by
      intro unfetched
      refine ⟨rfl, .refl _, tracksNothing session.monitor.sentry ?_ rfl⟩
      simp [fetchCheck, checksFetch, unfetched]
    have agreement :=
      (watched.shadows_simulation audible).step shadowsUnfetched powered powered
        (by
          intro fetching
          obtain ⟨sentry, fetched, untouched, nothing⟩ :=
            fetch_of_passed needed fetching passed
          rw [show session.machine.cpu.pc = session.pc from rfl, fetched]
          refine ⟨rfl, rfl, ?_, tracksNothing sentry untouched nothing⟩
          rw [Memory.fetch_snd]
          exact .refl _)
    rw [executeGuarded_eq]
    exact agreement.2.bus.tracks
  · rename_i needless
    rw [executeBare_eq]
    exact
      .quiet idle (by simp [fetchCheck, checksFetch, needless])
        fun access _ awaited => needless (isNeeded_of_awaits awaited)

/-- Something is pending exactly if an access was awaited. -/
theorem Tracks.isSome_iff
    {sentry : Sentry}
    (tracks : session.Tracks log sentry) :
    sentry.pending?.isSome ↔ ∃ access ∈ log, session.Awaits access := by
  cases tracks with
  | quiet nothing untouched unawaited =>
      simp only [nothing, Option.isSome_none, Bool.false_eq_true, false_iff, not_exists, not_and]
      exact unawaited
  | prompted reason access pending first named =>
      obtain ⟨before, after, rfl, awaited, -⟩ := first
      simp only [pending, Option.isSome_some, true_iff]
      exact ⟨access, by simp, awaited⟩

/-- What is pending names the first awaited access. -/
theorem Tracks.names_first
    {sentry : Sentry}
    (tracks : session.Tracks log sentry)
    {reason : Stop}
    (found : sentry.pending? = some reason) :
    ∃ access, session.FirstAwaits log access ∧ session.Names reason access := by
  cases tracks with
  | quiet nothing untouched unawaited =>
      rw [nothing] at found
      cases found
  | prompted other access pending first named =>
      rw [pending] at found
      cases found
      exact ⟨access, first, named⟩

/-- A step that is not refused passes the check of its fetch. -/
theorem fetchCheck_of_not_isRefused (unrefused : session.isRefused = false) :
    session.fetchCheck.1 = none := by
  cases checked : session.fetchCheck.1 with
  | none =>
      rfl
  | some hit =>
      rw [isRefused, execute_of_refused checked] at unrefused
      cases unrefused

end Session

/--
A step that is not refused stops exactly if it makes an awaited access, and it
names the first one. Its accesses are those that are read off the instruction:
operand bytes, what goes to the stack and what comes from it are among them.
-/
theorem step_stops_at_first_awaited_access
    {session : Session}
    (reachable : session.Reachable)
    (audible : session.monitor.sentry.breakpoints.isMuted = false)
    (unrefused : session.isRefused = false) :
    ((∃ reason, session.step.1 = .break reason) ↔
        ∃ access ∈ session.core.accesses, session.Awaits access) ∧
      (∀ reason,
        session.step.1 = .break reason →
          ∃ access,
            session.FirstAwaits session.core.accesses access ∧ session.Names reason access) ∧
      session.core.accesses = session.core.prescribedAccesses := by
  have passed := Session.fetchCheck_of_not_isRefused unrefused
  cases stepped : (Core.step session.core).1 with
  | error error =>
      refine ⟨?_, ?_, Core.accesses_eq _⟩
      · rw [Session.step_fst_of_failed stepped, Core.accesses_of_error stepped]
        simp
      · intro reason stopped
        rw [Session.step_fst_of_failed stepped] at stopped
        cases stopped
  | ok count =>
      have tracks := reachable.watched.execute_tracks audible reachable.idle passed stepped
      have ending := Session.step_fst_of_executed passed stepped
      refine ⟨?_, ?_, Core.accesses_eq _⟩
      · rw [← tracks.isSome_iff, ending]
        cases session.execute.2.monitor.sentry.pending? <;> simp [StepEnd.ofOutcome]
      · intro reason stopped
        rw [ending] at stopped
        cases pending : session.execute.2.monitor.sentry.pending? with
        | none =>
            rw [pending] at stopped
            cases stopped
        | some found =>
            rw [pending] at stopped
            cases stopped
            exact tracks.names_first pending

/-- A call whose stack wraps around to an address with a write entry stops after it. -/
theorem push_to_awaited_address_stops :
    let session :=
      (Session.fresh .default .initial).conduct [.line "e 0 CD 0 10", .line "bw FFFF"]
    session.Reachable ∧
      session.monitor.sentry.breakpoints.isMuted = false ∧
      session.isRefused = false ∧
      ∃ reason, session.step.1 = .break reason := by
  intro session
  have reachable : session.Reachable :=
    (Session.Reachable.fresh .default .initial).conduct _
  have audible : session.monitor.sentry.breakpoints.isMuted = false := by
    decide +kernel
  have unrefused : session.isRefused = false := by
    decide +kernel
  refine ⟨reachable, audible, unrefused, ?_⟩
  refine (step_stops_at_first_awaited_access reachable audible unrefused).1.mpr ?_
  refine ⟨.memory .write 0xFFFF, ?_, ?_⟩
  · decide +kernel
  · unfold Session.Awaits Breakpoints.HasEntry
    decide +kernel

end Monitor8080
