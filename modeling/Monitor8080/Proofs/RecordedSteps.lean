import Monitor8080.Proofs.StepCases
namespace Monitor8080

/-!
# What a step records and prints

A step records the opcode that it fetches if the fetch is checked and nothing
refuses it. It prints what it noted about ports, then the checksum if that is
due, and at last what the monitor concludes from it.
-/

namespace History

/-- The history with a fetch recorded, if there is one. -/
def recordIf (history : History) : Option (UInt16 × UInt8) → History
  | some fetch => history.record fetch.1 fetch.2
  | none => history

/-- The history recorded if it is wanted and there is room for it, and not at all if it is not. -/
def settle (history : History) (isWanted : Bool) : History :=
  if isWanted && !history.hasRoom then history else history.enable isWanted

variable (history : History) (isWanted : Bool) (fetched? : Option (UInt16 × UInt8))

/-- What is already so need not be switched. -/
theorem enable_isOn : history.enable history.isOn = history := by
  obtain ⟨ring?, capacity, capacity_pos, counts⟩ := history
  cases ring? <;> rfl

/-- Switching recording on begins with an empty ring or goes on, and switching it off ends it. -/
theorem enable_cases :
    history.enable isWanted = history ∧ history.isOn = isWanted ∨
      history.isOn = !isWanted ∧
        history.enable isWanted =
          { history with
            ring? :=
              if isWanted then some (.ofSize history.capacity history.capacity_pos) else none } := by
  obtain ⟨ring?, capacity, capacity_pos, counts⟩ := history
  cases isWanted <;> cases ring?
  · exact .inl ⟨rfl, rfl⟩
  · exact .inr ⟨rfl, rfl⟩
  · exact .inr ⟨rfl, rfl⟩
  · exact .inl ⟨rfl, rfl⟩

@[simp] theorem isOn_enable : (history.enable isWanted).isOn = isWanted := by
  rcases history.enable_cases isWanted with ⟨same, on⟩ | ⟨-, switched⟩
  · rw [same, on]
  · rw [switched]
    cases isWanted <;> rfl

@[simp] theorem capacity_enable : (history.enable isWanted).capacity = history.capacity := by
  rcases history.enable_cases isWanted with ⟨same, -⟩ | ⟨-, switched⟩
  · rw [same]
  · rw [switched]

@[simp] theorem counts_enable : (history.enable isWanted).counts = history.counts := by
  rcases history.enable_cases isWanted with ⟨same, -⟩ | ⟨-, switched⟩
  · rw [same]
  · rw [switched]

/-- Recording is switched without regard to the capacity. -/
@[simp] theorem capacity_settle : (history.settle isWanted).capacity = history.capacity := by
  unfold settle
  split
  · rfl
  · exact capacity_enable history isWanted

/-- Recording is switched without regard to the counts. -/
@[simp] theorem counts_settle : (history.settle isWanted).counts = history.counts := by
  unfold settle
  split
  · rfl
  · exact counts_enable history isWanted

/-- Recording is as wanted where there is room. -/
theorem isOn_settle_of_hasRoom
    {history : History}
    (room : history.hasRoom)
    (isWanted : Bool) :
    (history.settle isWanted).isOn = isWanted := by
  simp [settle, room]

@[simp] theorem capacity_recordIf : (history.recordIf fetched?).capacity = history.capacity := by
  cases fetched? <;> rfl

@[simp] theorem isOn_recordIf : (history.recordIf fetched?).isOn = history.isOn := by
  cases fetched? with
  | none =>
      rfl
  | some fetch =>
      exact Option.isSome_map

end History

/-- The checksum with a fetch recorded, if there is one. -/
def Checksum.recordIf (checksum : Checksum) : Option (UInt16 × UInt8) → Checksum
  | some fetch => checksum.record fetch.1 fetch.2
  | none => checksum

/-! ## Lines that are printed -/

/-- The line that shows a checksum. -/
def Checksum.line (checksum : Checksum) (cycles : Nat) : String :=
  "checksum " ++ Text.hexPadded 8 checksum.value.toNat ++ " at cycle " ++ toString cycles

/-- The note of an access to a port. -/
def PortDirection.note (direction : PortDirection) (port byte : UInt8) : String :=
  direction.verb ++ " " ++ Text.hexByte port ++ ": " ++ Text.hexByte byte

namespace Monitor

/-- Lines are printed behind those that were printed. -/
theorem printAll_output (monitor : Monitor) (lines : List String) :
    (monitor.printAll lines).output.toList = monitor.output.toList ++ lines := by
  induction lines generalizing monitor with
  | nil =>
      exact (List.append_nil _).symm
  | cons line rest inductionHypothesis =>
      have printed := inductionHypothesis (monitor.print line)
      rw [print, Array.toList_push, List.append_assoc] at printed
      exact printed

/-- Settling the history comes to what it comes to for the history alone. -/
theorem settleHistory_history (monitor : Monitor) :
    monitor.settleHistory.sentry.history =
      monitor.sentry.history.settle monitor.wantsHistory := by
  simp only [settleHistory, History.settle]
  by_cases crowded : (monitor.wantsHistory && !monitor.sentry.history.hasRoom) = true
  · simp only [crowded, Bool.or_true, ↓reduceIte]
  · by_cases settled : monitor.wantsHistory = monitor.sentry.history.isOn
    · simp only [settled, History.enable_isOn, decide_true, Bool.true_or, ↓reduceIte]
      split <;> rfl
    · simp only [crowded, settled, decide_false, Bool.false_or, Bool.false_eq_true, ↓reduceIte,
        message_sentry]

/-- Recording is switched without regard to the settings. -/
theorem settleHistory_config (monitor : Monitor) :
    monitor.settleHistory.config = monitor.config := by
  rcases monitor.settleHistory_cases with unchanged | ⟨history, text, switched⟩
  · rw [unchanged]
  · rw [switched, message_config]
    rfl

/-- Recording that is switched is wanted as before. -/
@[simp] theorem settleHistory_wantsHistory (monitor : Monitor) :
    monitor.settleHistory.wantsHistory = monitor.wantsHistory := by
  obtain ⟨history, settled⟩ := monitor.settleHistory_sentry
  rw [wantsHistory, settleHistory_config, settled]
  rfl

/-- Settling the history may print that it is switched. -/
theorem settleHistory_output (monitor : Monitor) :
    ∃ lines,
      monitor.settleHistory.output.toList = monitor.output.toList ++ lines ∧
        ∀ line ∈ lines, line = "history enabled" ∨ line = "history disabled" := by
  have told :
      ∀ (other : Monitor) (text : String),
        text = "history enabled" ∨ text = "history disabled" →
          ∃ lines,
            (other.message .hist text).output.toList = other.output.toList ++ lines ∧
              ∀ line ∈ lines, line = "history enabled" ∨ line = "history disabled" := by
    intro other text known
    unfold message
    split
    · refine ⟨[text], Array.toList_push, fun line member => ?_⟩
      rw [List.mem_singleton.mp member]
      exact known
    · exact ⟨[], (List.append_nil _).symm, nofun⟩
  simp only [settleHistory]
  split
  · exact ⟨[], (List.append_nil _).symm, nofun⟩
  · refine told _ _ ?_
    split
    · exact .inl rfl
    · exact .inr rfl

end Monitor

namespace Session

/-! ## What is fetched -/

/-- The address and the opcode that a step fetches, if the fetch is checked and not refused. -/
def fetched? (session : Session) : Option (UInt16 × UInt8) :=
  if session.checksFetch && session.fetchCheck.1.isNone then
    (session.machine.memory.fetch? session.pc).map (session.pc, ·)
  else
    none

/-- A step whose fetch is not checked records nothing, be it an interrupt or a halted processor. -/
theorem fetched?_of_unchecked
    {session : Session}
    (unchecked : session.checksFetch = false) :
    session.fetched? = none := by
  simp [fetched?, unchecked]

/-- A step whose fetch is refused records nothing. -/
theorem fetched?_of_refused
    {session : Session}
    {hit : Hit}
    (refused : session.fetchCheck.1 = some hit) :
    session.fetched? = none := by
  simp [fetched?, refused]

/-- A processor that is not fetching fetches nothing. -/
theorem fetched?_of_not_isFetching
    {session : Session}
    (unfetching : session.machine.cpu.isFetching = false) :
    session.fetched? = none :=
  fetched?_of_unchecked (by simp [checksFetch, unfetching])

/-! ## What is recorded -/

/-- The accesses of an instruction record nothing. -/
theorem logs_invariant
    (history : History)
    (checksum : Checksum) :
    BusInvariant fun guarded : Guarded =>
      guarded.sentry.history = history ∧ guarded.sentry.checksum = checksum := by
  refine
    @Guarded.invariant_of_notes
      (fun sentry => sentry.history = history ∧ sentry.checksum = checksum) ?_ ?_
  · intro sentry kind address same
    unfold Sentry.noteAccess
    split <;> exact same
  · intro sentry isBreak direction port byte same
    simp only [Sentry.notePort]
    split <;> split <;> exact same

/-- What the processor's step records is the fetch that it makes. -/
theorem execute_logs (session : Session) :
    session.execute.2.monitor.sentry.history =
        session.monitor.sentry.history.recordIf session.fetched? ∧
      session.execute.2.monitor.sentry.checksum =
        session.monitor.sentry.checksum.recordIf session.fetched? := by
  unfold execute
  split
  · rename_i needed
    rw [executeGuarded_eq]
    refine (logs_invariant _ _).step ?_ ?_
    · intro unfetching
      rw [fetched?_of_not_isFetching unfetching]
      exact ⟨rfl, rfl⟩
    · intro fetching
      have checked :
          ∀ opcode, session.machine.memory.fetch? session.pc = some opcode → session.checksFetch :=
        fun opcode mapped => checksFetch_iff.mpr ⟨needed, fetching, opcode, mapped⟩
      let guarded : Guarded := ⟨session.machine.memory, session.monitor.sentry⟩
      change
        (Bus.fetch guarded session.pc).2.sentry.history = _ ∧
          (Bus.fetch guarded session.pc).2.sentry.checksum = _
      cases mapped : session.machine.memory.fetch? session.pc with
      | none =>
          have unchecked : session.checksFetch = false := by simp [checksFetch, mapped]
          rw [Guarded.fetch_of_unmapped mapped, fetched?_of_unchecked unchecked]
          exact ⟨rfl, rfl⟩
      | some opcode =>
          cases stopped : session.monitor.sentry.breakpoints.hitByExecution session.pc with
          | mk hit? breakpoints =>
              have found : session.fetchCheck = (hit?, breakpoints) := by
                rw [fetchCheck, if_pos (checked opcode mapped), stopped]
              cases hit? with
              | none =>
                  have fetched : session.fetched? = some (session.pc, opcode) := by
                    simp [fetched?, checked opcode mapped, found, mapped]
                  rw [Guarded.fetch_of_passed mapped stopped, fetched]
                  exact ⟨rfl, rfl⟩
              | some hit =>
                  have refused : session.fetchCheck.1 = some hit := by rw [found]
                  rw [Guarded.fetch_of_hit mapped stopped, fetched?_of_refused refused]
                  exact ⟨rfl, rfl⟩
  · rename_i needless
    have unchecked : session.checksFetch = false := by simp [checksFetch, needless]
    rw [fetched?_of_unchecked unchecked]
    exact ⟨rfl, rfl⟩

/-- The notes of a step are about ports. -/
theorem execute_notes (session : Session) :
    ∀ note ∈ session.execute.2.monitor.sentry.notes,
      note ∈ session.monitor.sentry.notes ∨
        ∃ direction port byte, note = PortDirection.note direction port byte := by
  let told (sentry : Sentry) : Prop :=
    ∀ note ∈ sentry.notes,
      note ∈ session.monitor.sentry.notes ∨
        ∃ direction port byte, note = PortDirection.note direction port byte
  have invariant : BusInvariant fun guarded : Guarded => told guarded.sentry := by
    refine Guarded.invariant_of_notes ?_ ?_
    · intro sentry kind address before
      unfold Sentry.noteAccess
      split <;> exact before
    · intro sentry isBreak direction port byte before
      have noted :
          (sentry.notePort isBreak direction port byte).notes = sentry.notes ∨
            (sentry.notePort isBreak direction port byte).notes =
              sentry.notes ++ [direction.note port byte] := by
        simp only [Sentry.notePort]
        split
        · right
          split <;> rfl
        · left
          split <;> rfl
      intro note member
      rcases noted with same | more
      · rw [same] at member
        exact before note member
      · rw [more] at member
        rcases List.mem_append.mp member with earlier | last
        · exact before note earlier
        · exact .inr ⟨direction, port, byte, List.mem_singleton.mp last⟩
  unfold execute
  split
  · rw [executeGuarded_eq]
    refine invariant.step (fun _ note member => .inl member) ?_
    intro fetching
    simp only [Bus.fetch, Guarded.fetch]
    split
    · exact fun note member => .inl member
    · split <;> exact fun note member => .inl member
  · exact fun note member => .inl member

/-! ## What is printed -/

/-- The line that shows the checksum after a step, if it is due then. -/
def checksumLine? (session : Session) : Option String :=
  let checksum := session.execute.2.monitor.sentry.checksum
  if checksum.isDue then some (checksum.line session.execute.2.machine.cpu.cycles) else none

/-- A flush prints the notes of a step, and a checksum that is due. -/
theorem flush_output (session : Session) :
    session.execute.2.flush.monitor.output.toList =
      session.execute.2.monitor.output.toList ++ session.execute.2.monitor.sentry.notes ++
        session.checksumLine?.toList := by
  unfold checksumLine?
  generalize session.execute.2 = executed
  have told :
      executed.monitor.tellNotes.output.toList =
        executed.monitor.output.toList ++ executed.monitor.sentry.notes := by
    unfold Monitor.tellNotes
    split
    · rename_i nothing
      rw [nothing, List.append_nil]
    · rw [Monitor.printAll_output]
  have flushed :
      executed.flush.monitor.output.toList =
        executed.monitor.tellNotes.output.toList ++
          if executed.monitor.tellNotes.sentry.checksum.isDue then
            [executed.monitor.tellNotes.sentry.checksum.line executed.machine.cpu.cycles]
          else [] := by
    rw [flush, Monitor.flushChecksum]
    split
    · exact Array.toList_push
    · exact (List.append_nil _).symm
  rw [flushed, told, Monitor.tellNotes_sentry]
  simp only
  split <;> rfl

/-! ## What the monitor concludes -/

theorem execute_config (session : Session) :
    session.execute.2.monitor.config = session.monitor.config := by
  unfold execute
  split <;> rfl

theorem flush_config (session : Session) :
    session.flush.monitor.config = session.monitor.config := by
  have told : session.monitor.tellNotes.config = session.monitor.config := by
    unfold Monitor.tellNotes
    split
    · rfl
    · exact Monitor.printAll_config ..
  rw [flush, ← told, Monitor.flushChecksum]
  split <;> rfl

/-- What the monitor concludes is about what is pending, and it may print a fault. -/
theorem conclude_spec
    (session : Session)
    (outcome : Except StepError Nat) :
    (session.conclude outcome).2.monitor.config = session.monitor.config ∧
      (∃ pending?,
        (session.conclude outcome).2.monitor.sentry =
          { session.monitor.sentry with pending? := pending? }) ∧
      ∃ lines,
        (session.conclude outcome).2.monitor.output.toList =
            session.monitor.output.toList ++ lines ∧
          ∀ line ∈ lines, ∃ error : StepError, line = "fault: " ++ error.message := by
  have quiet :
      ∃ lines,
        session.monitor.output.toList = session.monitor.output.toList ++ lines ∧
          ∀ line ∈ lines, ∃ error : StepError, line = "fault: " ++ error.message :=
    ⟨[], (List.append_nil _).symm, nofun⟩
  have faults :
      ∀ error : StepError,
        ∃ lines,
          (session.print ("fault: " ++ error.message)).monitor.output.toList =
              session.monitor.output.toList ++ lines ∧
            ∀ line ∈ lines, ∃ error : StepError, line = "fault: " ++ error.message := by
    intro error
    refine ⟨["fault: " ++ error.message], Array.toList_push, fun line member => ?_⟩
    exact ⟨error, List.mem_singleton.mp member⟩
  unfold conclude
  cases outcome with
  | ok count =>
      cases pending : session.monitor.sentry.pending? with
      | none =>
          have same :
              session.monitor.sentry = { session.monitor.sentry with pending? := none } := by
            rw [← pending]
          exact ⟨rfl, ⟨none, same⟩, quiet⟩
      | some reason =>
          exact ⟨rfl, ⟨none, rfl⟩, quiet⟩
  | error error =>
      cases error with
      | refusedFetch address =>
          exact ⟨rfl, ⟨none, rfl⟩, quiet⟩
      | poweredOff =>
          exact ⟨rfl, ⟨_, rfl⟩, faults .poweredOff⟩
      | unmappedFetch address =>
          exact ⟨rfl, ⟨_, rfl⟩, faults (.unmappedFetch address)⟩

/-- Only a step that reached a temporary breakpoint settles the history. -/
theorem releaseTemporary_of_releases
    (session : Session)
    (result : StepEnd) :
    (session.releaseTemporary result).monitor =
      if result.releasesTemporary then session.monitor.settleHistory else session.monitor := by
  cases result with
  | «break» reason =>
      cases reason with
      | hit reached =>
          cases reached with
          | entry kind location consumed =>
              cases isTemporary : location.isTemporary <;>
                simp [releaseTemporary, StepEnd.releasesTemporary, isTemporary]
          | countdown address =>
              rfl
      | port direction number byte =>
          rfl
  | cycles count =>
      rfl
  | fault error =>
      rfl

/-! ## The whole step -/

/-- A step that is concluded has recorded its fetch. -/
theorem concluded_history (session : Session) :
    session.concluded.2.monitor.sentry.history =
      session.monitor.sentry.history.recordIf session.fetched? := by
  obtain ⟨-, ⟨pending?, sentry⟩, -⟩ := session.execute.2.flush.conclude_spec session.execute.1
  rw [concluded, sentry, flush_sentry, ← session.execute_logs.1]

/-- A step that is concluded has its fetch in the checksum, which is due no more. -/
theorem concluded_checksum (session : Session) :
    session.concluded.2.monitor.sentry.checksum =
      { session.monitor.sentry.checksum.recordIf session.fetched? with isDue := false } := by
  obtain ⟨-, ⟨pending?, sentry⟩, -⟩ := session.execute.2.flush.conclude_spec session.execute.1
  rw [concluded, sentry, flush_sentry, ← session.execute_logs.2]

/-- No step changes the settings. -/
theorem step_config (session : Session) :
    session.step.2.monitor.config = session.monitor.config := by
  obtain ⟨concludedConfig, -⟩ := session.execute.2.flush.conclude_spec session.execute.1
  have whole : session.concluded.2.monitor.config = session.monitor.config := by
    rw [concluded, concludedConfig, flush_config, execute_config]
  rw [step_eq, releaseTemporary_of_releases, ← whole]
  split
  · exact Monitor.settleHistory_config _
  · rfl

/-- A step has its fetch in the checksum, with nothing left to print of it. -/
theorem step_checksum (session : Session) :
    session.step.2.monitor.sentry.checksum =
      { session.monitor.sentry.checksum.recordIf session.fetched? with isDue := false } := by
  rw [step_eq, releaseTemporary_of_releases, ← concluded_checksum]
  split
  · obtain ⟨history, settled⟩ := session.concluded.2.monitor.settleHistory_sentry
    rw [settled]
  · rfl

/-- A step records its fetch, and settles the history if it reached a temporary breakpoint. -/
theorem step_history (session : Session) :
    session.step.2.monitor.sentry.history =
      let recorded := session.monitor.sentry.history.recordIf session.fetched?
      if session.step.1.releasesTemporary then recorded.settle session.step.2.monitor.wantsHistory
      else recorded := by
  rw [step_eq, releaseTemporary_of_releases, ← concluded_history]
  simp only
  split
  · rw [Monitor.settleHistory_history, Monitor.settleHistory_wantsHistory]
  · rfl

/-- The lines of a step are its notes, the checksum if it is due, and what is concluded. -/
theorem step_output (session : Session) :
    ∃ closing,
      session.step.2.monitor.output.toList =
          session.monitor.output.toList ++ session.execute.2.monitor.sentry.notes ++
            session.checksumLine?.toList ++ closing ∧
        ∀ line ∈ closing,
          line = "history enabled" ∨
            line = "history disabled" ∨ ∃ error : StepError, line = "fault: " ++ error.message := by
  obtain ⟨-, -, faults, told, areFaults⟩ :=
    session.execute.2.flush.conclude_spec session.execute.1
  obtain ⟨switches, switched, areSwitches⟩ := session.concluded.2.monitor.settleHistory_output
  have executed : session.execute.2.monitor.output = session.monitor.output := by
    unfold execute
    split <;> rfl
  rw [flush_output, executed] at told
  have whole : session.concluded.2.monitor.output.toList = _ := told
  rw [step_eq, releaseTemporary_of_releases]
  split
  · refine ⟨faults ++ switches, ?_, ?_⟩
    · rw [switched, whole, List.append_assoc]
    · intro line member
      rcases List.mem_append.mp member with isFault | isSwitch
      · exact .inr (.inr (areFaults line isFault))
      · rcases areSwitches line isSwitch with isEnabled | isDisabled
        · exact .inl isEnabled
        · exact .inr (.inl isDisabled)
  · exact ⟨faults, whole, fun line member => .inr (.inr (areFaults line member))⟩

end Session
end Monitor8080
