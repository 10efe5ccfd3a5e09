import Mathlib.Data.List.Nodup
import Monitor8080.Proofs.FetchLogs
namespace Monitor8080

/-!
# The history as a log

Whatever is asked of a history in whatever order, its addresses are the last
ones of a log: of all that was recorded since recording was last begun or the
addresses were last removed. Opcodes are counted since the counts were last
forgotten, also while no addresses are recorded.
-/

namespace History

/-! ## Calls -/

/-- What can be asked of a history. -/
inductive Call where
  | init (isWanted : Bool)
  | record (address : UInt16) (opcode : UInt8)
  | clear
  | forgetFrequencies

/-- The history after a call; recording is not begun without room for the capacity. -/
def afterCall (history : History) : Call → History
  | .init isWanted => history.settle isWanted
  | .record address opcode => history.record address opcode
  | .clear => history.clear
  | .forgetFrequencies => history.forgetFrequencies

/-- The history after some calls. -/
def afterCalls (history : History) (calls : List Call) : History :=
  calls.foldl afterCall history

/-- The log after a call. There is none while nothing is recorded. -/
def Call.log (hasRoom : Bool) (log? : Option (List UInt16)) : Call → Option (List UInt16)
  | .init true => log?.or (if hasRoom then some [] else none)
  | .init false => none
  | .record address _ => log?.map (· ++ [address])
  | .clear => log?.map fun _ => []
  | .forgetFrequencies => log?

/-- The addresses recorded since recording was begun or they were removed, oldest first. -/
def logOf (hasRoom : Bool) (calls : List Call) : Option (List UInt16) :=
  calls.foldl (Call.log hasRoom) none

/-- The opcodes that count after a call. -/
def Call.opcodes (opcodes : List UInt8) : Call → List UInt8
  | .record _ opcode => opcodes ++ [opcode]
  | .forgetFrequencies => []
  | .init _ | .clear => opcodes

/-- The opcodes recorded since the counts were forgotten, oldest first. -/
def opcodesOf (calls : List Call) : List UInt8 :=
  calls.foldl Call.opcodes []

/-! ## What the calls keep -/

/-- A history holds the last addresses of a log and counts some opcodes. -/
structure Logs
    (history : History)
    (log? : Option (List UInt16))
    (opcodes : List UInt8) : Prop where
  recorded : Option.Rel (fun ring log => ring.Traces history.capacity log) history.ring? log?
  counts : ∀ opcode, history.counts.get opcode.toFin = opcodes.count opcode

variable {history : History} {log? : Option (List UInt16)} {opcodes : List UInt8}

/-- No call changes the capacity. -/
@[simp] theorem capacity_afterCall (history : History) (call : Call) :
    (history.afterCall call).capacity = history.capacity := by
  cases call with
  | init isWanted =>
      exact capacity_settle history isWanted
  | record address opcode | clear | forgetFrequencies =>
      rfl

/-- Recording that goes on is not begun anew. -/
theorem settle_of_isOn (on : history.isOn) : history.settle true = history := by
  have same := history.enable_isOn
  rw [on] at same
  unfold settle
  split
  · rfl
  · exact same

namespace Logs

/-- At first nothing is recorded. -/
theorem ofCapacity (capacity : Nat) : (History.ofCapacity capacity).Logs none [] where
  recorded := .none
  counts := counts_get_replicate

theorem isOn (logs : history.Logs log? opcodes) : history.isOn = log?.isSome := by
  obtain ⟨ring?, capacity, capacity_pos, counts⟩ := history
  cases logs.recorded <;> rfl

/-- A log is begun where recording is switched on, and ends where it is switched off. -/
theorem init (logs : history.Logs log? opcodes) (isWanted : Bool) :
    (history.settle isWanted).Logs (Call.log history.hasRoom log? (.init isWanted)) opcodes := by
  refine ⟨?_, fun opcode => by rw [counts_settle, logs.counts]⟩
  rw [capacity_settle]
  obtain ⟨ring?, capacity, capacity_pos, counts⟩ := history
  cases isWanted with
  | false =>
      cases logs.recorded <;> exact .none
  | true =>
      cases logs.recorded with
      | some traces =>
          rw [settle_of_isOn rfl]
          exact .some traces
      | none =>
          by_cases room : hasRoom ⟨none, capacity, capacity_pos, counts⟩
          · simp only [settle, room, Call.log]
            exact .some (.ofSize capacity_pos)
          · simp only [settle, room, Call.log]
            exact .none

/-- One more fetch is in the log, if there is one, and its opcode is counted. -/
theorem record
    (logs : history.Logs log? opcodes)
    (address : UInt16)
    (opcode : UInt8) :
    (history.record address opcode).Logs (log?.map (· ++ [address])) (opcodes ++ [opcode]) where
  recorded := by
    obtain ⟨ring?, capacity, capacity_pos, counts⟩ := history
    cases logs.recorded with
    | some traces =>
        exact .some (traces.record address)
    | none =>
        exact .none
  counts other := by
    have counted := counts_get_recordIf history (some (address, opcode)) other
    rw [List.count_append, ← logs.counts]
    simpa [recordIf, List.count_singleton] using counted

/-- A log that is cleared goes on without what it had. -/
theorem clear (logs : history.Logs log? opcodes) :
    history.clear.Logs (log?.map fun _ => []) opcodes where
  recorded := by
    obtain ⟨ring?, capacity, capacity_pos, counts⟩ := history
    cases logs.recorded with
    | some traces =>
        exact .some traces.clear
    | none =>
        exact .none
  counts := logs.counts

/-- The log stays when the counts are forgotten. -/
theorem forgetFrequencies (logs : history.Logs log? opcodes) :
    history.forgetFrequencies.Logs log? [] where
  recorded := logs.recorded
  counts := counts_get_replicate

/-- A call keeps the log and the opcodes as it says. -/
theorem afterCall (logs : history.Logs log? opcodes) (call : Call) :
    (history.afterCall call).Logs (Call.log history.hasRoom log? call)
      (Call.opcodes opcodes call) := by
  cases call with
  | init isWanted =>
      exact logs.init isWanted
  | record address opcode =>
      exact logs.record address opcode
  | clear =>
      exact logs.clear
  | forgetFrequencies =>
      exact logs.forgetFrequencies

/-- Some calls from a new history on keep the log and the opcodes that they come to. -/
theorem afterCalls (capacity : Nat) (calls : List Call) :
    ((History.ofCapacity capacity).afterCalls calls).capacity = max capacity 1 ∧
      ((History.ofCapacity capacity).afterCalls calls).Logs
        (logOf (History.ofCapacity capacity).hasRoom calls) (opcodesOf calls) := by
  induction calls using List.reverseRecOn with
  | nil =>
      exact ⟨rfl, .ofCapacity capacity⟩
  | append_singleton earlier call inductionHypothesis =>
      obtain ⟨sized, logs⟩ := inductionHypothesis
      have sameRoom :
          ((History.ofCapacity capacity).afterCalls earlier).hasRoom =
            (History.ofCapacity capacity).hasRoom := by
        rw [hasRoom, sized]
        rfl
      have next := logs.afterCall call
      rw [sameRoom] at next
      simp only [History.afterCalls, logOf, opcodesOf, List.foldl_concat]
      exact ⟨(capacity_afterCall _ call).trans sized, next⟩

/-! ## What can be asked -/

/-- As many addresses are held as there are in the log, but no more than the capacity says. -/
theorem length_eq (logs : history.Logs log? opcodes) :
    history.length = min (log?.getD []).length history.capacity := by
  obtain ⟨ring?, capacity, capacity_pos, counts⟩ := history
  cases logs.recorded with
  | some traces =>
      exact traces.length_eq
  | none =>
      exact (Nat.zero_min capacity).symm

/-- Going back goes back in the log, but by no more addresses than are held. -/
theorem entries_eq (logs : history.Logs log? opcodes) (back count : Nat) :
    history.entries back count =
      ((log?.getD []).rtake (min back history.length)).take
        (min count (min back history.length)) := by
  obtain ⟨ring?, capacity, capacity_pos, counts⟩ := history
  cases logs.recorded with
  | some traces =>
      exact traces.entries_eq back count
  | none =>
      simp [History.entries, List.rtake]

end Logs

/-! ## Frequencies -/

/-- No opcode is listed twice. -/
theorem nodup_frequencies (history : History) : (history.frequencies.map Prod.fst).Nodup := by
  have distinct : ((List.finRange 256).map UInt8.ofFin).Nodup :=
    (List.nodup_finRange 256).map fun _ _ same => congrArg UInt8.toFin same
  unfold frequencies
  rw [((List.mergeSort_perm _ _).map Prod.fst).nodup_iff]
  refine (List.filter_sublist.map Prod.fst).nodup ?_
  rw [List.map_map]
  exact distinct

/-- An opcode is listed before those with fewer fetches, and lower ones first. -/
theorem isListedBefore_iff {left right : UInt8 × Nat} :
    isListedBefore left right = true ↔
      right.2 < left.2 ∨ left.2 = right.2 ∧ left.1 ≤ right.1 := by
  simp only [isListedBefore, Bool.or_eq_true, Bool.and_eq_true, decide_eq_true_eq, beq_iff_eq]

theorem isListedBefore_trans
    (first second third : UInt8 × Nat)
    (one : isListedBefore first second = true)
    (other : isListedBefore second third = true) :
    isListedBefore first third = true := by
  rw [isListedBefore_iff] at one other ⊢
  rcases one with more | ⟨same, ordered⟩
  · rcases other with moreStill | ⟨same, -⟩
    · exact .inl (Nat.lt_trans moreStill more)
    · exact .inl (same ▸ more)
  · rcases other with more | ⟨sameStill, orderedStill⟩
    · exact .inl (same ▸ more)
    · exact .inr ⟨same.trans sameStill, UInt8.le_trans ordered orderedStill⟩

theorem isListedBefore_total (left right : UInt8 × Nat) :
    (isListedBefore left right || isListedBefore right left) = true := by
  rw [Bool.or_eq_true, isListedBefore_iff, isListedBefore_iff]
  rcases Nat.lt_trichotomy left.2 right.2 with fewer | same | more
  · exact .inr (.inl fewer)
  · rcases UInt8.le_total left.1 right.1 with ordered | ordered
    · exact .inl (.inr ⟨same, ordered⟩)
    · exact .inr (.inr ⟨same.symm, ordered⟩)
  · exact .inl (.inl more)

/-- Of two listed opcodes the one in front was recorded more often, or as often and is lower. -/
theorem pairwise_frequencies (history : History) :
    history.frequencies.Pairwise fun left right =>
      right.2 < left.2 ∨ left.2 = right.2 ∧ left.1 < right.1 := by
  have sorted : history.frequencies.Pairwise (isListedBefore · ·) :=
    List.pairwise_mergeSort isListedBefore_trans isListedBefore_total _
  refine (sorted.and (List.pairwise_map.mp history.nodup_frequencies)).imp ?_
  rintro left right ⟨before, different⟩
  rw [isListedBefore_iff] at before
  exact before.imp_right fun ⟨same, ordered⟩ => ⟨same, UInt8.lt_of_le_of_ne ordered different⟩

/--
Whatever the capacity and whatever was asked of a history, it holds the last
addresses of the log, at least one if there are any, and shows any stretch of
them, oldest first. Recording that is on is not begun anew. Each opcode recorded
since the counts were forgotten is listed once with its count, the most frequent
first and the lower one first among those as frequent.
-/
theorem history_is_a_bounded_log (capacity : Nat) (calls : List Call) :
    let history := (ofCapacity capacity).afterCalls calls
    let log? := logOf (ofCapacity capacity).hasRoom calls
    let log := log?.getD []
    history.isOn = log?.isSome ∧
      history.length = min log.length (max capacity 1) ∧
      (∀ back count,
        let reach := min back history.length
        history.entries back count = (log.rtake reach).take (min count reach)) ∧
      (history.isOn → history.afterCall (.init true) = history) ∧
      (∀ opcode count,
        (opcode, count) ∈ history.frequencies ↔
          opcode ∈ opcodesOf calls ∧ count = (opcodesOf calls).count opcode) ∧
      (history.frequencies.map Prod.fst).Nodup ∧
      history.frequencies.Pairwise fun left right =>
        right.2 < left.2 ∨ left.2 = right.2 ∧ left.1 < right.1 := by
  intro history log? log
  obtain ⟨sized, logs⟩ := Logs.afterCalls capacity calls
  refine ⟨logs.isOn, ?_, logs.entries_eq, settle_of_isOn, ?_, history.nodup_frequencies,
    history.pairwise_frequencies⟩
  · rw [← sized]
    exact logs.length_eq
  · intro opcode count
    rw [mem_frequencies, logs.counts, ← List.count_pos_iff]
    constructor
    · rintro ⟨rfl, counted⟩
      exact ⟨counted, rfl⟩
    · rintro ⟨counted, rfl⟩
      exact ⟨rfl, counted⟩

end History
end Monitor8080
