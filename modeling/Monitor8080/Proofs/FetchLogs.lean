import Monitor8080.Proofs.AddressRings
import Monitor8080.Proofs.Annals
namespace Monitor8080

/-!
# Logs of the fetches

Three logs are kept of the fetches that are checked and not refused: the last
addresses, how often each opcode was fetched, and a checksum. Each log tells of
the fetches since it was last begun anew, by whatever steps they were made.
-/

/-! ## The last addresses -/

namespace History

variable {history : History}

/-- A fetch is recorded in the ring, if there is one. -/
theorem ring?_recordIf (history : History) (fetched? : Option (UInt16 × UInt8)) :
    (history.recordIf fetched?).ring? = history.ring?.map (·.recordIf fetched?) := by
  cases fetched? with
  | none =>
      exact Option.map_id'.symm
  | some fetch =>
      rfl

/-- Settling keeps the addresses or begins without any. -/
theorem ring?_settle
    {isWanted : Bool}
    {ring : AddressRing}
    (recorded : (history.settle isWanted).ring? = some ring) :
    history.ring? = some ring ∨ (history.ring? = none ∧ ring.Traces history.capacity []) := by
  unfold settle at recorded
  split at recorded
  · exact .inl recorded
  · cases isWanted with
    | true =>
        cases before : history.ring? with
        | some earlier =>
            simp only [enable, before] at recorded
            exact .inl recorded
        | none =>
            simp only [enable, before] at recorded
            cases recorded
            exact .inr ⟨rfl, .ofSize history.capacity_pos⟩
    | false =>
        cases before : history.ring? with
        | some earlier =>
            simp only [enable, before] at recorded
            cases recorded
        | none =>
            simp only [enable, before] at recorded
            cases recorded

/-- Upkeep keeps the addresses or begins without any, unless it removes them. -/
theorem ring?_upkeep
    {upkeep : Upkeep}
    {isWanted : Bool}
    {ring : AddressRing}
    (uncleared : upkeep ≠ .clear)
    (recorded : (upkeep.history isWanted history).ring? = some ring) :
    history.ring? = some ring ∨ (history.ring? = none ∧ ring.Traces history.capacity []) := by
  cases upkeep with
  | settle =>
      exact ring?_settle recorded
  | restart interval =>
      exact ring?_settle recorded
  | clear =>
      exact absurd rfl uncleared
  | forget =>
      exact .inl recorded
  | keep =>
      exact .inl recorded

/-- The entries of a history are the last addresses that its ring traces. -/
theorem entries_of_traces
    {ring : AddressRing}
    {addresses : List UInt16}
    (recorded : history.ring? = some ring)
    (traces : ring.Traces history.capacity addresses) :
    history.entries history.capacity history.capacity = addresses.rtake history.capacity := by
  have reach : min history.capacity ring.length = min history.capacity addresses.length := by
    rw [traces.length_eq]
    omega
  have whole :
      addresses.rtake (min history.capacity addresses.length) =
        addresses.rtake history.capacity := by
    rw [List.rtake_eq_reverse_take_reverse, List.rtake_eq_reverse_take_reverse,
      ← List.length_reverse, ← List.take_eq_take_min]
  have short :
      (addresses.rtake history.capacity).length ≤ min history.capacity addresses.length := by
    rw [List.rtake, List.length_drop]
    omega
  rw [entries, recorded]
  refine (traces.entries_eq _ _).trans ?_
  rw [reach, Nat.min_eq_right (Nat.min_le_left _ _), whole, List.take_of_length_le short]

/-! ## How often opcodes were fetched -/

theorem counts_get_eq_getElem (counts : Vector Nat 256) (index : Fin 256) :
    counts.get index = counts[index] :=
  rfl

/-- A fetch counts for its opcode and for no other one. -/
theorem counts_get_recordIf
    (history : History)
    (fetched? : Option (UInt16 × UInt8))
    (opcode : UInt8) :
    (history.recordIf fetched?).counts.get opcode.toFin =
      history.counts.get opcode.toFin + fetched?.toList.countP (·.2 = opcode) := by
  cases fetched? with
  | none =>
      rfl
  | some fetch =>
      obtain ⟨address, fetched⟩ := fetch
      simp only [recordIf, record, counts_get_eq_getElem, Fin.getElem_fin, UInt8.toFin_val, Vector.getElem_set,
        UInt8.toNat_inj, Option.toList_some, List.countP_singleton, decide_eq_true_eq]
      by_cases same : fetched = opcode
      · subst same
        simp only [↓reduceIte]
      · simp only [same, ↓reduceIte, Nat.add_zero]

theorem counts_get_replicate (opcode : UInt8) :
    (Vector.replicate 256 0 : Vector Nat 256).get opcode.toFin = 0 := by
  rw [counts_get_eq_getElem, Fin.getElem_fin, Vector.getElem_replicate]

/-- The opcodes that were counted are listed, each with its count. -/
theorem mem_frequencies {opcode : UInt8} {count : Nat} :
    (opcode, count) ∈ history.frequencies ↔
      count = history.counts.get opcode.toFin ∧ 0 < count := by
  rw [frequencies, List.mem_mergeSort, List.mem_filter, List.mem_map]
  constructor
  · rintro ⟨⟨index, -, named⟩, counted⟩
    cases named
    exact ⟨rfl, of_decide_eq_true counted⟩
  · rintro ⟨rfl, counted⟩
    exact ⟨⟨opcode.toFin, List.mem_finRange _, rfl⟩, decide_eq_true counted⟩

end History

/-! ## The checksum -/

namespace Checksum

/-- What some fetches come to. -/
def ofFetches (fetches : List (UInt16 × UInt8)) : UInt32 :=
  fetches.foldl (fun value fetch => mix value fetch.1 fetch.2) 0

/-- The checksum for an interval, after some fetches and with nothing left to show. -/
def after (interval : Nat) (fetches : List (UInt16 × UInt8)) : Checksum :=
  if interval = 0 then
    ofInterval 0
  else
    ⟨interval, fetches.length % interval, ofFetches fetches, false⟩

/-- What is shown for an interval of some fetches: what each multiple of the interval comes to. -/
def shownOf (interval : Nat) (fetches : List (UInt16 × UInt8)) : List UInt32 :=
  (List.range (fetches.length / interval)).map fun index =>
    ofFetches (fetches.take ((index + 1) * interval))

/-- The value if it is to be shown. -/
def shown? (checksum : Checksum) : Option UInt32 :=
  if checksum.isDue then some checksum.value else none

variable {interval : Nat}

/-- A checksum with no fetches is at its beginning. -/
theorem after_nil (interval : Nat) : after interval [] = ofInterval interval := by
  by_cases never : interval = 0
  · subst never
    rfl
  · rw [after, if_neg never, List.length_nil, Nat.zero_mod]
    rfl

theorem shownOf_nil (interval : Nat) : shownOf interval [] = [] := by
  rw [shownOf, List.length_nil, Nat.zero_div]
  rfl

/-- One more fetch is mixed into the checksum of those before it. -/
theorem ofFetches_concat (fetches : List (UInt16 × UInt8)) (fetch : UInt16 × UInt8) :
    ofFetches (fetches ++ [fetch]) = mix (ofFetches fetches) fetch.1 fetch.2 :=
  List.foldl_concat ..

/-- One more fetch is shown exactly if it completes an interval. -/
theorem record_after
    (positive : 0 < interval)
    (fetches : List (UInt16 × UInt8))
    (fetch : UInt16 × UInt8) :
    (after interval fetches).record fetch.1 fetch.2 =
      { after interval (fetches ++ [fetch]) with
        isDue := decide (interval ∣ (fetches ++ [fetch]).length) } := by
  have nonzero : interval ≠ 0 := Nat.ne_of_gt positive
  have below := Nat.mod_lt fetches.length positive
  have next : (fetches ++ [fetch]).length % interval = (fetches.length % interval + 1) % interval := by
    rw [List.length_append, List.length_singleton, Nat.mod_add_mod]
  simp only [after, if_neg nonzero, record, ofFetches_concat, Nat.dvd_iff_mod_eq_zero, next]
  split
  · rename_i complete
    have full : fetches.length % interval + 1 = interval := by omega
    simp [full]
  · rename_i incomplete
    rw [Nat.mod_eq_of_lt (Nat.lt_of_not_le incomplete)]
    simp

/-- A checksum goes on with the next fetch, and is due after so many as its interval says. -/
theorem recordIf_after
    (interval : Nat)
    (fetches : List (UInt16 × UInt8))
    (fetched? : Option (UInt16 × UInt8)) :
    { (after interval fetches).recordIf fetched? with isDue := false } =
      after interval (fetches ++ fetched?.toList) := by
  cases fetched? with
  | none =>
      rw [Option.toList_none, List.append_nil, recordIf, after]
      split <;> rfl
  | some fetch =>
      rcases Nat.eq_zero_or_pos interval with rfl | positive
      · rfl
      · rw [recordIf, record_after positive, Option.toList_some, after,
          if_neg (Nat.ne_of_gt positive)]

/-- With one more fetch one more value is shown, if the fetch completes an interval. -/
theorem shownOf_concat
    (positive : 0 < interval)
    (fetches : List (UInt16 × UInt8))
    (fetch : UInt16 × UInt8) :
    shownOf interval (fetches ++ [fetch]) =
      shownOf interval fetches ++
        if interval ∣ (fetches ++ [fetch]).length then [ofFetches (fetches ++ [fetch])] else [] := by
  have earlier :
      ∀ index ∈ List.range (fetches.length / interval),
        ofFetches ((fetches ++ [fetch]).take ((index + 1) * interval)) =
          ofFetches (fetches.take ((index + 1) * interval)) := by
    intro index member
    have within : (index + 1) * interval ≤ fetches.length :=
      (Nat.le_div_iff_mul_le positive).mp (List.mem_range.mp member)
    rw [List.take_append_of_le_length within]
  unfold shownOf
  split
  · rename_i complete
    have more : (fetches ++ [fetch]).length / interval = fetches.length / interval + 1 := by
      rw [List.length_append, List.length_singleton] at complete ⊢
      exact Nat.succ_div_of_dvd complete
    have all : (fetches.length / interval + 1) * interval = (fetches ++ [fetch]).length := by
      rw [← more]
      exact Nat.div_mul_cancel complete
    rw [more, List.range_succ, List.map_append, List.map_congr_left earlier, List.map_singleton,
      all, List.take_length]
  · rename_i incomplete
    have same : (fetches ++ [fetch]).length / interval = fetches.length / interval := by
      rw [List.length_append, List.length_singleton] at incomplete ⊢
      exact Nat.succ_div_of_not_dvd incomplete
    rw [same, List.map_congr_left earlier, List.append_nil]

/-- What is shown after a fetch, if there is one, is what more is shown of all the fetches. -/
theorem shownOf_append
    (interval : Nat)
    (fetches : List (UInt16 × UInt8))
    (fetched? : Option (UInt16 × UInt8)) :
    shownOf interval (fetches ++ fetched?.toList) =
      shownOf interval fetches ++ ((after interval fetches).recordIf fetched?).shown?.toList := by
  cases fetched? with
  | none =>
      have quiet : ((after interval fetches).recordIf none).shown? = none := by
        rw [recordIf, after]
        split <;> rfl
      rw [quiet, Option.toList_none, List.append_nil]
      exact (List.append_nil _).symm
  | some fetch =>
      rcases Nat.eq_zero_or_pos interval with rfl | positive
      · simp [shownOf, after, recordIf, record, ofInterval, shown?]
      · rw [Option.toList_some, shownOf_concat positive, recordIf, record_after positive, shown?,
          after, if_neg (Nat.ne_of_gt positive)]
        by_cases complete : interval ∣ (fetches ++ [fetch]).length
        · rw [if_pos complete, decide_eq_true complete]
          rfl
        · rw [if_neg complete, decide_eq_false complete]
          rfl

end Checksum

/-! ## What annals tell of the logs -/

namespace Session

variable (session : Session)

/-- The checksum that a step shows, if it shows it. -/
def shown? : Option UInt32 :=
  (session.monitor.sentry.checksum.recordIf session.fetched?).shown?

/-- The line of a checksum shows the value that a step completed. -/
theorem checksumLine?_eq :
    session.checksumLine? =
      session.shown?.map fun value =>
        "checksum " ++ Text.hexPadded 8 value.toNat ++ " at cycle " ++
          toString session.execute.2.machine.cpu.cycles := by
  rw [checksumLine?, session.execute_logs.2, shown?, Checksum.shown?]
  split <;> rfl

end Session

namespace Entry

/-- The fetch that is recorded, if any is. -/
def fetched? (entry : Entry) : Option (UInt16 × UInt8) :=
  match entry.upkeep? with
  | some _ => none
  | none => entry.before.fetched?

/-- The interval with which the checksum starts over, if it does. -/
def interval? (entry : Entry) : Option Nat :=
  match entry.upkeep? with
  | some (.restart interval) => some interval
  | _ => none

/-- The checksum that is shown, if any is. -/
def shown? (entry : Entry) : Option UInt32 :=
  match entry.upkeep? with
  | some _ => none
  | none => entry.before.shown?

/-- Whether addresses are recorded anew: they were not before, or they were removed. -/
def beginsRing (entry : Entry) : Bool :=
  entry.upkeep? = some .clear ||
    (!entry.before.monitor.sentry.history.isOn && entry.after.monitor.sentry.history.isOn)

/-- Whether opcodes are counted anew. -/
def beginsCounts (entry : Entry) : Bool :=
  entry.upkeep? = some .forget

/-- Whether the checksum starts over. -/
def beginsChecksum (entry : Entry) : Bool :=
  entry.interval?.isSome

end Entry

section Since

variable {α : Type} {begins : Entry → Bool} {tells? : Entry → Option α}

/-- What entries tell since the last of them that begins anew. -/
def since (begins : Entry → Bool) (tells? : Entry → Option α) (entries : List Entry) : List α :=
  (entries.rtakeWhile (!begins ·)).filterMap tells?

/-- Where an entry begins anew, nothing is told since. -/
theorem since_concat_of_begins
    {entry : Entry}
    (entries : List Entry)
    (anew : begins entry) :
    since begins tells? (entries ++ [entry]) = [] := by
  rw [since, List.rtakeWhile_concat_neg _ _ _ (by simp [anew])]
  rfl

/-- Where an entry goes on, what it tells comes after what was told since. -/
theorem since_concat_of_not_begins
    {entry : Entry}
    (entries : List Entry)
    (goesOn : begins entry = false) :
    since begins tells? (entries ++ [entry]) =
      since begins tells? entries ++ (tells? entry).toList := by
  rw [since, List.rtakeWhile_concat_pos _ _ _ (by simp [goesOn]), List.filterMap_append, since]
  cases told : tells? entry with
  | none =>
      rw [List.filterMap_cons_none told]
      rfl
  | some value =>
      rw [List.filterMap_cons_some told]
      rfl

end Since

/-- The interval with which the checksum last started over; zero if it never did. -/
def lastInterval (entries : List Entry) : Nat :=
  (entries.filterMap Entry.interval?).getLastD 0

/-- The last interval is the one that was set last. -/
theorem lastInterval_concat (entries : List Entry) (entry : Entry) :
    lastInterval (entries ++ [entry]) = entry.interval?.getD (lastInterval entries) := by
  rw [lastInterval, List.filterMap_append]
  cases told : entry.interval? with
  | none =>
      rw [List.filterMap_cons_none told, List.filterMap_nil, List.append_nil]
      rfl
  | some interval =>
      rw [List.filterMap_cons_some told, List.filterMap_nil, List.getLastD_concat]
      rfl

namespace Session

/-- The logs of a session hold what annals tell. -/
structure KeepsLogs (capacity : Nat) (entries : List Entry) (session : Session) : Prop where
  sized : session.monitor.sentry.history.capacity = capacity
  ring :
    ∀ ring,
      session.monitor.sentry.history.ring? = some ring →
        ring.Traces capacity ((since Entry.beginsRing Entry.fetched? entries).map Prod.fst)
  counts :
    ∀ opcode : UInt8,
      session.monitor.sentry.history.counts.get opcode.toFin =
        (since Entry.beginsCounts Entry.fetched? entries).countP (·.2 = opcode)
  checksum :
    session.monitor.sentry.checksum =
      .after (lastInterval entries) (since Entry.beginsChecksum Entry.fetched? entries)
  shown :
    since Entry.beginsChecksum Entry.shown? entries =
      Checksum.shownOf (lastInterval entries) (since Entry.beginsChecksum Entry.fetched? entries)

namespace KeepsLogs

variable {capacity : Nat} {entries : List Entry} {session : Session}

/-- Addresses go on being recorded, or are recorded anew, unless they are removed. -/
theorem ring_concat
    (entry : Entry)
    (keeps : entry.before.KeepsLogs capacity entries)
    (uncleared : entry.upkeep? ≠ some .clear)
    (goesOn :
      ∀ ring,
        entry.after.monitor.sentry.history.ring? = some ring →
          let recorded := entry.before.monitor.sentry.history.recordIf entry.fetched?
          recorded.ring? = some ring ∨ (recorded.ring? = none ∧ ring.Traces recorded.capacity [])) :
    ∀ ring,
      entry.after.monitor.sentry.history.ring? = some ring →
        ring.Traces capacity
          ((since Entry.beginsRing Entry.fetched? (entries ++ [entry])).map Prod.fst) := by
  intro ring recorded
  have tells := goesOn ring recorded
  simp only [History.ring?_recordIf] at tells
  rcases tells with continued | ⟨nothing, begun⟩
  · obtain ⟨earlier, before, rfl⟩ := Option.map_eq_some_iff.mp continued
    have goesOn : entry.beginsRing = false := by
      simp [Entry.beginsRing, History.isOn, uncleared, before]
    rw [since_concat_of_not_begins entries goesOn, List.map_append]
    exact (keeps.ring earlier before).recordIf entry.fetched?
  · have anew : entry.beginsRing := by
      simp [Entry.beginsRing, History.isOn, Option.map_eq_none_iff.mp nothing, recorded]
    rw [since_concat_of_begins entries anew]
    rwa [History.capacity_recordIf, keeps.sized] at begun

/-- A step keeps the logs, with one more entry. -/
theorem step (keeps : session.KeepsLogs capacity entries) :
    session.step.2.KeepsLogs capacity (entries ++ [⟨session, none, session.step.2⟩]) := by
  let entry : Entry := ⟨session, none, session.step.2⟩
  let recorded := session.monitor.sentry.history.recordIf session.fetched?
  have history :
      session.step.2.monitor.sentry.history = recorded ∨
        ∃ isWanted, session.step.2.monitor.sentry.history = recorded.settle isWanted := by
    rw [step_history]
    simp only
    split
    · exact .inr ⟨_, rfl⟩
    · exact .inl rfl
  have countsGoOn : entry.beginsCounts = false := rfl
  have checksumGoesOn : entry.beginsChecksum = false := rfl
  refine ⟨?_, ?_, ?_, ?_, ?_⟩
  · rcases history with same | ⟨isWanted, settled⟩
    · rw [same, History.capacity_recordIf, keeps.sized]
    · rw [settled, History.capacity_settle, History.capacity_recordIf, keeps.sized]
  · refine ring_concat entry keeps nofun fun ring recorded => ?_
    rcases history with same | ⟨isWanted, settled⟩
    · rw [same] at recorded
      exact .inl recorded
    · rw [settled] at recorded
      exact History.ring?_settle recorded
  · intro opcode
    have counted : session.step.2.monitor.sentry.history.counts = recorded.counts := by
      rcases history with same | ⟨isWanted, settled⟩
      · rw [same]
      · rw [settled, History.counts_settle]
    rw [counted, History.counts_get_recordIf, keeps.counts,
      since_concat_of_not_begins entries countsGoOn, List.countP_append]
    rfl
  · rw [step_checksum, keeps.checksum, Checksum.recordIf_after, lastInterval_concat,
      since_concat_of_not_begins entries checksumGoesOn]
    rfl
  · rw [since_concat_of_not_begins entries checksumGoesOn,
      since_concat_of_not_begins entries checksumGoesOn, lastInterval_concat, keeps.shown]
    have shown :
        entry.shown? =
          ((Checksum.after (lastInterval entries)
            (since Entry.beginsChecksum Entry.fetched? entries)).recordIf
              session.fetched?).shown? := by
      rw [← keeps.checksum]
      rfl
    rw [shown]
    exact (Checksum.shownOf_append _ _ _).symm

section Upkeeps

variable {after : Session} {upkeep : Upkeep}

/-- Upkeep leaves the ring with the addresses since it was begun. -/
theorem ring_maintains
    (keeps : session.KeepsLogs capacity entries)
    (maintains : session.Maintains upkeep after) :
    ∀ ring,
      after.monitor.sentry.history.ring? = some ring →
        ring.Traces capacity
          ((since Entry.beginsRing Entry.fetched?
            (entries ++ [⟨session, some upkeep, after⟩])).map Prod.fst) := by
  let entry : Entry := ⟨session, some upkeep, after⟩
  by_cases cleared : upkeep = .clear
  · subst cleared
    intro ring recorded
    rw [maintains.history] at recorded
    obtain ⟨earlier, before, rfl⟩ := Option.map_eq_some_iff.mp recorded
    rw [since_concat_of_begins entries rfl]
    exact (keeps.ring earlier before).clear
  · have uncleared : entry.upkeep? ≠ some .clear := fun same => cleared (Option.some.inj same)
    refine ring_concat entry keeps uncleared fun ring recorded => ?_
    have became := maintains.history
    rw [became] at recorded
    exact History.ring?_upkeep cleared recorded

/-- Upkeep leaves the counts with the opcodes since they were forgotten. -/
theorem counts_maintains
    (keeps : session.KeepsLogs capacity entries)
    (maintains : session.Maintains upkeep after)
    (opcode : UInt8) :
    after.monitor.sentry.history.counts.get opcode.toFin =
      (since Entry.beginsCounts Entry.fetched?
        (entries ++ [⟨session, some upkeep, after⟩])).countP (·.2 = opcode) := by
  let entry : Entry := ⟨session, some upkeep, after⟩
  rw [maintains.history]
  by_cases forgotten : upkeep = .forget
  · subst forgotten
    rw [since_concat_of_begins entries rfl]
    exact History.counts_get_replicate opcode
  · have goesOn : entry.beginsCounts = false := by simp [entry, Entry.beginsCounts, forgotten]
    rw [Upkeep.counts_history _ _ forgotten, keeps.counts, since_concat_of_not_begins entries goesOn]
    exact congrArg _ (List.append_nil _).symm

/-- Upkeep keeps the logs, with one more entry. -/
theorem maintains
    (keeps : session.KeepsLogs capacity entries)
    (maintains : session.Maintains upkeep after) :
    after.KeepsLogs capacity (entries ++ [⟨session, some upkeep, after⟩]) := by
  let entry : Entry := ⟨session, some upkeep, after⟩
  have sized : after.monitor.sentry.history.capacity = capacity := by
    rw [maintains.history, Upkeep.capacity_history, keeps.sized]
  by_cases restarts : ∃ interval, upkeep = .restart interval
  · obtain ⟨interval, rfl⟩ := restarts
    refine ⟨sized, keeps.ring_maintains maintains, keeps.counts_maintains maintains, ?_, ?_⟩
    · rw [maintains.checksum, lastInterval_concat, since_concat_of_begins entries rfl,
        Checksum.after_nil]
      rfl
    · rw [since_concat_of_begins entries rfl, since_concat_of_begins entries rfl]
      exact (Checksum.shownOf_nil _).symm
  · have uninterrupted : entry.interval? = none := by
      cases upkeep with
      | restart interval =>
          exact absurd ⟨interval, rfl⟩ restarts
      | _ =>
          rfl
    have continues : entry.beginsChecksum = false := by
      rw [Entry.beginsChecksum, uninterrupted, Option.isSome_none]
    have same : upkeep.checksum session.monitor.sentry.checksum = session.monitor.sentry.checksum :=
      upkeep.checksum_eq_self _ fun interval restart => restarts ⟨interval, restart⟩
    refine ⟨sized, keeps.ring_maintains maintains, keeps.counts_maintains maintains, ?_, ?_⟩
    · rw [maintains.checksum, same, keeps.checksum, lastInterval_concat, uninterrupted,
        since_concat_of_not_begins entries continues]
      exact congrArg _ (List.append_nil _).symm
    · rw [since_concat_of_not_begins entries continues,
        since_concat_of_not_begins entries continues, lastInterval_concat, uninterrupted,
        keeps.shown]
      have unfetched :
          since Entry.beginsChecksum Entry.fetched? entries ++ entry.fetched?.toList =
            since Entry.beginsChecksum Entry.fetched? entries :=
        List.append_nil _
      rw [unfetched]
      exact List.append_nil _

end Upkeeps

/-- A fresh session has logs without entries. -/
theorem fresh (config : Config) (machine : Machine) :
    (fresh config machine).KeepsLogs (History.ofCapacity config.historyCapacity).capacity [] := by
  have settled := fresh_history config machine
  refine ⟨?_, ?_, ?_, ?_, rfl⟩
  · rw [settled, History.capacity_settle]
  · intro ring recorded
    rw [settled] at recorded
    rcases History.ring?_settle recorded with nothing | ⟨-, begun⟩
    · cases nothing
    · exact begun
  · intro opcode
    rw [settled, History.counts_settle]
    exact History.counts_get_replicate opcode
  · exact (Monitor.settleHistory_records _).checksum

/-- Whatever is done, the logs hold what the annals tell. -/
theorem annals
    {first last : Session}
    (annals : Annals first entries last)
    (keeps : first.KeepsLogs capacity []) :
    last.KeepsLogs capacity entries := by
  induction annals with
  | nil =>
      exact keeps
  | step earlier inductionHypothesis =>
      exact inductionHypothesis.step
  | upkeep earlier maintains inductionHypothesis =>
      exact inductionHypothesis.maintains maintains

end KeepsLogs

end Session

/--
After whatever operators and hosts do, and after each step of it, the recorded
addresses are the last of the fetches since they were begun anew, the opcodes
are counted over the fetches since the counts were forgotten, and the checksum
was shown once for every so many fetches since it started over, each time by a
line that the step prints. A step whose fetch is refused and one that fetches
nothing leave the logs alone, but for settling the history when a temporary
breakpoint is reached.
-/
theorem logs_hold_the_checked_fetches (config : Config) (machine : Machine) :
    (∀ dealings,
      ∃ entries,
        Annals (.fresh config machine) entries ((Session.fresh config machine).dealAll dealings)) ∧
      ∀ entries session,
        Annals (.fresh config machine) entries session →
          let capacity := max config.historyCapacity 1
          let history := session.monitor.sentry.history
          let summed := since Entry.beginsChecksum Entry.fetched? entries
          (history.isOn →
            history.entries capacity capacity =
              ((since Entry.beginsRing Entry.fetched? entries).map Prod.fst).rtake capacity) ∧
            (∀ opcode count,
              (opcode, count) ∈ history.frequencies ↔
                count =
                    (since Entry.beginsCounts Entry.fetched? entries).countP (·.2 = opcode) ∧
                  0 < count) ∧
            since Entry.beginsChecksum Entry.shown? entries =
              Checksum.shownOf (lastInterval entries) summed ∧
            (∃ notes closing,
              session.step.2.monitor.output.toList =
                  session.monitor.output.toList ++ notes ++
                    (session.shown?.map fun value =>
                      "checksum " ++ Text.hexPadded 8 value.toNat ++ " at cycle " ++
                        toString session.execute.2.machine.cpu.cycles).toList ++
                    closing ∧
                (∀ line ∈ notes,
                  ∃ direction port byte, line = PortDirection.note direction port byte) ∧
                ∀ line ∈ closing,
                  line = "history enabled" ∨
                    line = "history disabled" ∨
                      ∃ error : StepError, line = "fault: " ++ error.message) ∧
            (session.fetchCheck.1.isSome ∨ session.machine.cpu.isFetching = false →
              session.fetched? = none ∧
                session.step.2.monitor.sentry.checksum = session.monitor.sentry.checksum ∧
                session.step.2.monitor.sentry.history =
                  if session.step.1.releasesTemporary then
                    history.settle session.step.2.monitor.wantsHistory
                  else
                    history) := by
  refine ⟨fun dealings => Session.dealAll_endures _ dealings, fun entries session annals => ?_⟩
  have tidy := annals.tidy (Session.fresh_tidy config machine)
  have keeps := Session.KeepsLogs.annals annals (.fresh config machine)
  refine ⟨?_, ?_, keeps.shown, ?_, ?_⟩
  · intro isOn
    obtain ⟨ring, recorded⟩ := Option.isSome_iff_exists.mp isOn
    have sized : session.monitor.sentry.history.capacity = max config.historyCapacity 1 :=
      keeps.sized
    have traces := keeps.ring ring recorded
    rw [← keeps.sized] at traces
    rw [← sized]
    exact History.entries_of_traces recorded traces
  · intro opcode count
    rw [History.mem_frequencies, keeps.counts]
  · obtain ⟨closing, printed, closes⟩ := session.step_output
    rw [Session.checksumLine?_eq] at printed
    refine ⟨_, closing, printed, fun line member => ?_, closes⟩
    rcases session.execute_notes line member with earlier | noted
    · rw [tidy.noted] at earlier
      cases earlier
    · exact noted
  · intro unrecorded
    have unfetched : session.fetched? = none := by
      rcases unrecorded with refused | unfetching
      · obtain ⟨hit, refused⟩ := Option.isSome_iff_exists.mp refused
        exact Session.fetched?_of_refused refused
      · exact Session.fetched?_of_not_isFetching unfetching
    refine ⟨unfetched, ?_, ?_⟩
    · rw [Session.step_checksum, unfetched, Checksum.recordIf, ← tidy.shown]
    · rw [Session.step_history, unfetched]
      rfl

/-- Two fetches of no operation leave their addresses and their count. -/
theorem two_fetches_are_logged :
    let session := Session.fresh { Config.default with alwaysRecordHistory := true } .initial
    session.step.2.step.2.monitor.sentry.history.entries 1024 1024 = [0, 1] ∧
      ((0 : UInt8), 2) ∈ session.step.2.step.2.monitor.sentry.history.frequencies := by
  intro session
  have annals : Annals session _ session.step.2.step.2 := .step (.step .nil)
  obtain ⟨-, held⟩ :=
    logs_hold_the_checked_fetches { Config.default with alwaysRecordHistory := true } .initial
  obtain ⟨entries, frequencies, -⟩ := held _ _ annals
  have isOn : session.step.2.step.2.monitor.sentry.history.isOn := by decide +kernel
  refine ⟨(entries isOn).trans ?_, (frequencies 0 2).mpr ?_⟩
  · decide +kernel
  · decide +kernel

/-- The fetch that reaches the last temporary breakpoint is refused, and all addresses go. -/
theorem refused_fetch_drops_history :
    let session :=
      (Session.fresh .default .initial).dealAll
        [.call (.place .exec (.temporary 1)), .call (.request .step)]
    session.fetchCheck.1.isSome ∧
      session.monitor.sentry.history.entries 1024 1024 = [0] ∧
        session.step.2.monitor.sentry.history.entries 1024 1024 = [] := by
  decide +kernel

end Monitor8080
