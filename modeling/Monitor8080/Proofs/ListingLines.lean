import Monitor8080.Proofs.RangeListings
import Monitor8080.Proofs.ScriptSimulation
import Monitor8080.Proofs.WordArithmetic
namespace Monitor8080

/-!
# Lines that list a range

A line with a single listing looks up a symbol at each instruction before it
shows it. Where the end of a group of symbols is no word, it is cut off at the
first instruction whose lookup comes to it: the ones before are shown, and the
next listing starts where this one did. Otherwise all of the range is shown.
-/

open Operation

/-! ## Lines of one command -/

/-- The command is all there is in a line. -/
def Command.IsOnlyIn (command : Command) (line : String) : Prop :=
  ∃ text, Text.commandsOf (Text.trim line) = [text] ∧ Command.parse text = .ok command

namespace Session

section OneCommand

variable {command : Command} {line : String} (only : command.IsOnlyIn line)
variable (notIf : ∀ condition, command = .ifTrue condition → False)
variable (notElse : command = .orElse → False)

include only

theorem isEmpty_trim_of_isOnlyIn : (Text.trim line).isEmpty = false := by
  obtain ⟨text, single, -⟩ := only
  rw [Bool.eq_false_iff]
  intro empty
  rw [String.isEmpty_iff.mp empty] at single
  cases single

include notIf notElse

/-- A line of one command is cut off where the command is. -/
theorem cutoff?_of_isOnlyIn (session : Session) :
    session.cutoff? line =
      command.cutoff? Run.outermost Run.outermostCutoff?
        (session.recordLine (Text.trim line)) := by
  have written := isEmpty_trim_of_isOnlyIn only
  obtain ⟨text, single, parsed⟩ := only
  simp only [cutoff?, written, single, Script.cutoff?, Script.search_of_command parsed notIf notElse,
    Bool.false_eq_true, if_false]
  cases (Operation.execute Run.outermost command).run (session.recordLine (Text.trim line)) with
  | mk result after =>
      cases result <;> simp [Script.search]

/-- A line of one command does what the command does. -/
theorem obey_of_isOnlyIn
    {session after : Session}
    (ran :
      (Operation.execute Run.outermost command).run (session.recordLine (Text.trim line)) =
        (.ok (), after)) :
    session.obey line = (true, after) := by
  have written := isEmpty_trim_of_isOnlyIn only
  obtain ⟨text, single, parsed⟩ := only
  have executed :
      Script.execute Run.outermost [text] (session.recordLine (Text.trim line)) =
        (.completed, after) := by
    rw [Script.execute_of_command parsed notIf notElse, ran]
    simp only [Script.execute]
  simp only [obey, written, single, executed, Bool.false_eq_true, if_false]

end OneCommand

/-! ## Addresses that are looked up -/

variable {session : Session}

/-- What is listed does not depend on what was printed. -/
theorem listedAt_printAll (lines : List String) (address : UInt16) :
    (session.updateMonitor (·.printAll lines)).listedAt address = session.listedAt address := by
  have sameRest :
      ∀ monitor : Monitor,
        monitor.printAll lines = { monitor with output := (monitor.printAll lines).output } := by
    intro monitor
    induction lines generalizing monitor with
    | nil =>
        rfl
    | cons line rest inductionHypothesis =>
        exact inductionHypothesis (monitor.print line)
  rw [updateMonitor, sameRest]
  rfl

theorem symbols_printAll (lines : List String) :
    (session.updateMonitor (·.printAll lines)).monitor.symbols = session.monitor.symbols :=
  (Monitor.KeepsNames.printAll session.monitor lines).symbols

/-- A search comes to the end of a group that is no word, and to no more. -/
theorem searchCutoff?_of_overflowsAt
    {address : UInt16}
    (overflows : session.monitor.symbols.OverflowsAt address) :
    session.searchCutoff? address = some ⟨.sum, session⟩ := by
  rw [searchCutoff?, SymbolTable.lookup_of_overflowsAt overflows]

/-- A search goes on where an address can be looked up. -/
theorem searchCutoff?_of_not_overflowsAt
    {address : UInt16}
    (fits : ¬ session.monitor.symbols.OverflowsAt address) :
    session.searchCutoff? address = none := by
  rw [searchCutoff?, SymbolTable.lookup_of_not_overflowsAt fits]

/-- A listing is not cut off if all of its addresses can be looked up. -/
theorem listingCutoff?_eq_none
    {addresses : List UInt16}
    (fit : ∀ address ∈ addresses, ¬ session.monitor.symbols.OverflowsAt address) :
    session.listingCutoff? addresses = none := by
  induction addresses generalizing session with
  | nil =>
      rfl
  | cons address addresses inductionHypothesis =>
      have here := searchCutoff?_of_not_overflowsAt (fit address List.mem_cons_self)
      rw [listingCutoff?, here]
      refine inductionHypothesis fun later member => ?_
      rw [symbols_printAll]
      exact fit later (List.mem_cons_of_mem address member)

/-- A listing is cut off at the first address that cannot be looked up, with the lines before it shown. -/
theorem listingCutoff?_of_overflowsAt
    {earlier later : List UInt16}
    {address : UInt16}
    (fit : ∀ before ∈ earlier, ¬ session.monitor.symbols.OverflowsAt before)
    (overflows : session.monitor.symbols.OverflowsAt address) :
    session.listingCutoff? (earlier ++ address :: later) =
      some
        ⟨.sum,
          session.updateMonitor
            (·.printAll (earlier.flatMap fun before => (session.listedAt before).lines))⟩ := by
  induction earlier generalizing session with
  | nil =>
      rw [List.nil_append, listingCutoff?, searchCutoff?_of_overflowsAt overflows]
      rfl
  | cons first earlier inductionHypothesis =>
      have here := searchCutoff?_of_not_overflowsAt (fit first List.mem_cons_self)
      have there :=
        @inductionHypothesis (session.updateMonitor (·.printAll (session.listedAt first).lines))
      simp only [symbols_printAll, listedAt_printAll] at there
      rw [List.cons_append, listingCutoff?, here]
      refine (there (fun before member => fit before (List.mem_cons_of_mem first member))
        overflows).trans ?_
      simp only [updateMonitor, Monitor.printAll, List.flatMap_cons, List.foldl_append]

end Session

/-! ## Commands -/

namespace Operation

variable {session : Session}

/-- The addresses of a range are found from the texts of both its ends. -/
theorem listedAddresses_run_range
    {startText stopText : String}
    {start stop : UInt16}
    (startMeant : session.monitor.addressOf session.machine startText = .ok start)
    (stopMeant : session.monitor.addressOf session.machine stopText = .ok stop) :
    (listedAddresses (some startText) (some stopText)).run session =
      (.ok (session.addressesWithin start (stop - start) start Memory.size), session) := by
  rw [listedAddresses, run_bind, run_observe]
  simp only
  rw [run_bind, place_run startMeant]
  simp only
  rw [run_bind, run_address stopMeant]
  rfl

/-- The addresses after the last listing are as many as are configured. -/
theorem listedAddresses_run_cursor
    {address : UInt16}
    (here : session.monitor.codeCursor = Location.ofAddress address) :
    (listedAddresses none none).run session =
      (.ok (session.countAddresses address session.monitor.config.unassembleCount), session) := by
  have placed :
      (place none (Location.ofAddress address)).run session =
        (.ok (.ofAddress address), session) :=
    rfl
  rw [listedAddresses, run_bind, run_observe]
  simp only [here]
  rw [run_bind, placed]
  rfl

end Operation

/-! ## Lines -/

namespace Session

section Listing

variable {session : Session} {line : String} {address? end? : Option String}
variable {address : UInt16} {count : Nat}
variable (only : (Command.disassemble address? end?).IsOnlyIn line)
variable
  (looked :
    let recorded := session.recordLine (Text.trim line)
    (listedAddresses address? end?).run recorded =
      (.ok (recorded.chainAddresses address count), recorded))

include only looked

/-- A line that lists is cut off where the search through its addresses is. -/
theorem cutoff?_of_listing :
    session.cutoff? line =
      (session.recordLine (Text.trim line)).listingCutoff?
        ((session.recordLine (Text.trim line)).chainAddresses address count) := by
  rw [cutoff?_of_isOnlyIn only (fun _ same => by cases same) (fun same => by cases same)]
  simp only [Command.cutoff?, looked]

/-- All is listed if it can all be looked up. -/
theorem heed_of_listing
    (listed :
      let recorded := session.recordLine (Text.trim line)
      (disassemble address? end?).run recorded = (.ok (), recorded.afterListing address count))
    (fit :
      ∀ index < count,
        ¬ session.monitor.symbols.OverflowsAt (session.machine.memory.chain address index)) :
    session.heed line =
      (true, (session.recordLine (Text.trim line)).afterListing address count) := by
  have whole : session.cutoff? line = none := by
    rw [cutoff?_of_listing only looked]
    refine listingCutoff?_eq_none fun address member => ?_
    obtain ⟨index, inside, rfl⟩ := List.mem_map.mp member
    exact fit index (List.mem_range.mp inside)
  rw [heed_eq, whole]
  exact obey_of_isOnlyIn only (fun _ same => by cases same) (fun same => by cases same) listed

/-- What comes before the first instruction that cannot be looked up is shown, and no more is done. -/
theorem heed_of_cut_listing
    {index : Nat}
    (inside : index < count)
    (overflows :
      session.monitor.symbols.OverflowsAt (session.machine.memory.chain address index))
    (fit :
      ∀ earlier < index,
        ¬ session.monitor.symbols.OverflowsAt (session.machine.memory.chain address earlier)) :
    let recorded := session.recordLine (Text.trim line)
    session.heed line =
      (false,
        (recorded.updateMonitor (·.printAll (recorded.chainLines address index))).print
          ("internal error: " ++ Overflow.sum.message)) := by
  intro recorded
  obtain ⟨more, rfl⟩ := Nat.exists_eq_add_of_lt inside
  have parts :
      recorded.chainAddresses address (index + more + 1) =
        recorded.chainAddresses address index ++
          recorded.machine.memory.chain address index ::
            recorded.chainAddresses
              (recorded.machine.memory.addressAfter
                (recorded.machine.memory.chain address index)) more := by
    rw [Nat.add_assoc, chainAddresses_add, chainAddresses_succ]
  have cut :
      session.cutoff? line =
        some ⟨.sum, recorded.updateMonitor (·.printAll (recorded.chainLines address index))⟩ := by
    rw [cutoff?_of_listing only looked, parts]
    refine (@listingCutoff?_of_overflowsAt recorded _ _ _ (fun before member => ?_) overflows).trans ?_
    · obtain ⟨earlier, isEarlier, rfl⟩ := List.mem_map.mp member
      exact fit earlier (List.mem_range.mp isEarlier)
    · simp only [chainAddresses, chainLines, List.flatMap_map]
  rw [heed_eq, cut]

end Listing

end Session

/--
A line that lists from one address up to another shows the instructions that
follow one another from the first address on: exactly the ones that start no
further than the second address is, up to the first one that reaches the top of
memory. There is an end to them, each starts where the one before it ends, and
none is shown twice. The next listing goes on behind the last one. All of that
is done if the addresses can be looked up among the symbols. Otherwise the line
fails at the first one that cannot be, as the end of a group is no word: the
instructions before it are shown, and the next listing goes on where this one
would have.
-/
theorem range_listings_tile_memory
    {session : Session}
    {line startText stopText : String}
    {start stop : UInt16}
    (only : (Command.disassemble (some startText) (some stopText)).IsOnlyIn line)
    (startMeant : session.monitor.addressOf session.machine startText = .ok start)
    (stopMeant : session.monitor.addressOf session.machine stopText = .ok stop) :
    let memory := session.machine.memory
    let overflowsAt := session.monitor.symbols.OverflowsAt
    let recorded := session.recordLine (Text.trim line)
    ∃ count,
      (∀ index, index < count ↔ memory.IsListed start stop start index) ∧
        (0 < count ∧ count ≤ Memory.size) ∧
        (∀ index,
          index + 1 < count →
            (memory.chain start (index + 1)).toNat =
              (memory.chain start index).toNat +
                memory.instructionLength (memory.chain start index)) ∧
        (∀ first second,
          first < second →
            second < count →
              memory.chain start first ≠ memory.chain start second) ∧
        ((List.range count).flatMap fun index =>
            (session.listedAt (memory.chain start index)).decoded.bytes) =
          memory.bytesFrom start (memory.chainLength start count) ∧
        ((∀ index < count, ¬ overflowsAt (memory.chain start index)) →
          let listed := recorded.afterListing start count
          let next := memory.chain start count
          let wanted := session.monitor.config.unassembleCount
          session.heed line = (true, listed) ∧
            ∀ nextLine,
              (Command.disassemble none none).IsOnlyIn nextLine →
                (∀ index < wanted, ¬ overflowsAt (memory.chain next index)) →
                  listed.heed nextLine =
                    (true, (listed.recordLine (Text.trim nextLine)).afterListing next wanted)) ∧
        ∀ index < count,
          overflowsAt (memory.chain start index) →
            (∀ earlier < index, ¬ overflowsAt (memory.chain start earlier)) →
              session.heed line =
                (false,
                  (recorded.updateMonitor (·.printAll (recorded.chainLines start index))).print
                    ("internal error: " ++ Overflow.sum.message)) := by
  intro memory overflowsAt recorded
  have enough : Memory.size ≤ Memory.size + start.toNat := Nat.le_add_right _ _
  obtain ⟨count, listed, extracted, addresses⟩ := recorded.listWithin_eq start stop enough
  have first : memory.IsListed start stop start 0 := by
    rw [Memory.isListed_zero_iff, UInt16.sub_self]
    exact UInt16.zero_le
  have positive : 0 < count := (listed 0).mpr first
  obtain ⟨last, rfl⟩ : ∃ last, count = last + 1 := Nat.exists_eq_add_one.mpr positive
  have lastListed : memory.IsListed start stop start last := (listed last).mp (Nat.lt_succ_self last)
  have looked :
      (listedAddresses (some startText) (some stopText)).run recorded =
        (.ok (recorded.chainAddresses start (last + 1)), recorded) := by
    rw [← addresses]
    exact @listedAddresses_run_range recorded _ _ _ _ startMeant stopMeant
  have ran :
      (disassemble (some startText) (some stopText)).run recorded =
        (.ok (), recorded.afterListing start (last + 1)) := by
    rw [@disassemble_run_range recorded _ _ _ _ startMeant stopMeant, Session.listRange, extracted]
    rfl
  refine ⟨last + 1, listed, ⟨positive, lastListed.index_lt⟩, ?_, ?_, ?_, ?_, ?_⟩
  · intro index before
    exact lastListed.toNat_chain_succ (Nat.lt_of_succ_lt_succ before)
  · intro first second before inside
    exact lastListed.chain_ne before (Nat.le_of_lt_succ inside)
  · exact session.flatMap_bytes_chain start (last + 1)
  · intro fit listed next wanted
    refine ⟨Session.heed_of_listing only looked ran fit, fun nextLine nextOnly nextFit => ?_⟩
    let nextRecorded := listed.recordLine (Text.trim nextLine)
    have configured : nextRecorded.monitor.config = session.monitor.config :=
      Monitor.printAll_config recorded.monitor _
    have named : listed.monitor.symbols = session.monitor.symbols :=
      (Monitor.KeepsNames.printAll recorded.monitor _).symbols
    have nextLooked := @listedAddresses_run_cursor nextRecorded next rfl
    have nextRan := @disassemble_run_cursor nextRecorded next rfl
    rw [Session.countAddresses_eq, configured] at nextLooked
    rw [configured] at nextRan
    refine Session.heed_of_listing nextOnly nextLooked nextRan fun index inside => ?_
    rw [named]
    exact nextFit index inside
  · exact fun index inside => Session.heed_of_cut_listing only looked inside

/-- A memory with a jump in its last byte, so that the address to jump to is in the first ones. -/
def Memory.jumpAcrossTop : Memory :=
  Memory.empty.setByte 0xFFFF 0xC3

def Session.jumpAcrossTop : Session :=
  ⟨.ofConfig .default, { Machine.initial with memory := .jumpAcrossTop }⟩

/-- A listing of four bytes around the end of memory shows the jump there, and no more. -/
theorem listing_ends_with_jump_across_top :
    let session := Session.jumpAcrossTop
    (Command.disassemble (some "FFFE") (some "0001")).IsOnlyIn "u FFFE 0001" ∧
      session.monitor.addressOf session.machine "FFFE" = .ok 0xFFFE ∧
      session.monitor.addressOf session.machine "0001" = .ok 0x0001 ∧
      session.heed "u FFFE 0001" =
        (true, (session.recordLine "u FFFE 0001").afterListing 0xFFFE 2) ∧
      Memory.jumpAcrossTop.chain 0xFFFE 2 = 0x0002 := by
  intro session
  have only : (Command.disassemble (some "FFFE") (some "0001")).IsOnlyIn "u FFFE 0001" :=
    ⟨"u FFFE 0001", by decide +kernel, by decide +kernel⟩
  have startMeant : session.monitor.addressOf session.machine "FFFE" = .ok 0xFFFE := by
    have written : Text.hexWord 0xFFFE = "FFFE" := by decide
    rw [← written]
    exact Monitor.addressOf_hexWord rfl rfl _
  have stopMeant : session.monitor.addressOf session.machine "0001" = .ok 0x0001 := by
    have written : Text.hexWord 0x0001 = "0001" := by decide
    rw [← written]
    exact Monitor.addressOf_hexWord rfl rfl _
  have idle : Memory.jumpAcrossTop.instructionLength 0xFFFE = 1 := by
    rw [Memory.instructionLength, Memory.jumpAcrossTop, Memory.byte_setByte, Memory.byte_empty]
    rfl
  have jump : Memory.jumpAcrossTop.instructionLength 0xFFFF = 3 := by
    rw [Memory.instructionLength, Memory.jumpAcrossTop, Memory.byte_setByte]
    rfl
  have reaches : Memory.jumpAcrossTop.ReachesTop 0xFFFF := by
    rw [Memory.ReachesTop, jump]
    decide
  have following : Memory.jumpAcrossTop.addressAfter 0xFFFE = 0xFFFF := by
    rw [Memory.addressAfter, idle]
    rfl
  have second : Memory.jumpAcrossTop.IsListed 0xFFFE 0x0001 0xFFFE 1 := by
    rw [Memory.isListed_succ_iff, following, Memory.isListed_zero_iff, Memory.ReachesTop, idle]
    decide
  have noThird : ¬Memory.jumpAcrossTop.IsListed 0xFFFE 0x0001 0xFFFE 2 := by
    rw [Memory.isListed_succ_iff, following, Memory.isListed_succ_iff]
    exact fun listed => listed.2.2.2.1 reaches
  have next : Memory.jumpAcrossTop.chain 0xFFFE 2 = 0x0002 := by
    rw [Memory.chain_succ, following, Memory.chain, Memory.chain, Memory.addressAfter, jump]
    rfl
  obtain ⟨count, listed, -, -, -, -, shown, -⟩ :=
    range_listings_tile_memory only startMeant stopMeant
  have two : count = 2 := by
    have atLeast : 1 < count := (listed 1).mpr second
    have atMost : ¬2 < count := fun inside => noThird ((listed 2).mp inside)
    omega
  subst two
  have trimmed : Text.trim "u FFFE 0001" = "u FFFE 0001" := by decide +kernel
  have noGroups : ∀ group ∈ session.monitor.symbols.groups, group.Fits :=
    fun _ member => absurd member List.not_mem_nil
  have whole := (shown fun index _ => SymbolTable.not_overflowsAt noGroups _).1
  rw [trimmed] at whole
  exact ⟨only, startMeant, stopMeant, whole, next⟩

/-- A listing ends where it comes to a group that ends at no word, and leaves the cursor behind. -/
theorem overlong_group_cuts_listing_off :
    let session :=
      (Session.fresh .default .initial).withSymbols
        (SymbolTable.empty.withModule "M" 1 0xFFFFFFFFFFFFFFFF [])
    let ended := session.heed "u 0 3"
    ended.1 = false ∧
      ended.2.monitor.output.toList =
        ["0000 00        NOP", "internal error: attempt to add with overflow"] ∧
      ended.2.monitor.codeCursor = session.monitor.codeCursor := by
  decide +kernel

end Monitor8080
