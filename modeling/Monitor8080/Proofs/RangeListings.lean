import Monitor8080.Operator.Cutoff
import Monitor8080.Operator.Listing
import Monitor8080.Proofs.DecodedFlow
import Monitor8080.Proofs.OperationEffects
import Monitor8080.Proofs.WrittenAddresses
namespace Monitor8080

/-!
# Listings of a range

Instructions follow one another in memory, each where the one before it ends. A
listing of a range shows the first ones of such a chain: as far as they start
within the range, and no further than to the top of memory. It has an end
therefore, shows no instruction twice, and the next listing goes on behind it.
-/

/-! ## Chains of instructions -/

namespace Instruction

theorem length_ofOpcode (opcode : UInt8) :
    0 < (ofOpcode opcode).length ∧ (ofOpcode opcode).length ≤ 3 := by
  have everyCode :
      ∀ code : Fin 256,
        0 < (ofOpcode (UInt8.ofFin code)).length ∧ (ofOpcode (UInt8.ofFin code)).length ≤ 3 := by
    decide +kernel
  exact everyCode opcode.toFin

end Instruction

namespace Memory

variable (memory : Memory)

/-- How many bytes the instruction at an address has. -/
def instructionLength (address : UInt16) : Nat :=
  (Instruction.ofOpcode (memory.byte address)).length

/-- The address after the instruction at an address. -/
def addressAfter (address : UInt16) : UInt16 :=
  address + UInt16.ofNat (memory.instructionLength address)

/-- The addresses of the instructions that follow one another from an address on. -/
def chain (address : UInt16) : Nat → UInt16
  | 0 => address
  | index + 1 => memory.addressAfter (chain address index)

/-- The instruction at an address reaches the top of memory, or goes across it. -/
def ReachesTop (address : UInt16) : Prop :=
  size ≤ address.toNat + memory.instructionLength address

theorem chain_add
    (address : UInt16)
    (first second : Nat) :
    memory.chain address (first + second) = memory.chain (memory.chain address first) second := by
  induction second with
  | zero =>
      rfl
  | succ second inductionHypothesis =>
      rw [← Nat.add_assoc, chain, inductionHypothesis, chain]

theorem chain_succ
    (address : UInt16)
    (index : Nat) :
    memory.chain address (index + 1) = memory.chain (memory.addressAfter address) index := by
  rw [Nat.add_comm, chain_add]
  rfl

/-- How many bytes the first instructions of a chain have together. -/
def chainLength (address : UInt16) : Nat → Nat
  | 0 => 0
  | count + 1 =>
      chainLength address count + memory.instructionLength (memory.chain address count)

/-- A chain goes on where the bytes of its instructions so far end. -/
theorem chain_eq
    (address : UInt16)
    (count : Nat) :
    memory.chain address count = address + UInt16.ofNat (memory.chainLength address count) := by
  induction count with
  | zero =>
      exact (UInt16.add_zero address).symm
  | succ count inductionHypothesis =>
      rw [chain, addressAfter, chainLength, UInt16.ofNat_add, ← UInt16.add_assoc,
        ← inductionHypothesis]

variable {memory} {address : UInt16}

/-- Below the top of memory, addresses go up by the length of the instruction. -/
theorem toNat_addressAfter (below : ¬memory.ReachesTop address) :
    (memory.addressAfter address).toNat = address.toNat + memory.instructionLength address := by
  have below : address.toNat + memory.instructionLength address < 65536 := Nat.lt_of_not_le below
  rw [addressAfter, UInt16.toNat_add, UInt16.toNat_ofNat']
  omega

/-- An instruction reaches the top of memory exactly if the address after it is lower. -/
theorem addressAfter_lt_iff :
    memory.addressAfter address < address ↔ memory.ReachesTop address := by
  obtain ⟨positive, short⟩ := Instruction.length_ofOpcode (memory.byte address)
  have inside := address.toNat_lt
  rw [UInt16.lt_iff_toNat_lt, addressAfter, UInt16.toNat_add, UInt16.toNat_ofNat', ReachesTop,
    instructionLength, size]
  omega

/-! ## The part that is listed -/

/--
The instruction at an index of the chain is listed: the ones up to it start no
further from the start than the stop is, and the ones before it stay below the
top of memory.
-/
structure IsListed
    (memory : Memory)
    (start stop address : UInt16)
    (index : Nat) : Prop where
  within : ∀ earlier ≤ index, memory.chain address earlier - start ≤ stop - start
  below : ∀ earlier < index, ¬memory.ReachesTop (memory.chain address earlier)

section Listed

variable {start stop : UInt16} {index : Nat}

theorem isListed_zero_iff :
    memory.IsListed start stop address 0 ↔ address - start ≤ stop - start := by
  constructor
  · exact fun listed => listed.within 0 (Nat.le_refl 0)
  · intro within
    refine ⟨fun earlier upTo => ?_, nofun⟩
    rw [Nat.le_zero.mp upTo]
    exact within

/-- Another instruction is listed if the one at the address is, stays below the top, and the rest goes on so. -/
theorem isListed_succ_iff :
    memory.IsListed start stop address (index + 1) ↔
      address - start ≤ stop - start ∧
        ¬memory.ReachesTop address ∧
        memory.IsListed start stop (memory.addressAfter address) index := by
  constructor
  · intro listed
    refine ⟨listed.within 0 (Nat.zero_le _), listed.below 0 (Nat.succ_pos _), ?_, ?_⟩
    · intro earlier upTo
      rw [← chain_succ]
      exact listed.within (earlier + 1) (Nat.succ_le_succ upTo)
    · intro earlier before
      rw [← chain_succ]
      exact listed.below (earlier + 1) (Nat.succ_lt_succ before)
  · rintro ⟨within, below, rest⟩
    refine ⟨fun earlier upTo => ?_, fun earlier before => ?_⟩
    · cases earlier with
      | zero =>
          exact within
      | succ earlier =>
          rw [chain_succ]
          exact rest.within earlier (Nat.le_of_succ_le_succ upTo)
    · cases earlier with
      | zero =>
          exact below
      | succ earlier =>
          rw [chain_succ]
          exact rest.below earlier (Nat.lt_of_succ_lt_succ before)

theorem not_isListed (beyond : ¬address - start ≤ stop - start) :
    ¬memory.IsListed start stop address index :=
  fun listed => beyond (listed.within 0 (Nat.zero_le index))

/-- An instruction that reaches the top of memory is the only one. -/
theorem isListed_iff_of_reachesTop
    (within : address - start ≤ stop - start)
    (last : memory.ReachesTop address) :
    memory.IsListed start stop address index ↔ index < 1 := by
  cases index with
  | zero =>
      exact iff_of_true (isListed_zero_iff.mpr within) Nat.one_pos
  | succ index =>
      exact iff_of_false (fun listed => (isListed_succ_iff.mp listed).2.1 last)
        (Nat.not_lt.mpr (Nat.le_add_left 1 index))

/-- Below the top, there is one more than from the next instruction on. -/
theorem isListed_iff_of_not_reachesTop
    {count : Nat}
    (within : address - start ≤ stop - start)
    (below : ¬memory.ReachesTop address)
    (rest :
      ∀ index, index < count ↔ memory.IsListed start stop (memory.addressAfter address) index) :
    memory.IsListed start stop address index ↔ index < count + 1 := by
  cases index with
  | zero =>
      exact iff_of_true (isListed_zero_iff.mpr within) (Nat.succ_pos count)
  | succ index =>
      rw [isListed_succ_iff, Nat.succ_lt_succ_iff, rest]
      exact ⟨fun all => all.2.2, fun after => ⟨within, below, after⟩⟩

/-- Before the last listed instruction nothing goes around the end of memory. -/
theorem IsListed.toNat_chain_succ
    {earlier : Nat}
    (listed : memory.IsListed start stop address index)
    (before : earlier < index) :
    (memory.chain address (earlier + 1)).toNat =
      (memory.chain address earlier).toNat +
        memory.instructionLength (memory.chain address earlier) :=
  toNat_addressAfter (listed.below earlier before)

/-- The addresses of listed instructions go up, by at least one each. -/
theorem IsListed.le_toNat_chain
    (listed : memory.IsListed start stop address index)
    {earlier more : Nat}
    (upTo : earlier + more ≤ index) :
    (memory.chain address earlier).toNat + more ≤
      (memory.chain address (earlier + more)).toNat := by
  induction more with
  | zero =>
      exact Nat.le_refl _
  | succ more inductionHypothesis =>
      have soFar := inductionHypothesis (Nat.le_of_succ_le upTo)
      have before : earlier + more < index := upTo
      have goesUp := listed.toNat_chain_succ before
      have positive :=
        (Instruction.length_ofOpcode
          (memory.byte (memory.chain address (earlier + more)))).1
      rw [← Nat.add_assoc earlier, goesUp, instructionLength]
      omega

theorem IsListed.chain_ne
    (listed : memory.IsListed start stop address index)
    {first second : Nat}
    (before : first < second)
    (upTo : second ≤ index) :
    memory.chain address first ≠ memory.chain address second := by
  obtain ⟨more, rfl⟩ := Nat.exists_eq_add_of_lt before
  intro same
  have goesUp :
      (memory.chain address first).toNat + (more + 1) ≤
        (memory.chain address (first + more + 1)).toNat :=
    listed.le_toNat_chain upTo
  rw [← same] at goesUp
  omega

theorem IsListed.index_lt (listed : memory.IsListed start stop address index) : index < size := by
  have goesUp := listed.le_toNat_chain (Nat.le_of_eq (Nat.zero_add index))
  have inside := (memory.chain address (0 + index)).toNat_lt
  rw [size]
  omega

end Listed

end Memory

/-! ## Listings -/

namespace Session

variable (session : Session)

/-- The lines of a number of instructions that follow one another from an address on. -/
def chainLines (address : UInt16) (count : Nat) : List String :=
  (List.range count).flatMap fun index =>
    (session.listedAt (session.machine.memory.chain address index)).lines

theorem chainLines_succ
    (address : UInt16)
    (count : Nat) :
    session.chainLines address (count + 1) =
      (session.listedAt address).lines ++
        session.chainLines (session.machine.memory.addressAfter address) count := by
  simp only [chainLines, List.range_succ_eq_map, List.flatMap_cons, List.flatMap_map,
    Memory.chain_succ]
  rfl

/-- What is listed at an address is decoded from the bytes of the instruction there. -/
theorem listedAt_decoded (address : UInt16) :
    (session.listedAt address).decoded.bytes =
        session.machine.memory.bytesFrom address
          (session.machine.memory.instructionLength address) ∧
      (session.listedAt address).decoded.next = session.machine.memory.addressAfter address := by
  unfold listedAt
  simp only
  split <;> exact ⟨rfl, congrArg (address + UInt16.ofNat ·) (Memory.length_bytesFrom ..)⟩

/-- The bytes of a chain of instructions are the ones from the first address on. -/
theorem flatMap_bytes_chain
    (address : UInt16)
    (count : Nat) :
    ((List.range count).flatMap fun index =>
        (session.listedAt (session.machine.memory.chain address index)).decoded.bytes) =
      session.machine.memory.bytesFrom address
        (session.machine.memory.chainLength address count) := by
  induction count with
  | zero =>
      rfl
  | succ count inductionHypothesis =>
      rw [List.range_succ, List.flatMap_append, inductionHypothesis, List.flatMap_singleton,
        (session.listedAt_decoded _).1, Memory.chainLength, Memory.bytesFrom_add,
        ← Memory.chain_eq]

theorem listCount_eq
    (address : UInt16)
    (count : Nat) :
    session.listCount address count =
      ⟨session.chainLines address count, session.machine.memory.chain address count⟩ := by
  induction count generalizing address with
  | zero =>
      rfl
  | succ count inductionHypothesis =>
      simp only [listCount, (session.listedAt_decoded address).2, inductionHypothesis,
        chainLines_succ, Memory.chain_succ]

/-- The addresses of a number of instructions that follow one another from an address on. -/
def chainAddresses (address : UInt16) (count : Nat) : List UInt16 :=
  (List.range count).map (session.machine.memory.chain address)

theorem chainAddresses_succ
    (address : UInt16)
    (count : Nat) :
    session.chainAddresses address (count + 1) =
      address :: session.chainAddresses (session.machine.memory.addressAfter address) count := by
  simp only [chainAddresses, List.range_succ_eq_map, List.map_cons, List.map_map, Function.comp_def,
    Memory.chain_succ]
  rfl

theorem chainAddresses_add
    (address : UInt16)
    (first second : Nat) :
    session.chainAddresses address (first + second) =
      session.chainAddresses address first ++
        session.chainAddresses (session.machine.memory.chain address first) second := by
  simp only [chainAddresses, List.range_add, List.map_append, List.map_map, Function.comp_def,
    Memory.chain_add]

theorem countAddresses_eq
    (address : UInt16)
    (count : Nat) :
    session.countAddresses address count = session.chainAddresses address count := by
  induction count generalizing address with
  | zero =>
      rfl
  | succ count inductionHypothesis =>
      rw [countAddresses, (session.listedAt_decoded address).2, inductionHypothesis,
        chainAddresses_succ]

section Within

variable {session} {start stop address : UInt16} {fuel : Nat}

/-- What a listing shows from an address on, and the addresses at which it looks. -/
theorem listWithin_of_beyond (beyond : ¬address - start ≤ stop - start) :
    session.listWithin start (stop - start) address (fuel + 1) = ⟨[], address⟩ ∧
      session.addressesWithin start (stop - start) address (fuel + 1) = [] := by
  rw [listWithin, addressesWithin, if_pos (UInt16.not_le.mp beyond),
    if_pos (UInt16.not_le.mp beyond)]
  exact ⟨rfl, rfl⟩

theorem listWithin_of_reachesTop
    (within : address - start ≤ stop - start)
    (last : session.machine.memory.ReachesTop address) :
    session.listWithin start (stop - start) address (fuel + 1) =
        ⟨(session.listedAt address).lines, session.machine.memory.addressAfter address⟩ ∧
      session.addressesWithin start (stop - start) address (fuel + 1) = [address] := by
  rw [listWithin, addressesWithin, if_neg (UInt16.not_lt.mpr within),
    if_neg (UInt16.not_lt.mpr within)]
  simp only [(session.listedAt_decoded address).2]
  rw [if_pos (Memory.addressAfter_lt_iff.mpr last), if_pos (Memory.addressAfter_lt_iff.mpr last)]
  exact ⟨rfl, rfl⟩

theorem listWithin_of_not_reachesTop
    (within : address - start ≤ stop - start)
    (below : ¬session.machine.memory.ReachesTop address) :
    let next := session.machine.memory.addressAfter address
    let rest := session.listWithin start (stop - start) next fuel
    session.listWithin start (stop - start) address (fuel + 1) =
        ⟨(session.listedAt address).lines ++ rest.lines, rest.next⟩ ∧
      session.addressesWithin start (stop - start) address (fuel + 1) =
        address :: session.addressesWithin start (stop - start) next fuel := by
  intro next rest
  have notLower : ¬next < address := fun lower => below (Memory.addressAfter_lt_iff.mp lower)
  rw [listWithin, addressesWithin, if_neg (UInt16.not_lt.mpr within),
    if_neg (UInt16.not_lt.mpr within)]
  simp only [(session.listedAt_decoded address).2]
  rw [if_neg notLower, if_neg notLower]
  exact ⟨rfl, rfl⟩

variable (session start stop)

/-- With fuel up to the top of memory, exactly the instructions are listed and looked at that are to be. -/
theorem listWithin_eq (enough : Memory.size ≤ fuel + address.toNat) :
    ∃ count,
      (∀ index,
        index < count ↔ session.machine.memory.IsListed start stop address index) ∧
        session.listWithin start (stop - start) address fuel =
          ⟨session.chainLines address count, session.machine.memory.chain address count⟩ ∧
        session.addressesWithin start (stop - start) address fuel =
          session.chainAddresses address count := by
  -- Fuel and address together stay at the top or above, as each instruction raises the address.
  induction fuel generalizing address with
  | zero =>
      have inside := address.toNat_lt
      rw [Memory.size] at enough
      omega
  | succ fuel inductionHypothesis =>
      by_cases within : address - start ≤ stop - start
      · by_cases last : session.machine.memory.ReachesTop address
        · obtain ⟨shown, looked⟩ := listWithin_of_reachesTop within last
          refine
            ⟨1, fun index => (Memory.isListed_iff_of_reachesTop within last).symm, ?_, looked⟩
          rw [shown, chainLines_succ, chainLines, List.range_zero, List.flatMap_nil,
            List.append_nil]
          rfl
        · have goesUp := Memory.toNat_addressAfter last
          have positive :=
            (Instruction.length_ofOpcode (session.machine.memory.byte address)).1
          have enoughAfter :
              Memory.size ≤ fuel + (session.machine.memory.addressAfter address).toNat := by
            rw [goesUp, Memory.instructionLength]
            omega
          obtain ⟨count, listed, rest, later⟩ := inductionHypothesis enoughAfter
          obtain ⟨shown, looked⟩ := listWithin_of_not_reachesTop within last
          refine
            ⟨count + 1,
              fun index => (Memory.isListed_iff_of_not_reachesTop within last listed).symm, ?_, ?_⟩
          · rw [shown, rest, chainLines_succ, Memory.chain_succ]
          · rw [looked, later, chainAddresses_succ]
      · refine ⟨0, fun index => ?_, listWithin_of_beyond within⟩
        exact iff_of_false (Nat.not_lt_zero index) (Memory.not_isListed within)

end Within

/-- The session after a listing of some instructions from an address on. -/
def afterListing (address : UInt16) (count : Nat) : Session :=
  session.updateMonitor fun monitor =>
    { monitor.printAll (session.chainLines address count) with
      codeCursor := Location.ofAddress (session.machine.memory.chain address count) }

end Session

/-! ## Commands -/

namespace Operation

variable {session : Session}

theorem place_run
    {text : String}
    {address : UInt16}
    (meant : session.monitor.addressOf session.machine text = .ok address)
    (cursor : Location) :
    (place (some text) cursor).run session = (.ok (.ofAddress address), session) := by
  simp only [place]
  rw [run_bind, run_address meant]
  rfl

theorem disassemble_run_range
    {startText stopText : String}
    {start stop : UInt16}
    (startMeant : session.monitor.addressOf session.machine startText = .ok start)
    (stopMeant : session.monitor.addressOf session.machine stopText = .ok stop) :
    (disassemble (some startText) (some stopText)).run session =
      (.ok (),
        session.updateMonitor fun monitor =>
          { monitor.printAll (session.listRange start stop).lines with
            codeCursor := Location.ofAddress (session.listRange start stop).next }) := by
  rw [disassemble, run_bind, run_observe]
  simp only
  rw [run_bind, place_run startMeant]
  simp only
  rw [run_bind, run_address stopMeant]
  rfl

/-- Without arguments a listing goes on at the cursor. -/
theorem disassemble_run_cursor
    {address : UInt16}
    (here : session.monitor.codeCursor = Location.ofAddress address) :
    (disassemble none none).run session =
      (.ok (), session.afterListing address session.monitor.config.unassembleCount) := by
  have placed :
      (place none (Location.ofAddress address)).run session =
        (.ok (.ofAddress address), session) :=
    rfl
  have listed :
      session.listCount address session.monitor.config.unassembleCount =
        ⟨session.chainLines address session.monitor.config.unassembleCount,
          session.machine.memory.chain address session.monitor.config.unassembleCount⟩ :=
    session.listCount_eq address session.monitor.config.unassembleCount
  rw [disassemble, run_bind, run_observe]
  simp only [here]
  rw [run_bind, placed]
  simp only
  rw [run_bind, run_observe]
  simp only [show (Location.ofAddress address).address?.getD 0 = address from rfl, listed]
  rfl

end Operation

end Monitor8080
