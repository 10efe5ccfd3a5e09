import Mathlib.Data.List.Chain
import Mathlib.Tactic.Ring
import Monitor8080.Memory.Basic
namespace Monitor8080

/-!
# The map of the blocks

A listing of memory shows runs of equally typed blocks. They cut the address
space into pieces as long as they can be, and that is the only way to cut it so.
Typing a range types the blocks that it comes into, and an empty range that
starts inside a block types that block.
-/

namespace Memory

/-! ## Runs of blocks -/

/--
Runs that lie one behind the other from a place on, for the blocks there in
their order. The block behind a run has another type than the run.
-/
inductive Charts : (start : Nat) → List BlockKind → List BlockRun → Prop where
  | nil (start : Nat) : Charts start [] []
  | run
      {start count : Nat}
      {type : BlockKind}
      {types : List BlockKind}
      {runs : List BlockRun}
      (positive : 0 < count)
      (ends : types.head? ≠ some type)
      (rest : Charts (start + count * blockSize) types runs) :
      Charts start (List.replicate count type ++ types)
        (⟨start, count * blockSize, type⟩ :: runs)

namespace Charts

variable {start : Nat} {types : List BlockKind} {runs : List BlockRun}

/-- The first run has the type of the first block. -/
theorem map_type_head? (charts : Charts start types runs) :
    runs.head?.map BlockRun.type = types.head? := by
  cases charts with
  | nil =>
      rfl
  | @run _ count type types runs positive ends rest =>
      obtain ⟨fewer, rfl⟩ := Nat.exists_eq_succ_of_ne_zero positive.ne'
      rfl

/-- A single block before blocks of another type is a run. -/
theorem single
    {type : BlockKind}
    (ends : types.head? ≠ some type)
    (rest : Charts (start + blockSize) types runs) :
    Charts start (type :: types) (⟨start, blockSize, type⟩ :: runs) := by
  rw [← Nat.one_mul blockSize] at rest
  have charts := Charts.run Nat.one_pos ends rest
  rwa [Nat.one_mul] at charts

end Charts

/-- The runs of a list of blocks are those that lie there. -/
theorem charts_runsFrom
    (start : Nat)
    (types : List BlockKind) :
    Charts start types (runsFrom start types) := by
  induction types generalizing start with
  | nil =>
      exact .nil start
  | cons type types inductionHypothesis =>
      have later := inductionHypothesis (start + blockSize)
      rw [runsFrom]
      generalize runsFrom (start + blockSize) types = runs at later
      have headed := later.map_type_head?
      cases later with
      | nil =>
          exact .single nofun (.nil _)
      | @run _ count laterType laterTypes laterRuns positive ends rest =>
          simp only
          split
          · rename_i same
            subst same
            -- One more block of the same type makes the run longer at its front.
            have place : start + blockSize + count * blockSize = start + (count + 1) * blockSize := by
              ring
            rw [place] at rest
            have longer := Charts.run (Nat.succ_pos count) ends rest
            rw [Nat.succ_mul, List.replicate_succ] at longer
            exact longer
          · rename_i other
            refine .single ?_ (.run positive ends rest)
            rw [← headed]
            exact fun same => other (Option.some.inj same)

namespace Charts

variable {start : Nat} {types : List BlockKind} {runs : List BlockRun}

theorem start_of_head? (charts : Charts start types runs) : ∀ run ∈ runs.head?, run.start = start := by
  cases charts with
  | nil =>
      exact nofun
  | run positive ends rest =>
      rintro _ ⟨rfl⟩
      rfl

theorem adjacent (charts : Charts start types runs) :
    runs.IsChain fun run next => next.start = run.start + run.length := by
  induction charts with
  | nil =>
      exact .nil
  | run positive ends rest inductionHypothesis =>
      exact List.isChain_cons.mpr ⟨rest.start_of_head?, inductionHypothesis⟩

theorem longest (charts : Charts start types runs) :
    runs.IsChain fun run next => next.type ≠ run.type := by
  induction charts with
  | nil =>
      exact .nil
  | run positive ends rest inductionHypothesis =>
      refine List.isChain_cons.mpr ⟨fun next isNext same => ends ?_, inductionHypothesis⟩
      rw [← rest.map_type_head?, Option.mem_def.mp isNext]
      exact congrArg some same

theorem whole (charts : Charts start types runs) :
    ∀ run ∈ runs, 0 < run.length ∧ blockSize ∣ run.length := by
  induction charts with
  | nil =>
      exact nofun
  | run positive ends rest inductionHypothesis =>
      refine List.forall_mem_cons.mpr ⟨⟨?_, Nat.dvd_mul_left ..⟩, inductionHypothesis⟩
      exact Nat.mul_pos positive (by decide)

theorem total (charts : Charts start types runs) :
    (runs.map BlockRun.length).sum = types.length * blockSize := by
  induction charts with
  | nil =>
      rfl
  | run positive ends rest inductionHypothesis =>
      rw [List.map_cons, List.sum_cons, inductionHypothesis, List.length_append,
        List.length_replicate, Nat.add_mul]

theorem start_le (charts : Charts start types runs) : ∀ run ∈ runs, start ≤ run.start := by
  induction charts with
  | nil =>
      exact nofun
  | run positive ends rest inductionHypothesis =>
      refine List.forall_mem_cons.mpr ⟨Nat.le_refl _, fun run member => ?_⟩
      exact Nat.le_of_add_right_le (inductionHypothesis run member)

/-- The block that holds a place in a run has the type of the run. -/
theorem type_at
    (charts : Charts start types runs)
    {run : BlockRun}
    (member : run ∈ runs)
    {place : Nat}
    (after : run.start ≤ start + place)
    (before : start + place < run.start + run.length) :
    types[place / blockSize]? = some run.type := by
  induction charts generalizing place with
  | nil =>
      exact absurd member List.not_mem_nil
  | @run start count type types runs positive ends rest inductionHypothesis =>
      rcases List.mem_cons.mp member with rfl | later
      · have inside : place / blockSize < count :=
          (Nat.div_lt_iff_lt_mul (by decide)).mpr (Nat.lt_of_add_lt_add_left before)
        rw [List.getElem?_append_left (by rwa [List.length_replicate]),
          List.getElem?_replicate_of_lt inside]
      · -- The place lies behind the first run, as many bytes into the rest.
        have behind := (rest.start_le run later).trans after
        obtain ⟨distance, rfl⟩ := Nat.exists_eq_add_of_le (Nat.le_of_add_le_add_left behind)
        rw [← Nat.add_assoc] at after before
        have found := inductionHypothesis later after before
        rwa [Nat.mul_comm, Nat.mul_add_div (by decide),
          List.getElem?_append_right (by rw [List.length_replicate]; exact Nat.le_add_right ..),
          List.length_replicate, Nat.add_sub_cancel_left]

end Charts

/-! ## The map of a memory -/

/--
Runs that map a memory from a place on: they lie one behind the other from there
to the end, each of them whole blocks of one type, and none could be longer.
-/
structure MapsFrom (memory : Memory) (start : Nat) (runs : List BlockRun) : Prop where
  first : ∀ run ∈ runs.head?, run.start = start
  adjacent : runs.IsChain fun run next => next.start = run.start + run.length
  whole : ∀ run ∈ runs, 0 < run.length ∧ blockSize ∣ run.length
  total : start + (runs.map BlockRun.length).sum = size
  longest : runs.IsChain fun run next => next.type ≠ run.type
  types :
    ∀ run ∈ runs,
      ∀ address : UInt16,
        run.start ≤ address.toNat →
          address.toNat < run.start + run.length → memory.blockKind address = run.type

theorem blockKind_of_getElem?
    {memory : Memory}
    {address : UInt16}
    {type : BlockKind}
    (typed : memory.blocks.toList[address.toNat / blockSize]? = some type) :
    memory.blockKind address = type := by
  obtain ⟨_, found⟩ := List.getElem?_eq_some_iff.mp typed
  exact found

/-- The runs of a memory map it. -/
theorem mapsFrom_blockRuns (memory : Memory) : memory.MapsFrom 0 memory.blockRuns := by
  have charts := charts_runsFrom 0 memory.blocks.toList
  refine
    { first := charts.start_of_head?
      adjacent := charts.adjacent
      whole := charts.whole
      total := by rw [blockRuns, charts.total, Vector.length_toList]; rfl
      longest := charts.longest
      types := fun run member address after before => blockKind_of_getElem? ?_ }
  rw [← Nat.zero_add address.toNat] at after before
  exact charts.type_at member after before

namespace MapsFrom

variable {memory : Memory} {start : Nat} {run other : BlockRun} {runs others : List BlockRun}

theorem start_eq (maps : memory.MapsFrom start (run :: runs)) : run.start = start :=
  maps.first run rfl

/-- The runs behind the first one map what is behind it. -/
theorem tail (maps : memory.MapsFrom start (run :: runs)) :
    memory.MapsFrom (start + run.length) runs where
  first := by
    rw [← maps.start_eq]
    exact (List.isChain_cons.mp maps.adjacent).1
  adjacent := (List.isChain_cons.mp maps.adjacent).2
  whole := (List.forall_mem_cons.mp maps.whole).2
  total := by
    rw [Nat.add_assoc, ← List.sum_cons, ← List.map_cons]
    exact maps.total
  longest := (List.isChain_cons.mp maps.longest).2
  types := (List.forall_mem_cons.mp maps.types).2

theorem length_pos (maps : memory.MapsFrom start (run :: runs)) : 0 < run.length :=
  (maps.whole run List.mem_cons_self).1

theorem end_le (maps : memory.MapsFrom start (run :: runs)) : start + run.length ≤ size := by
  rw [← maps.tail.total]
  exact Nat.le_add_right ..

/-- The type at a place in the first run is that of the run. -/
theorem blockKind_head
    (maps : memory.MapsFrom start (run :: runs))
    {place : Nat}
    (after : start ≤ place)
    (before : place < start + run.length) :
    memory.blockKind (UInt16.ofNat place) = run.type := by
  have value : (UInt16.ofNat place).toNat = place :=
    UInt16.toNat_ofNat_of_lt' (before.trans_le maps.end_le)
  refine maps.types run List.mem_cons_self _ ?_ ?_
  · rwa [value, maps.start_eq]
  · rwa [value, maps.start_eq]

/-- No map from the same place has a longer first run. -/
theorem length_le
    (maps : memory.MapsFrom start (run :: runs))
    (mapsOther : memory.MapsFrom start (other :: others)) :
    other.length ≤ run.length := by
  by_contra longer
  have longer : start + run.length < start + other.length :=
    Nat.add_lt_add_left (Nat.lt_of_not_le longer) start
  -- The longer run covers the place where the run behind the shorter one starts.
  have within := mapsOther.blockKind_head (Nat.le_add_right ..) longer
  have sameType : run.type = other.type :=
    (maps.blockKind_head (Nat.le_refl _) (Nat.lt_add_of_pos_right maps.length_pos)).symm.trans
      (mapsOther.blockKind_head (Nat.le_refl _) (Nat.lt_add_of_pos_right mapsOther.length_pos))
  have behind := maps.tail
  cases runs with
  | nil =>
      have ended : start + run.length = size := behind.total
      exact absurd mapsOther.end_le (ended ▸ Nat.not_le_of_lt longer)
  | cons next later =>
      have nextType :=
        behind.blockKind_head (Nat.le_refl _) (Nat.lt_add_of_pos_right behind.length_pos)
      refine (List.isChain_cons.mp maps.longest).1 next rfl ?_
      rw [← nextType, within, sameType]

/-- A memory is mapped from a place on in one way only. -/
theorem unique
    (maps : memory.MapsFrom start runs)
    (mapsOther : memory.MapsFrom start others) :
    runs = others := by
  induction runs generalizing start others with
  | nil =>
      cases others with
      | nil =>
          rfl
      | cons other others =>
          have ended : start = size := maps.total
          exact absurd mapsOther.end_le
            (Nat.not_le_of_lt (ended ▸ Nat.lt_add_of_pos_right mapsOther.length_pos))
  | cons run runs inductionHypothesis =>
      cases others with
      | nil =>
          have ended : start = size := mapsOther.total
          exact absurd maps.end_le
            (Nat.not_le_of_lt (ended ▸ Nat.lt_add_of_pos_right maps.length_pos))
      | cons other others =>
          have sameStart : run.start = other.start := maps.start_eq.trans mapsOther.start_eq.symm
          have sameLength : run.length = other.length :=
            (mapsOther.length_le maps).antisymm (maps.length_le mapsOther)
          have sameType : run.type = other.type := by
            rw [← maps.blockKind_head (Nat.le_refl _) (Nat.lt_add_of_pos_right maps.length_pos),
              mapsOther.blockKind_head (Nat.le_refl _)
                (Nat.lt_add_of_pos_right mapsOther.length_pos)]
          have sameRun : run = other := by
            cases run
            cases other
            simp_all only
          rw [sameRun, inductionHypothesis maps.tail (sameRun ▸ mapsOther.tail)]

end MapsFrom

/--
The listed runs cut the address space into pieces of whole blocks, each of one
type and as long as it can be, and no other list does.
-/
theorem blockRuns_are_the_map
    (memory : Memory)
    (runs : List BlockRun) :
    memory.MapsFrom 0 runs ↔ runs = memory.blockRuns :=
  ⟨fun maps => maps.unique memory.mapsFrom_blockRuns, fun same => same ▸ memory.mapsFrom_blockRuns⟩

/-! ## Typing a range -/

/-- Whether the block of an address holds a place of a range, too. -/
def RangeMeetsBlock (start : UInt16) (length : Nat) (address : UInt16) : Prop :=
  ∃ place : UInt16,
    start.toNat ≤ place.toNat ∧ place.toNat < start.toNat + length ∧
      blockIndex place = blockIndex address

/-- The blocks a range meets lie between its ends, one of them rounded down and one rounded up. -/
theorem rangeMeetsBlock_iff
    (start : UInt16)
    (length : Nat)
    (address : UInt16) :
    RangeMeetsBlock start length address ↔
      0 < length ∧ start.toNat / blockSize ≤ address.toNat / blockSize ∧
        address.toNat / blockSize < (start.toNat + length + blockSize - 1) / blockSize := by
  have startBelow := start.toNat_lt
  have addressBelow := address.toNat_lt
  simp only [RangeMeetsBlock, blockIndex, Fin.mk.injEq, blockSize]
  constructor
  · rintro ⟨place, after, before, sameBlock⟩
    omega
  · rintro ⟨nonempty, low, high⟩
    -- The first place that both hold is the start of the later one of the two.
    refine ⟨UInt16.ofNat (max start.toNat (address.toNat / 1024 * 1024)), ?_⟩
    rw [UInt16.toNat_ofNat_of_lt' (show _ < 65536 by omega)]
    omega

theorem blockKind_setBlockKind
    (memory : Memory)
    (start : UInt16)
    (length : Nat)
    (type : BlockKind)
    (address : UInt16) :
    (memory.setBlockKind start length type).blockKind address =
      if start.toNat / blockSize ≤ address.toNat / blockSize ∧
          address.toNat / blockSize < (start.toNat + length + blockSize - 1) / blockSize then
        type
      else
        memory.blockKind address := by
  simp only [blockKind, setBlockKind, Vector.get, Vector.toArray_ofFn, Array.getElem_ofFn]
  rfl

/--
The blocks from the rounded start of a range to its rounded end are those that it
meets; an empty range inside a block is rounded to that block.
-/
theorem between_rounded_ends_iff
    (start : UInt16)
    (length : Nat)
    (address : UInt16) :
    (start.toNat / blockSize ≤ address.toNat / blockSize ∧
        address.toNat / blockSize < (start.toNat + length + blockSize - 1) / blockSize) ↔
      RangeMeetsBlock start length address ∨
        (length = 0 ∧ ¬ blockSize ∣ start.toNat ∧ blockIndex start = blockIndex address) := by
  rw [rangeMeetsBlock_iff]
  simp only [blockIndex, Fin.mk.injEq, blockSize]
  omega

/-- Nothing but the types changes. -/
theorem setBlockKind_frame
    (memory : Memory)
    (start : UInt16)
    (length : Nat)
    (type : BlockKind) :
    { memory.setBlockKind start length type with blocks := memory.blocks } = memory := by
  simp only [setBlockKind]

theorem setBlockKind_empty
    (memory : Memory)
    {start : UInt16}
    (aligned : blockSize ∣ start.toNat)
    (type : BlockKind) :
    memory.setBlockKind start 0 type = memory := by
  have outside (index : Fin 64) :
      ¬ (start.toNat / blockSize ≤ index.val ∧
        index.val < (start.toNat + 0 + blockSize - 1) / blockSize) := by
    simp only [blockSize] at aligned ⊢
    omega
  have sameBlocks : Vector.ofFn memory.blocks.get = memory.blocks := by
    ext place inside
    rw [Vector.getElem_ofFn]
    rfl
  simp only [setBlockKind, if_neg (outside _), sameBlocks]

/-- What lies behind the last address does not count. -/
theorem setBlockKind_clamped
    (memory : Memory)
    (start : UInt16)
    (length : Nat)
    (type : BlockKind) :
    memory.setBlockKind start length type =
      memory.setBlockKind start (min length (size - start.toNat)) type := by
  have sameBlocks (index : Fin 64) :
      (start.toNat / blockSize ≤ index.val ∧
          index.val < (start.toNat + length + blockSize - 1) / blockSize) ↔
        start.toNat / blockSize ≤ index.val ∧
          index.val <
            (start.toNat + min length (size - start.toNat) + blockSize - 1) / blockSize := by
    have startBelow := start.toNat_lt
    have indexBelow := index.isLt
    simp only [blockSize, size]
    omega
  simp only [setBlockKind, sameBlocks]

/--
Typing a range types the blocks that it meets and no other block, except that an
empty range that starts inside a block types that block. What lies behind the
last address does not count, and nothing but the types changes.
-/
theorem setBlockKind_types_met_blocks
    (memory : Memory)
    (start : UInt16)
    (length : Nat)
    (type : BlockKind) :
    (∀ address,
      RangeMeetsBlock start length address ∨
          (length = 0 ∧ ¬ blockSize ∣ start.toNat ∧ blockIndex start = blockIndex address) →
        (memory.setBlockKind start length type).blockKind address = type) ∧
    (∀ address,
      ¬ (RangeMeetsBlock start length address ∨
          (length = 0 ∧ ¬ blockSize ∣ start.toNat ∧ blockIndex start = blockIndex address)) →
        (memory.setBlockKind start length type).blockKind address = memory.blockKind address) ∧
    (length = 0 → blockSize ∣ start.toNat → memory.setBlockKind start length type = memory) ∧
    memory.setBlockKind start length type =
      memory.setBlockKind start (min length (size - start.toNat)) type ∧
    { memory.setBlockKind start length type with blocks := memory.blocks } = memory := by
  refine ⟨fun address typed => ?_, fun address untyped => ?_, fun empty aligned => ?_,
    memory.setBlockKind_clamped .., memory.setBlockKind_frame ..⟩
  · rw [blockKind_setBlockKind, if_pos ((between_rounded_ends_iff ..).mpr typed)]
  · rw [blockKind_setBlockKind, if_neg (mt (between_rounded_ends_iff ..).mp untyped)]
  · rw [empty, memory.setBlockKind_empty aligned]

/-- A range over the end of memory types its last block, and the first one keeps its type. -/
theorem range_past_end_types_last_block :
    (empty.setBlockKind 0xFFFF 2 .rom).blockKind 0xFC00 = .rom ∧
      (empty.setBlockKind 0xFFFF 2 .rom).blockKind 0 = empty.blockKind 0 := by
  have laws := setBlockKind_types_met_blocks empty 0xFFFF 2 .rom
  refine ⟨laws.1 0xFC00 (.inl ⟨0xFFFF, by decide⟩), laws.2.1 0 ?_⟩
  rintro (⟨place, after, before, sameBlock⟩ | ⟨nonempty, -⟩)
  · have low : place.toNat / 1024 = 0 := congrArg Fin.val sameBlock
    have high : 65535 ≤ place.toNat := after
    omega
  · exact absurd nonempty (by decide)

/-- An empty range inside the first block types that block. -/
theorem empty_range_types_its_block :
    ¬ RangeMeetsBlock 1 0 0 ∧
      empty.blockKind 0 = .ram ∧ (empty.setBlockKind 1 0 .rom).blockKind 0 = .rom := by
  refine ⟨?_, by decide, ?_⟩
  · rintro ⟨place, after, before, -⟩
    exact Nat.not_lt_of_le after before
  · rw [blockKind_setBlockKind]
    rfl

end Memory

end Monitor8080
