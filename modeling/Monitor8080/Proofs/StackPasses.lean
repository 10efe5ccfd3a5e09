import Monitor8080.Proofs.CallFrames
namespace Monitor8080

/-!
# Passes over the stack

A walk up the stack is as long as the stack words go on, and the same words come
back after 32768 of them. Nothing but the number of frames that is wanted ends a
walk that passes over the whole address space once, since on the next pass each
word does what it did before. So a walk either reports no word twice, whatever
number is wanted, or finds as many frames as are wanted.
-/

namespace CallChain

/-- How many words a stack has before it comes back to the same address. -/
def stackWords : Nat := 32768

section Walks

variable {view : View} {stackPointer : UInt16} {previous? : Option String}

/-- The line of the call that the stack word of a number returns from. -/
def lineAt?
    (view : View)
    (stackPointer : UInt16)
    (index : Nat) : Option String :=
  (frameAt? view (wordAddress stackPointer index)).map (·.call.line)

/-- The line of the word before, given the line before the first. -/
def lineBefore?
    (view : View)
    (stackPointer : UInt16)
    (previous? : Option String) : Nat → Option String
  | 0 => previous?
  | index + 1 => lineAt? view stackPointer index

/-- The stack word of a number makes a frame with another line than the word before. -/
def GoesOnAt
    (view : View)
    (stackPointer : UInt16)
    (previous? : Option String)
    (index : Nat) : Prop :=
  ∃ line,
    lineAt? view stackPointer index = some line ∧
      lineBefore? view stackPointer previous? index ≠ some line

theorem lineAt?_zero
    (view : View)
    (stackPointer : UInt16) :
    lineAt? view stackPointer 0 = (frameAt? view stackPointer).map (·.call.line) := by
  rw [lineAt?, wordAddress_zero]

theorem lineAt?_succ
    (view : View)
    (stackPointer : UInt16)
    (index : Nat) :
    lineAt? view (stackPointer + 2) index = lineAt? view stackPointer (index + 1) := by
  rw [lineAt?, lineAt?, wordAddress_succ]

/-- From the second word on, the words go on as they do for a walk that starts there. -/
theorem goesOnAt_succ_iff
    {line : String}
    (first : lineAt? view stackPointer 0 = some line)
    (index : Nat) :
    GoesOnAt view stackPointer previous? (index + 1) ↔
      GoesOnAt view (stackPointer + 2) (some line) index := by
  cases index with
  | zero =>
      simp only [GoesOnAt, lineAt?_succ, lineBefore?, first]
  | succ index =>
      simp only [GoesOnAt, lineAt?_succ, lineBefore?]

/-- A walk has the frame of a number if it is wanted and all words up to there go on. -/
theorem lt_length_framesFrom_iff
    {count index : Nat} :
    index < (framesFrom view stackPointer previous? count).length ↔
      index < count ∧ ∀ earlier ≤ index, GoesOnAt view stackPointer previous? earlier := by
  induction count generalizing stackPointer previous? index with
  | zero =>
      exact iff_of_false (Nat.not_lt_zero index) fun goesOn => Nat.not_lt_zero index goesOn.1
  | succ count inductionHypothesis =>
      rw [framesFrom_succ]
      cases found : frameAt? view stackPointer with
      | none =>
          have stops : ¬GoesOnAt view stackPointer previous? 0 := by
            rintro ⟨line, isLine, -⟩
            rw [lineAt?_zero, found] at isLine
            cases isLine
          exact iff_of_false (Nat.not_lt_zero index)
            fun goesOn => stops (goesOn.2 0 (Nat.zero_le index))
      | some frame =>
          have first : lineAt? view stackPointer 0 = some frame.call.line := by
            rw [lineAt?_zero, found, Option.map_some]
          simp only
          split
          · rename_i same
            have stops : ¬GoesOnAt view stackPointer previous? 0 := by
              rintro ⟨line, isLine, different⟩
              exact different (same.trans (first.symm.trans isLine))
            exact iff_of_false (Nat.not_lt_zero index)
              fun goesOn => stops (goesOn.2 0 (Nat.zero_le index))
          · rename_i different
            have goesOnFirst : GoesOnAt view stackPointer previous? 0 :=
              ⟨frame.call.line, first, different⟩
            cases index with
            | zero =>
                refine ⟨fun _ => ⟨Nat.succ_pos count, fun earlier atFirst => ?_⟩,
                  fun _ => Nat.succ_pos _⟩
                rwa [Nat.le_zero.mp atFirst]
            | succ index =>
                rw [List.length_cons, Nat.succ_lt_succ_iff, Nat.succ_lt_succ_iff,
                  inductionHypothesis]
                refine and_congr_right fun _ => ⟨?_, ?_⟩
                · intro goesOn earlier inside
                  cases earlier with
                  | zero => exact goesOnFirst
                  | succ earlier =>
                      exact (goesOnAt_succ_iff first earlier).mpr
                        (goesOn earlier (Nat.le_of_succ_le_succ inside))
                · intro goesOn earlier inside
                  exact (goesOnAt_succ_iff first earlier).mp
                    (goesOn (earlier + 1) (Nat.succ_le_succ inside))

/-! ## The next pass -/

theorem wordAddress_add_stackWords
    (stackPointer : UInt16)
    (index : Nat) :
    wordAddress stackPointer (index + stackWords) = wordAddress stackPointer index := by
  have wraps : UInt16.ofNat (2 * stackWords) = 0 := by decide
  rw [wordAddress, Nat.mul_add, UInt16.ofNat_add, wraps, UInt16.add_zero, wordAddress]

/-- Words that are less than a pass apart stand at different addresses. -/
theorem wordAddress_inj
    {first second : Nat}
    (firstInside : first < stackWords)
    (secondInside : second < stackWords)
    (same : wordAddress stackPointer first = wordAddress stackPointer second) :
    first = second := by
  have inside {index : Nat} (indexInside : index < stackWords) : 2 * index < Memory.size := by
    rw [stackWords] at indexInside
    rw [Memory.size]
    omega
  have sameOffset := Memory.add_ofNat_inj (inside firstInside) (inside secondInside) same
  exact Nat.eq_of_mul_eq_mul_left (by decide) sameOffset

theorem lineAt?_add_stackWords
    (view : View)
    (stackPointer : UInt16)
    (index : Nat) :
    lineAt? view stackPointer (index + stackWords) = lineAt? view stackPointer index := by
  rw [lineAt?, lineAt?, wordAddress_add_stackWords]

/-- But for the first word, a word does on the next pass what it did before. -/
theorem goesOnAt_add_stackWords_iff
    (index : Nat) :
    GoesOnAt view stackPointer previous? (index + 1 + stackWords) ↔
      GoesOnAt view stackPointer previous? (index + 1) := by
  rw [GoesOnAt, GoesOnAt, lineAt?_add_stackWords, Nat.add_right_comm, lineBefore?,
    lineAt?_add_stackWords, lineBefore?]

/-- A walk that goes on past one pass goes on for ever. -/
theorem goesOnAt_of_pass
    (pass : ∀ index ≤ stackWords, GoesOnAt view stackPointer previous? index)
    (index : Nat) :
    GoesOnAt view stackPointer previous? index := by
  induction index using Nat.strongRecOn with
  | ind index inductionHypothesis =>
      rcases Nat.lt_or_ge stackWords index with later | inside
      · obtain ⟨earlier, rfl⟩ : ∃ earlier, index = earlier + 1 + stackWords :=
          ⟨index - 1 - stackWords, by omega⟩
        exact (goesOnAt_add_stackWords_iff earlier).mpr
          (inductionHypothesis (earlier + 1) (by rw [stackWords]; omega))
      · exact pass index inside

/-- A walk with more frames than a pass has words has as many frames as are wanted. -/
theorem length_framesFrom_of_pass
    {count : Nat}
    (longer : stackWords < (framesFrom view stackPointer previous? count).length)
    (wanted : Nat) :
    (framesFrom view stackPointer previous? wanted).length = wanted := by
  have goesOn := goesOnAt_of_pass (lt_length_framesFrom_iff.mp longer).2
  apply Nat.le_antisymm
  · refine Nat.not_lt.mp fun tooLong => ?_
    exact Nat.lt_irrefl wanted (lt_length_framesFrom_iff.mp tooLong).1
  · refine Nat.not_lt.mp fun tooShort => ?_
    exact Nat.lt_irrefl _
      (lt_length_framesFrom_iff.mpr ⟨tooShort, fun earlier _ => goesOn earlier⟩)

/-- A walk that ends before there are enough frames ends there however many are wanted. -/
theorem length_framesFrom_eq_min
    {most : Nat}
    (ends : (framesFrom view stackPointer previous? most).length < most)
    (count : Nat) :
    (framesFrom view stackPointer previous? count).length =
      min count (framesFrom view stackPointer previous? most).length := by
  have stops :
      ¬∀ earlier ≤ (framesFrom view stackPointer previous? most).length,
        GoesOnAt view stackPointer previous? earlier :=
    fun goesOn => Nat.lt_irrefl _ (lt_length_framesFrom_iff.mpr ⟨ends, goesOn⟩)
  have sameIndexes :
      ∀ index,
        index < (framesFrom view stackPointer previous? count).length ↔
          index < min count (framesFrom view stackPointer previous? most).length := by
    intro index
    rw [lt_length_framesFrom_iff, Nat.lt_min]
    refine and_congr_right fun _ => ⟨fun goesOn => ?_, fun inside => ?_⟩
    · refine Nat.not_le.mp fun outside => stops fun earlier within => ?_
      exact goesOn earlier (Nat.le_trans within outside)
    · exact (lt_length_framesFrom_iff.mp inside).2
  apply Nat.le_antisymm
  · exact Nat.not_lt.mp fun longer => Nat.lt_irrefl _ ((sameIndexes _).mp longer)
  · exact Nat.not_lt.mp fun shorter => Nat.lt_irrefl _ ((sameIndexes _).mpr shorter)

/-! ## Words that are reported -/

theorem map_stackPointer_framesFrom
    (count : Nat) :
    (framesFrom view stackPointer previous? count).map (·.stackPointer) =
      (List.range (framesFrom view stackPointer previous? count).length).map
        (wordAddress stackPointer) := by
  refine List.ext_getElem (by simp) fun index inside otherInside => ?_
  rw [List.length_map] at inside
  obtain ⟨found, -, -⟩ := framesFrom_getElem? (List.getElem?_eq_getElem inside)
  obtain ⟨call, -, isFrame⟩ := Option.map_eq_some_iff.mp found
  rw [List.getElem_map, List.getElem_map, List.getElem_range, ← isFrame]

/-- Words are reported twice only if there are more frames than a pass has words. -/
theorem nodup_stackPointers_iff
    (count : Nat) :
    ((framesFrom view stackPointer previous? count).map (·.stackPointer)).Nodup ↔
      (framesFrom view stackPointer previous? count).length ≤ stackWords := by
  rw [map_stackPointer_framesFrom]
  generalize (framesFrom view stackPointer previous? count).length = length
  rw [List.Nodup, List.pairwise_map]
  constructor
  · intro distinct
    refine Nat.not_lt.mp fun longer => ?_
    -- The word after the pass is the first one again.
    have apart :=
      List.pairwise_iff_getElem.mp distinct 0 stackWords (by rw [List.length_range]; omega)
        (by rwa [List.length_range]) (by decide)
    rw [List.getElem_range, List.getElem_range] at apart
    exact apart (wordAddress_add_stackWords stackPointer 0).symm
  · intro within
    refine List.nodup_range.imp_of_mem fun {first second} isFirst isSecond different same => ?_
    exact different <|
      wordAddress_inj (Nat.lt_of_lt_of_le (List.mem_range.mp isFirst) within)
        (Nat.lt_of_lt_of_le (List.mem_range.mp isSecond) within) same

/--
A stack word is reported twice exactly if there are more frames than a pass over
the address space has words. Either there are never so many, and the walk ends
at a word that does not depend on how many frames are wanted, or there are as
many as are wanted. These are the frames of a trace if the ends of all groups of
symbols are words, as they are where no symbols are looked at.
-/
theorem stackPointers_recur_after_pass
    (view : View)
    (cpu : Cpu) :
    (view.Fits → ∀ count, trace view cpu count = .ok (frames view cpu count)) ∧
    (∀ count,
      ((frames view cpu count).map (·.stackPointer)).Nodup ↔
        (frames view cpu count).length ≤ stackWords) ∧
      ((∃ most, most ≤ stackWords ∧ ∀ count, (frames view cpu count).length = min count most) ∨
        ∀ count, (frames view cpu count).length = count) := by
  refine ⟨fun fits => fits.trace_eq cpu, nodup_stackPointers_iff, ?_⟩
  rcases Nat.lt_or_ge stackWords (frames view cpu (stackWords + 1)).length with longer | within
  · exact .inr (length_framesFrom_of_pass longer)
  · exact .inl ⟨_, within, length_framesFrom_eq_min (Nat.lt_succ_of_le within)⟩

end Walks

/-! ## Restarts everywhere -/

/-- A view of memory in which `C7`, `CF`, `D7` and `DF` follow one another all over. -/
def restarts : View where
  memory :=
    { Memory.empty with
      bytes := Vector.ofFn fun address => UInt8.ofNat (0xC7 + 8 * (address.val % 4)) }
  dialect := .intel8080
  scanWindow := 1
  symbols? := none

theorem byte_restarts (address : UInt16) :
    restarts.memory.byte address = UInt8.ofNat (0xC7 + 8 * (address.toNat % 4)) := by
  have inside : address.toNat < 65536 := address.toNat_lt
  change (Vector.ofFn _)[address.toNat] = _
  rw [Vector.getElem_ofFn]

/-- The address before the one that a stack word holds. -/
def restartBefore (index : Nat) : UInt16 :=
  if index % 2 = 0 then 0xCFC6 else 0xDFD6

theorem word_restarts (index : Nat) :
    restarts.memory.word (wordAddress 0 index) = restartBefore index + 1 := by
  have place : (wordAddress 0 index).toNat % 4 = 2 * (index % 2) := by
    rw [wordAddress, UInt16.zero_add, UInt16.toNat_ofNat']
    omega
  have next : (wordAddress 0 index + 1).toNat % 4 = 2 * (index % 2) + 1 := by
    rw [UInt16.toNat_add, UInt16.toNat_one]
    omega
  rw [Memory.word, byte_restarts, byte_restarts, place, next, restartBefore]
  rcases Nat.mod_two_eq_zero_or_one index with even | odd
  · rw [even]
    decide
  · rw [odd]
    decide

/-- The restart as which a byte `D7` is decoded. -/
def restartAt (address : UInt16) : Decoded :=
  ⟨address, [0xD7], .ofOpcode 0xD7, false, "RST", ["2"], []⟩

theorem decode_restarts (index : Nat) :
    decode restarts.memory (restartBefore index) .intel8080 none =
      restartAt (restartBefore index) := by
  have atRestart : (restartBefore index).toNat % 4 = 2 := by
    rw [restartBefore]
    split <;> rfl
  have isRestart : restarts.memory.byte (restartBefore index) = 0xD7 := by
    rw [byte_restarts, atRestart]
    decide
  have alone :
      restarts.memory.bytesFrom (restartBefore index) (Instruction.ofOpcode 0xD7).length =
        [0xD7] := by
    change [restarts.memory.byte (restartBefore index)] = [0xD7]
    rw [isRestart]
  rw [decode, isRestart, alone]
  rfl

theorem lineAt?_restarts (index : Nat) :
    lineAt? restarts 0 index = some (restartAt (restartBefore index)).line := by
  have isNearest :
      IsNearestCall restarts (restartBefore index + 1) (restartAt (restartBefore index)) := by
    have back : restartBefore index + 1 - UInt16.ofNat 1 = restartBefore index :=
      UInt16.add_sub_cancel _ _
    refine ⟨1, Nat.le_refl 1, Nat.le_refl 1, ⟨?_, rfl, rfl⟩, fun nearer other => by omega⟩
    rw [back]
    exact (decode_restarts index).symm
  rw [lineAt?, frameAt?, word_restarts, callEndingAt?_eq_some_iff.mpr isNearest]
  rfl

theorem goesOnAt_restarts (index : Nat) : GoesOnAt restarts 0 none index := by
  have different : (restartAt 0xCFC6).line ≠ (restartAt 0xDFD6).line := by
    decide +kernel
  refine ⟨_, lineAt?_restarts index, ?_⟩
  cases index with
  | zero =>
      exact nofun
  | succ index =>
      rw [lineBefore?, lineAt?_restarts, ne_eq, Option.some.injEq, restartBefore, restartBefore]
      rcases Nat.mod_two_eq_zero_or_one index with even | odd
      · rw [if_pos even, if_neg (by omega)]
        exact different
      · rw [if_neg (by omega), if_pos (by omega)]
        exact different.symm

theorem fits_restarts : restarts.Fits :=
  fun _ none => by cases none

/-- With restarts everywhere a trace of one pass reports no stack word twice. -/
theorem restarts_are_distinct_within_pass :
    restarts.Fits ∧
      ∃ chain,
        trace restarts { Cpu.initial with sp := 0 } stackWords = .ok chain ∧
          (chain.map (·.stackPointer)).Nodup := by
  obtain ⟨traced, distinct_iff, -⟩ :=
    stackPointers_recur_after_pass restarts { Cpu.initial with sp := 0 }
  exact
    ⟨fits_restarts, _, traced fits_restarts stackWords,
      (distinct_iff stackWords).mpr framesFrom_isChain.within⟩

/-- With restarts everywhere each stack word is a return address, and is reported on every pass. -/
theorem restarts_repeat_stack_words :
    ∃ chain,
      trace restarts { Cpu.initial with sp := 0 } (stackWords + 1) = .ok chain ∧
        ¬(chain.map (·.stackPointer)).Nodup := by
  refine ⟨_, fits_restarts.trace_eq _ _, fun distinct => ?_⟩
  have within := (nodup_stackPointers_iff (stackWords + 1)).mp distinct
  exact Nat.not_lt.mpr within <|
    lt_length_framesFrom_iff.mpr
      ⟨Nat.lt_succ_self stackWords, fun index _ => goesOnAt_restarts index⟩

end CallChain

end Monitor8080
