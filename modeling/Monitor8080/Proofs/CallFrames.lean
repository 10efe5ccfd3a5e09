import Monitor8080.CallChain
import Monitor8080.Proofs.DecodedFlow
import Monitor8080.Proofs.SymbolLookup
import Monitor8080.Proofs.SymbolSearch
namespace Monitor8080

/-!
# The chain of calls, frame by frame

A frame is made by a stack word and by nothing else: the word is the address
that the nearest call before it ends at. The chain is described by its frames
in their order and by the word that it stops at, and one description fits only
one chain. How long a chain gets if as many frames are wanted as there are is
told by the stack words, which come back after one pass over the address space.
A trace finds this chain unless looking up the symbol of one of its calls fails.
-/

namespace CallChain

/-! ## The call before an address -/

/-- The call is decoded some bytes before an address and ends right before it. -/
structure IsCallBefore
    (view : View)
    (returnAddress : UInt16)
    (distance : Nat)
    (call : Decoded) : Prop where
  decoded : call = decode view.memory (returnAddress - UInt16.ofNat distance) view.dialect none
  isCall : call.isCall
  ends : call.next = returnAddress

/-- The call ends right before an address, and none that starts nearer to the address does. -/
def IsNearestCall
    (view : View)
    (returnAddress : UInt16)
    (call : Decoded) : Prop :=
  ∃ distance,
    1 ≤ distance ∧
      distance ≤ view.scanWindow ∧
      IsCallBefore view returnAddress distance call ∧
      ∀ nearer other,
        1 ≤ nearer → nearer < distance → ¬IsCallBefore view returnAddress nearer other

/-- No call within the window ends right before an address. -/
def HasNoCall
    (view : View)
    (returnAddress : UInt16) : Prop :=
  ∀ distance call,
    1 ≤ distance → distance ≤ view.scanWindow → ¬IsCallBefore view returnAddress distance call

section Calls

variable {view : View} {returnAddress : UInt16}

theorem callBefore?_eq_some_iff
    {distance : Nat}
    {call : Decoded} :
    callBefore? view returnAddress distance = some call ↔
      IsCallBefore view returnAddress distance call := by
  simp only [callBefore?, Option.ite_none_right_eq_some, Option.some.injEq]
  constructor
  · rintro ⟨⟨isCall, ends⟩, rfl⟩
    exact ⟨rfl, isCall, ends⟩
  · rintro ⟨rfl, isCall, ends⟩
    exact ⟨⟨isCall, ends⟩, rfl⟩

theorem callBefore?_eq_none_iff
    {distance : Nat} :
    callBefore? view returnAddress distance = none ↔
      ∀ call, ¬IsCallBefore view returnAddress distance call := by
  simp only [Option.eq_none_iff_forall_ne_some, ne_eq, callBefore?_eq_some_iff]

/-- The search finds the nearest call. -/
theorem callEndingAt?_eq_some_iff
    {call : Decoded} :
    callEndingAt? view returnAddress = some call ↔ IsNearestCall view returnAddress call := by
  rw [callEndingAt?, List.findSome?_eq_some_iff]
  constructor
  · rintro ⟨nearer, distance, farther, split, found, noneNearer⟩
    obtain rfl := List.eq_of_range'_eq_append_cons split
    have inside := List.mem_range'_1.mp (split ▸ List.mem_append_right nearer List.mem_cons_self)
    obtain ⟨count, -, rfl, -⟩ := List.range'_eq_append_iff.mp split
    refine ⟨_, inside.1, by omega, callBefore?_eq_some_iff.mp found, ?_⟩
    intro other call atLeast isNearer
    rw [List.length_range'] at isNearer
    exact callBefore?_eq_none_iff.mp
      (noneNearer other (List.mem_range'_1.mpr ⟨atLeast, by omega⟩)) call
  · rintro ⟨distance, atLeast, inside, isCall, noneNearer⟩
    obtain ⟨before, rfl⟩ := Nat.exists_eq_add_of_le atLeast
    obtain ⟨after, window⟩ : ∃ after, view.scanWindow = before + (after + 1) :=
      ⟨view.scanWindow - before - 1, by omega⟩
    refine ⟨List.range' 1 before, 1 + before, List.range' (1 + before + 1) after, ?_,
      callBefore?_eq_some_iff.mpr isCall, fun nearer member => ?_⟩
    · rw [window, ← List.range'_append_1, List.range'_succ]
    · obtain ⟨atLeast, isNearer⟩ := List.mem_range'_1.mp member
      exact callBefore?_eq_none_iff.mpr fun other => noneNearer nearer other atLeast isNearer

/-- The search finds nothing if there is no call. -/
theorem callEndingAt?_eq_none_iff :
    callEndingAt? view returnAddress = none ↔ HasNoCall view returnAddress := by
  simp only [callEndingAt?, List.findSome?_eq_none_iff, List.mem_range'_1, callBefore?_eq_none_iff]
  constructor
  · intro noneFound distance call atLeast inside
    exact noneFound distance ⟨atLeast, by omega⟩ call
  · intro noCall distance inside call
    exact noCall distance call inside.1 (by omega)

end Calls

/-- No two calls are the nearest one before an address. -/
theorem IsNearestCall.unique
    {view : View}
    {returnAddress : UInt16}
    {call other : Decoded}
    (isNearest : IsNearestCall view returnAddress call)
    (otherIsNearest : IsNearestCall view returnAddress other) :
    call = other :=
  Option.some.inj <|
    (callEndingAt?_eq_some_iff.mpr isNearest).symm.trans
      (callEndingAt?_eq_some_iff.mpr otherIsNearest)

/-! ## Frames by their stack words -/

/-- The address of the stack word of a number, counted from the one at the stack pointer. -/
def wordAddress
    (stackPointer : UInt16)
    (index : Nat) : UInt16 :=
  stackPointer + UInt16.ofNat (2 * index)

/--
The symbol that an address follows in groups that are in order, as groups are
that were made from definitions, if symbols are wanted.
-/
def FollowsSymbol
    (view : View)
    (address : UInt16)
    (symbol? : Option FoundSymbol) : Prop :=
  match view.symbols? with
  | some symbols => symbols.IsOrdered → symbols.Follows address symbol?
  | none => symbol? = none

/-- The symbols of a view are in order. -/
def View.IsOrdered (view : View) : Prop :=
  ∀ symbols, view.symbols? = some symbols → symbols.IsOrdered

/-- The frame is made by the stack word. -/
structure IsFrameAt
    (view : View)
    (stackPointer : UInt16)
    (frame : CallFrame) : Prop where
  place : frame.stackPointer = stackPointer
  returnAddress :
    frame.returnAddress.toNat =
      littleEndian [view.memory.byte stackPointer, view.memory.byte (stackPointer + 1)]
  call : IsNearestCall view frame.returnAddress frame.call
  symbol : FollowsSymbol view frame.call.address frame.symbol?

/-- The frame that a stack word makes, if it makes one. -/
def frameAt?
    (view : View)
    (stackPointer : UInt16) : Option CallFrame :=
  (callEndingAt? view (view.memory.word stackPointer)).map fun call =>
    ⟨stackPointer, view.memory.word stackPointer, call, symbolFor? view call.address⟩

section Frames

variable {view : View} {stackPointer : UInt16}

/-- A byte put below a number is the lowest digit of what both write. -/
theorem shiftLeft_or_toUInt16
    (value : Nat)
    (byte : UInt8) :
    (UInt16.ofNat value <<< 8) ||| byte.toUInt16 = UInt16.ofNat (byte.toNat + 256 * value) := by
  have low := byte.toNat_lt
  have joined := Nat.shiftLeft_add_eq_or_of_lt low (value % 256)
  have shifted : (UInt16.ofNat value <<< 8).toNat = (value % 256) <<< 8 := by
    rw [UInt16.toNat_shiftLeft, UInt16.toNat_ofNat', Nat.shiftLeft_eq, Nat.shiftLeft_eq]
    change value % 2 ^ 16 * 2 ^ 8 % 2 ^ 16 = value % 256 * 2 ^ 8
    omega
  apply UInt16.toNat.inj
  rw [UInt16.toNat_or, shifted, UInt8.toNat_toUInt16, ← joined, Nat.shiftLeft_eq,
    UInt16.toNat_ofNat']
  omega

theorem toNat_wordOfBytes (low high : UInt8) :
    (wordOfBytes low high).toNat = littleEndian [low, high] := by
  have bounded : low.toNat + 256 * high.toNat < UInt16.size := by
    have lowByte := low.toNat_lt
    have highByte := high.toNat_lt
    change _ < 65536
    omega
  rw [wordOfBytes, ← UInt16.ofNat_uInt8ToNat, shiftLeft_or_toUInt16,
    UInt16.toNat_ofNat_of_lt' bounded]
  rfl

theorem followsSymbol_symbolFor?
    (view : View)
    (address : UInt16) :
    FollowsSymbol view address (symbolFor? view address) := by
  unfold symbolFor? FollowsSymbol
  cases view.symbols? with
  | none =>
      rfl
  | some symbols =>
      exact fun ordered => SymbolTable.follows_vicinity? ordered address

theorem FollowsSymbol.unique
    (ordered : view.IsOrdered)
    {address : UInt16}
    {symbol? other? : Option FoundSymbol}
    (follows : FollowsSymbol view address symbol?)
    (otherFollows : FollowsSymbol view address other?) :
    symbol? = other? := by
  unfold FollowsSymbol at follows otherFollows
  cases known : view.symbols? with
  | none =>
      rw [known] at follows otherFollows
      exact follows.trans otherFollows.symm
  | some symbols =>
      rw [known] at follows otherFollows
      exact (follows (ordered symbols known)).unique (otherFollows (ordered symbols known))

/-- The frame that is found for a stack word is made by it. -/
theorem isFrameAt_of_frameAt?
    {frame : CallFrame}
    (found : frameAt? view stackPointer = some frame) :
    IsFrameAt view stackPointer frame := by
  obtain ⟨call, ends, rfl⟩ := Option.map_eq_some_iff.mp found
  exact
    ⟨rfl, toNat_wordOfBytes _ _, callEndingAt?_eq_some_iff.mp ends,
      followsSymbol_symbolFor? view call.address⟩

theorem IsFrameAt.returnAddress_eq
    {frame : CallFrame}
    (isFrame : IsFrameAt view stackPointer frame) :
    frame.returnAddress = view.memory.word stackPointer :=
  UInt16.toNat_inj.mp (isFrame.returnAddress.trans (toNat_wordOfBytes _ _).symm)

theorem IsFrameAt.isNearestCall
    {frame : CallFrame}
    (isFrame : IsFrameAt view stackPointer frame) :
    IsNearestCall view (view.memory.word stackPointer) frame.call :=
  isFrame.returnAddress_eq ▸ isFrame.call

/-- A stack word makes one frame only. -/
theorem IsFrameAt.unique
    (ordered : view.IsOrdered)
    {frame other : CallFrame}
    (isFrame : IsFrameAt view stackPointer frame)
    (otherIsFrame : IsFrameAt view stackPointer other) :
    frame = other := by
  have sameCall := isFrame.isNearestCall.unique otherIsFrame.isNearestCall
  have sameSymbol := isFrame.symbol.unique ordered (sameCall ▸ otherIsFrame.symbol)
  have sameReturn := isFrame.returnAddress_eq.trans otherIsFrame.returnAddress_eq.symm
  have samePlace := isFrame.place.trans otherIsFrame.place.symm
  obtain ⟨_, _, _, _⟩ := frame
  obtain ⟨_, _, _, _⟩ := other
  cases samePlace
  cases sameReturn
  cases sameCall
  cases sameSymbol
  rfl

theorem frameAt?_eq_none_iff :
    frameAt? view stackPointer = none ↔ HasNoCall view (view.memory.word stackPointer) := by
  rw [frameAt?, Option.map_eq_none_iff, callEndingAt?_eq_none_iff]

end Frames

/-! ## The walk up the stack -/

section Walk

variable {view : View} {stackPointer : UInt16} {previous? : Option String} {count : Nat}

theorem wordAddress_zero (stackPointer : UInt16) :
    wordAddress stackPointer 0 = stackPointer :=
  UInt16.add_zero stackPointer

theorem wordAddress_succ (stackPointer : UInt16) (index : Nat) :
    wordAddress (stackPointer + 2) index = wordAddress stackPointer (index + 1) := by
  rw [wordAddress, wordAddress, Nat.mul_succ, Nat.add_comm, UInt16.ofNat_add, ← UInt16.add_assoc]
  rfl

/-- What a walk does at a stack word. -/
theorem framesFrom_succ
    (view : View)
    (stackPointer : UInt16)
    (previous? : Option String)
    (count : Nat) :
    framesFrom view stackPointer previous? (count + 1) =
      match frameAt? view stackPointer with
      | none => []
      | some frame =>
          if previous? = some frame.call.line then []
          else frame :: framesFrom view (stackPointer + 2) (some frame.call.line) count := by
  rw [framesFrom, frameAt?]
  cases callEndingAt? view (view.memory.word stackPointer) <;> rfl

/-- The first frame is made by the first word and shows another call than the line before it. -/
theorem framesFrom_eq_cons
    {frame : CallFrame}
    {frames : List CallFrame}
    (walk : framesFrom view stackPointer previous? count = frame :: frames) :
    ∃ rest,
      count = rest + 1 ∧
        frameAt? view stackPointer = some frame ∧
        previous? ≠ some frame.call.line ∧
        frames = framesFrom view (stackPointer + 2) (some frame.call.line) rest := by
  cases count with
  | zero =>
      cases walk
  | succ rest =>
      rw [framesFrom_succ] at walk
      split at walk
      · cases walk
      · rename_i first found
        split at walk
        · cases walk
        · rename_i different
          obtain ⟨rfl, rfl⟩ := List.cons.inj walk
          exact ⟨rest, rfl, found, different, rfl⟩

/-- A walk finds nothing if the first word makes no frame, or one that repeats the line before it. -/
theorem framesFrom_eq_nil
    (walk : framesFrom view stackPointer previous? count = [])
    (positive : 0 < count) :
    frameAt? view stackPointer = none ∨
      ∃ frame, frameAt? view stackPointer = some frame ∧ previous? = some frame.call.line := by
  obtain ⟨rest, rfl⟩ := Nat.exists_eq_add_one.mpr positive
  rw [framesFrom_succ] at walk
  split at walk
  · rename_i notFound
    exact .inl notFound
  · rename_i frame found
    split at walk
    · rename_i same
      exact .inr ⟨frame, found, same⟩
    · cases walk

/-- Every frame is made by its word, and what follows it is a walk from the next word on. -/
theorem framesFrom_getElem?
    {index : Nat}
    {frame : CallFrame}
    (isThere : (framesFrom view stackPointer previous? count)[index]? = some frame) :
    frameAt? view (wordAddress stackPointer index) = some frame ∧
      index < count ∧
      (framesFrom view stackPointer previous? count).drop (index + 1) =
        framesFrom view (wordAddress stackPointer (index + 1)) (some frame.call.line)
          (count - (index + 1)) := by
  induction index generalizing stackPointer previous? count with
  | zero =>
      cases walk : framesFrom view stackPointer previous? count with
      | nil =>
          rw [walk] at isThere
          cases isThere
      | cons first frames =>
          rw [walk] at isThere
          obtain rfl := Option.some.inj isThere
          obtain ⟨rest, rfl, found, -, rfl⟩ := framesFrom_eq_cons walk
          rw [← wordAddress_succ, wordAddress_zero, wordAddress_zero]
          exact ⟨found, Nat.succ_pos rest, rfl⟩
  | succ index inductionHypothesis =>
      cases walk : framesFrom view stackPointer previous? count with
      | nil =>
          rw [walk] at isThere
          cases isThere
      | cons first frames =>
          rw [walk] at isThere
          obtain ⟨rest, rfl, -, -, rfl⟩ := framesFrom_eq_cons walk
          obtain ⟨found, inside, follows⟩ := inductionHypothesis isThere
          rw [wordAddress_succ] at found follows
          exact ⟨found, Nat.succ_lt_succ inside, by rw [Nat.succ_sub_succ]; exact follows⟩

end Walk

/-! ## Traces -/

/-- Looking up the symbol at an address fails, as the end of a group is no word. -/
def View.OverflowsAt (view : View) (address : UInt16) : Prop :=
  ∃ symbols, view.symbols? = some symbols ∧ symbols.OverflowsAt address

/-- The ends of all groups of symbols that are looked at are words. -/
def View.Fits (view : View) : Prop :=
  ∀ symbols, view.symbols? = some symbols → ∀ group ∈ symbols.groups, group.Fits

section Traces

variable {view : View} {address stackPointer : UInt16} {previous? : Option String} {count : Nat}

theorem View.Fits.not_overflowsAt (fits : view.Fits) : ¬ view.OverflowsAt address := by
  rintro ⟨symbols, known, overflows⟩
  exact SymbolTable.not_overflowsAt (fits symbols known) address overflows

theorem lookupFor_of_overflowsAt (overflows : view.OverflowsAt address) :
    lookupFor view address = .error .sum := by
  obtain ⟨symbols, known, overflows⟩ := overflows
  simp only [lookupFor, known, SymbolTable.lookup_of_overflowsAt overflows]
  rfl

theorem lookupFor_of_not_overflowsAt (fits : ¬ view.OverflowsAt address) :
    lookupFor view address = .ok (symbolFor? view address) := by
  unfold lookupFor symbolFor?
  cases known : view.symbols? with
  | none =>
      rfl
  | some symbols =>
      have symbolsFit : ¬ symbols.OverflowsAt address :=
        fun overflows => fits ⟨symbols, known, overflows⟩
      simp only [SymbolTable.lookup_of_not_overflowsAt symbolsFit]
      rfl

/-- What a trace does at a stack word. -/
theorem traceFrom_succ
    (view : View)
    (stackPointer : UInt16)
    (previous? : Option String)
    (count : Nat) :
    traceFrom view stackPointer previous? (count + 1) =
      match frameAt? view stackPointer with
      | none => .ok []
      | some frame =>
          if previous? = some frame.call.line then .ok []
          else do
            let symbol? ← lookupFor view frame.call.address
            let later ← traceFrom view (stackPointer + 2) (some frame.call.line) count
            return { frame with symbol? := symbol? } :: later := by
  rw [traceFrom, frameAt?]
  cases callEndingAt? view (view.memory.word stackPointer) <;> rfl

/-- A trace is the walk, if the symbols of its calls can be looked up. -/
theorem traceFrom_of_not_overflowsAt
    (fit :
      ∀ frame ∈ framesFrom view stackPointer previous? count,
        ¬ view.OverflowsAt frame.call.address) :
    traceFrom view stackPointer previous? count =
      .ok (framesFrom view stackPointer previous? count) := by
  induction count generalizing stackPointer previous? with
  | zero =>
      rfl
  | succ count inductionHypothesis =>
      rw [framesFrom_succ] at fit ⊢
      rw [traceFrom_succ]
      cases found : frameAt? view stackPointer with
      | none =>
          rfl
      | some frame =>
          rw [found] at fit
          by_cases repeats : previous? = some frame.call.line
          · simp only [if_pos repeats]
          · simp only [if_neg repeats, List.mem_cons] at fit ⊢
            have here := lookupFor_of_not_overflowsAt (fit frame (.inl rfl))
            have later := inductionHypothesis fun next member => fit next (.inr member)
            obtain ⟨call, -, rfl⟩ := Option.map_eq_some_iff.mp found
            rw [here, later]
            rfl

/-- A trace fails if the symbol of one of the calls of the walk cannot be looked up. -/
theorem traceFrom_of_overflowsAt
    {frame : CallFrame}
    (member : frame ∈ framesFrom view stackPointer previous? count)
    (overflows : view.OverflowsAt frame.call.address) :
    traceFrom view stackPointer previous? count = .error .sum := by
  induction count generalizing stackPointer previous? with
  | zero =>
      cases member
  | succ count inductionHypothesis =>
      rw [framesFrom_succ] at member
      rw [traceFrom_succ]
      cases found : frameAt? view stackPointer with
      | none =>
          rw [found] at member
          cases member
      | some first =>
          rw [found] at member
          by_cases repeats : previous? = some first.call.line
          · simp only [if_pos repeats, List.not_mem_nil] at member
          · simp only [if_neg repeats, List.mem_cons] at member ⊢
            by_cases failsHere : view.OverflowsAt first.call.address
            · rw [lookupFor_of_overflowsAt failsHere]
              rfl
            · have isLater := member.resolve_left fun same => failsHere (same ▸ overflows)
              rw [lookupFor_of_not_overflowsAt failsHere, inductionHypothesis isLater]
              rfl

/-- Where all groups end at words, a trace is the walk. -/
theorem View.Fits.trace_eq (fits : view.Fits) (cpu : Cpu) (count : Nat) :
    trace view cpu count = .ok (frames view cpu count) :=
  traceFrom_of_not_overflowsAt fun _ _ => fits.not_overflowsAt

end Traces

/-! ## Chains by their frames -/

/--
The word after the frames makes no frame, or one that shows the same call as the
last of them.
-/
def EndsAfter
    (view : View)
    (stackPointer : UInt16)
    (frames : List CallFrame) : Prop :=
  let returnAddress := view.memory.word (wordAddress stackPointer frames.length)
  HasNoCall view returnAddress ∨
    ∃ last call,
      frames.getLast? = some last ∧
        IsNearestCall view returnAddress call ∧ call.line = last.call.line

/-- The frames are those of the stack words from the stack pointer on, as many as can be had. -/
structure IsChain
    (view : View)
    (stackPointer : UInt16)
    (count : Nat)
    (frames : List CallFrame) : Prop where
  within : frames.length ≤ count
  frameAt :
    ∀ ⦃index frame⦄,
      frames[index]? = some frame → IsFrameAt view (wordAddress stackPointer index) frame
  changes :
    ∀ ⦃index frame next⦄,
      frames[index]? = some frame →
        frames[index + 1]? = some next → next.call.line ≠ frame.call.line
  maximal : frames.length < count → EndsAfter view stackPointer frames

section Chains

variable {view : View} {stackPointer : UInt16} {count : Nat}

theorem framesFrom_isChain :
    IsChain view stackPointer count (framesFrom view stackPointer none count) where
  within := by
    rcases Nat.lt_or_ge count (framesFrom view stackPointer none count).length with longer | within
    · obtain ⟨-, inside, -⟩ := framesFrom_getElem? (List.getElem?_eq_getElem longer)
      exact absurd inside (Nat.lt_irrefl count)
    · exact within
  frameAt := fun index frame isThere =>
    isFrameAt_of_frameAt? (framesFrom_getElem? isThere).1
  changes := by
    intro index frame next isThere isNext same
    obtain ⟨-, -, follows⟩ := framesFrom_getElem? isThere
    have isFirst :
        ((framesFrom view stackPointer none count).drop (index + 1)).head? = some next := by
      rw [List.head?_drop, isNext]
    rw [follows] at isFirst
    obtain ⟨rest, walk⟩ := List.head?_eq_some_iff.mp isFirst
    obtain ⟨-, -, -, different, -⟩ := framesFrom_eq_cons walk
    exact different (congrArg some same.symm)
  maximal := by
    intro shorter
    cases isLast : (framesFrom view stackPointer none count).getLast? with
    | none =>
        have walk := List.getLast?_eq_none_iff.mp isLast
        rw [walk] at shorter ⊢
        rw [EndsAfter, List.length_nil, wordAddress_zero]
        rcases framesFrom_eq_nil walk shorter with notFound | ⟨frame, -, same⟩
        · exact .inl (frameAt?_eq_none_iff.mp notFound)
        · cases same
    | some last =>
        have notEmpty := List.length_pos_of_mem (List.mem_of_getLast? isLast)
        rw [List.getLast?_eq_getElem?] at isLast
        obtain ⟨-, -, follows⟩ := framesFrom_getElem? isLast
        rw [Nat.sub_add_cancel notEmpty, List.drop_length] at follows
        rcases framesFrom_eq_nil follows.symm (Nat.sub_pos_of_lt shorter) with
          notFound | ⟨frame, found, same⟩
        · exact .inl (frameAt?_eq_none_iff.mp notFound)
        · refine .inr ⟨last, frame.call, ?_, (isFrameAt_of_frameAt? found).isNearestCall, ?_⟩
          · rw [List.getLast?_eq_getElem?, isLast]
          · exact (Option.some.inj same).symm

/-- A chain does not end where another one goes on. -/
theorem IsChain.length_le
    {frames others : List CallFrame}
    (isChain : IsChain view stackPointer count frames)
    (otherIsChain : IsChain view stackPointer count others) :
    others.length ≤ frames.length := by
  rcases Nat.lt_or_ge frames.length others.length with longer | within
  · obtain ⟨next, isThere⟩ : ∃ next, others[frames.length]? = some next :=
      ⟨_, List.getElem?_eq_getElem longer⟩
    have goesOn := (otherIsChain.frameAt isThere).isNearestCall
    rcases isChain.maximal (Nat.lt_of_lt_of_le longer otherIsChain.within) with
      noCall | ⟨last, call, isLast, isNearest, same⟩
    · obtain ⟨distance, atLeast, inside, isCall, -⟩ := goesOn
      exact absurd isCall (noCall distance _ atLeast inside)
    · have notEmpty := List.length_pos_of_mem (List.mem_of_getLast? isLast)
      rw [List.getLast?_eq_getElem?] at isLast
      obtain ⟨other, isOther⟩ : ∃ other, others[frames.length - 1]? = some other :=
        ⟨_, List.getElem?_eq_getElem (by omega)⟩
      have sameCall : last.call = other.call :=
        (isChain.frameAt isLast).isNearestCall.unique (otherIsChain.frameAt isOther).isNearestCall
      rw [isNearest.unique goesOn, sameCall] at same
      rw [← Nat.sub_add_cancel notEmpty] at isThere
      exact absurd same (otherIsChain.changes isOther isThere)
  · exact within

/-- There is one chain only. -/
theorem IsChain.unique
    (ordered : view.IsOrdered)
    {frames others : List CallFrame}
    (isChain : IsChain view stackPointer count frames)
    (otherIsChain : IsChain view stackPointer count others) :
    frames = others := by
  have sameLength :=
    Nat.le_antisymm (otherIsChain.length_le isChain) (isChain.length_le otherIsChain)
  refine List.ext_getElem sameLength fun index inside otherInside => ?_
  have isFrame := isChain.frameAt (List.getElem?_eq_getElem inside)
  have otherIsFrame := otherIsChain.frameAt (List.getElem?_eq_getElem otherInside)
  exact isFrame.unique ordered otherIsFrame

/--
The frames of a trace are those of the chain: each is made by its stack word,
with the nearest call before it and the symbol that this call follows, no two
neighbours show the same call, and only a word without a call or with the same
call ends the chain before there are enough. Nothing else is a chain. The trace
fails exactly if looking up the symbol of one of these calls comes to the end of
a group that is no word.
-/
theorem frames_are_the_chain
    (view : View)
    (cpu : Cpu)
    (count : Nat) :
    let chain := frames view cpu count
    IsChain view cpu.sp count chain ∧
      (view.IsOrdered → ∀ others, IsChain view cpu.sp count others → others = chain) ∧
      ((∀ frame ∈ chain, ¬ view.OverflowsAt frame.call.address) →
        trace view cpu count = .ok chain) ∧
      ∀ frame ∈ chain,
        view.OverflowsAt frame.call.address → trace view cpu count = .error .sum :=
  ⟨framesFrom_isChain,
    fun ordered _ isChain => isChain.unique ordered framesFrom_isChain,
    traceFrom_of_not_overflowsAt,
    fun _ => traceFrom_of_overflowsAt⟩

/-- A restart at 0040, to which the stack word at 0FFE returns, and some symbols. -/
def restartAlone (symbols? : Option SymbolTable) : View where
  memory := (Memory.empty.setByte 0x0040 0xFF).setByte 0x0FFE 0x41
  dialect := .intel8080
  scanWindow := 4
  symbols? := symbols?

/-- The one frame that a restart alone makes. -/
def restartFrame (symbols? : Option SymbolTable) : CallFrame :=
  ⟨0x0FFE, 0x0041, decode (restartAlone symbols?).memory 0x0040 .intel8080 none,
    symbolFor? (restartAlone symbols?) 0x0040⟩

theorem frames_restartAlone (symbols? : Option SymbolTable) :
    frames (restartAlone symbols?) { Cpu.initial with sp := 0x0FFE } 16 =
      [restartFrame symbols?] := by
  let view := restartAlone symbols?
  have bytes :
      ∀ address,
        view.memory.byte address =
          if 0x0FFE = address then 0x41 else if 0x0040 = address then 0xFF else 0 := by
    intro address
    simp only [view, restartAlone, Memory.byte_setByte, Memory.byte_empty]
  have isReturn : view.memory.word 0x0FFE = 0x0041 := by
    simp only [Memory.word, bytes]
    decide
  have isOther : view.memory.word 0x1000 = 0x0000 := by
    simp only [Memory.word, bytes]
    decide
  have isNearest : IsNearestCall view 0x0041 (decode view.memory 0x0040 .intel8080 none) := by
    refine
      ⟨1, Nat.le_refl 1, Nat.le_add_left 1 3, ⟨rfl, ?_, ?_⟩, fun nearer other => by omega⟩
    · simp only [Decoded.isCall, decode, bytes]
      decide
    · simp only [Decoded.next, Decoded.length, decode, Memory.length_bytesFrom, bytes]
      decide
  have noCall : HasNoCall view 0x0000 := by
    rintro distance call atLeast inside ⟨rfl, isCall, -⟩
    have noneIsCall :
        ∀ distance : Fin 5,
          let address := 0x0000 - UInt16.ofNat distance
          (Instruction.ofOpcode
            (if 0x0FFE = address then 0x41 else if 0x0040 = address then 0xFF else 0)).isCall =
              false := by
      decide
    rw [Decoded.isCall, decode, bytes, noneIsCall ⟨distance, Nat.lt_succ_of_le inside⟩] at isCall
    cases isCall
  have isFrame : frameAt? view 0x0FFE = some (restartFrame symbols?) := by
    rw [frameAt?, isReturn, callEndingAt?_eq_some_iff.mpr isNearest]
    rfl
  have isNoFrame : frameAt? view 0x1000 = none := by
    rwa [frameAt?_eq_none_iff, isOther]
  change framesFrom view 0x0FFE none (14 + 1 + 1) = [restartFrame symbols?]
  rw [framesFrom_succ, isFrame]
  change
    restartFrame symbols? ::
        framesFrom view 0x1000 (some (restartFrame symbols?).call.line) (14 + 1) =
      [restartFrame symbols?]
  rw [framesFrom_succ, isNoFrame]

/-- A restart behind the last symbol of its module is all that makes a frame. -/
theorem restart_is_whole_chain :
    let view :=
      restartAlone
        (some (SymbolTable.empty.withModule "ROM" 0 0x100 [("MAIN", ⟨some 0x30, none, none⟩)]))
    view.IsOrdered ∧
      ∃ frame,
        frame.call.address = 0x0040 ∧
          frame.symbol?.map (·.name) = some "MAIN" ∧
          IsChain view 0x0FFE 16 [frame] ∧
          trace view { Cpu.initial with sp := 0x0FFE } 16 = .ok [frame] := by
  intro view
  have ordered : view.IsOrdered := by
    rintro symbols ⟨rfl⟩
    exact SymbolTable.isOrdered_empty.withModule _ _ _ _
  have fits : view.Fits := by
    rintro symbols ⟨rfl⟩ group member
    obtain rfl := List.mem_singleton.mp member
    decide
  obtain ⟨isChain, -, traced, -⟩ :=
    frames_are_the_chain view { Cpu.initial with sp := 0x0FFE } 16
  rw [frames_restartAlone] at isChain traced
  exact ⟨ordered, _, rfl, by decide +kernel, isChain, traced fun _ _ => fits.not_overflowsAt⟩

/-- A group that ends at no word leaves no trace of the calls behind its base. -/
theorem overlong_group_hides_the_chain :
    let view := restartAlone (some (SymbolTable.empty.withModule "M" 1 0xFFFFFFFFFFFFFFFF []))
    let cpu := { Cpu.initial with sp := 0x0FFE }
    (frames view cpu 16).length = 1 ∧ trace view cpu 16 = .error .sum := by
  intro view cpu
  have walk := frames_restartAlone view.symbols?
  have overflows : view.OverflowsAt 0x0040 := ⟨_, rfl, _, rfl, by decide⟩
  have member : restartFrame view.symbols? ∈ frames view cpu 16 :=
    walk ▸ List.mem_singleton_self _
  exact ⟨congrArg List.length walk, traceFrom_of_overflowsAt member overflows⟩

end Chains

end CallChain
end Monitor8080
