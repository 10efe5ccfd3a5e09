import Monitor8080.CommandLine.Program
namespace Monitor8080.CommandLine

/-!
# Writing files

A file that is written stands where its path led before, in a directory that
was there. So paths lead where they led, and find what they found, but for the
paths of that place, which find the new text.
-/

/-! ## Texts and bytes -/

theorem toList_loop_eq
    (bytes : ByteArray)
    (index : Nat)
    (done : List UInt8) :
    ByteArray.toList.loop bytes index done = done.reverse ++ bytes.data.toList.drop index := by
  induction index, done using ByteArray.toList.loop.induct bytes with
  | case1 index done inside inductionHypothesis =>
      have bound : index < bytes.data.toList.length := by
        rwa [Array.length_toList]
      have next : bytes.get! index = bytes.data.toList[index] := by
        rw [ByteArray.get!, getElem!_pos bytes.data index inside, Array.getElem_toList]
      rw [ByteArray.toList.loop, if_pos inside, inductionHypothesis,
        List.drop_eq_getElem_cons bound, next, List.reverse_cons, List.append_assoc,
        List.singleton_append]
  | case2 index done outside =>
      have ended : bytes.data.toList.length ≤ index := by
        rw [Array.length_toList]
        exact Nat.le_of_not_lt outside
      rw [ByteArray.toList.loop, if_neg outside, List.drop_eq_nil_of_le ended, List.append_nil]

/-- The bytes of a text are read as the text. -/
theorem fromUTF8?_toUTF8 (text : String) :
    String.fromUTF8? ⟨text.toUTF8.toList.toArray⟩ = some text := by
  have same : (⟨text.toUTF8.toList.toArray⟩ : ByteArray) = text.toByteArray := by
    rw [ByteArray.toList, toList_loop_eq, List.reverse_nil, List.nil_append, List.drop_zero,
      String.toUTF8_eq_toByteArray]
  rw [same, String.fromUTF8?, dif_pos text.isValidUTF8]
  rfl

theorem readText_of_toUTF8
    {find : Lookup}
    {path text : String}
    (found : find path = .file text.toUTF8.toList) :
    readText find path = .ok text := by
  simp only [readText, readBytes, found, bind, Except.bind, fromUTF8?_toUTF8]
  rfl

/-! ## Places that paths lead to -/

namespace FileTree

variable {tree : FileTree}

theorem isDirectory_iff {place : Place} :
    tree.isDirectory place = true ↔
      (∀ name ∈ place, name = "..") ∨
        place = Place.root ∨ ∃ file ∈ tree.files, file.1 ≠ place ∧ place <:+ file.1 := by
  simp [isDirectory, or_assoc]

/-- What a directory lies in is a directory. -/
theorem isDirectory_of_suffix
    {inner outer : Place}
    (isInner : tree.isDirectory inner = true)
    (inside : outer <:+ inner) :
    tree.isDirectory outer = true := by
  rw [isDirectory_iff] at isInner ⊢
  rcases isInner with above | rfl | ⟨file, member, notInner, holds⟩
  · exact .inl fun name present => above name (inside.mem present)
  · rcases List.suffix_cons_iff.mp inside with isRoot | isEmpty
    · exact .inr (.inl isRoot)
    · rw [List.suffix_nil.mp isEmpty]
      exact .inl nofun
  · refine .inr (.inr ⟨file, member, fun same => notInner ?_, inside.trans holds⟩)
    subst same
    exact inside.eq_of_length_le holds.length_le

/-- The only places above a name that leads upwards are more of that kind. -/
def IsResolved (place : Place) : Prop :=
  ∀ names, (".." :: names) <:+ place → ∀ name ∈ names, name = ".."

theorem IsResolved.of_suffix
    {inner outer : Place}
    (resolved : IsResolved inner)
    (inside : outer <:+ inner) :
    IsResolved outer :=
  fun names upwards => resolved names (upwards.trans inside)

theorem IsResolved.cons
    {place : Place}
    (resolved : IsResolved place)
    {name : String}
    (isName : name ≠ "..") :
    IsResolved (name :: place) := by
  intro names upwards
  rcases List.suffix_cons_iff.mp upwards with same | inside
  · exact absurd (List.cons.inj same).1.symm isName
  · exact resolved names inside

/-- A place that is a directory, or lies in one. -/
structure IsReached (tree : FileTree) (place : Place) : Prop where
  resolved : IsResolved place
  lies :
    tree.isDirectory place = true ∨
      ∃ name outer, place = name :: outer ∧ tree.isDirectory outer = true

/-- The places above the working directory. -/
theorem isReached_above
    {place : Place}
    (above : ∀ name ∈ place, name = "..") :
    tree.IsReached place where
  resolved := fun _ upwards name member => above name (upwards.mem (List.mem_cons_of_mem _ member))
  lies := .inl (isDirectory_iff.mpr (.inl above))

/-- What leads upwards from a directory leads to a directory. -/
theorem IsReached.parent
    {place : Place}
    (reached : tree.IsReached place)
    (isDirectory : tree.isDirectory place = true) :
    tree.IsReached place.parent := by
  unfold Place.parent
  split
  · exact isReached_above fun name member => List.mem_singleton.mp member
  · rename_i names
    have above := reached.resolved names (List.suffix_refl _)
    refine isReached_above fun name member => ?_
    rcases List.mem_cons.mp member with upwards | further
    · exact upwards
    · rcases List.mem_cons.mp further with upwards | outer
      · exact upwards
      · exact above name outer
  · exact reached
  · rename_i name names _ _
    have inside : names <:+ name :: names := List.suffix_cons name names
    exact ⟨reached.resolved.of_suffix inside, .inl (isDirectory_of_suffix isDirectory inside)⟩

theorem isReached_start (path : String) : tree.IsReached (Place.start path) := by
  have atWork : tree.IsReached [] := isReached_above nofun
  unfold Place.start
  split
  · exact ⟨atWork.resolved.cons (by decide), .inl (isDirectory_iff.mpr (.inr (.inl rfl)))⟩
  · exact atWork

/-- Whatever names lead to from a place reached is reached. -/
theorem IsReached.of_walk?
    {names : List String}
    {start place : Place}
    (reached : tree.IsReached start)
    (leads : tree.walk? start names = some place) :
    tree.IsReached place := by
  induction names generalizing start with
  | nil =>
      cases leads
      exact reached
  | cons name names inductionHypothesis =>
      unfold walk? at leads
      split at leads
      · cases leads
      · rename_i goesOn
        have isDirectory : tree.isDirectory start = true := by
          simp only [Bool.or_eq_true, Bool.not_eq_true', not_or, Bool.not_eq_false] at goesOn
          exact goesOn.1
        split at leads
        · exact inductionHypothesis reached leads
        · split at leads
          · exact inductionHypothesis (reached.parent isDirectory) leads
          · rename_i isName
            refine inductionHypothesis ⟨reached.resolved.cons ?_, ?_⟩ leads
            · exact fun same => isName (beq_iff_eq.mpr same)
            · exact .inr ⟨name, start, rfl, isDirectory⟩

/-- A path that can be written leads into a directory. -/
theorem exists_directory_of_place?
    {path : String}
    {place : Place}
    (leads : tree.place? path = some place)
    (noDirectory : ¬ tree.isDirectory place = true) :
    ∃ name outer, place = name :: outer ∧ tree.isDirectory outer = true := by
  unfold place? at leads
  split at leads
  · cases leads
  · exact ((isReached_start path).of_walk? leads).lies.resolve_left noDirectory

/-! ## A file written -/

section Written

variable {path text : String} {after : FileTree}

/-- Writing a file makes no directory, and leaves those that there are. -/
theorem isDirectory_insert
    {name : String}
    {outer : Place}
    (inDirectory : tree.isDirectory outer = true)
    (bytes : List UInt8)
    (place : Place) :
    (tree.insert (name :: outer) bytes).isDirectory place = tree.isDirectory place := by
  rw [Bool.eq_iff_iff, isDirectory_iff, isDirectory_iff]
  constructor
  · rintro (above | isRoot | ⟨file, member, differs, holds⟩)
    · exact .inl above
    · exact .inr (.inl isRoot)
    · rcases List.mem_cons.mp member with rfl | wasThere
      · rcases List.suffix_cons_iff.mp holds with same | inside
        · exact absurd same.symm differs
        · exact isDirectory_iff.mp (isDirectory_of_suffix inDirectory inside)
      · exact .inr (.inr ⟨file, (List.mem_filter.mp wasThere).1, differs, holds⟩)
  · rintro (above | isRoot | ⟨file, member, differs, holds⟩)
    · exact .inl above
    · exact .inr (.inl isRoot)
    · by_cases isWritten : file.1 = name :: outer
      · rw [isWritten] at differs holds
        exact .inr (.inr ⟨_, List.mem_cons_self, differs, holds⟩)
      · have stays : file ∈ tree.files.filter (·.1 ≠ name :: outer) :=
          List.mem_filter.mpr ⟨member, decide_eq_true isWritten⟩
        exact .inr (.inr ⟨file, List.mem_cons_of_mem _ stays, differs, holds⟩)

theorem walk?_congr
    {other : FileTree}
    (same : ∀ place, other.isDirectory place = tree.isDirectory place)
    (start : Place)
    (names : List String) :
    other.walk? start names = tree.walk? start names := by
  induction names generalizing start with
  | nil =>
      rfl
  | cons name names inductionHypothesis =>
      simp only [walk?, same, inductionHypothesis]

/-- Only the file at the place is another one. -/
theorem lookup_insert
    (place other : Place)
    (bytes : List UInt8) :
    (tree.insert place bytes).files.lookup other =
      if other = place then some bytes else tree.files.lookup other := by
  unfold insert
  split
  · rename_i same
    rw [same, List.lookup_cons_self]
  · rename_i differs
    have kept :
        ∀ files : List (Place × List UInt8),
          (files.filter (·.1 ≠ place)).lookup other = files.lookup other := by
      intro files
      induction files with
      | nil =>
          rfl
      | cons file files inductionHypothesis =>
          by_cases isWritten : file.1 = place
          · have notSought : (other == file.1) = false := by
              rw [isWritten]
              exact beq_false_of_ne differs
            rw [List.filter_cons_of_neg (by simpa using isWritten), List.lookup_cons, notSought,
              inductionHypothesis]
          · rw [List.filter_cons_of_pos (by simpa using isWritten), List.lookup_cons,
              List.lookup_cons, inductionHypothesis]
    rw [List.lookup_cons, beq_false_of_ne differs]
    exact kept tree.files

theorem exists_place_of_write?
    (written : tree.write? path text = some after) :
    ∃ place,
      tree.place? path = some place ∧
        tree.isDirectory place = false ∧ after = tree.insert place text.toUTF8.toList := by
  obtain ⟨place, leads, rest⟩ := Option.bind_eq_some_iff.mp written
  split at rest
  · cases rest
  · rename_i noDirectory
    exact ⟨place, leads, Bool.eq_false_iff.mpr noDirectory, (Option.some.inj rest).symm⟩

/-- There are the same directories as before. -/
theorem isDirectory_of_write?
    (written : tree.write? path text = some after)
    (place : Place) :
    after.isDirectory place = tree.isDirectory place := by
  obtain ⟨written, leads, noDirectory, rfl⟩ := exists_place_of_write? written
  obtain ⟨name, outer, rfl, inDirectory⟩ :=
    exists_directory_of_place? leads (Bool.eq_false_iff.mp noDirectory)
  exact isDirectory_insert inDirectory _ place

/-- Paths lead where they led. -/
theorem place?_of_write?
    (written : tree.write? path text = some after)
    (other : String) :
    after.place? other = tree.place? other := by
  unfold place?
  rw [walk?_congr (isDirectory_of_write? written)]

/-- Paths find what they found, but for those of the place that was written. -/
theorem find_of_write?
    (written : tree.write? path text = some after)
    (other : String) :
    after.find other =
      if tree.place? other = tree.place? path then .file text.toUTF8.toList
      else tree.find other := by
  have sameDirectory := isDirectory_of_write? written
  unfold find
  rw [place?_of_write? written]
  obtain ⟨place, leads, noDirectory, rfl⟩ := exists_place_of_write? written
  rw [leads]
  cases tree.place? other with
  | none =>
      rfl
  | some reached =>
      simp only [sameDirectory, lookup_insert, Option.some.injEq]
      by_cases same : reached = place
      · simp [same, noDirectory]
      · simp [same]

/-- What was written once can be written again. -/
theorem exists_write?_of_write?
    (written : tree.write? path text = some after)
    (next : String) :
    ∃ later, after.write? path next = some later := by
  have leadsSame := place?_of_write? written path
  have sameDirectory := isDirectory_of_write? written
  obtain ⟨place, leads, noDirectory, -⟩ := exists_place_of_write? written
  rw [leads] at leadsSame
  refine ⟨after.insert place next.toUTF8.toList, ?_⟩
  simp [write?, leadsSame, sameDirectory, noDirectory]

end Written

/-- A tree in which a path was written, once or more often, and nothing else was. -/
structure IsRewritten (original current : FileTree) (path text : String) : Prop where
  place? : ∀ other, current.place? other = original.place? other
  find :
    ∀ other,
      current.find other =
        if original.place? other = original.place? path then .file text.toUTF8.toList
        else original.find other
  isWritable : ∀ next, ∃ later, current.write? path next = some later

section IsRewritten

variable {original current later : FileTree} {path text next : String}

theorem isRewritten_of_write?
    (written : original.write? path text = some current) :
    original.IsRewritten current path text where
  place? := place?_of_write? written
  find := find_of_write? written
  isWritable := exists_write?_of_write? written

/-- Only what was written last counts. -/
theorem IsRewritten.write?
    (rewritten : original.IsRewritten current path text)
    (written : current.write? path next = some later) :
    original.IsRewritten later path next where
  place? other := (place?_of_write? written other).trans (rewritten.place? other)
  find other := by
    rw [find_of_write? written, rewritten.place?, rewritten.place?, rewritten.find]
    split <;> rfl
  isWritable := exists_write?_of_write? written

theorem IsRewritten.readText
    (rewritten : original.IsRewritten current path text)
    {other : String}
    (same : original.place? other = original.place? path) :
    CommandLine.readText current.find other = .ok text :=
  readText_of_toUTF8 ((rewritten.find other).trans (if_pos same))

end IsRewritten

end FileTree

end Monitor8080.CommandLine
