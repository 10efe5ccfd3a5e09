import Monitor8080.NameMap
namespace Monitor8080.NameMap

/-!
# Order in maps from names

The entries of a map stand in strictly increasing order of their names. What
is inserted finds its place, what is erased leaves the order as it is, and a map
is what becomes of its own entries, inserted one after another.
-/

/-- The entries stand in strictly increasing order of their names. -/
def IsOrdered (map : NameMap α) : Prop :=
  List.Pairwise (fun left right => left.1 < right.1) map

variable {map : NameMap α}

@[simp] theorem isOrdered_nil : IsOrdered ([] : NameMap α) :=
  List.Pairwise.nil

/-- An entry comes from the map that it is inserted into, or is the one inserted. -/
theorem mem_insert
    {name : String}
    {value : α}
    {entry : String × α}
    (member : entry ∈ insert map name value) :
    entry = (name, value) ∨ entry ∈ map := by
  induction map with
  | nil =>
      exact .inl (List.mem_singleton.mp member)
  | cons head rest inductionHypothesis =>
      obtain ⟨other, present⟩ := head
      unfold insert at member
      split at member
      · exact List.mem_cons.mp member
      · split at member
        · rcases List.mem_cons.mp member with isNew | inRest
          · exact .inl isNew
          · exact .inr (List.mem_cons_of_mem _ inRest)
        · rcases List.mem_cons.mp member with isHead | inRest
          · exact .inr (isHead ▸ List.mem_cons_self)
          · rcases inductionHypothesis inRest with isNew | wasThere
            · exact .inl isNew
            · exact .inr (List.mem_cons_of_mem _ wasThere)

theorem IsOrdered.insert
    (ordered : IsOrdered map)
    (name : String)
    (value : α) :
    IsOrdered (insert map name value) := by
  induction map with
  | nil =>
      exact List.pairwise_singleton _ _
  | cons head rest inductionHypothesis =>
      obtain ⟨other, present⟩ := head
      obtain ⟨below, restOrdered⟩ := List.pairwise_cons.mp ordered
      unfold NameMap.insert
      split
      · rename_i first
        refine List.pairwise_cons.mpr ⟨fun entry member => ?_, ordered⟩
        rcases List.mem_cons.mp member with rfl | inRest
        · exact first
        · exact String.lt_trans first (below entry inRest)
      · rename_i notBefore
        split
        · rename_i same
          subst same
          exact List.pairwise_cons.mpr ⟨below, restOrdered⟩
        · rename_i different
          have after : other < name :=
            Std.lt_of_le_of_ne (String.not_lt.mp notBefore) (Ne.symm different)
          refine List.pairwise_cons.mpr ⟨fun entry member => ?_, inductionHypothesis restOrdered⟩
          rcases mem_insert member with rfl | inRest
          · exact after
          · exact below entry inRest

theorem IsOrdered.erase
    (ordered : IsOrdered map)
    (name : String) :
    IsOrdered (erase map name) :=
  List.Pairwise.filter _ ordered

/-- Entries inserted into a map that is in order leave it so. -/
theorem IsOrdered.foldl_insert
    (ordered : IsOrdered map)
    (entries : List (String × α)) :
    IsOrdered (entries.foldl (fun map entry => NameMap.insert map entry.1 entry.2) map) := by
  induction entries generalizing map with
  | nil =>
      exact ordered
  | cons entry rest inductionHypothesis =>
      exact inductionHypothesis (ordered.insert entry.1 entry.2)

theorem isOrdered_ofEntries (entries : List (String × α)) : IsOrdered (ofEntries entries) :=
  isOrdered_nil.foldl_insert entries

/-- An entry that comes after all others is inserted at the end. -/
theorem insert_of_forall_lt
    {name : String}
    (last : ∀ entry ∈ map, entry.1 < name)
    (value : α) :
    insert map name value = map ++ [(name, value)] := by
  induction map with
  | nil =>
      rfl
  | cons head rest inductionHypothesis =>
      obtain ⟨other, present⟩ := head
      have before : other < name := last (other, present) List.mem_cons_self
      have notBefore : ¬ name < other := String.lt_asymm before
      have different : name ≠ other := fun same => String.lt_irrefl _ (same ▸ before)
      rw [insert, if_neg notBefore, if_neg different, List.cons_append]
      exact
        congrArg _ <|
          inductionHypothesis fun entry member => last entry (List.mem_cons_of_mem _ member)

/-- A map in order is what becomes of its own entries. -/
theorem IsOrdered.ofEntries_eq (ordered : IsOrdered map) : ofEntries map = map := by
  have appended :
      ∀ (entries done : NameMap α),
        IsOrdered (done ++ entries) →
          entries.foldl (fun map entry => NameMap.insert map entry.1 entry.2) done =
            done ++ entries := by
    intro entries
    induction entries with
    | nil =>
        intro done _
        exact (List.append_nil done).symm
    | cons entry rest inductionHypothesis =>
        intro done whole
        have last : ∀ earlier ∈ done, earlier.1 < entry.1 :=
          fun earlier member =>
            (List.pairwise_append.mp whole).2.2 earlier member entry List.mem_cons_self
        rw [List.append_cons] at whole ⊢
        rw [List.foldl_cons, insert_of_forall_lt last]
        exact inductionHypothesis _ whole
  exact appended map [] ordered

end Monitor8080.NameMap
