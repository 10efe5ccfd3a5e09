namespace Monitor8080

/-!
# Outcomes

One thing after another succeeds if the first one does and the second one then,
whether or not they share a state.
-/

theorem bind_eq_ok_iff
    {first : Except ε α}
    {next : α → Except ε β}
    {value : β} :
    (first >>= next) = .ok value ↔ ∃ middle, first = .ok middle ∧ next middle = .ok value := by
  cases first with
  | error error =>
      simp [bind, Except.bind]
  | ok middle =>
      simp [bind, Except.bind]

section Stage

variable {before after : σ}

theorem run_bind_eq_ok_iff
    {first : ExceptT ε (StateM σ) α}
    {next : α → ExceptT ε (StateM σ) β}
    {value : β} :
    (first >>= next).run before = (.ok value, after) ↔
      ∃ middle between,
        first.run before = (.ok middle, between) ∧
          (next middle).run between = (.ok value, after) := by
  have goesOn :
      (first >>= next).run before =
        ExceptT.bindCont next (first.run before).1 (first.run before).2 := rfl
  rw [goesOn]
  rcases first.run before with ⟨_ | middle, between⟩
  · constructor
    · exact nofun
    · rintro ⟨_, _, ⟨⟩, _⟩
  · constructor
    · exact fun succeeds => ⟨middle, between, rfl, succeeds⟩
    · rintro ⟨_, _, ⟨⟩, succeeds⟩
      exact succeeds

/-- What needs no state leaves it alone. -/
theorem run_ofExcept_eq_ok_iff
    {outcome : Except ε α}
    {value : α} :
    (liftM outcome : ExceptT ε (StateM σ) α).run before = (.ok value, after) ↔
      outcome = .ok value ∧ before = after :=
  Iff.of_eq (Prod.mk.injEq _ _ _ _)

end Stage

end Monitor8080
