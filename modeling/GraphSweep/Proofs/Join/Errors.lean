import GraphSweep.Proofs.Join.Course

/-!
# What a join fails with

A join fails only with what it reads: with a probe that says nothing, or with a stream
that ends badly.
-/

namespace GraphSweep

/-- Steps that fail one after another fail with one of them. -/
theorem error_of_bind_eq_error
    {ε α β : Type}
    {first : Except ε α}
    {rest : α -> Except ε β}
    {error : ε}
    (fails : first >>= rest = .error error) :
    first = .error error ∨
      ∃ value, first = .ok value ∧ rest value = .error error := by
  cases first with
  | error other =>
      cases fails
      exact Or.inl rfl
  | ok value => exact Or.inr ⟨value, rfl, fails⟩

namespace Lane

variable {policy : FailurePolicy} {id : VertexId}

/-- What the end of a lane means for a job. -/
def atEnd (policy : FailurePolicy) (lane : Lane) : Except JobError Unit :=
  policy.atEnd lane.stream lane.ending

theorem error_of_seekItems
    {lane : Lane}
    {items : List Item}
    {error : JobError}
    (fails : lane.seekItems policy id items = .error error) :
    lane.atEnd policy = .error error := by
  induction items with
  | nil =>
      rcases error_of_bind_eq_error fails with ended | ⟨_, -, returned⟩
      · exact ended
      · cases returned
  | cons item rest hypothesis =>
      rw [seekItems] at fails
      split at fails
      · rcases error_of_bind_eq_error fails with later | ⟨_, -, returned⟩
        · exact hypothesis later
        · cases returned
      · split at fails <;> cases fails

/-- A lane that has been advanced ends as it did. -/
theorem atEnd_of_seekItems
    {lane : Lane}
    {items : List Item}
    {sought : Sought}
    (found : lane.seekItems policy id items = .ok sought) :
    sought.lane.atEnd policy = lane.atEnd policy := by
  induction items generalizing sought with
  | nil =>
      obtain ⟨_, -, returned⟩ := exists_of_bind_eq_ok found
      cases returned
      rfl
  | cons item rest hypothesis =>
      rw [seekItems] at found
      split at found
      · obtain ⟨later, made, returned⟩ := exists_of_bind_eq_ok found
        have before := hypothesis made
        cases returned
        exact before
      · split at found <;>
          · cases found
            rfl

theorem error_of_seekAll
    {lanes : List Lane}
    {error : JobError}
    (fails : seekAll policy id lanes = .error error) :
    ∃ lane ∈ lanes, lane.atEnd policy = .error error := by
  induction lanes with
  | nil => cases fails
  | cons lane lanes hypothesis =>
      rcases error_of_bind_eq_error fails with here | ⟨_, -, later⟩
      · exact ⟨lane, List.mem_cons_self, error_of_seekItems here⟩
      · rcases error_of_bind_eq_error later with there | ⟨_, -, returned⟩
        · obtain ⟨other, member, ends⟩ := hypothesis there
          exact ⟨other, List.mem_cons_of_mem _ member, ends⟩
        · cases returned

theorem atEnd_of_seekAll
    {lanes : List Lane}
    {sought : List Sought}
    (found : seekAll policy id lanes = .ok sought) :
    (sought.map Sought.lane).map (atEnd policy) = lanes.map (atEnd policy) := by
  induction lanes generalizing sought with
  | nil =>
      cases found
      rfl
  | cons lane lanes hypothesis =>
      obtain ⟨here, made, later⟩ := exists_of_bind_eq_ok found
      obtain ⟨others, rest, returned⟩ := exists_of_bind_eq_ok later
      cases returned
      simp only [List.map_cons]
      rw [hypothesis rest, atEnd_of_seekItems made]

end Lane

namespace Progress

variable {σ ρ : Type} {sweep : Sweep σ ρ} {progress next : Progress σ ρ}

/-- A step of the join fails with the probe, or with a lane that ends badly. -/
theorem error_of_step
    {item : Item}
    {error : JobError}
    (fails : progress.step sweep item = .error error) :
    item.exists? = .error error ∨
      ∃ lane ∈ progress.lanes, lane.atEnd sweep.policy = .error error := by
  unfold step at fails
  split at fails
  · cases fails
  · rcases error_of_bind_eq_error fails with chokes | ⟨live, -, later⟩
    · exact Or.inl chokes
    · rcases error_of_bind_eq_error later with breaks | ⟨sought, -, returned⟩
      · exact Or.inr (Lane.error_of_seekAll breaks)
      · cases live <;> cases returned

/-- Lanes keep their ends. -/
theorem atEnd_of_step
    {item : Item}
    (made : progress.step sweep item = .ok next) :
    next.lanes.map (Lane.atEnd sweep.policy) =
      progress.lanes.map (Lane.atEnd sweep.policy) := by
  unfold step at made
  split at made
  · cases made
    rfl
  · obtain ⟨live, -, later⟩ := exists_of_bind_eq_ok made
    obtain ⟨sought, found, returned⟩ := exists_of_bind_eq_ok later
    have same := Lane.atEnd_of_seekAll found
    cases live <;>
      · cases returned
        exact same

/-- A join fails with a probe that cannot be read, with a lane that ends badly, or with
the end of the first stream. -/
theorem error_of_run
    {ending : FeedEnd}
    {items : List Item}
    {error : JobError}
    (fails : (progress.run sweep ending items).result = .error error) :
    (∃ item ∈ items, item.exists? = .error error) ∨
      (∃ lane ∈ progress.lanes, lane.atEnd sweep.policy = .error error) ∨
      sweep.policy.atEnd 0 ending = .error error := by
  induction items generalizing progress with
  | nil => exact Or.inr (Or.inr fails)
  | cons item rest hypothesis =>
      unfold run at fails
      cases made : progress.step sweep item with
      | error other =>
          simp only [made, Except.error.injEq] at fails
          subst fails
          rcases error_of_step made with chokes | breaks
          · exact Or.inl ⟨item, List.mem_cons_self, chokes⟩
          · exact Or.inr (Or.inl breaks)
      | ok next =>
          simp only [made] at fails
          rcases hypothesis fails with
            ⟨other, member, chokes⟩ | ⟨lane, member, ends⟩ | ends
          · exact Or.inl ⟨other, List.mem_cons_of_mem _ member, chokes⟩
          · have known := List.mem_map_of_mem (f := Lane.atEnd sweep.policy)
              member
            rw [atEnd_of_step made] at known
            obtain ⟨before, present, same⟩ := List.mem_map.1 known
            exact Or.inr (Or.inl ⟨before, present, same.trans ends⟩)
          · exact Or.inr (Or.inr ends)

end Progress
end GraphSweep
