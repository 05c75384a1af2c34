/-! # Steps that may fail

What consists of several steps succeeds if all of them do, and fails by the first one that fails.
So does a step that is taken for every item of a list.

* **`bind_eq_ok_iff`** and **`bind_eq_error_iff`**: two steps, one after the other.
* **`mapM_eq_error_iff`**: a step for every item of a list.
-/

namespace DocumentCursor

/-- What succeeds succeeds in its first part and in what comes after: `first >>= after` is
`.ok result` exactly if both are `.ok`. -/
theorem bind_eq_ok_iff {ε α β : Type} {first : Except ε α} {after : α → Except ε β} {result : β} :
    first >>= after = .ok result ↔ ∃ value, first = .ok value ∧ after value = .ok result := by
  cases first with
  | error failure => exact ⟨nofun, nofun⟩
  | ok value =>
    refine ⟨fun succeeds => ⟨value, rfl, succeeds⟩, ?_⟩
    rintro ⟨_, same, succeeds⟩
    obtain rfl := Except.ok.inj same
    exact succeeds

/-- Two steps fail if the first one does, or the second one after a success of the first: the error
is that of the one that failed. -/
theorem bind_eq_error_iff {ε β γ : Type} {error : ε} (first : Except ε β)
    (next : β → Except ε γ) :
    first.bind next = .error error ↔
      first = .error error ∨ ∃ value, first = .ok value ∧ next value = .error error := by
  cases first <;> simp [Except.bind]

/-- A list fails if its first item does, or the rest after a success of the first item: `mapM` by
the cons of the list. -/
theorem mapM_cons_eq_error_iff {ε β γ : Type} {error : ε} (f : β → Except ε γ) (first : β)
    (rest : List β) :
    (first :: rest).mapM f = .error error ↔
      f first = .error error ∨ ∃ value, f first = .ok value ∧ rest.mapM f = .error error := by
  rw [List.mapM_cons]
  refine (bind_eq_error_iff ..).trans (or_congr_right (exists_congr fun value => ?_))
  refine and_congr_right fun _ => (bind_eq_error_iff ..).trans ?_
  simp [pure, Except.pure]

/-- **A list fails at the first item that fails**, and all items before it succeed:
`mapM f = .error error` exactly if `items` falls apart so. -/
theorem mapM_eq_error_iff {ε β γ : Type} {error : ε} (f : β → Except ε γ) (items : List β) :
    items.mapM f = .error error ↔ ∃ before item after, items = before ++ item :: after ∧
      (∀ other ∈ before, ∃ value, f other = .ok value) ∧ f item = .error error := by
  induction items with
  | nil => simp [pure, Except.pure]
  | cons first rest ih =>
    rw [mapM_cons_eq_error_iff, ih]
    constructor
    · rintro (failed | ⟨value, succeeded, before, item, after, rfl, each, failed⟩)
      · exact ⟨[], first, rest, rfl, by simp, failed⟩
      · refine ⟨first :: before, item, after, rfl, fun other listed => ?_, failed⟩
        obtain rfl | listed := List.mem_cons.mp listed
        · exact ⟨value, succeeded⟩
        · exact each other listed
    · rintro ⟨before, item, after, whole, each, failed⟩
      cases before with
      | nil =>
        obtain ⟨rfl, rfl⟩ := List.cons.inj whole
        exact Or.inl failed
      | cons head before =>
        obtain ⟨rfl, rfl⟩ := List.cons.inj whole
        obtain ⟨value, succeeded⟩ := each first (by simp)
        exact Or.inr ⟨value, succeeded, before, item, after, rfl,
          fun other listed => each other (List.mem_cons_of_mem _ listed), failed⟩

end DocumentCursor
