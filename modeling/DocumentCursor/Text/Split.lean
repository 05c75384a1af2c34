/-! # Cutting text at a separator

What stands in front of the first occurrence of a separator is taken while characters are not the
separator, and the rest of the text begins with it. `cut` cuts a text at every occurrence of a
separator, so a text with `n` separators has `n + 1` pieces, some of them possibly empty. `joined`
puts the separators back, and the two laws below say that each undoes the other. `digitsText` is the
usual decimal writing of a number.
-/

namespace DocumentCursor.Text

/-! ## At the first occurrence -/

section

variable {α : Type} [DecidableEq α] {separator : α} {front : List α}

/-- Everything in front of the first separator is something else. -/
theorem ne_separator_of_notMem (h : separator ∉ front) :
    ∀ c ∈ front, decide (c ≠ separator) = true := by
  intro c listed
  rw [decide_eq_true_eq]
  rintro rfl
  exact h listed

/-- What is taken up to the first separator. -/
theorem takeWhile_ne_append (h : separator ∉ front) (back : List α) :
    (front ++ separator :: back).takeWhile (· ≠ separator) = front := by
  rw [List.takeWhile_append_of_pos (ne_separator_of_notMem h)]
  simp

/-- What is left from the first separator on. -/
theorem dropWhile_ne_append (h : separator ∉ front) (back : List α) :
    (front ++ separator :: back).dropWhile (· ≠ separator) = separator :: back := by
  rw [List.dropWhile_append_of_pos (ne_separator_of_notMem h)]
  simp

/-- Without a separator everything is taken. -/
theorem takeWhile_ne_of_notMem (h : separator ∉ front) :
    front.takeWhile (· ≠ separator) = front := by
  rw [← List.append_nil front, List.takeWhile_append_of_pos (ne_separator_of_notMem h),
    List.takeWhile_nil]

/-- Without a separator nothing is left. -/
theorem dropWhile_ne_of_notMem (h : separator ∉ front) :
    front.dropWhile (· ≠ separator) = [] := by
  rw [← List.append_nil front, List.dropWhile_append_of_pos (ne_separator_of_notMem h),
    List.dropWhile_nil]

/-- **A text falls apart at its first separator** in one way only. -/
theorem append_separator_inj {front' back back' : List α} (h : separator ∉ front)
    (h' : separator ∉ front') :
    front ++ separator :: back = front' ++ separator :: back' ↔ front = front' ∧ back = back' := by
  refine ⟨fun same => ?_, fun ⟨fronts, backs⟩ => by rw [fronts, backs]⟩
  have fronts := congrArg (List.takeWhile (· ≠ separator)) same
  have backs := congrArg (List.dropWhile (· ≠ separator)) same
  rw [takeWhile_ne_append h, takeWhile_ne_append h'] at fronts
  rw [dropWhile_ne_append h, dropWhile_ne_append h'] at backs
  exact ⟨fronts, (List.cons.inj backs).2⟩

end

/-! ## At every occurrence -/

/-- The pieces of a text between the occurrences of a separator. -/
def cut (separator : Char) : List Char → List (List Char)
  | [] => [[]]
  | c :: rest =>
    if c = separator then [] :: cut separator rest
    else match cut separator rest with
      | [] => [[c]]
      | piece :: pieces => (c :: piece) :: pieces

/-- Pieces with a separator between each two neighbours. -/
def joined (separator : Char) : List (List Char) → List Char
  | [] => []
  | [piece] => piece
  | piece :: pieces => piece ++ separator :: joined separator pieces

/-- A text always has at least one piece. -/
theorem cut_ne_nil (separator : Char) (text : List Char) : cut separator text ≠ [] := by
  cases text with
  | nil => simp [cut]
  | cons c rest =>
    simp only [cut]
    split
    · simp
    · split <;> simp

/-- Joining the pieces of a text gives the text back. -/
@[simp] theorem joined_cut (separator : Char) (text : List Char) :
    joined separator (cut separator text) = text := by
  induction text with
  | nil => rfl
  | cons c rest ih =>
    have hne := cut_ne_nil separator rest
    simp only [cut]
    split
    · next h =>
      subst h
      cases hc : cut c rest with
      | nil => exact absurd hc hne
      | cons piece pieces =>
        rw [hc] at ih
        simp [joined, ih]
    · cases hc : cut separator rest with
      | nil => exact absurd hc hne
      | cons piece pieces =>
        rw [hc] at ih
        cases pieces with
        | nil => simp_all [joined]
        | cons next others => simpa [joined] using ih

/-- A text without the separator is its own only piece. -/
theorem cut_of_notMem {separator : Char} {text : List Char} (h : separator ∉ text) :
    cut separator text = [text] := by
  induction text with
  | nil => rfl
  | cons c rest ih =>
    have hc : c ≠ separator := fun e => h (e ▸ List.mem_cons_self)
    simp [cut, hc, ih fun m => h (List.mem_cons_of_mem _ m)]

/-- Cutting ends the first piece at the first separator. -/
theorem cut_append {separator : Char} {piece : List Char} (rest : List Char)
    (h : separator ∉ piece) :
    cut separator (piece ++ separator :: rest) = piece :: cut separator rest := by
  induction piece with
  | nil => simp [cut]
  | cons c piece ih =>
    have hc : c ≠ separator := fun e => h (e ▸ List.mem_cons_self)
    simp [cut, hc, ih fun m => h (List.mem_cons_of_mem _ m)]

/-- Pieces that do not hold the separator are the pieces of their joined text. -/
theorem cut_joined {separator : Char} {pieces : List (List Char)} (hne : pieces ≠ [])
    (h : ∀ piece ∈ pieces, separator ∉ piece) :
    cut separator (joined separator pieces) = pieces := by
  induction pieces with
  | nil => exact absurd rfl hne
  | cons piece pieces ih =>
    cases pieces with
    | nil => exact cut_of_notMem (h piece List.mem_cons_self)
    | cons next others =>
      rw [joined, cut_append _ (h piece List.mem_cons_self), ih (by simp)
        fun p hp => h p (List.mem_cons_of_mem _ hp)]
      simp

/-- A character of a joined text is the separator or stands in a piece. -/
theorem mem_joined {separator c : Char} {pieces : List (List Char)}
    (listed : c ∈ joined separator pieces) : c = separator ∨ ∃ piece ∈ pieces, c ∈ piece := by
  induction pieces with
  | nil => cases listed
  | cons piece pieces ih =>
    cases pieces with
    | nil => exact Or.inr ⟨piece, List.mem_cons_self, listed⟩
    | cons next others =>
      simp only [joined, List.mem_append, List.mem_cons] at listed
      obtain inside | rfl | later := listed
      · exact Or.inr ⟨piece, List.mem_cons_self, inside⟩
      · exact Or.inl rfl
      · refine (ih later).imp_right fun ⟨found, among, inside⟩ => ?_
        exact ⟨found, List.mem_cons_of_mem _ among, inside⟩

/-- The decimal digits of a number. -/
def digitsText (n : Nat) : List Char := Nat.toDigits 10 n

end DocumentCursor.Text
