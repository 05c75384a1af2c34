import DocumentCursor.Text.Numeral
import DocumentCursor.Text.Split

/-! # What numerals say

A numeral is a non-empty run of decimal digits after at most one plus sign. Zeros may stand in front
of the others, so a number has many numerals, of which the shortest is the one that is written.

* **`Spells`** and **`Says`**: the number that digits, and a numeral, stand for.
* **`read?_eq_some_iff`**: what is read is what is said, up to the bound.
* **`map_read?_eq_some_iff`**: the same for words of a fixed size.
* **`spells_digitsText`**: what is written of a number spells it.
* **`digits?_toDigits`**: the digits of a number read back in every base up to sixteen.
-/

namespace DocumentCursor.Text.Numeral

/-- **Digits spell a number**, the first being the most significant: there is a digit at least, all
are decimal, and `Nat.ofDigitChars 10` gives the number. -/
structure Spells (digits : List Char) (n : Nat) : Prop where
  ne_nil : digits ≠ []
  isDigit : ∀ c ∈ digits, c.isDigit = true
  value_eq : Nat.ofDigitChars 10 digits 0 = n

/-- **A numeral says a number** with its digits, whether or not a plus sign stands in front. Zeros
in front of the digits are no matter. -/
def Says (text : List Char) (n : Nat) : Prop :=
  Spells text n ∨ ∃ digits, text = '+' :: digits ∧ Spells digits n

/-! ## Digits -/

/-- The value of a decimal digit: `digit? 10 c` is its distance from `'0'`, and `none` for any other
character. -/
theorem digit?_ten (c : Char) :
    digit? 10 c = if c.isDigit = true then some (c.toNat - '0'.toNat) else none := by
  have decimal : ('0' ≤ c ∧ c ≤ '9') ↔ c.isDigit = true := by
    simp only [Char.isDigit, ge_iff_le, Bool.and_eq_true, decide_eq_true_eq]
    rfl
  by_cases h : c.isDigit = true
  · have small : c.toNat - '0'.toNat < 10 := by
      have bound : c.toNat ≤ '9'.toNat := (decimal.mpr h).2
      have values : '9'.toNat = 57 ∧ '0'.toNat = 48 := ⟨rfl, rfl⟩
      omega
    simp only [digit?, if_pos (decimal.mpr h), if_pos h, if_pos small]
  · -- Letters stand for ten and more, and whatever else for the base itself.
    have large : ¬(if 'a' ≤ c ∧ c ≤ 'f' then c.toNat - 'a'.toNat + 10
        else if 'A' ≤ c ∧ c ≤ 'F' then c.toNat - 'A'.toNat + 10 else 10) < 10 := by
      split
      · omega
      · split <;> omega
    simp only [digit?, if_neg (mt decimal.mp h), if_neg h, if_neg large]

/-- **Digits are read on** from the value of those in front: `digitsFrom? 10 value digits = some n`
exactly if all are digits and `ofDigitChars` from `value` is `n`. -/
theorem digitsFrom?_eq_some_iff {value n : Nat} {digits : List Char} :
    digitsFrom? 10 value digits = some n ↔
      (∀ c ∈ digits, c.isDigit = true) ∧ Nat.ofDigitChars 10 digits value = n := by
  induction digits generalizing value with
  | nil => simp [digitsFrom?, Nat.ofDigitChars]
  | cons c rest ih =>
    rw [digitsFrom?, digit?_ten, Nat.ofDigitChars_cons, List.forall_mem_cons, Nat.mul_comm 10 value]
    by_cases h : c.isDigit = true
    · rw [if_pos h, Option.bind_some, ih]
      simp only [h, true_and]
    · simp [h]

/-- Digits are read as what they spell: `digits? 10 digits = some n ↔ Spells digits n`. -/
theorem digits?_eq_some_iff {n : Nat} {digits : List Char} :
    digits? 10 digits = some n ↔ Spells digits n := by
  cases digits with
  | nil =>
    refine ⟨fun read => by simp [digits?] at read, fun spells => absurd rfl spells.ne_nil⟩
  | cons c rest =>
    have reads : digits? 10 (c :: rest) = digitsFrom? 10 0 (c :: rest) := rfl
    rw [reads, digitsFrom?_eq_some_iff]
    exact ⟨fun ⟨all, value⟩ => ⟨List.cons_ne_nil c rest, all, value⟩,
      fun ⟨_, all, value⟩ => ⟨all, value⟩⟩

/-- What is written of a number spells it: `digitsText n` is `Spells` for `n`. -/
theorem spells_digitsText (n : Nat) : Spells (digitsText n) n where
  ne_nil := Nat.toDigits_ne_nil
  isDigit _ listed := Nat.isDigit_of_mem_toDigits (by decide) (by decide) listed
  value_eq := Nat.ofDigitChars_toDigits (by decide) (by decide)

/-! ## In any base -/

section Base

variable {base n : Nat} {digits : List Char}

/-- A digit of a base is a hexadecimal digit that is small enough: `digit? base` is `digit? 16`
filtered by `· < base`. -/
theorem digit?_eq_filter (atMost : base ≤ 16) (c : Char) :
    digit? base c = (digit? 16 c).filter (· < base) := by
  -- A character is given its value without regard to the base.
  have kept (value : Nat) : (if value < base then some value else none) =
      (if value < 16 then some value else none).filter (· < base) := by
    by_cases small : value < base
    · rw [if_pos small, if_pos (by omega), Option.filter_some_pos (by simpa using small)]
    · rw [if_neg small, eq_comm, Option.filter_eq_none_iff]
      intro found read
      split at read
      · obtain rfl := Option.some.inj read
        simpa using small
      · cases read
  unfold digit?
  split
  · exact kept _
  · split
    · exact kept _
    · split
      · exact kept _
      · simp

/-- The character of a digit is read as the digit: `digit? base d.digitChar = some d` below the
base. -/
theorem digit?_digitChar {d : Nat} (small : d < base) (atMost : base ≤ 16) :
    digit? base d.digitChar = some d := by
  have hexadecimal : ∀ d < 16, digit? 16 d.digitChar = some d := by decide
  rw [digit?_eq_filter atMost, hexadecimal d (by omega)]
  simp [small]

/-- **Digits are read on** behind those in front: `digitsFrom?` of `front ++ back` reads `front`,
and then `back` from its value. -/
theorem digitsFrom?_append (value : Nat) (front back : List Char) :
    digitsFrom? base value (front ++ back) =
      (digitsFrom? base value front).bind fun value => digitsFrom? base value back := by
  induction front generalizing value with
  | nil => rfl
  | cons c front ih =>
    rw [List.cons_append, digitsFrom?, digitsFrom?, Option.bind_assoc]
    exact congrArg _ (funext fun d => ih _)

theorem digits?_of_ne_nil (ne_nil : digits ≠ []) :
    digits? base digits = digitsFrom? base 0 digits := by
  cases digits with
  | nil => exact absurd rfl ne_nil
  | cons c rest => rfl

/-- **The digits of a number read back**, in every base up to sixteen:
`digits? base (Nat.toDigits base n) = some n`. -/
theorem digits?_toDigits (atLeast : 1 < base) (atMost : base ≤ 16) (n : Nat) :
    digits? base (Nat.toDigits base n) = some n := by
  rw [digits?_of_ne_nil Nat.toDigits_ne_nil]
  induction n using Nat.strongRecOn with
  | ind n ih =>
    by_cases small : n < base
    · rw [Nat.toDigits_of_lt_base small, digitsFrom?, digit?_digitChar small atMost]
      simp [digitsFrom?]
    · have last : n % base < base := Nat.mod_lt n (by omega)
      rw [Nat.toDigits_of_base_le atLeast (by omega), digitsFrom?_append,
        ih (n / base) (Nat.div_lt_self (by omega) atLeast), Option.bind_some, digitsFrom?,
        digit?_digitChar last atMost, Option.bind_some, digitsFrom?, Nat.div_add_mod']

/-- What is written of a number reads back: `digits? 10 (digitsText n) = some n`. -/
theorem digits?_digitsText (n : Nat) : digits? 10 (digitsText n) = some n :=
  digits?_toDigits (by decide) (by decide) n

/-- Digits that are read are hexadecimal digits at least, in every base up to sixteen. -/
theorem isSome_digit?_of_mem (atMost : base ≤ 16) (read : digits? base digits = some n) {c : Char}
    (listed : c ∈ digits) : (digit? 16 c).isSome := by
  rw [digits?_of_ne_nil (List.ne_nil_of_mem listed)] at read
  generalize 0 = value at read
  induction digits generalizing value with
  | nil => cases listed
  | cons first rest ih =>
    obtain ⟨d, firstRead, restRead⟩ := Option.bind_eq_some_iff.mp read
    obtain rfl | later := List.mem_cons.mp listed
    · rw [digit?_eq_filter atMost, Option.filter_eq_some_iff] at firstRead
      rw [firstRead.1]
      rfl
    · exact ih later _ restRead

/-- No number but zero begins with a zero: `Nat.toDigits base n` has another head if `0 < n`. -/
theorem head?_toDigits_ne (atLeast : 1 < base) (positive : 0 < n) :
    (Nat.toDigits base n).head? ≠ some '0' := by
  induction n using Nat.strongRecOn with
  | ind n ih =>
    by_cases small : n < base
    · rw [Nat.toDigits_of_lt_base small]
      intro zero
      have := Nat.digitChar_eq_zero.mp (Option.some.inj zero)
      omega
    · have front := ih (n / base) (Nat.div_lt_self positive atLeast)
        (Nat.div_pos (by omega) (by omega))
      have ne_nil : Nat.toDigits base (n / base) ≠ [] := Nat.toDigits_ne_nil
      obtain ⟨first, rest, digits⟩ := List.exists_cons_of_ne_nil ne_nil
      rw [Nat.toDigits_of_base_le atLeast (by omega)]
      rw [digits] at front ⊢
      exact front

end Base

/-! ## Numerals -/

/-- No digits begin with a plus sign, so the two ways of `Says` exclude each other. -/
theorem not_spells_plus (digits : List Char) (n : Nat) : ¬Spells ('+' :: digits) n :=
  fun spells => absurd (spells.isDigit '+' List.mem_cons_self) (by decide)

/-- Without its plus sign a numeral is digits: `Says text n ↔ Spells (dropPlus text) n`. -/
theorem says_iff_spells_dropPlus {text : List Char} {n : Nat} :
    Says text n ↔ Spells (dropPlus text) n := by
  unfold dropPlus
  split
  · rename_i rest
    constructor
    · rintro (spells | ⟨digits, same, spells⟩)
      · exact absurd spells (not_spells_plus rest n)
      · obtain rfl := (List.cons.inj same).2
        exact spells
    · exact fun spells => Or.inr ⟨rest, rfl, spells⟩
  · rename_i unsigned
    refine ⟨fun said => said.resolve_right ?_, Or.inl⟩
    rintro ⟨digits, rfl, -⟩
    exact unsigned digits rfl

/-- **What is read is what a numeral says**, if that does not exceed the bound: `read? bound text =
some n ↔ Says text n ∧ n ≤ bound`. -/
theorem read?_eq_some_iff {bound n : Nat} {text : List Char} :
    read? bound text = some n ↔ Says text n ∧ n ≤ bound := by
  rw [read?, Option.filter_eq_some_iff, digits?_eq_some_iff, says_iff_spells_dropPlus,
    decide_eq_true_eq]

/-- **What is read as a word** is the word whose number the numeral says, where all words have the
numbers up to the bound, as `ofNat` and `toNat` are inverse there. -/
theorem map_read?_eq_some_iff {α : Type} {ofNat : Nat → α} {toNat : α → Nat} {bound : Nat}
    (toNat_ofNat : ∀ n ≤ bound, toNat (ofNat n) = n)
    (ofNat_toNat : ∀ word, ofNat (toNat word) = word) (toNat_le : ∀ word, toNat word ≤ bound)
    {text : List Char} {word : α} :
    (read? bound text).map ofNat = some word ↔ Says text (toNat word) := by
  rw [Option.map_eq_some_iff]
  constructor
  · rintro ⟨n, read, rfl⟩
    obtain ⟨said, small⟩ := read?_eq_some_iff.mp read
    rwa [toNat_ofNat n small]
  · intro said
    exact ⟨toNat word, read?_eq_some_iff.mpr ⟨said, toNat_le word⟩, ofNat_toNat word⟩

end DocumentCursor.Text.Numeral
