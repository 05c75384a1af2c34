import DocumentCursor.Cursor.Basic

/-! # Counts, limits and the number to ask for

A count of documents is the number of them, kept in 32 bits. While it is below the limit, a cursor
asks for at least one document and for no more than are left, in either protocol.

* **`add_counted`** and **`toInt_counted`**: counts add up, and stop at the largest number.
* **`limitReached_counted`**: when the limit is reached, in terms of the number of documents.
* **`toInt_numberToReturn`**: the number to ask for, over the whole range of 32 bits, and from it
  the bounds of that number and where it is zero.
* **`numberToReturn_bounds`** and **`abs_numberToReturn`**: what is asked for below the limit.
-/

namespace DocumentCursor

/-- `n.toInt ≠ 0` for `n ≠ 0`: a number that is not zero is not zero as an integer. -/
theorem toInt_ne_zero {n : Int32} (h : n ≠ 0) : n.toInt ≠ 0 := by
  intro hn
  exact h (Int32.toInt_inj.mp (hn.trans Int32.toInt_zero.symm))

/-- The size of a number that is not the least one is at most `2147483647`, the largest; that of the
least is one more. -/
theorem natAbs_le_of_ne_minValue {n : Int32} (h : n ≠ Int32.minValue) :
    n.toInt.natAbs ≤ 2147483647 := by
  have least : n.toInt ≠ -2147483648 := by
    intro hn
    exact h (Int32.toInt_inj.mp (hn.trans Int32.toInt_minValue.symm))
  have low := n.minValue_le_toInt
  have high := n.toInt_le
  rw [Int32.toInt_minValue] at low
  rw [Int32.toInt_maxValue] at high
  omega

namespace Cursor

/-! ## Counts -/

/-- The count of a number of documents, which stops at `Int32.maxValue`. -/
def counted (n : Nat) : Int32 := Saturating.clamp n

/-- **A count is the number of documents**, or the largest number if there are more:
`(counted n).toInt = min n 2147483647`. -/
theorem toInt_counted (n : Nat) : (counted n).toInt = min (n : Int) 2147483647 := by
  rw [counted, Saturating.toInt_clamp, Int32.toInt_minValue, Int32.toInt_maxValue]
  omega

/-- `counted 0 = 0`: nothing is counted for no documents. -/
theorem counted_zero : counted 0 = 0 := by decide

/-- **Counts add up**: `counted m` and `counted n` make `counted (m + n)`, also where the sum stops
at the largest number. -/
theorem add_counted (m n : Nat) : Saturating.add (counted m) (counted n) = counted (m + n) := by
  apply Int32.toInt_inj.mp
  rw [Saturating.toInt_add, toInt_counted, toInt_counted, toInt_counted, Int32.toInt_minValue,
    Int32.toInt_maxValue]
  omega

/-- A count of more documents is no smaller: `counted` is monotone. -/
theorem counted_le {m n : Nat} (h : m ≤ n) : counted m ≤ counted n := by
  rw [Int32.le_iff_toInt_le, toInt_counted, toInt_counted]
  omega

/-- Nothing is counted for an empty batch, whatever was counted before. -/
@[simp] theorem add_clamp_zero (count : Int32) :
    Saturating.add count (Saturating.clamp ((0 : Nat) : Int)) = count := by
  have low := count.minValue_le_toInt
  have high := count.toInt_le
  rw [Int32.toInt_minValue] at low
  rw [Int32.toInt_maxValue] at high
  apply Int32.toInt_inj.mp
  have zero : (Saturating.clamp ((0 : Nat) : Int)).toInt = 0 := by decide
  rw [Saturating.toInt_add, zero, Int32.toInt_minValue, Int32.toInt_maxValue]
  omega

/-! ## Limits -/

variable {α : Type} {setup : Setup α} {state : State α} {n : Nat}

/-- **The limit is reached** when there is one and the count is as large:
`setup.limit.toInt.natAbs ≤ min n 2147483647`. -/
theorem limitReached_counted (h : state.count = counted n) :
    limitReached setup state = true ↔
      setup.limit ≠ 0 ∧ setup.limit.toInt.natAbs ≤ min n 2147483647 := by
  have count := toInt_counted n
  simp only [limitReached, Bool.and_eq_true, decide_eq_true_eq, h]
  refine and_congr_right fun _ => ?_
  omega

/-- The limit is not reached: there is none, or the count is below it. The count is cut off at
`2147483647`, so the least number is never reached as a limit. -/
theorem limitReached_eq_false (h : state.count = counted n) :
    limitReached setup state = false ↔
      setup.limit ≠ 0 → min n 2147483647 < setup.limit.toInt.natAbs := by
  rw [← Bool.not_eq_true, limitReached_counted h, not_and, Nat.not_le]

/-- A count that did not reach the limit is below it, as an integer. -/
theorem below_of_unreached (limited : setup.limit ≠ 0) (counts : 0 ≤ state.count.toInt)
    (unreached : limitReached setup state = false) :
    state.count.toInt < setup.limit.toInt.natAbs := by
  simp only [limitReached, Bool.and_eq_false_iff, decide_eq_false_iff_not, Decidable.not_not,
    Nat.not_le] at unreached
  have less := unreached.resolve_left limited
  omega

/-! ## The number to ask for -/

section Range

variable {limit size count : Int32}

/-- **What is left of a limit** is a difference of integers: subtracting does not leave the range of
32 bits, because a count is not negative. Only the absolute value of the least number is cut off. -/
theorem toInt_left (counts : 0 ≤ count.toInt) :
    (Saturating.sub (Saturating.abs limit) count).toInt =
      min (limit.toInt.natAbs : Int) 2147483647 - count.toInt := by
  have high := count.toInt_le
  rw [Int32.toInt_maxValue] at high
  rw [Saturating.toInt_sub, Saturating.toInt_abs, Int32.toInt_minValue, Int32.toInt_maxValue]
  omega

/-- **The number to ask for** is the batch size if its size is less than what is left, and else what
is left, with `left := min |limit| 2147483647 - count`. -/
theorem toInt_numberToReturn (size : Int32) (limited : limit ≠ 0) (counts : 0 ≤ count.toInt) :
    let left := min (limit.toInt.natAbs : Int) 2147483647 - count.toInt
    (numberToReturn limit size count).toInt =
      if size.toInt ≠ 0 ∧ (size.toInt.natAbs : Int) < left then size.toInt else left := by
  intro left
  have nonzero : size ≠ 0 ↔ size.toInt ≠ 0 := by
    rw [ne_eq, ← Int32.toInt_inj, Int32.toInt_zero]
  have smaller : Saturating.abs size < Saturating.sub (Saturating.abs limit) count ↔
      (size.toInt.natAbs : Int) < left := by
    -- What is left is at most the largest number, as the size of the batch size may not be.
    rw [Int32.lt_iff_toInt_lt, toInt_left counts, Saturating.toInt_abs, Int32.toInt_maxValue]
    omega
  simp only [numberToReturn, if_neg limited, nonzero, smaller]
  split
  · rfl
  · exact toInt_left counts

/-- Below the limit there is one: `limit ≠ 0`. -/
theorem ne_zero_of_below (counts : 0 ≤ count.toInt) (below : count.toInt < limit.toInt.natAbs) :
    limit ≠ 0 := by
  rintro rfl
  rw [Int32.toInt_zero] at below
  omega

/-- **Below the limit** no more is asked for than is left: the number and the count make `|limit|`
at most. -/
theorem natAbs_numberToReturn_add_le (size : Int32) (counts : 0 ≤ count.toInt)
    (below : count.toInt < limit.toInt.natAbs) :
    (numberToReturn limit size count).toInt.natAbs + count.toInt ≤ limit.toInt.natAbs := by
  have high := count.toInt_le
  rw [Int32.toInt_maxValue] at high
  rw [toInt_numberToReturn size (ne_zero_of_below counts below) counts]
  split <;> omega

/-- Below the limit no more is asked for than the batch size, if it is not zero; a size of zero
leaves the choice to what is left. -/
theorem natAbs_numberToReturn_le (counts : 0 ≤ count.toInt)
    (below : count.toInt < limit.toInt.natAbs) (sized : size ≠ 0) :
    (numberToReturn limit size count).toInt.natAbs ≤ size.toInt.natAbs := by
  have high := count.toInt_le
  rw [Int32.toInt_maxValue] at high
  have nonzero := toInt_ne_zero sized
  rw [toInt_numberToReturn size (ne_zero_of_below counts below) counts]
  split <;> omega

/-- Below the limit a negative number is the batch size, since what is left is not negative. -/
theorem eq_size_of_numberToReturn_neg (counts : 0 ≤ count.toInt)
    (below : count.toInt < limit.toInt.natAbs) (negative : numberToReturn limit size count < 0) :
    numberToReturn limit size count = size := by
  have high := count.toInt_le
  rw [Int32.toInt_maxValue] at high
  have value := toInt_numberToReturn size (ne_zero_of_below counts below) counts
  rw [Int32.lt_iff_toInt_lt, Int32.toInt_zero] at negative
  -- What is left is no less than zero, so that the number is not that.
  apply Int32.toInt_inj.mp
  dsimp only at value
  split at value <;> omega

/-- **Below the limit no number is asked for** only at the ends of the range, where one document is
left: for `limit = Int32.minValue` and `count = Int32.maxValue`. Zero leaves the number to the
server. -/
theorem numberToReturn_eq_zero_iff (size : Int32) (counts : 0 ≤ count.toInt)
    (below : count.toInt < limit.toInt.natAbs) :
    numberToReturn limit size count = 0 ↔ limit = Int32.minValue ∧ count = Int32.maxValue := by
  have high := count.toInt_le
  have low := limit.minValue_le_toInt
  have top := limit.toInt_le
  rw [Int32.toInt_maxValue] at high top
  rw [Int32.toInt_minValue] at low
  rw [← Int32.toInt_inj, ← Int32.toInt_inj, ← Int32.toInt_inj, Int32.toInt_zero,
    Int32.toInt_minValue, Int32.toInt_maxValue,
    toInt_numberToReturn size (ne_zero_of_below counts below) counts]
  split <;> omega

end Range

variable {limit : Int32} (size : Int32)

/-- **Below any limit but the least** at least one document is asked for, and no more than are left,
whatever the batch size is. -/
theorem numberToReturn_bounds (hmin : limit ≠ Int32.minValue) (hn : n < limit.toInt.natAbs) :
    let number := numberToReturn limit size (counted n)
    1 ≤ number.toInt.natAbs ∧ number.toInt.natAbs + n ≤ limit.toInt.natAbs := by
  have bound := natAbs_le_of_ne_minValue hmin
  have count := toInt_counted n
  have counts : 0 ≤ (counted n).toInt := by omega
  have below : (counted n).toInt < limit.toInt.natAbs := by omega
  have within := natAbs_numberToReturn_add_le size counts below
  have some : numberToReturn limit size (counted n) ≠ 0 := fun zero =>
    hmin ((numberToReturn_eq_zero_iff size counts below).mp zero).1
  have some := toInt_ne_zero some
  constructor <;> omega

/-- Below the limit the number to ask for is not cut off when its sign is dropped, so that commands
and binary messages ask for the same number. -/
theorem abs_numberToReturn (hmin : limit ≠ Int32.minValue) (hn : n < limit.toInt.natAbs) :
    let number := numberToReturn limit size (counted n)
    (Saturating.abs number).toInt.natAbs = number.toInt.natAbs := by
  intro number
  have bound := natAbs_le_of_ne_minValue hmin
  have bounds := (numberToReturn_bounds size hmin hn).2
  rw [Saturating.toInt_abs, Int32.toInt_maxValue]
  show (min (number.toInt.natAbs : Int) 2147483647).natAbs = number.toInt.natAbs
  have : number.toInt.natAbs + n ≤ limit.toInt.natAbs := bounds
  omega

end Cursor

end DocumentCursor
