/-! # Saturating arithmetic

Counts and limits are 32-bit integers. Their arithmetic does not wrap: a result outside the range is
replaced by the nearest end of the range. Each operation is stated through the integers, so that
within the range it is the operation of the integers.
-/

namespace DocumentCursor.Saturating

/-- The 32-bit integer nearest to an integer: one out of range becomes `Int32.minValue` or
`Int32.maxValue`. -/
def clamp (n : Int) : Int32 :=
  if n < Int32.minValue.toInt then Int32.minValue
  else if Int32.maxValue.toInt < n then Int32.maxValue
  else Int32.ofInt n

/-- The absolute value, at most the largest 32-bit integer. So `abs Int32.minValue` is
`Int32.maxValue`, which is one too small. -/
def abs (n : Int32) : Int32 := clamp n.toInt.natAbs

/-- The sum of two integers, kept in range by `clamp`. -/
def add (a b : Int32) : Int32 := clamp (a.toInt + b.toInt)

/-- The difference of two integers, kept in range by `clamp`. -/
def sub (a b : Int32) : Int32 := clamp (a.toInt - b.toInt)

/-- `(clamp n).toInt` is `n` between the smallest and the largest value, and the one of them that is
nearer otherwise. -/
theorem toInt_clamp (n : Int) :
    (clamp n).toInt = max Int32.minValue.toInt (min n Int32.maxValue.toInt) := by
  have low := Int32.toInt_minValue
  have high := Int32.toInt_maxValue
  unfold clamp
  split
  · omega
  · split
    · omega
    · rw [Int32.toInt_ofInt_of_le (by omega) (by omega)]
      omega

/-- `(abs n).toInt = min n.toInt.natAbs Int32.maxValue.toInt`: the absolute value is that of the
integers unless it is too large. -/
theorem toInt_abs (n : Int32) :
    (abs n).toInt = min (n.toInt.natAbs : Int) Int32.maxValue.toInt := by
  have low := Int32.toInt_minValue
  have high := Int32.toInt_maxValue
  rw [abs, toInt_clamp]
  omega

/-- `(sub a b).toInt` is `a.toInt - b.toInt` between the smallest and the largest value: the
difference is that of the integers unless it is out of range. -/
theorem toInt_sub (a b : Int32) :
    (sub a b).toInt =
      max Int32.minValue.toInt (min (a.toInt - b.toInt) Int32.maxValue.toInt) := by
  rw [sub, toInt_clamp]

/-- `(add a b).toInt` is `a.toInt + b.toInt` between the smallest and the largest value: the sum is
that of the integers unless it is out of range. -/
theorem toInt_add (a b : Int32) :
    (add a b).toInt =
      max Int32.minValue.toInt (min (a.toInt + b.toInt) Int32.maxValue.toInt) := by
  rw [add, toInt_clamp]

end DocumentCursor.Saturating
