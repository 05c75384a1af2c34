/-! # A digest of 512 bits

A message is filled up to blocks of 128 bytes and ends with its length in bits. Each block changes a
state of eight words of 64 bits, in 80 rounds. The constants are the fractional parts of roots of
the first primes: square roots for the first state, cube roots for the rounds.

Main definition: `Digest.sha512`.
-/

namespace DocumentCursor.Tls.Digest

/-! ## Constants -/

/-- The greatest number of so many bits whose power is at most `n`. -/
def root (exponent bits n : Nat) : Nat :=
  (List.range bits).foldr (fun i r =>
    let s := r + (1 <<< i)
    if Nat.pow s exponent ≤ n then s else r) 0

/-- The first 64 bits after the point of a root. -/
def fraction (exponent n : Nat) : UInt64 :=
  UInt64.ofNat (root exponent 70 (n <<< (64 * exponent)))

/-- The primes below 410, of which there are 80. -/
def primes : List Nat :=
  (List.range 410).filter fun n => 2 ≤ n && (List.range n).all fun d => d < 2 || n % d ≠ 0

/-- The constants of the rounds. -/
def constants : List UInt64 := primes.map (fraction 3)

/-! ## Rounds -/

/-- The words that a message changes. -/
structure State where
  a : UInt64
  b : UInt64
  c : UInt64
  d : UInt64
  e : UInt64
  f : UInt64
  g : UInt64
  h : UInt64
  deriving DecidableEq, Repr

/-- The words as a list. -/
def State.words (s : State) : List UInt64 := [s.a, s.b, s.c, s.d, s.e, s.f, s.g, s.h]

/-- The state of eight words. -/
def State.ofWords (words : List UInt64) : State :=
  let word := fun i => words.getD i 0
  ⟨word 0, word 1, word 2, word 3, word 4, word 5, word 6, word 7⟩

/-- The state before any block. -/
def first : State := .ofWords ((primes.take 8).map (fraction 2))

/-- A word with its bits moved to the right, and around. -/
def rotate (word : UInt64) (n : UInt64) : UInt64 := (word >>> n) ||| (word <<< (64 - n))

/-- The words of a block and one more, the newest first. -/
def extend (words : List UInt64) : List UInt64 :=
  let x := words.getD 14 0
  let y := words.getD 1 0
  let near := rotate x 1 ^^^ rotate x 8 ^^^ (x >>> 7)
  let far := rotate y 19 ^^^ rotate y 61 ^^^ (y >>> 6)
  (words.getD 15 0 + near + words.getD 6 0 + far) :: words

/-- The words for the rounds of a block. -/
def schedule (block : List UInt64) : List UInt64 :=
  ((List.range 64).foldl (fun words _ => extend words) block.reverse).reverse

/-- A round. -/
def round (s : State) (constant word : UInt64) : State :=
  let chosen := (s.e &&& s.f) ^^^ (~~~s.e &&& s.g)
  let most := (s.a &&& s.b) ^^^ (s.a &&& s.c) ^^^ (s.b &&& s.c)
  let t := s.h + (rotate s.e 14 ^^^ rotate s.e 18 ^^^ rotate s.e 41) + chosen + constant + word
  let u := (rotate s.a 28 ^^^ rotate s.a 34 ^^^ rotate s.a 39) + most
  ⟨t + u, s.a, s.b, s.c, s.d + t, s.e, s.f, s.g⟩

/-- The state after a block. -/
def State.after (state : State) (block : List UInt64) : State :=
  let mixed := (constants.zip (schedule block)).foldl (fun s (k, w) => round s k w) state
  .ofWords (state.words.zipWith (· + ·) mixed.words)

/-! ## Messages -/

/-- The given number of bytes of a number, the most significant one first. -/
def bytes (width n : Nat) : List UInt8 :=
  (List.range width).map fun i => UInt8.ofNat (n >>> (8 * (width - 1 - i)))

/-- A message, filled up and with its length. -/
def padded (message : List UInt8) : List UInt8 :=
  let size := message.length
  message ++ 0x80 :: List.replicate ((239 - size % 128) % 128) 0 ++ bytes 16 (8 * size)

/-- Pieces of so many members. -/
def pieces {α : Type} (size : Nat) (list : List α) : List (List α) :=
  (List.range (list.length / size)).map fun i => (list.drop (i * size)).take size

/-- The word that eight bytes are. -/
def word (bytes : List UInt8) : UInt64 :=
  bytes.foldl (fun n byte => (n <<< 8) ||| byte.toUInt64) 0

/-- The digest of a message. -/
def sha512 (message : List UInt8) : List UInt8 :=
  let blocks := (pieces 128 (padded message)).map fun block => (pieces 8 block).map word
  (blocks.foldl State.after first).words.flatMap fun word => bytes 8 word.toNat

end DocumentCursor.Tls.Digest
