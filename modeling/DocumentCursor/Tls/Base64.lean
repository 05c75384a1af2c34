/-! # Base 64

Bytes are written as digits of six bits, four digits for three bytes. Padding may fill up the last
group of four, and may be missing; white space does not count. Padding shows only where the digits
are turned into bytes, eight at a time, so that a byte which is no digit is reported before padding
in the same eight.

Main definitions:

* `Base64Error`;
* `Base64.decode`.
-/

namespace DocumentCursor.Tls

/-- Why a text is not base 64. -/
inductive Base64Error where
  /-- A byte that does not belong to base 64. -/
  | invalidCharacter (byte : UInt8)
  | prematurePadding
  | invalidTrailingPadding
  deriving DecidableEq, Repr

/-- The text that reports an error. -/
def Base64Error.message : Base64Error → String
  | invalidCharacter byte => "InvalidCharacter(" ++ toString byte.toNat ++ ")"
  | prematurePadding => "PrematurePadding"
  | invalidTrailingPadding => "InvalidTrailingPadding"

namespace Base64

/-- Whether a byte is white space. -/
def isSpace (byte : UInt8) : Bool := (9 ≤ byte && byte ≤ 13) || byte = 32

/-- The value of a digit. -/
def digit? (byte : UInt8) : Option Nat :=
  let n := byte.toNat
  if 65 ≤ n ∧ n ≤ 90 then some (n - 65)
  else if 97 ≤ n ∧ n ≤ 122 then some (n - 97 + 26)
  else if 48 ≤ n ∧ n ≤ 57 then some (n - 48 + 52)
  else if n = 43 then some 62
  else if n = 47 then some 63
  else none

/-- A digit, or none for padding. -/
abbrev Symbol := Option Nat

/-- The symbol of a byte. -/
def symbol? (byte : UInt8) : Option Symbol :=
  if byte = 61 then some none else (digit? byte).map some

/-- The whole bytes of digits; padding counts as a digit of no value. -/
def bytes (symbols : List Symbol) : List UInt8 :=
  let size := symbols.length * 6 / 8
  let value := symbols.foldl (fun value symbol => value * 64 + symbol.getD 0) 0
  (List.range size).map fun i => UInt8.ofNat (value >>> (symbols.length * 6 - 8 * (i + 1)))

/-- The bytes of the last group of four. -/
def lastGroup : List Symbol → Except Base64Error (List UInt8)
  | [] => .ok []
  | [some a, some b, some c, some d] => .ok (bytes [some a, some b, some c, some d])
  | [some a, some b, some c, none] | [some a, some b, some c] =>
    .ok (bytes [some a, some b, some c])
  | [some a, some b, none, none] | [some a, some b] => .ok (bytes [some a, some b])
  | _ => .error .invalidTrailingPadding

/-- The bytes of the last eight symbols or fewer. -/
def lastBlock (block : List Symbol) : Except Base64Error (List UInt8) :=
  if block.length ≤ 4 then lastGroup block
  else if none ∈ block.take 4 then .error .prematurePadding
  else (lastGroup (block.drop 4)).map (bytes (block.take 4) ++ ·)

/-- The bytes of what is left after up to eight symbols. -/
def decodeFrom (block : List Symbol) : List UInt8 → Except Base64Error (List UInt8)
  | [] => lastBlock block
  | byte :: rest =>
    if isSpace byte then decodeFrom block rest
    else match symbol? byte with
      | none => .error (.invalidCharacter byte)
      | some symbol =>
        if block.length < 8 then decodeFrom (block ++ [symbol]) rest
        else if none ∈ block then .error .prematurePadding
        else (decodeFrom [symbol] rest).map (bytes block ++ ·)

/-- The bytes that a text stands for. -/
def decode (text : List UInt8) : Except Base64Error (List UInt8) := decodeFrom [] text

end Base64

end DocumentCursor.Tls
