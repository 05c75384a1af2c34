/-! # Text of bytes

Bytes that were taken for text are shown as the characters that they encode. A piece that encodes
none, as far as it could still begin a character, is shown as one replacement character.

Main definition: `Encoding.text`.
-/

namespace DocumentCursor.Text.Encoding

/-- The ranges of the bytes after the first byte of a character, if it is such a byte. -/
def following? (first : UInt8) : Option (List (UInt8 × UInt8)) :=
  let any : UInt8 × UInt8 := (0x80, 0xbf)
  if first < 0x80 then some []
  else if 0xc2 ≤ first && first ≤ 0xdf then some [any]
  else if first = 0xe0 then some [(0xa0, 0xbf), any]
  else if first = 0xed then some [(0x80, 0x9f), any]
  else if 0xe1 ≤ first && first ≤ 0xef then some [any, any]
  else if first = 0xf0 then some [(0x90, 0xbf), any, any]
  else if first = 0xf4 then some [(0x80, 0x8f), any, any]
  else if 0xf1 ≤ first && first ≤ 0xf3 then some [any, any, any]
  else none

/-- How many bytes keep to their ranges, as far as all before them do. -/
def matching : List (UInt8 × UInt8) → List UInt8 → Nat
  | (low, high) :: ranges, byte :: rest =>
    if low ≤ byte && byte ≤ high then matching ranges rest + 1 else 0
  | _, _ => 0

/-- The character of a first byte and of all that follow it. -/
def character (first : UInt8) (followers : List UInt8) : Char :=
  let lead := match followers.length with
    | 0 => first.toNat
    | 1 => first.toNat % 0x20
    | 2 => first.toNat % 0x10
    | _ => first.toNat % 0x08
  Char.ofNat (followers.foldl (fun code byte => code * 0x40 + byte.toNat % 0x40) lead)

/-- The characters of bytes. -/
def characters : List UInt8 → List Char
  | [] => []
  | first :: rest =>
    let ranges := (following? first).getD []
    let followers := rest.take (matching ranges rest)
    let whole := (following? first).isSome && followers.length = ranges.length
    (if whole then character first followers else '\ufffd') ::
      characters (rest.drop (matching ranges rest))
  termination_by bytes => bytes.length
  decreasing_by
    rw [List.length_drop, List.length_cons]
    omega

/-- The text of bytes. -/
def text (bytes : List UInt8) : String := String.ofList (characters bytes)

end DocumentCursor.Text.Encoding
