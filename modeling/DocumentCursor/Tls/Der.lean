/-! # Tagged data

Certificates and keys are data in which every part has a tag, a length and so many bytes of content,
and the content of some parts is parts again. A length is written in as few bytes as it takes, and
no part is as long as `Der.limit`.

Main definitions:

* `Der.Tag` and `Der.split?`, which takes the first part;
* `Der.Reader`, with `Der.take`, `Der.nested` and `Der.optional`.
-/

namespace DocumentCursor.Tls.Der

/-- What sort of part something is. -/
inductive Tag where
  | boolean
  | integer
  | bitString
  | octetString
  | null
  | objectIdentifier
  | sequence
  /-- A part within a part whose number says what it is for, and whose content is parts. -/
  | numbered (n : UInt8)
  /-- A part within a part whose number says what it is for, and whose content is bytes. -/
  | numberedBytes (n : UInt8)
  deriving DecidableEq, Repr

/-- The byte that is written for a tag. -/
def Tag.byte : Tag → UInt8
  | boolean => 0x01
  | integer => 0x02
  | bitString => 0x03
  | octetString => 0x04
  | null => 0x05
  | objectIdentifier => 0x06
  | sequence => 0x30
  | numbered n => 0xa0 ||| n
  | numberedBytes n => 0x80 ||| n

/-- The length from which on a part is too long. -/
def limit : Nat := 0xffff

/-- The number that bytes are, the most significant one first. -/
def number (bytes : List UInt8) : Nat := bytes.foldl (fun n byte => n * 0x100 + byte.toNat) 0

/-- Takes a length. A first byte with its highest bit set is the number of bytes that follow it. -/
def length? : List UInt8 → Option (Nat × List UInt8)
  | [] => none
  | first :: rest =>
    if first < 0x80 then some (first.toNat, rest)
    else
      let size := first.toNat - 0x80
      let length := number (rest.take size)
      let least := if size = 1 then 0x80 else 1 <<< (8 * (size - 1))
      if 1 ≤ size ∧ size ≤ 4 ∧ size ≤ rest.length ∧ least ≤ length then
        some (length, rest.drop size)
      else none

/-- Takes a part: its tag and its content. A tag is one byte. -/
def split? : List UInt8 → Option (UInt8 × List UInt8 × List UInt8)
  | [] => none
  | tag :: rest => do
    if tag &&& 0x1f = 0x1f then none
    let (length, rest) ← length? rest
    if length < limit ∧ length ≤ rest.length then
      some (tag, rest.take length, rest.drop length)
    else none

/-- A part. The length is below `limit`. -/
def part (tag : Tag) (content : List UInt8) : List UInt8 :=
  let size := content.length
  let length : List UInt8 :=
    if size < 0x80 then [UInt8.ofNat size]
    else if size < 0x100 then [0x81, UInt8.ofNat size]
    else [0x82, UInt8.ofNat (size / 0x100), UInt8.ofNat (size % 0x100)]
  tag.byte :: length ++ content

/-! ## Reading -/

/-- Reads parts, or fails with an error. -/
abbrev Reader (ε : Type) := StateT (List UInt8) (Except ε)

variable {ε β : Type}

/-- Reads bytes to their end. -/
def Reader.all (read : Reader ε β) (error : ε) (bytes : List UInt8) : Except ε β := do
  let (value, rest) ← read.run bytes
  if rest = [] then return value else throw error

/-- Whether nothing is left. -/
def atEnd : Reader ε Bool := return (← get) = []

/-- Takes all that is left. -/
def takeRest : Reader ε (List UInt8) := do
  let rest ← get
  set ([] : List UInt8)
  return rest

/-- Takes the content of a part with a tag. -/
def take (tag : Tag) (error : ε) : Reader ε (List UInt8) := do
  match split? (← get) with
  | some (found, content, rest) =>
    if found ≠ tag.byte then throw error
    set rest
    return content
  | none => throw error

/-- Reads the content of a part with a tag to its end. -/
def nested (tag : Tag) (error : ε) (read : Reader ε β) : Reader ε β := do
  read.all error (← take tag error)

/-- Reads what begins with a tag, if that comes next. -/
def optional (tag : Tag) (read : Reader ε β) : Reader ε (Option β) := do
  if (← get).head? = some tag.byte then some <$> read else return none

/-- Takes a whole number that is not negative, written with as few bytes as it takes. -/
def natural (error : ε) : Reader ε Nat := do
  match ← take .integer error with
  | [] => throw error
  | [byte] => if byte < 0x80 then return byte.toNat else throw error
  | first :: second :: rest =>
    if first < 0x80 ∧ (first ≠ 0 ∨ 0x80 ≤ second) then return number (first :: second :: rest)
    else throw error

/-- Takes bits that fill whole bytes. -/
def bits (error : ε) : Reader ε (List UInt8) := do
  match ← take .bitString error with
  | 0 :: bytes => return bytes
  | _ => throw error

/-- Takes a truth value, which is false if it is left out. -/
def flag (error : ε) : Reader ε Bool := do
  match ← optional .boolean (take .boolean error) with
  | none => return false
  | some content =>
    if content = [0xff] then return true
    else if content = [0x00] then return false
    else throw error

end DocumentCursor.Tls.Der
