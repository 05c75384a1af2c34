import DocumentCursor.Proofs.Messages

/-! # Messages and their headers

A message is as long as its parts are together, unless that is more than a message may have, and its
header says how long it is. The length and the number of cursors are written into four bytes each
before the limit is looked at. Nothing is lost by that: what does not fit in them is over the limit.
Reading a header is the other direction. Any sixteen bytes are the bytes of a header, so that only
missing bytes and impossible lengths are refused.

* **`Header.take?_eq_some_iff`**: taking a header is the inverse of writing one.
* **`Header.peek_eq_ok_iff`** and **`Header.peek_eq_error_iff`**: which bytes are refused, and why.
* **`Fits`**: what encoding comes to; a framed body has it (`framed_fits`).
* **`KillCursors.read?_layout`**: the cursors of a message are read back.
* **`encoding_exact`**: the length, the header and the cursors of all messages, and all headers.
-/

namespace DocumentCursor.Wire

open LittleEndian

/-! ## Integers -/

/-- What is read as an integer of four bytes is written as those bytes:
`int32 (ofNat (value bytes)) = bytes`. -/
theorem int32_ofNat_value {bytes : List UInt8} (four : bytes.length = 4) :
    int32 (Int32.ofNat (value bytes)) = bytes := by
  have small : value bytes < 2 ^ 32 := by simpa [four] using value_lt bytes
  have same : (Int32.ofNat (value bytes)).toUInt32.toNat = value bytes := by
    show (BitVec.ofNat 32 (value bytes)).toNat = value bytes
    rw [BitVec.toNat_ofNat, Nat.mod_eq_of_lt small]
  rw [int32, same, ← four, digits_value]

/-- **Taking an integer of four bytes** splits it off the front: `takeInt32? bytes = some (n, rest)
↔ bytes = int32 n ++ rest`. -/
theorem takeInt32?_eq_some_iff {bytes rest : List UInt8} {n : Int32} :
    takeInt32? bytes = some (n, rest) ↔ bytes = int32 n ++ rest := by
  constructor
  · intro taken
    unfold takeInt32? at taken
    split at taken
    · rename_i enough
      obtain ⟨rfl, rfl⟩ := Prod.mk.inj (Option.some.inj taken)
      rw [int32_ofNat_value (List.length_take_of_le enough), List.take_append_drop]
    · cases taken
  · rintro rfl
    exact takeInt32?_append n rest

/-- A number that a message may have as its length is written as it is: up to `maxMessageSize`
nothing is lost in an `Int32`. -/
theorem toInt_ofNat_of_le {n : Nat} (h : n ≤ maxMessageSize) : (Int32.ofNat n).toInt = n :=
  Int32.toInt_ofNat_of_lt (Nat.lt_of_le_of_lt h (by decide))

/-! ## Headers -/

namespace Header

/-- **Taking a header is the inverse of writing one**: `take? bytes = some (header, rest) ↔ bytes =
header.bytes ++ rest`. -/
theorem take?_eq_some_iff {bytes rest : List UInt8} {header : Header} :
    take? bytes = some (header, rest) ↔ bytes = header.bytes ++ rest := by
  constructor
  · intro taken
    simp only [take?, Option.bind_eq_bind, Option.bind_eq_some_iff, Prod.exists,
      takeInt32?_eq_some_iff] at taken
    obtain ⟨_, _, rfl, _, _, rfl, _, _, rfl, _, _, rfl, made⟩ := taken
    obtain ⟨rfl, rfl⟩ := Prod.mk.inj (Option.some.inj made)
    simp [Header.bytes]
  · rintro rfl
    exact take?_append header rest

/-- A header is taken where there are enough bytes, `size ≤ bytes.length`, whatever they say. -/
theorem isSome_take?_iff {bytes : List UInt8} :
    (take? bytes).isSome = true ↔ size ≤ bytes.length := by
  constructor
  · intro whole
    obtain ⟨⟨header, rest⟩, taken⟩ := Option.isSome_iff_exists.mp whole
    rw [take?_eq_some_iff.mp taken, List.length_append, length_bytes]
    exact Nat.le_add_right _ _
  · intro enough
    have lengths : 4 ≤ bytes.length ∧ 4 ≤ bytes.length - 4 ∧ 4 ≤ bytes.length - 8 ∧
        4 ≤ bytes.length - 12 := by
      simp only [size] at enough
      omega
    simp [take?, takeInt32?, lengths]

/-- The bytes of a header in front of others are the first ones: `(header.bytes ++ rest).take size =
header.bytes`. -/
theorem take_bytes_append (header : Header) (rest : List UInt8) :
    (header.bytes ++ rest).take size = header.bytes := by
  rw [← length_bytes header, List.take_left']
  rfl

/-- Headers with the same bytes are the same: `Header.bytes` is injective. -/
theorem bytes_injective {header other : Header} (h : header.bytes = other.bytes) :
    header = other := by
  have taken := take?_append header []
  rw [h, take?_append] at taken
  exact (Prod.mk.inj (Option.some.inj taken)).1.symm

/-- Whether a message may have the length that a header says: not negative, and at most
`maxMessageSize`. -/
def Admits (header : Header) : Prop :=
  0 ≤ header.messageLength.toInt ∧ header.messageLength.toInt ≤ maxMessageSize

/-- What is peeked at where too little has arrived: `.incompleteMessage` with the number of bytes
that are missing. -/
theorem peek_of_lt {bytes : List UInt8} (short : bytes.length < size) :
    peek bytes = .error (.incompleteMessage (size - bytes.length)) := by
  have none : take? bytes = none := by
    rw [← Option.not_isSome_iff_eq_none, isSome_take?_iff]
    exact Nat.not_le.mpr short
  simp [peek, none]

/-- What is peeked at where a header stands in front: that header, if it `Admits`, whatever
follows. -/
theorem peek_append {header : Header} (rest : List UInt8) (admits : header.Admits) :
    peek (header.bytes ++ rest) = .ok header := by
  have inside : ¬(header.messageLength.toInt < 0 ∨
      (maxMessageSize : Int) < header.messageLength.toInt) := by
    obtain ⟨low, high⟩ := admits
    omega
  simp only [peek, take?_append, if_neg inside]

/-- What is peeked at where the header in front says an impossible length: `.messageTooLarge`, with
`0` for a negative length. -/
theorem peek_append_of_not {header : Header} (rest : List UInt8) (refused : ¬header.Admits) :
    peek (header.bytes ++ rest) =
      .error (.messageTooLarge header.messageLength.toInt.toNat maxMessageSize) := by
  have outside : header.messageLength.toInt < 0 ∨
      (maxMessageSize : Int) < header.messageLength.toInt := by
    unfold Admits at refused
    omega
  simp only [peek, take?_append, if_pos outside]

/-- Too little has arrived, or the bytes are those of a header and others: the two shapes that
`peek` is read off on. -/
theorem short_or_layout (bytes : List UInt8) :
    bytes.length < size ∨ ∃ header rest, bytes = Header.bytes header ++ rest := by
  by_cases enough : size ≤ bytes.length
  · obtain ⟨⟨header, rest⟩, taken⟩ := Option.isSome_iff_exists.mp (isSome_take?_iff.mpr enough)
    exact Or.inr ⟨header, rest, take?_eq_some_iff.mp taken⟩
  · exact Or.inl (Nat.not_le.mp enough)

/-- **A header is read where its bytes stand in front** and it says a possible length:
`peek bytes = .ok header` exactly then. -/
theorem peek_eq_ok_iff {bytes : List UInt8} {header : Header} :
    peek bytes = .ok header ↔ header.bytes = bytes.take size ∧ header.Admits := by
  obtain short | ⟨front, rest, rfl⟩ := short_or_layout bytes
  · rw [peek_of_lt short]
    refine ⟨(fun read => by cases read), ?_⟩
    rintro ⟨same, -⟩
    have := congrArg List.length same
    rw [length_bytes, List.length_take] at this
    omega
  · rw [take_bytes_append]
    constructor
    · intro read
      by_cases admits : front.Admits
      · rw [peek_append rest admits] at read
        obtain rfl := Except.ok.inj read
        exact ⟨rfl, admits⟩
      · rw [peek_append_of_not rest admits] at read
        cases read
    · rintro ⟨same, admits⟩
      obtain rfl := bytes_injective same
      exact peek_append rest admits

/-- **Nothing is read where bytes are missing**, whose number is told, and where the header in front
says an impossible length: `peek bytes = .error error` exactly then. -/
theorem peek_eq_error_iff {bytes : List UInt8} {error : ProtocolError} :
    peek bytes = .error error ↔
      (bytes.length < size ∧ error = .incompleteMessage (size - bytes.length)) ∨
      ∃ header : Header, header.bytes = bytes.take size ∧ ¬header.Admits ∧
        error = .messageTooLarge header.messageLength.toInt.toNat maxMessageSize := by
  obtain short | ⟨front, rest, rfl⟩ := short_or_layout bytes
  · rw [peek_of_lt short]
    constructor
    · intro read
      exact Or.inl ⟨short, (Except.error.inj read).symm⟩
    · rintro (⟨-, rfl⟩ | ⟨header, same, -⟩)
      · rfl
      · have := congrArg List.length same
        rw [length_bytes, List.length_take] at this
        omega
  · rw [take_bytes_append, List.length_append, length_bytes]
    constructor
    · intro read
      by_cases admits : front.Admits
      · rw [peek_append rest admits] at read
        cases read
      · rw [peek_append_of_not rest admits] at read
        exact Or.inr ⟨front, rfl, admits, (Except.error.inj read).symm⟩
    · rintro (⟨short, -⟩ | ⟨header, same, refused, rfl⟩)
      · omega
      · obtain rfl := bytes_injective same
        exact peek_append_of_not rest refused

end Header

/-! ## Messages with their header -/

/-- **What encoding comes to** where the header and the fields have `total` bytes together: that
many bytes with a header that says so, whatever follows them, unless they are too many. -/
def Fits (code requestId : Int32) (total : Nat) : Except ProtocolError ByteArray → Prop
  | .error error => maxMessageSize < total ∧ error = .messageTooLarge total maxMessageSize
  | .ok bytes =>
    total ≤ maxMessageSize ∧ bytes.size = total ∧ (Int32.ofNat total).toInt = total ∧
      ∀ more, Header.peek (bytes.data.toList ++ more) =
        .ok ⟨Int32.ofNat total, requestId, 0, code⟩

/-- **A body is framed as long as it is**: `framed op requestId body` is `Fits` for
`Header.size + body.size` bytes. -/
theorem framed_fits (op : Operation) (requestId : Int32) (body : ByteArray) :
    Fits op.code requestId (Header.size + body.size) (framed op requestId body) := by
  unfold framed
  dsimp only
  split
  · rename_i large
    exact ⟨large, rfl⟩
  · rename_i small
    have fits := Nat.not_lt.mp small
    have exactly := toInt_ofNat_of_le fits
    refine ⟨fits, by simp, exactly, fun more => ?_⟩
    rw [ByteArray.toList_data_append, List.toList_data_toByteArray, List.append_assoc]
    refine Header.peek_append _ ⟨?_, ?_⟩
    · show (0 : Int) ≤ (Int32.ofNat (Header.size + body.size)).toInt
      omega
    · show (Int32.ofNat (Header.size + body.size)).toInt ≤ maxMessageSize
      omega

/-- The body of a message for the next batch has `17` bytes and those of the name: a zero, the name
and its terminator, the number and the cursor. -/
theorem GetMore.size_body (message : GetMore) :
    message.body.size = 17 + (utf8 message.ns.fullName).length := by
  have name : message.ns.fullName.toUTF8.size = (utf8 message.ns.fullName).length := rfl
  simp only [body, ByteArray.size_append, List.size_toByteArray, List.length_append,
    List.length_cons, length_int32, length_int64, name]
  omega

/-! ## Forgetting cursors -/

namespace KillCursors

/-- The bytes of the cursors stand one after the other: pushing them is `++ ids.flatMap int64`. -/
theorem toList_foldl_pushAll (ids : List Int64) (out : ByteArray) :
    (ids.foldl (fun out id => pushAll out (int64 id)) out).data.toList =
      out.data.toList ++ ids.flatMap int64 := by
  induction ids generalizing out with
  | nil => simp
  | cons id ids ih => rw [List.foldl_cons, ih, toList_data_pushAll, List.flatMap_cons,
      List.append_assoc]

/-- **The fields of a message** stand one after the other: a zero, the number of cursors, and the
cursors. -/
theorem toList_body (message : KillCursors) :
    message.body.data.toList =
      int32 0 ++ (int32 (Int32.ofNat message.cursorIds.length) ++
        message.cursorIds.flatMap int64) := by
  rw [body, toList_foldl_pushAll, List.toList_data_toByteArray, List.append_assoc]

/-- The body has eight bytes for each cursor and eight bytes more, `8 + 8 * cursorIds.length`. -/
theorem size_body (message : KillCursors) :
    message.body.size = 8 + 8 * message.cursorIds.length := by
  have lengths (ids : List Int64) : (ids.flatMap int64).length = 8 * ids.length := by
    induction ids with
    | nil => rfl
    | cons id ids ih => rw [List.flatMap_cons, List.length_append, length_int64, ih,
        List.length_cons, Nat.mul_succ, Nat.add_comm]
  rw [← ByteArray.size_data, ← Array.length_toList, toList_body, List.length_append,
    List.length_append, length_int32, length_int32, lengths]
  omega

/-- Cursors are taken as they were written: `takeIds?` of as many as `ids` has is
`some (ids, rest)`. -/
theorem takeIds?_flatMap (ids : List Int64) (rest : List UInt8) :
    takeIds? ids.length (ids.flatMap int64 ++ rest) = some (ids, rest) := by
  induction ids with
  | nil => rfl
  | cons id ids ih => simp [takeIds?, ih]

/-- **The cursors of a message are read back**, with nothing left over, where their number is
written as it is. -/
theorem read?_layout (header : Header) {ids : List Int64}
    (counted : (Int32.ofNat ids.length).toInt = ids.length) :
    read? (header.bytes ++ (int32 0 ++ (int32 (Int32.ofNat ids.length) ++ ids.flatMap int64))) =
      some (header, ids) := by
  have number : (Int32.ofNat ids.length).toNatClampNeg = ids.length := by
    rw [← Int32.toNat_toInt, counted, Int.toNat_natCast]
  have whole := takeIds?_flatMap ids []
  rw [List.append_nil] at whole
  simp [read?, number, whole]

/-- What encoding a message leaves to be read: the number of cursors, which was written as it is,
and the cursors. -/
def ReadsBack (message : KillCursors) : Except ProtocolError ByteArray → Prop
  | .error _ => True
  | .ok bytes =>
    (Int32.ofNat message.cursorIds.length).toInt = message.cursorIds.length ∧
      ∃ header, read? bytes.data.toList = some (header, message.cursorIds)

end KillCursors

/-- **Encoding is exact.** A message has as many bytes as its fields and its header, and is refused
exactly if these are too many; its header is read whatever follows it, and so are the cursors of a
message that names some. A header that is read is the first sixteen bytes; only missing bytes and
impossible lengths are refused. -/
theorem encoding_exact :
    (∀ (message : GetMore) (requestId : Int32),
      Fits 2005 requestId (33 + (utf8 message.ns.fullName).length) (message.encode requestId)) ∧
    (∀ (message : KillCursors) (requestId : Int32),
      Fits 2007 requestId (24 + 8 * message.cursorIds.length) (message.encode requestId) ∧
        message.ReadsBack (message.encode requestId)) ∧
    (∀ (bytes : List UInt8) (header : Header),
      Header.peek bytes = .ok header ↔
        header.bytes = bytes.take 16 ∧ 0 ≤ header.messageLength.toInt ∧
          header.messageLength.toInt ≤ maxMessageSize) ∧
    ∀ (bytes : List UInt8) (error : ProtocolError),
      Header.peek bytes = .error error ↔
        (bytes.length < 16 ∧ error = .incompleteMessage (16 - bytes.length)) ∨
        ∃ header : Header, header.bytes = bytes.take 16 ∧
          ¬(0 ≤ header.messageLength.toInt ∧ header.messageLength.toInt ≤ maxMessageSize) ∧
          error = .messageTooLarge header.messageLength.toInt.toNat maxMessageSize := by
  refine ⟨fun message requestId => ?_, fun message requestId => ?_,
    fun _ _ => Header.peek_eq_ok_iff, fun _ _ => Header.peek_eq_error_iff⟩
  · have framed := framed_fits .getMore requestId message.body
    rw [GetMore.size_body, ← Nat.add_assoc] at framed
    exact framed
  · have fits := framed_fits .killCursors requestId message.body
    rw [KillCursors.size_body, ← Nat.add_assoc] at fits
    refine ⟨fits, ?_⟩
    cases encoded : message.encode requestId with
    | error error => trivial
    | ok bytes =>
      have total : 24 + 8 * message.cursorIds.length ≤ maxMessageSize := by
        rw [show framed .killCursors requestId message.body = .ok bytes from encoded] at fits
        exact fits.1
      -- The cursors take more bytes than there are of them.
      have counted := toInt_ofNat_of_le (n := message.cursorIds.length) (by omega)
      rw [KillCursors.ReadsBack, toList_framed encoded, KillCursors.toList_body]
      exact ⟨counted, _, KillCursors.read?_layout _ counted⟩

end DocumentCursor.Wire
