import DocumentCursor.Text.Split
import DocumentCursor.Wire.Message
import Mathlib.Tactic.Set

/-! # Messages that read back

A message is written field by field and read by its layout. Fields of a fixed width read back
whatever they hold. A name is written without its length and ends at a NUL, so that it reads back
only if it has none itself; otherwise what is left of it stands where the fields behind it should.

* **`takeText?_append`**: text without a NUL is taken up to the NUL that ends it.
* **`zero_mem_utf8_iff`**: the bytes of a text have a NUL exactly if the text does.
* **`GetMore.read?_layout_of_plain`** and **`GetMore.read?_layout_of_mem`**: what is read in the
  layout of a message for the next batch, with a name without a NUL and with one.
* **`GetMore.reads_back`**: such a message reads back exactly if its name has no NUL.
-/

namespace DocumentCursor.Wire

open LittleEndian

/-! ## Text -/

/-- The bytes of a text. -/
def utf8 (text : String) : List UInt8 := text.toUTF8.data.toList

/-- The bytes of a text are those of its characters, one after the other. -/
theorem utf8_eq_flatMap (text : String) :
    utf8 text = text.toList.flatMap String.utf8EncodeChar := by
  obtain ⟨characters, rfl⟩ : ∃ characters, text = String.ofList characters :=
    ⟨text.toList, String.ofList_toList.symm⟩
  rw [utf8, String.toUTF8_eq_toByteArray, String.toByteArray_ofList, String.toList_ofList]
  exact List.toList_data_toByteArray

/-- `0 = UInt8.ofNat n` exactly if `n % 256 = 0`: a byte that is made of a number is zero if the
number is, up to whole bytes. -/
theorem zero_eq_ofNat_iff (n : Nat) : 0 = UInt8.ofNat n ↔ n % 256 = 0 := by
  rw [← UInt8.toNat_inj, UInt8.toNat_ofNat', eq_comm]
  rfl

/-- Only `'\x00'` has a zero among its bytes: where a character has several, each has its highest
bit set. -/
theorem zero_mem_utf8EncodeChar_iff (c : Char) : 0 ∈ String.utf8EncodeChar c ↔ c = '\x00' := by
  constructor
  · intro listed
    have zero : c.val.toNat = 0 := by
      simp only [String.utf8EncodeChar] at listed
      split at listed
      · simp only [List.mem_singleton, zero_eq_ofNat_iff] at listed
        omega
      · exfalso
        split at listed
        · simp only [List.mem_cons, List.not_mem_nil, or_false, zero_eq_ofNat_iff] at listed
          omega
        · split at listed <;>
            simp only [List.mem_cons, List.not_mem_nil, or_false, zero_eq_ofNat_iff] at listed <;>
            omega
    exact Char.ext (UInt32.toNat_inj.mp zero)
  · rintro rfl
    decide

/-- **The bytes of a text have a NUL exactly if the text does**:
`0 ∈ utf8 text ↔ '\x00' ∈ text.toList`. -/
theorem zero_mem_utf8_iff (text : String) : 0 ∈ utf8 text ↔ '\x00' ∈ text.toList := by
  simp [utf8_eq_flatMap, zero_mem_utf8EncodeChar_iff]

/-- **Text without a NUL is taken up to the NUL that ends it**: `takeText? (name ++ 0 :: rest) =
some (name, rest)`. -/
theorem takeText?_append {name : List UInt8} (plain : 0 ∉ name) (rest : List UInt8) :
    takeText? (name ++ 0 :: rest) = some (name, rest) := by
  rw [takeText?, Text.dropWhile_ne_append plain, Text.takeWhile_ne_append plain]

/-! ## Integers -/

/-- Reading an integer of four bytes uses them up: `bytes.length = rest.length + 4`. -/
theorem length_of_takeInt32? {bytes rest : List UInt8} {n : Int32}
    (h : takeInt32? bytes = some (n, rest)) : bytes.length = rest.length + 4 := by
  unfold takeInt32? at h
  split at h
  · obtain ⟨-, rfl⟩ := Prod.mk.inj (Option.some.inj h)
    rw [List.length_drop]
    omega
  · exact absurd h (by simp)

/-- Reading an integer of eight bytes uses them up: `bytes.length = rest.length + 8`. -/
theorem length_of_takeInt64? {bytes rest : List UInt8} {n : Int64}
    (h : takeInt64? bytes = some (n, rest)) : bytes.length = rest.length + 8 := by
  unfold takeInt64? at h
  split at h
  · obtain ⟨-, rfl⟩ := Prod.mk.inj (Option.some.inj h)
    rw [List.length_drop]
    omega
  · exact absurd h (by simp)

/-! ## Messages with their header -/

/-- **The bytes of a framed message** are the header, whose first field tells how many there are,
and the body. -/
theorem toList_framed {op : Operation} {requestId : Int32} {body bytes : ByteArray}
    (h : framed op requestId body = .ok bytes) :
    bytes.data.toList =
      (Header.mk (Int32.ofNat bytes.size) requestId 0 op.code).bytes ++ body.data.toList := by
  unfold framed at h
  dsimp only at h
  split at h
  · exact absurd h (by simp)
  · obtain rfl := Except.ok.inj h
    have size : ((Header.mk (Int32.ofNat (Header.size + body.size)) requestId 0
        op.code).bytes.toByteArray ++ body).size = Header.size + body.size := by simp
    rw [size]
    simp

/-! ## The next batch -/

namespace GetMore

/-- **The bytes of a message** are the header and the fields one after the other: a zero, the full
name with a NUL behind it, the number and the cursor. -/
theorem toList_encode {message : GetMore} {requestId : Int32} {bytes : ByteArray}
    (h : message.encode requestId = .ok bytes) :
    bytes.data.toList =
      (Header.mk (Int32.ofNat bytes.size) requestId 0 Operation.getMore.code).bytes ++
        (int32 0 ++ (utf8 message.ns.fullName ++
          0 :: (int32 message.numberToReturn ++ int64 message.cursorId))) := by
  rw [toList_framed h]
  simp [body, utf8]

/-- What is read behind the header when the name has no NUL: the name ends where it should, and
nothing is left over. -/
theorem read?_layout_of_plain (header : Header) {name : List UInt8} (plain : 0 ∉ name)
    (number : Int32) (id : Int64) :
    read? (header.bytes ++ (int32 0 ++ (name ++ 0 :: (int32 number ++ int64 id)))) =
      some ⟨header, name, number, id⟩ := by
  have last : takeInt64? (int64 id) = some (id, []) := by simpa using takeInt64?_append id []
  simp [read?, takeText?_append plain, last]

/-- Nothing is read when the name has a NUL: the name ends too early, and bytes are left over behind
what is taken for the cursor. -/
theorem read?_layout_of_mem (header : Header) {name : List UInt8} (listed : 0 ∈ name)
    (number : Int32) (id : Int64) :
    read? (header.bytes ++ (int32 0 ++ (name ++ 0 :: (int32 number ++ int64 id)))) = none := by
  obtain ⟨front, back, rfl, plain⟩ := List.eq_append_cons_of_mem listed
  set left := back ++ 0 :: (int32 number ++ int64 id) with hleft
  have long : 12 < left.length := by
    simp only [hleft, List.length_append, List.length_cons, length_int32, length_int64]
    omega
  rw [List.append_assoc, List.cons_append, ← hleft]
  have reads : read? (header.bytes ++ (int32 0 ++ (front ++ 0 :: left))) =
      (takeInt32? left).bind fun taken => (takeInt64? taken.2).bind fun last =>
        if last.2 = [] then some ⟨header, front, taken.1, last.1⟩ else none := by
    simp [read?, takeText?_append plain]
  rw [reads, Option.bind_eq_none_iff]
  intro taken htaken
  rw [Option.bind_eq_none_iff]
  intro last hlast
  have first := length_of_takeInt32? htaken
  have second := length_of_takeInt64? hlast
  rw [if_neg]
  intro nothing
  rw [nothing, List.length_nil] at second
  omega

/-- **A message for the next batch reads back exactly if its name has no NUL.** Then its layout says
what was asked, with nothing left over; otherwise `read?` refuses it, as it is no message of that
layout. -/
theorem reads_back (message : GetMore) (requestId : Int32) (bytes : ByteArray)
    (h : message.encode requestId = .ok bytes) :
    read? bytes.data.toList =
      if '\x00' ∈ message.ns.fullName.toList then none
      else some {
        header := ⟨Int32.ofNat bytes.size, requestId, 0, Operation.getMore.code⟩
        name := utf8 message.ns.fullName
        numberToReturn := message.numberToReturn
        cursorId := message.cursorId } := by
  rw [toList_encode h]
  split
  · rename_i listed
    exact read?_layout_of_mem _ ((zero_mem_utf8_iff _).mpr listed) _ _
  · rename_i plain
    exact read?_layout_of_plain _ (fun listed => plain ((zero_mem_utf8_iff _).mp listed)) _ _

/-- A message for the second batch of `db.c`. -/
theorem reads_back_small :
    ∃ bytes, encode ⟨⟨"db", "c", by decide, by decide, by decide⟩, -2, 42⟩ 9 = .ok bytes ∧
      read? bytes.data.toList = some ⟨⟨37, 9, 0, 2005⟩, [100, 98, 46, 99], -2, 42⟩ := by
  refine ⟨_, rfl, ?_⟩
  rw [reads_back ⟨⟨"db", "c", by decide, by decide, by decide⟩, -2, 42⟩ 9 _ rfl]
  decide

/-- **A name with a NUL does not read back**, although a collection may have it, as `Namespace.of`
says, and its message is written. -/
theorem read?_nul_eq_none :
    Namespace.of "a" "nul\x00in" = .ok ⟨"a", "nul\x00in", by decide, by decide, by decide⟩ ∧
      ∃ bytes, encode ⟨⟨"a", "nul\x00in", by decide, by decide, by decide⟩, 1, 2⟩ 3 = .ok bytes ∧
        read? bytes.data.toList = none := by
  refine ⟨rfl, _, rfl, ?_⟩
  decide

end GetMore

end DocumentCursor.Wire
