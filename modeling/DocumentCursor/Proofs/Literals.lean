import DocumentCursor.Net.Ip
import DocumentCursor.Proofs.Numerals

/-! # Internet addresses read back

Every internet address is read again from its canonical text. For version 4 that is four octets
between dots. A version 6 address is written in one of three ways, each of which the reader takes
apart again: around a double colon, for which as many zeros are filled in as were left out; as all
eight groups, between which there is no double colon; and with a version 4 address in last place.

* **`Ipv4.read?_text`**: version 4 addresses read back.
* **`Ipv6.splitGap_joined`**: where a double colon is found.
* **`Ipv6.eq_around_longestZeros`**: what is left out at a double colon.
* **`Ipv6.read?_text`**: version 6 addresses read back.
* **`Ip.read?_text`** and **`Ip.literal_of_mem_text`**: addresses of either version read back, and
  the characters that they are written in.
-/

namespace DocumentCursor.Net

open Text

/-! ## Version 4 -/

namespace Ipv4

variable {text : List Char}

/-- An octet reads back: `octet? (digitsText octet.toNat) = some octet`. -/
theorem octet?_digitsText (octet : UInt8) : octet? (digitsText octet.toNat) = some octet := by
  have bound : octet.toNat ≤ 255 := Nat.le_of_lt_succ octet.toNat_lt
  have short : (digitsText octet.toNat).length ≤ 3 :=
    (Nat.length_toDigits_le_iff (by decide) (by decide)).mpr (by omega)
  have first : (digitsText octet.toNat).head? ≠ some '0' ∨ (digitsText octet.toNat).length = 1 := by
    obtain zero | positive := Nat.eq_zero_or_pos octet.toNat
    · rw [zero]
      exact Or.inr rfl
    · exact Or.inl (Numeral.head?_toDigits_ne (by decide) positive)
  rw [octet?, if_pos ⟨short, first⟩, Numeral.digits?_digitsText,
    Option.filter_some_pos (by simpa using bound), Option.map_some, UInt8.ofNat_toNat]

/-- **A version 4 address reads back**: `read? ip.text = some ip`. -/
theorem read?_text (ip : Ipv4) : read? ip.text = some ip := by
  have undotted : ∀ piece ∈ [ip.a, ip.b, ip.c, ip.d].map fun octet => digitsText octet.toNat,
      '.' ∉ piece := by
    intro piece listed dot
    obtain ⟨octet, -, rfl⟩ := List.mem_map.mp listed
    exact absurd ((Numeral.spells_digitsText _).isDigit '.' dot) (by decide)
  rw [read?, Ipv4.text, cut_joined (by simp) undotted]
  simp [octet?_digitsText]

/-- A version 4 address is written in digits and dots, so it has no colon and no bracket. -/
theorem digit_of_mem_text {ip : Ipv4} {c : Char} (listed : c ∈ ip.text) :
    c = '.' ∨ (Numeral.digit? 16 c).isSome := by
  refine (mem_joined listed).imp_right fun ⟨piece, among, inside⟩ => ?_
  obtain ⟨octet, -, rfl⟩ := List.mem_map.mp among
  exact Numeral.isSome_digit?_of_mem (by decide) (Numeral.digits?_digitsText _) inside

/-- A text without a dot is no version 4 address: `read?` is `none`, as there is one piece only. -/
theorem read?_of_notMem (undotted : '.' ∉ text) : read? text = none := by
  rw [read?, cut_of_notMem undotted, List.mapM_cons]
  cases octet? text <;> rfl

/-- No octet has a colon: `octet?` of a text with one is `none`. -/
theorem octet?_of_colon (colon : ':' ∈ text) : octet? text = none := by
  rw [octet?]
  split
  · cases read : Numeral.digits? 10 text with
    | none => rfl
    | some n => exact absurd (Numeral.isSome_digit?_of_mem (by decide) read colon) (by decide)
  · rfl

/-- Pieces are not all octets if one of them has a colon: `mapM octet?` is `none`. -/
theorem mapM_octet?_of_colon {pieces : List (List Char)}
    (colon : ∃ piece ∈ pieces, ':' ∈ piece) : pieces.mapM octet? = none := by
  obtain ⟨found, among, inside⟩ := colon
  induction pieces with
  | nil => cases among
  | cons piece pieces ih =>
    rw [List.mapM_cons]
    obtain rfl | later := List.mem_cons.mp among
    · rw [octet?_of_colon inside]
      rfl
    · rw [ih later]
      cases octet? piece <;> rfl

/-- A text with a colon is no version 4 address: `read?` is `none`, since the colon stands in one of
the pieces. -/
theorem read?_of_colon (colon : ':' ∈ text) : read? text = none := by
  rw [← joined_cut '.' text] at colon
  rw [read?, mapM_octet?_of_colon ((mem_joined colon).resolve_left (by decide))]

end Ipv4

/-! ## Version 6 -/

namespace Ipv6

/-! ### Groups -/

/-- A group reads back: `group? (groupText group) = some group`, without zeros in front. -/
theorem group?_groupText (group : UInt16) : group? (groupText group) = some group := by
  have short : (groupText group).length ≤ 4 :=
    (Nat.length_toDigits_le_iff (by decide) (by decide)).mpr group.toNat_lt
  have read : Numeral.digits? 16 (groupText group) = some group.toNat :=
    Numeral.digits?_toDigits (by decide) (by decide) _
  rw [group?, if_pos short, read, Option.map_some, UInt16.ofNat_toNat]

/-- A group is written in hexadecimal digits, so it has no dot and no colon. -/
theorem digit_of_mem_groupText {group : UInt16} {c : Char} (listed : c ∈ groupText group) :
    (Numeral.digit? 16 c).isSome :=
  Numeral.isSome_digit?_of_mem (by decide)
    (Numeral.digits?_toDigits (by decide) (by decide) group.toNat) listed

/-- Groups in front of a double colon read back from their pieces: `mapM group?` gives them. -/
theorem mapM_group?_groupText (groups : List UInt16) :
    (groups.map groupText).mapM group? = some groups := by
  have each : group? ∘ groupText = fun group => pure group := funext group?_groupText
  rw [List.mapM_map, each, List.mapM_pure, List.map_id']
  rfl

/-- Groups that may end in a version 4 address read back from their pieces, none of which is one, as
a group has no dot. -/
theorem groups?_map_groupText (groups : List UInt16) :
    groups? (groups.map groupText) = some groups := by
  induction groups with
  | nil => rfl
  | cons group rest ih =>
    have undotted : '.' ∉ groupText group := fun dot =>
      absurd (digit_of_mem_groupText dot) (by decide)
    cases rest with
    | nil =>
      simp only [List.map_cons, List.map_nil, groups?, Ipv4.read?_of_notMem undotted,
        group?_groupText, Option.map_some]
    | cons next others =>
      have unrolled : groups? ((group :: next :: others).map groupText) =
          (group? (groupText group)).bind fun group =>
            (groups? ((next :: others).map groupText)).map (group :: ·) := rfl
      rw [unrolled, group?_groupText, Option.bind_some, ih, Option.map_some]

/-! ### The double colon -/

/-- **Pieces between which there is no double colon**: none is empty, and none has a colon. -/
def Unbroken (pieces : List (List Char)) : Prop := ∀ piece ∈ pieces, piece ≠ [] ∧ ':' ∉ piece

/-- Groups are unbroken: `groupText` is not empty and has no colon. -/
theorem unbroken_groups (groups : List UInt16) : Unbroken (groups.map groupText) := by
  intro piece listed
  obtain ⟨group, -, rfl⟩ := List.mem_map.mp listed
  exact ⟨Nat.toDigits_ne_nil, fun colon => absurd (digit_of_mem_groupText colon) (by decide)⟩

/-- Unbroken pieces do not begin with a colon: the head of what is joined is that of the first
piece. -/
theorem Unbroken.head?_joined {piece : List Char} {pieces : List (List Char)}
    (unbroken : Unbroken (piece :: pieces)) (back : List Char) :
    (joined ':' (piece :: pieces) ++ back).head? ≠ some ':' := by
  obtain ⟨ne_nil, single⟩ := unbroken piece List.mem_cons_self
  obtain ⟨c, rest, rfl⟩ := List.exists_cons_of_ne_nil ne_nil
  have other : c ≠ ':' := fun same => single (same ▸ List.mem_cons_self)
  cases pieces <;> simpa [joined] using other

/-- A double colon is looked for behind a piece: `splitGap` of `piece ++ back` is that of `back`,
with the piece in front. -/
theorem splitGap_append {piece : List Char} (single : ':' ∉ piece) (back : List Char) :
    splitGap (piece ++ back) = (splitGap back).map fun parts => (piece ++ parts.1, parts.2) := by
  induction piece with
  | nil => simp
  | cons c piece ih =>
    have other : c ≠ ':' := fun same => single (same ▸ List.mem_cons_self)
    rw [List.cons_append, splitGap, ih fun colon => single (List.mem_cons_of_mem _ colon)]
    · simp [Function.comp_def]
    · rintro rest rfl
      exact absurd rfl other

/-- A colon that no other follows begins no double colon, and `splitGap` goes on behind it. -/
theorem splitGap_colon {text : List Char} (other : text.head? ≠ some ':') :
    splitGap (':' :: text) = (splitGap text).map fun parts => (':' :: parts.1, parts.2) := by
  rw [splitGap]
  rintro rest - rfl
  exact other rfl

/-- **A double colon is looked for behind unbroken pieces**: between them there is none. By
induction on the pieces. -/
theorem splitGap_joined {pieces : List (List Char)} (unbroken : Unbroken pieces)
    (back : List Char) :
    splitGap (joined ':' pieces ++ back) =
      (splitGap back).map fun parts => (joined ':' pieces ++ parts.1, parts.2) := by
  induction pieces with
  | nil => simp [joined]
  | cons piece pieces ih =>
    have single := (unbroken piece List.mem_cons_self).2
    cases pieces with
    | nil => exact splitGap_append single back
    | cons next others =>
      have rest : Unbroken (next :: others) := fun found among =>
        unbroken found (List.mem_cons_of_mem _ among)
      have layout : joined ':' (piece :: next :: others) =
          piece ++ ':' :: joined ':' (next :: others) := rfl
      rw [layout, List.append_assoc, List.cons_append, splitGap_append single,
        splitGap_colon (rest.head?_joined back), ih rest]
      simp [Function.comp_def]

/-- Groups alone have no double colon: `splitGap (groupsText groups) = none`. -/
theorem splitGap_groupsText (groups : List UInt16) : splitGap (groupsText groups) = none := by
  have whole := splitGap_joined (unbroken_groups groups) []
  rwa [List.append_nil] at whole

/-- A double colon behind groups is found there: `splitGap` gives the groups and what is behind
it. -/
theorem splitGap_gap (front : List UInt16) (back : List Char) :
    splitGap (groupsText front ++ ':' :: ':' :: back) = some (groupsText front, back) := by
  rw [groupsText, splitGap_joined (unbroken_groups front), splitGap, Option.map_some,
    List.append_nil]

/-- The groups on one side of a double colon are its pieces, and none if nothing stands there. -/
theorem sidePieces_groupsText (groups : List UInt16) :
    sidePieces (groupsText groups) = groups.map groupText := by
  cases groups with
  | nil => rfl
  | cons group rest =>
    have written : groupsText (group :: rest) ≠ [] := by
      intro empty
      have begins := (unbroken_groups (group :: rest)).head?_joined [':']
      exact begins (congrArg (fun text => (text ++ [':']).head?) empty)
    rw [sidePieces, if_neg written]
    exact cut_joined (by simp) fun piece listed => (unbroken_groups _ piece listed).2

/-! ### Runs of zeros -/

/-- From a place on, the zeros that are counted there stand in front of the other groups: `drop` is
`replicate` of zeros and the rest. -/
theorem drop_eq_replicate_append (groups : List UInt16) (place : Nat) :
    groups.drop place =
      List.replicate (zerosAt groups place) 0 ++ groups.drop (place + zerosAt groups place) := by
  have zeros : (groups.drop place).takeWhile (· == 0) = List.replicate (zerosAt groups place) 0 :=
    List.eq_replicate_iff.mpr
      ⟨rfl, fun group listed => beq_iff_eq.mp (List.all_eq_true.mp List.all_takeWhile group listed)⟩
  have others : groups.drop (place + zerosAt groups place) =
      (groups.drop place).dropWhile (· == 0) := by
    calc groups.drop (place + zerosAt groups place)
        = (groups.drop place).drop (zerosAt groups place) := List.drop_drop.symm
      _ = ((groups.drop place).takeWhile (· == 0) ++ (groups.drop place).dropWhile (· == 0)).drop
            (zerosAt groups place) := by rw [List.takeWhile_append_dropWhile]
      _ = (groups.drop place).dropWhile (· == 0) := List.drop_left
  rw [others, ← zeros, List.takeWhile_append_dropWhile]

/-- The longest run of zeros is one, unless it is empty: it is counted at the place that is given
with it. -/
theorem longestZeros_snd (groups : List UInt16) :
    (longestZeros groups).2 = 0 ∨
      (longestZeros groups).2 = zerosAt groups (longestZeros groups).1 := by
  -- This is so of the best run among the places that were looked at so far.
  refine List.foldlRecOn (List.range groups.length) _
    (motive := fun best : Nat × Nat => best.2 = 0 ∨ best.2 = zerosAt groups best.1) (Or.inl rfl) ?_
  intro best known place _
  split
  · exact Or.inr rfl
  · exact known

/-- **Groups fall apart around their longest run of zeros**: `take`, that many zeros, and `drop`. -/
theorem eq_around_longestZeros {groups : List UInt16} (long : 0 < (longestZeros groups).2) :
    groups = groups.take (longestZeros groups).1 ++ (List.replicate (longestZeros groups).2 0 ++
      groups.drop ((longestZeros groups).1 + (longestZeros groups).2)) := by
  obtain none | run := longestZeros_snd groups
  · omega
  · rw [run, ← drop_eq_replicate_append, List.take_append_drop]

/-! ### Addresses that carry one of version 4 -/

/-- The group of two octets, the `high` one in front. -/
def word (high low : UInt8) : UInt16 := high.toUInt16 <<< 8 ||| low.toUInt16

/-- A group is that of its halves: `word` of the upper and the lower eight bits. -/
theorem word_halves (group : UInt16) : word (group >>> 8).toUInt8 group.toUInt8 = group := by
  have bound := group.toNat_lt
  have high : group.toNat >>> 8 % 256 = group.toNat / 256 := by
    rw [Nat.shiftRight_eq_div_pow]
    omega
  have fits : (group.toNat / 256) <<< 8 % 65536 = (group.toNat / 256) <<< 8 := by
    rw [Nat.shiftLeft_eq]
    omega
  have low : group.toNat % 256 < 2 ^ 8 := Nat.mod_lt _ (by decide)
  apply UInt16.toNat_inj.mp
  calc (word (group >>> 8).toUInt8 group.toUInt8).toNat
      = (group.toNat >>> 8 % 256) <<< 8 % 65536 ||| group.toNat % 256 := by simp [word]
    _ = (group.toNat / 256) <<< 8 + group.toNat % 256 := by
      rw [high, fits, Nat.shiftLeft_add_eq_or_of_lt low]
    _ = group.toNat := by
      rw [Nat.shiftLeft_eq]
      omega

/-- The groups of an address that carries one of version 4: five zeros, `ffff`, and the `word`s of
its octets. -/
theorem groups_of_mapped {ip : Ipv6} {v4 : Ipv4} (mapped : ip.mapped? = some v4) :
    ip.groups.toList = [0, 0, 0, 0, 0, 0xffff, word v4.a v4.b, word v4.c v4.d] := by
  unfold mapped? at mapped
  split at mapped
  · rename_i high low groups
    obtain rfl := Option.some.inj mapped
    rw [groups, word_halves, word_halves]
  · cases mapped

/-! ### Reading back -/

/-- An address is made of its groups: `ofGroups?` of the list of them gives it back. -/
theorem ofGroups?_groups (ip : Ipv6) : ofGroups? ip.groups.toList = some ip := by
  obtain ⟨⟨groups, size⟩⟩ := ip
  simp [ofGroups?, size]

/-- What is read around a double colon: the zeros that are missing stand there, so that there are
eight groups. -/
theorem read?_of_gap {text front back : List Char} {head tail : List UInt16}
    (gap : splitGap text = some (front, back))
    (heads : (sidePieces front).mapM group? = some head)
    (tails : groups? (sidePieces back) = some tail) (short : head.length + tail.length ≤ 7) :
    read? text =
      ofGroups? (head ++ List.replicate (8 - (head.length + tail.length)) 0 ++ tail) := by
  simp only [read?, gap, heads, tails, Option.bind_some, if_pos short]

/-- An address that carries one of version 4 reads back: behind the double colon stand the group
`ffff` and that address. -/
theorem read?_mapped {ip : Ipv6} {v4 : Ipv4} (mapped : ip.mapped? = some v4) :
    read? ("::ffff:".toList ++ v4.text) = some ip := by
  have gap : splitGap ("::ffff:".toList ++ v4.text) =
      some ([], groupText 0xffff ++ ':' :: v4.text) := rfl
  have front : (sidePieces []).mapM group? = some [] := rfl
  have marker : ':' ∉ groupText 0xffff := fun colon =>
    absurd (digit_of_mem_groupText colon) (by decide)
  have single : ':' ∉ v4.text := fun colon =>
    (Ipv4.digit_of_mem_text colon).elim (absurd · (by decide)) (absurd · (by decide))
  have pieces : sidePieces (groupText 0xffff ++ ':' :: v4.text) = [groupText 0xffff, v4.text] := by
    rw [sidePieces, if_neg (by simp), cut_append _ marker, cut_of_notMem single]
  have groups : groups? [groupText 0xffff, v4.text] =
      some [0xffff, word v4.a v4.b, word v4.c v4.d] := by
    simp only [groups?, Ipv4.read?_text, group?_groupText, Option.bind_some, Option.map_some]
    rfl
  rw [← pieces] at groups
  rw [read?_of_gap gap front groups (by simp), ← ofGroups?_groups ip, groups_of_mapped mapped]
  rfl

/-- An address that is written around a double colon reads back: the zeros that `longestZeros`
leaves out are put back. -/
theorem read?_around {ip : Ipv6} {start length : Nat}
    (longest : longestZeros ip.groups.toList = (start, length)) (long : 1 < length) :
    read? (groupsText (ip.groups.toList.take start) ++
      ':' :: ':' :: groupsText (ip.groups.toList.drop (start + length))) = some ip := by
  have positive : 0 < (longestZeros ip.groups.toList).2 := by
    rw [longest]
    exact Nat.lt_of_succ_lt long
  have around := eq_around_longestZeros positive
  rw [longest] at around
  dsimp only at around
  -- Both sides of the run and the run itself are eight groups together.
  have total := congrArg List.length around
  rw [Vector.length_toList, List.length_append, List.length_append, List.length_replicate] at total
  have missing : 8 - ((ip.groups.toList.take start).length +
      (ip.groups.toList.drop (start + length)).length) = length := by omega
  rw [read?_of_gap (splitGap_gap _ _) (by rw [sidePieces_groupsText, mapM_group?_groupText])
    (by rw [sidePieces_groupsText, groups?_map_groupText]) (by omega), missing, List.append_assoc,
    ← around, ofGroups?_groups]

/-- An address that is written without a double colon has eight pieces, which are the texts of its
groups. -/
theorem cut_groupsText (ip : Ipv6) :
    cut ':' (groupsText ip.groups.toList) = ip.groups.toList.map groupText := by
  have written : ip.groups.toList.map groupText ≠ [] := by
    intro empty
    have none := congrArg List.length empty
    rw [List.length_map, Vector.length_toList] at none
    cases none
  exact cut_joined written fun piece listed => (unbroken_groups _ piece listed).2

/-- An address that is written without a double colon reads back, as `splitGap` finds none. -/
theorem read?_groupsText (ip : Ipv6) : read? (groupsText ip.groups.toList) = some ip := by
  rw [read?, splitGap_groupsText, cut_groupsText, groups?_map_groupText]
  exact ofGroups?_groups ip

/-- **A version 6 address reads back**: `read? ip.text = some ip`, in each of the three ways in
which it is written. -/
theorem read?_text (ip : Ipv6) : read? ip.text = some ip := by
  rw [text]
  split
  · rename_i v4 mapped
    exact read?_mapped mapped
  · dsimp only
    split
    · rename_i long
      exact read?_around rfl long
    · exact read?_groupsText ip

/-- Of two runs that are as long the first one is left out. -/
example : Ipv6.text ⟨#v[0x2001, 0xdb8, 0, 0, 1, 0, 0, 1]⟩ = "2001:db8::1:0:0:1".toList := by
  decide

/-! ### Characters -/

/-- A version 6 address has a colon, so it is read as no version 4 address. -/
theorem colon_mem_text (ip : Ipv6) : ':' ∈ ip.text := by
  rw [text]
  split
  · exact List.mem_append_left _ (by decide)
  · dsimp only
    split
    · exact List.mem_append_right _ List.mem_cons_self
    · -- Without a colon there would be a single piece.
      refine Classical.byContradiction fun single => ?_
      have pieces := congrArg List.length ((cut_of_notMem single).symm.trans (cut_groupsText ip))
      rw [List.length_map, Vector.length_toList] at pieces
      cases pieces

/-- Groups are written in digits and colons: no other character is in `groupsText`. -/
theorem digit_of_mem_groupsText {groups : List UInt16} {c : Char} (listed : c ∈ groupsText groups) :
    c = ':' ∨ (Numeral.digit? 16 c).isSome := by
  refine (mem_joined listed).imp_right fun ⟨piece, among, inside⟩ => ?_
  obtain ⟨group, -, rfl⟩ := List.mem_map.mp among
  exact digit_of_mem_groupText inside

/-- A version 6 address is written in digits, dots and colons; dots are there only if it carries one
of version 4. -/
theorem digit_of_mem_text {ip : Ipv6} {c : Char} (listed : c ∈ ip.text) :
    c = '.' ∨ c = ':' ∨ (Numeral.digit? 16 c).isSome := by
  rw [text] at listed
  split at listed
  · obtain front | back := List.mem_append.mp listed
    · have marker : c = ':' ∨ c = 'f' ∨ c = ':' := by simpa using front
      obtain rfl | rfl | rfl := marker <;> decide
    · exact (Ipv4.digit_of_mem_text back).imp_right Or.inr
  · dsimp only at listed
    split at listed
    · rw [List.mem_append, List.mem_cons, List.mem_cons] at listed
      obtain front | rfl | rfl | back := listed
      · exact Or.inr (digit_of_mem_groupsText front)
      · exact Or.inr (Or.inl rfl)
      · exact Or.inr (Or.inl rfl)
      · exact Or.inr (digit_of_mem_groupsText back)
    · exact Or.inr (digit_of_mem_groupsText listed)

end Ipv6

/-! ## Either version -/

namespace Ip

/-- **An address reads back**, as one of its own version: `Ip.read?` tries version 4 first, which
has no colon. -/
theorem read?_text (ip : Ip) : read? ip.text.toList = some ip := by
  cases ip with
  | v4 ip => rw [text, String.toList_ofList, read?, Ipv4.read?_text]
  | v6 ip =>
    rw [text, String.toList_ofList, read?, Ipv4.read?_of_colon ip.colon_mem_text, Ipv6.read?_text]
    rfl

/-- **An address is written in digits, dots and colons**, so no character of it is a bracket. -/
theorem literal_of_mem_text {ip : Ip} {c : Char} (listed : c ∈ ip.text.toList) :
    c = '.' ∨ c = ':' ∨ (Numeral.digit? 16 c).isSome := by
  cases ip with
  | v4 ip =>
    rw [text, String.toList_ofList] at listed
    exact (Ipv4.digit_of_mem_text listed).imp_right Or.inr
  | v6 ip =>
    rw [text, String.toList_ofList] at listed
    exact Ipv6.digit_of_mem_text listed

end Ip

end DocumentCursor.Net
