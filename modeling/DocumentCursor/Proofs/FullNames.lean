import DocumentCursor.Query.Decoder
import DocumentCursor.Text.Split

/-! # Full names

A full name has its first dot between the database and the collection, whose own name may hold any
number of dots, at its ends as well. As the database has none, the two are told apart in one way
only: what is parsed is written as it was, and what is written parses as it was.

* **`splitDot?_eq_some_iff`**: how a text is split at its first dot.
* **`parse_eq_ok_iff`**: a text is parsed as the namespace whose full name it is.
* **`parse_eq_error`**: a refused text is reported as it is, whatever it is refused for.
* **`full_names_exact`**: which texts are full names, and of what.
-/

namespace DocumentCursor.Namespace

open Text

variable {text database collection : String} {ns : Namespace}

/-- The number of characters in front of the first dot, and the length of the text if there is
none. -/
def firstDot (text : String) : Nat := text.toList.idxOf '.'

/-! ## Two names -/

/-- **Two names make a namespace** that has these names: `of database collection = .ok ns` exactly
if they are its `database` and `collection`. -/
theorem of_eq_ok_iff :
    of database collection = .ok ns ↔ ns.database = database ∧ ns.collection = collection := by
  constructor
  · intro made
    unfold of at made
    split at made
    · obtain rfl := Except.ok.inj made
      exact ⟨rfl, rfl⟩
    · cases made
  · rintro ⟨rfl, rfl⟩
    exact of_names ns

/-- The characters of a full name: those of `database`, a dot, and those of `collection`. -/
theorem toList_fullName (ns : Namespace) :
    ns.fullName.toList = ns.database.toList ++ '.' :: ns.collection.toList := by
  simp [fullName, join]

/-! ## Parsing -/

/-- **A text is split at its first dot**: `splitDot? text = some (front, back)` exactly if it is
`front ++ '.' :: back` with no dot in `front`. -/
theorem splitDot?_eq_some_iff {text front back : List Char} :
    splitDot? text = some (front, back) ↔ text = front ++ '.' :: back ∧ '.' ∉ front := by
  constructor
  · intro split
    by_cases dot : '.' ∈ text
    · obtain ⟨before, after, rfl, first⟩ := List.eq_append_cons_of_mem dot
      rw [splitDot?, dropWhile_ne_append first, takeWhile_ne_append first] at split
      obtain ⟨rfl, rfl⟩ := Prod.mk.inj (Option.some.inj split)
      exact ⟨rfl, first⟩
    · rw [splitDot?, dropWhile_ne_of_notMem dot] at split
      cases split
  · rintro ⟨rfl, first⟩
    rw [splitDot?, dropWhile_ne_append first, takeWhile_ne_append first]

/-- **A text is parsed as the namespace whose full name it is**:
`parse text = .ok ns ↔ ns.fullName = text`. -/
theorem parse_eq_ok_iff : parse text = .ok ns ↔ ns.fullName = text := by
  rw [← String.toList_inj, toList_fullName]
  constructor
  · intro parsed
    unfold parse at parsed
    split at parsed
    · rename_i front back split
      obtain ⟨before, after⟩ := of_eq_ok_iff.mp parsed
      rw [before, after, String.toList_ofList, String.toList_ofList]
      exact (splitDot?_eq_some_iff.mp split).1.symm
    · cases parsed
  · intro same
    have split := splitDot?_eq_some_iff.mpr ⟨same.symm, ns.dot_notMem_database⟩
    simp only [parse, split, String.ofList_toList, of_names]

/-- A full name parses as the namespace that it was written for, `parse ns.fullName = .ok ns`. -/
theorem parse_fullName (ns : Namespace) : parse ns.fullName = .ok ns := parse_eq_ok_iff.mpr rfl

/-- Namespaces with the same full name are the same: `fullName` is injective, as a database has no
dot. -/
theorem fullName_injective {other : Namespace} (h : ns.fullName = other.fullName) : ns = other := by
  have parsed := parse_fullName ns
  rw [h, parse_fullName] at parsed
  exact (Except.ok.inj parsed).symm

/-- **A refused text is reported as it is**, by `.invalidNamespace text`, whether it has no dot or a
name is missing beside its first one. -/
theorem parse_eq_error {error : ProtocolError} (h : parse text = .error error) :
    error = .invalidNamespace text := by
  unfold parse at h
  split at h
  · rename_i front back split
    unfold of at h
    split at h
    · cases h
    · obtain rfl := Except.error.inj h
      obtain ⟨whole, -⟩ := splitDot?_eq_some_iff.mp split
      rw [← String.toList_inj.mp (show (join (String.ofList front) (String.ofList back)).toList =
        text.toList by simp [join, whole])]
  · exact (Except.error.inj h).symm

/-! ## The first dot -/

/-- What stands in front of the first dot is as long as its place says:
`firstDot text = front.length`. -/
theorem firstDot_eq_length {front back : List Char} (whole : text.toList = front ++ '.' :: back)
    (first : '.' ∉ front) : firstDot text = front.length := by
  rw [firstDot, whole, List.idxOf_append, if_neg first, List.idxOf_cons_self, Nat.zero_add]

/-- The names of a full name stand in front of its first dot and behind it, as `take` and `drop` cut
them. -/
theorem names_eq_of_fullName (h : ns.fullName = text) :
    ns.database.toList = text.toList.take (firstDot text) ∧
      ns.collection.toList = text.toList.drop (firstDot text + 1) := by
  have whole : text.toList = ns.database.toList ++ '.' :: ns.collection.toList :=
    h ▸ toList_fullName ns
  rw [firstDot_eq_length whole ns.dot_notMem_database, whole, List.take_left, ← List.drop_drop,
    List.drop_left]
  exact ⟨rfl, rfl⟩

/-- **A text is a full name if something stands on both sides of its first dot**, and only then. -/
theorem exists_fullName_iff :
    (∃ ns : Namespace, ns.fullName = text) ↔
      '.' ∈ text.toList ∧ 0 < firstDot text ∧ firstDot text + 1 < text.toList.length := by
  constructor
  · rintro ⟨ns, rfl⟩
    have whole := toList_fullName ns
    have before : 0 < ns.database.toList.length :=
      List.length_pos_iff.mpr (mt String.toList_eq_nil_iff.mp ns.database_ne_empty)
    have behind : 0 < ns.collection.toList.length :=
      List.length_pos_iff.mpr (mt String.toList_eq_nil_iff.mp ns.collection_ne_empty)
    rw [firstDot_eq_length whole ns.dot_notMem_database, whole, List.length_append,
      List.length_cons]
    exact ⟨by simp, before, by omega⟩
  · rintro ⟨dot, before, behind⟩
    obtain ⟨front, back, whole, first⟩ := List.eq_append_cons_of_mem dot
    obtain ⟨database, rfl⟩ : ∃ name : String, name.toList = front :=
      ⟨String.ofList front, String.toList_ofList⟩
    obtain ⟨collection, rfl⟩ : ∃ name : String, name.toList = back :=
      ⟨String.ofList back, String.toList_ofList⟩
    rw [firstDot_eq_length whole first] at before behind
    rw [whole, List.length_append, List.length_cons] at behind
    have database_ne : database ≠ "" := by
      rintro rfl
      exact absurd before (by simp)
    have collection_ne : collection ≠ "" := by
      rintro rfl
      exact absurd behind (by simp)
    refine ⟨⟨database, collection, database_ne, first, collection_ne⟩, ?_⟩
    rw [← String.toList_inj, toList_fullName, whole]

/-! ## All of it -/

/-- **Full names are exact.** A text is parsed if something stands in front of its first dot and
something follows it, and these are the names then; it is the full name of what is parsed, however
that is written. A namespace has the names that it was made of, and its full name gives it back,
also as a value, so that no other namespace has that name. A refused text is reported as it is. -/
theorem full_names_exact :
    (∀ text, (∃ ns, parse text = .ok ns) ↔
      '.' ∈ text.toList ∧ 0 < firstDot text ∧ firstDot text + 1 < text.toList.length) ∧
    (∀ text ns, parse text = .ok ns →
      ns.database.toList = text.toList.take (firstDot text) ∧
        ns.collection.toList = text.toList.drop (firstDot text + 1) ∧
        ns.fullName = text ∧ toString ns = text ∧ ns.toValue = .text text) ∧
    (∀ database collection ns, of database collection = .ok ns →
      ns.database = database ∧ ns.collection = collection ∧
        parse ns.fullName = .ok ns ∧ ofValue (.text ns.fullName) = .ok ns) ∧
    (∀ ns other : Namespace, ns.fullName = other.fullName → ns = other) ∧
    ∀ text error, parse text = .error error →
      error = .invalidNamespace text ∧
        ofValue (.text text) = .error (.illFormed (.invalidNamespace text)) := by
  refine ⟨fun text => ?_, fun text ns parsed => ?_, fun database collection ns made => ?_,
    fun ns other => fullName_injective, fun text error refused => ?_⟩
  · rw [← exists_fullName_iff]
    exact exists_congr fun ns => parse_eq_ok_iff
  · obtain rfl := parse_eq_ok_iff.mp parsed
    obtain ⟨before, behind⟩ := names_eq_of_fullName (rfl : ns.fullName = ns.fullName)
    exact ⟨before, behind, rfl, rfl, rfl⟩
  · obtain ⟨database_eq, collection_eq⟩ := of_eq_ok_iff.mp made
    refine ⟨database_eq, collection_eq, parse_fullName ns, ?_⟩
    rw [ofValue, parse_fullName]
    rfl
  · obtain rfl := parse_eq_error refused
    refine ⟨rfl, ?_⟩
    rw [ofValue, refused]
    rfl

/-- A collection whose name begins and ends with a dot, and a text without a collection. -/
theorem full_names_exact_dotted :
    ∃ ns, of "db" ".a." = .ok ns ∧ parse "db..a." = .ok ns ∧ ns.fullName = "db..a." ∧
      ofValue ns.toValue = .ok ns ∧ parse "db." = .error (.invalidNamespace "db.") := by
  obtain ⟨-, parsed, made, -, refused⟩ := full_names_exact
  refine ⟨⟨"db", ".a.", by decide, by decide, by decide⟩, rfl, rfl, ?_, ?_, ?_⟩
  · exact (parsed "db..a." _ rfl).2.2.1
  · exact (made "db" ".a." _ rfl).2.2.2
  · have error : parse "db." = .error (.invalidNamespace (join "db" "")) := rfl
    rw [error, (refused "db." _ error).1]

end DocumentCursor.Namespace
