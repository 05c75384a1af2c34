import DocumentCursor.Text.Decimal
import DocumentCursor.Text.Numeral
import DocumentCursor.Yaml.Node

/-! # Typed reading of nodes

What a node is depends on what is asked for. Any scalar is a text. A number or a truth value is a
plain scalar of the right form, or a literal one that is tagged so. Numbers are decimal without
leading zeros, hexadecimal, octal or binary, with at most one plus sign. An empty plain scalar is
also a mapping without entries, and where a value may be missing it and the spellings of null are
none.

Nodes are read in their order, and the first that is not what is asked for is reported; so is a cut.

Main definitions:

* `Found.ofScalar` says what a scalar is when nothing is asked for;
* `Reader`, with `Reader.text`, `Reader.number`, `Reader.bool`, `Reader.optional`;
* `FieldReader` and `Reader.fields`.
-/

namespace DocumentCursor.Yaml

open Text

/-! ## Scalars -/

/-- The tags of the types. -/
def intTag : String := "tag:yaml.org,2002:int"
def boolTag : String := "tag:yaml.org,2002:bool"
def floatTag : String := "tag:yaml.org,2002:float"
def nullTag : String := "tag:yaml.org,2002:null"

/-- The largest numbers of 64 and of 128 bits. -/
def maxUInt64 : Nat := (1 <<< 64) - 1
def maxUInt128 : Nat := (1 <<< 128) - 1

/-- Whether decimal digits begin with a zero that is not all of them. -/
def hasLeadingZero (digits : List Char) : Bool :=
  1 < digits.length && digits.head? = some '0' && digits.all Char.isDigit

/-- Reads an unsigned number in one of its four forms, up to a bound. -/
def unsigned? (bound : Nat) (text : List Char) : Option Nat :=
  let value := match Numeral.dropPlus text with
    | '0' :: 'x' :: digits => Numeral.digits? 16 digits
    | '0' :: 'o' :: digits => Numeral.digits? 8 digits
    | '0' :: 'b' :: digits => Numeral.digits? 2 digits
    | digits => if hasLeadingZero digits then none else Numeral.digits? 10 digits
  value.filter (· ≤ bound)

/-- Reads what follows a minus sign, in one of four forms, up to a bound. -/
def negative? (bound : Nat) : List Char → Option Nat
  | '-' :: rest => if rest.head? = some '+' then none else unsigned? bound rest
  | _ => none

/-- Reads an integer, of 64 bits or else of 128. -/
def integer? (text : List Char) : Option Found :=
  let unsigned := fun (bound : Nat) => (unsigned? bound text).map fun (n : Nat) => (n : Int)
  let negative := fun (bound : Nat) => (negative? bound text).map fun (n : Nat) => -(n : Int)
  let narrow := (unsigned maxUInt64).or (negative (1 <<< 63))
  let wide := (unsigned maxUInt128).or (negative (1 <<< 127))
  (narrow.map .integer).or (wide.map .wideInteger)

/-- Reads a floating-point number. -/
def float? (text : List Char) : Option Found :=
  let unsigned := match text with
    | '+' :: '+' :: _ | '+' :: '-' :: _ => []
    | '+' :: rest => rest
    | text => text
  if String.ofList unsigned ∈ [".inf", ".Inf", ".INF"] then some (.float "inf")
  else if String.ofList text ∈ ["-.inf", "-.Inf", "-.INF"] then some (.float "-inf")
  else if String.ofList text ∈ [".nan", ".NaN", ".NAN"] then some (.float "NaN")
  else (Decimal.read? unsigned).map fun bits => .float (Decimal.plainText bits)

/-- Reads a truth value. -/
def bool? (text : List Char) : Option Bool :=
  if text ∈ ["true".toList, "True".toList, "TRUE".toList] then some true
  else if text ∈ ["false".toList, "False".toList, "FALSE".toList] then some false
  else none

/-- Whether a text is a spelling of null. -/
def isNull (text : String) : Bool := text ∈ ["null", "Null", "NULL", "~"]

/-- What an untagged plain scalar is. -/
def Found.ofPlain (text : String) : Found :=
  let chars := text.toList
  if text = "" || isNull text then .unit
  else match bool? chars with
    | some value => .boolean value
    | none =>
      match integer? chars with
      | some found => found
      | none =>
        let digits := if chars.head?.any (· ∈ ['-', '+']) then chars.drop 1 else chars
        if hasLeadingZero digits then .text text else (float? chars).getD (.text text)

/-- What a scalar is that has a tag for the type `expected`, if it has the form of that. -/
def tagged (text expected : String) (found : Option Found) : Except Mismatch Found :=
  match found with
  | some found => .ok found
  | none => .error (.value (.text text) expected)

/-- What a scalar is when nothing is asked for. -/
def Found.ofScalar (text : String) (style : Style) : Option String → Except Mismatch Found
  | none => return if style = .plain then .ofPlain text else .text text
  | some tag =>
    if tag = boolTag then tagged text "a boolean" ((bool? text.toList).map .boolean)
    else if tag = intTag then tagged text "an integer" (integer? text.toList)
    else if tag = floatTag then tagged text "a float" (float? text.toList)
    else if tag = nullTag then tagged text "null" (if isNull text then some .unit else none)
    else if tag.startsWith "!" && style = .plain then return .ofPlain text
    else return .text text

/-! ## Readers -/

/-- Reads a node of a document, which the named fields lead to. -/
abbrev Reader (β : Type) := Tree → List String → Node → Except YamlError β

namespace Reader

/-- Reports a mismatch at a place. -/
def refuse {β : Type} (path : List String) (mark : Mark) (reason : Mismatch) :
    Except YamlError β := .error (.mismatch reason (some ⟨path, mark⟩))

/-- Reports that a node is not what is expected. -/
def unexpected {β : Type} (expected : String) : Reader β := fun tree path node =>
  match node with
  | .scalar mark text style tag =>
    refuse path mark (match Found.ofScalar text style tag with
      | .ok found => .type found expected
      | .error reason => reason)
  | .sequence mark _ => refuse path mark (.type .sequence expected)
  | .mapping mark _ => refuse path mark (.type .mapping expected)
  | .alias _ | .cut => .error tree.failure

/-- Reads a text. -/
def text (expected : String) : Reader String := fun tree path node =>
  match tree.resolve node with
  | .scalar _ text _ _ => .ok text
  | node => unexpected expected tree path node

/-- The text of a scalar that may be of the type with the given tag. -/
def typedText? (type : String) : Node → Option (List Char)
  | .scalar _ text .plain _ => some text.toList
  | .scalar _ text .literal tag => if tag = some type then some text.toList else none
  | _ => none

/-- Reads an unsigned number that does not exceed a bound. -/
def number (expected : String) (bound : Nat) : Reader Nat := fun tree path node =>
  let node := tree.resolve node
  match (typedText? intTag node).bind (unsigned? maxUInt64), node with
  | some n, .scalar mark .. =>
    if n ≤ bound then .ok n else refuse path mark (.value (.integer n) expected)
  | _, node => unexpected expected tree path node

/-- Reads a truth value. -/
def bool : Reader Bool := fun tree path node =>
  let node := tree.resolve node
  match (typedText? boolTag node).bind bool? with
  | some value => .ok value
  | none => unexpected "a boolean" tree path node

/-- Reads a value that may be missing: none for one that is, and otherwise what `read` finds. What
is tagged to be missing must be. -/
def optional {β : Type} (read : Reader β) : Reader (Option β) := fun tree path node =>
  match tree.resolve node with
  | .scalar mark text .plain tag =>
    let node := Node.scalar mark text .plain tag
    if tag = some nullTag then
      if isNull text then .ok none
      else .error (.mismatch (.value (.text text) "null") none)
    else if tag = none ∧ (text = "" ∨ isNull text) then .ok none
    else (read tree path node).map some
  | node => (read tree path node).map some

end Reader

/-! ## Fields -/

/-- A field of a mapping, and what it does to what is read of the mapping. -/
structure FieldReader (σ : Type) where
  name : String
  read : Tree → List String → Node → σ → Except YamlError σ

/-- A field whose value is read and put in its place. -/
def FieldReader.of {σ β : Type} (name : String) (read : Reader β) (store : σ → β → σ) :
    FieldReader σ where
  name
  read := fun tree path node state => (read tree path node).map (store state)

namespace Reader

/-- The step that an entry of a mapping adds to a path: its key, unless that is an alias. -/
def step (key : Node) (name : String) : String :=
  match key with
  | .alias _ => "?"
  | _ => name

/-- Reads entries of a mapping, some of whose fields were met before. A field may be met once, and
other entries do not matter. -/
def entries {σ : Type} (fields : List (FieldReader σ)) (tree : Tree) (path : List String) :
    List String → σ → List (Node × Node) → Except YamlError σ
  | _, state, [] => .ok state
  | seen, state, (key, value) :: rest => do
    let name ← text "field identifier" tree path key
    match fields.find? (·.name = name) with
    | none => entries fields tree path seen state rest
    | some field =>
      if name ∈ seen then throw (.mismatch (.repeatedField name) none)
      let state ← field.read tree (path ++ [step key name]) value state
      entries fields tree path (name :: seen) state rest

/-- Reads the fields of a mapping, which is without entries if it is empty. -/
def fields {σ : Type} (expected : String) (fields : List (FieldReader σ)) (tree : Tree)
    (path : List String) (node : Node) (state : σ) : Except YamlError σ :=
  match tree.resolve node with
  | .mapping mark entries =>
    (Reader.entries fields tree path [] state entries).mapError (·.within path mark)
  | .scalar _ "" .plain _ => .ok state
  | node => unexpected expected tree path node

end Reader

/-- A field whose value is a mapping with fields. -/
def FieldReader.nested {σ : Type} (name expected : String) (fields : List (FieldReader σ)) :
    FieldReader σ where
  name
  read := Reader.fields expected fields

end DocumentCursor.Yaml
