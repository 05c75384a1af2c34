import DocumentCursor.Yaml.Event

/-! # Nodes

A document is a tree of scalars, sequences and mappings, in which an alias stands for a node that
has an anchor. The tree of an ill-formed document has what is in front of the error, and is cut off
there.

Main definitions:

* `Node` and `Node.ofEvents`;
* `Tree`, `Tree.ofText`, and `Tree.resolve`, which follows an alias.
-/

namespace DocumentCursor.Yaml

/-- A node of a document, with the place where it begins. A scalar has its tag, if it has one, in
full. -/
inductive Node where
  | scalar (mark : Mark) (text : String) (style : Style) (tag : Option String)
  | sequence (mark : Mark) (items : List Node)
  | mapping (mark : Mark) (entries : List (Node × Node))
  /-- The node that has the anchor of the given number. -/
  | alias (number : Nat)
  /-- What is missing because the document is ill-formed there. -/
  | cut
  deriving Repr, Inhabited

namespace Node

mutual

/-- The node with which events begin, and the events after it. -/
def fromEvents : Nat → List (Event × Mark) → Node × List (Event × Mark)
  | 0, events => (.cut, events)
  | _, [] => (.cut, [])
  | fuel + 1, (event, mark) :: rest =>
    match event with
    | .scalar text style tag => (.scalar mark text style tag, rest)
    | .alias number => (.alias number, rest)
    | .sequenceStart =>
      let (items, rest) := itemsFrom fuel rest
      (.sequence mark items, rest)
    | .mappingStart =>
      let (entries, rest) := entriesFrom fuel rest
      (.mapping mark entries, rest)
    | .sequenceEnd | .mappingEnd => (.cut, rest)

/-- The items of a sequence up to its end, and the events after that. -/
def itemsFrom : Nat → List (Event × Mark) → List Node × List (Event × Mark)
  | 0, events => ([.cut], events)
  | _, [] => ([.cut], [])
  | _, (.sequenceEnd, _) :: rest => ([], rest)
  | fuel + 1, events =>
    let (item, rest) := fromEvents fuel events
    let (items, rest) := itemsFrom fuel rest
    (item :: items, rest)

/-- The entries of a mapping up to its end, and the events after that. -/
def entriesFrom : Nat → List (Event × Mark) → List (Node × Node) × List (Event × Mark)
  | 0, events => ([(.cut, .cut)], events)
  | _, [] => ([(.cut, .cut)], [])
  | _, (.mappingEnd, _) :: rest => ([], rest)
  | fuel + 1, events =>
    let (key, rest) := fromEvents fuel events
    let (value, rest) := fromEvents fuel rest
    let (entries, rest) := entriesFrom fuel rest
    ((key, value) :: entries, rest)

end

/-- The node with which events begin. -/
def ofEvents (events : List (Event × Mark)) : Node := (fromEvents (2 * events.length + 2) events).1

end Node

/-- A document, and what can be said about it when it has been read. -/
structure Tree where
  events : Events
  deriving Repr

namespace Tree

/-- The node that holds the whole document. -/
def root (tree : Tree) : Node := .ofEvents tree.events.events

/-- The node that a node stands for: itself unless it is an alias. -/
def resolve (tree : Tree) : Node → Node
  | .alias number =>
    match tree.events.anchored.lookup number with
    | some before => .ofEvents (tree.events.events.drop before)
    | none => .cut
  | node => node

/-- Why the document ends where it is cut off. -/
def failure (tree : Tree) : YamlError := tree.events.failure.getD .severalDocuments

/-- Fails if the document is ill-formed, or not the only one. -/
def check (tree : Tree) : Except YamlError Unit :=
  match tree.events.failure with
  | some error => .error error
  | none => if tree.events.hasMore then .error .severalDocuments else .ok ()

/-- Whether a character may stand in a text at all. -/
def isAllowed (c : Char) : Bool :=
  let n := c.toNat
  n = 0x09 || n = 0x0a || n = 0x0d || (0x20 ≤ n && n ≤ 0x7e) || n = 0x85 ||
    (0xa0 ≤ n && n ≤ 0xfffd) || 0x10000 ≤ n

/-- The document of a text, if there is one. -/
def ofText (text : List Char) : Except YamlError (Option Tree) :=
  let before := text.takeWhile isAllowed
  if before.length < text.length then .error (.controlCharacter (encodedSize before))
  else
    let events := Events.ofText text
    if events.events = [] ∧ events.failure = none then .ok none else .ok (some ⟨events⟩)

end Tree

end DocumentCursor.Yaml
