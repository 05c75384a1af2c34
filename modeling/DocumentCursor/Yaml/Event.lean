import DocumentCursor.Yaml.Token

/-! # Events

Tokens are put together to events: scalars, aliases, and the beginnings and ends of collections. A
node may have an anchor, and an alias stands for the node that has the anchor of its name. Anchors
are numbered by the names that were met before, and a number stands for the last node that got it,
so that a name that is used again takes the number that the next new name takes too.

A text holds at most one document here; an empty text holds none. What is in front of an error
stays.

Main definitions:

* `Event` and `Events`;
* `Events.ofText`.
-/

namespace DocumentCursor.Yaml

/-- A part of a document. A scalar has its tag, if it has one, in full. -/
inductive Event where
  | scalar (text : String) (style : Style) (tag : Option String)
  /-- The node that has the anchor of the given number. -/
  | alias (number : Nat)
  | sequenceStart
  | sequenceEnd
  | mappingStart
  | mappingEnd
  deriving DecidableEq, Repr

/-- The events of a text. -/
structure Events where
  /-- Each event, with the place where it begins. -/
  events : List (Event × Mark)
  /-- How many events are in front of the node that an anchor's number stands for. -/
  anchored : List (Nat × Nat)
  /-- Why there are no more events, if the document is ill-formed. -/
  failure : Option YamlError
  /-- Whether anything follows the document. -/
  hasMore : Bool
  deriving Repr

/-- The state of making events of tokens. -/
structure Builder where
  tokens : Tokens
  events : Array (Event × Mark) := #[]
  /-- What tag handles stand for. -/
  handles : List (String × String) := []
  /-- The numbers of anchors. -/
  numbers : List (String × Nat) := []
  anchored : List (Nat × Nat) := []
  deriving Repr

/-- Makes events of tokens, or fails and keeps those that it has. -/
abbrev Build := ExceptT YamlError (StateM Builder)

namespace Build

/-- The next token with its places. -/
def next : Build (Marked Token) := do
  let tokens := (← get).tokens
  match tokens.tokens, tokens.failure with
  | token :: _, _ => return token
  | [], some error => throw (.illFormed error)
  | [], none => return ⟨.streamEnd, {}, {}⟩

/-- The next token. -/
def peek : Build Token := return (← next).value

/-- Where the next token begins. -/
def mark : Build Mark := return (← next).start

/-- Goes on to the token after the next. -/
def skip : Build Unit :=
  modify fun s => { s with tokens := { s.tokens with tokens := s.tokens.tokens.drop 1 } }

/-- Takes the next token if it is the given one, and says whether it is. -/
def accept (token : Token) : Build Bool := do
  if (← peek) = token then
    skip
    return true
  else return false

/-- Takes the next token if it is the given one, and says where it ends. -/
def acceptEnd? (token : Token) : Build (Option Mark) := do
  let found ← next
  if found.value = token then
    skip
    return some found.stop
  else return none

/-- Fails because of a problem at the next token. -/
def fail {β : Type} (problem : Problem) (activity : Option Activity) : Build β := do
  throw (.illFormed ⟨problem, ← mark, activity⟩)

/-- Puts an event at the end. -/
def emit (event : Event) (mark : Mark) : Build Unit :=
  modify fun s => { s with events := s.events.push (event, mark) }

/-- Puts the event with which a node begins at the end, and gives the node the number of its
anchor. -/
def emitNode (anchor : Option String) (event : Event) (mark : Mark) : Build Unit := do
  if let some name := anchor then
    modify fun s => { s with
      numbers := (name, s.numbers.length) :: s.numbers.filter (·.1 ≠ name)
      anchored := (s.numbers.length, s.events.size) :: s.anchored }
  emit event mark

/-- Puts the scalar at the end that stands where nothing is. -/
def emitEmpty (mark : Mark) : Build Unit := emit (.scalar "" .plain none) mark

/-- The anchor in front of a node. -/
def anchor? : Build (Option String) := do
  match ← peek with
  | .anchor name => skip; return some name
  | _ => return none

/-- A tag in front of a node, with its handle and its place. -/
def tag? : Build (Option (String × String × Mark)) := do
  let token ← next
  match token.value with
  | .tag handle suffix => skip; return some (handle, suffix, token.start)
  | _ => return none

/-- What the tag handles of every document stand for, unless it says otherwise. -/
def defaultHandles : List (String × String) := [("!", "!"), ("!!", "tag:yaml.org,2002:")]

/-- A tag in full, of a node that begins at `start`. -/
def wholeTag (start : Mark) : String × String × Mark → Build String
  | ("", suffix, _) => return suffix
  | (handle, suffix, mark) => do
    match ((← get).handles ++ defaultHandles).lookup handle with
    | some stem => return stem ++ suffix
    | none =>
      throw (.illFormed ⟨.unknownTagHandle, mark, some ⟨.parsing, .node, start⟩⟩)

/-- The anchor and the tag in front of a node that begins at `start`, in either order. -/
def properties (start : Mark) : Build (Option String × Option String) := do
  match ← anchor? with
  | some name =>
    let tag ← tag?
    let _ ← next
    return (some name, ← tag.mapM (wholeTag start))
  | none =>
    match ← tag? with
    | some tag =>
      let name ← anchor?
      return (name, some (← wholeTag start tag))
    | none => return (none, none)

mutual

/-- Reads a node. Block collections are nodes only outside of brackets and braces, and a sequence
that is not indented only as a key or a value of a block mapping. A node that has an anchor or a tag
may be nothing else. -/
def node (inBlock unindented : Bool) : Nat → Build Unit
  | 0 => return
  | fuel + 1 => do
    let start ← mark
    match ← peek with
    | .alias name =>
      match (← get).numbers.lookup name with
      | some number =>
        skip
        emit (.alias number) start
      | none => throw (.unknownAnchor start)
    | _ =>
      let (name, tag) ← properties start
      let first ← mark
      match ← peek with
      | .scalar text style =>
        skip
        emitNode name (.scalar text style tag) start
      | .flowSequenceStart =>
        skip
        emitNode name .sequenceStart start
        flowItems ⟨.parsing, .flowSequence, first⟩ true fuel
      | .flowMappingStart =>
        skip
        emitNode name .mappingStart start
        flowEntries ⟨.parsing, .flowMapping, first⟩ true fuel
      | token =>
        if token = .blockEntry && unindented then
          emitNode name .sequenceStart start
          unindentedItems fuel
        else if token = .blockSequenceStart && inBlock then
          skip
          emitNode name .sequenceStart start
          blockItems ⟨.parsing, .blockCollection, first⟩ fuel
        else if token = .blockMappingStart && inBlock then
          skip
          emitNode name .mappingStart start
          blockEntries ⟨.parsing, .blockMapping, first⟩ fuel
        else if name.isSome || tag.isSome then emitNode name (.scalar "" .plain tag) start
        else
          fail .nodeExpected (some ⟨.parsing, if inBlock then .blockNode else .flowNode, start⟩)

/-- Reads a node, unless one of the given tokens comes next; then it is empty. -/
def nodeBefore (ends : List Token) (inBlock unindented : Bool) (mark : Mark) : Nat → Build Unit
  | 0 => return
  | fuel + 1 => do
    if (← peek) ∈ ends then emitEmpty mark else node inBlock unindented fuel

/-- Reads the items of a block sequence. -/
def blockItems (activity : Activity) : Nat → Build Unit
  | 0 => return
  | fuel + 1 => do
    let start ← mark
    match ← acceptEnd? .blockEntry with
    | some stop =>
      nodeBefore [.blockEntry, .blockEnd] true false stop fuel
      blockItems activity fuel
    | none =>
      if ← accept .blockEnd then emit .sequenceEnd start
      else fail .blockEntryExpected activity

/-- Reads the items of a block sequence that is not indented. -/
def unindentedItems : Nat → Build Unit
  | 0 => return
  | fuel + 1 => do
    match ← acceptEnd? .blockEntry with
    | some stop =>
      nodeBefore [.blockEntry, .key, .value, .blockEnd] true false stop fuel
      unindentedItems fuel
    | none => emit .sequenceEnd (← mark)

/-- Reads the entries of a block mapping. -/
def blockEntries (activity : Activity) : Nat → Build Unit
  | 0 => return
  | fuel + 1 => do
    let start ← mark
    match ← acceptEnd? .key with
    | some stop =>
      let ends := [.key, .value, .blockEnd]
      nodeBefore ends true true stop fuel
      match ← acceptEnd? .value with
      | some stop => nodeBefore ends true true stop fuel
      | none => emitEmpty (← mark)
      blockEntries activity fuel
    | none =>
      if ← accept .blockEnd then emit .mappingEnd start
      else fail .blockKeyExpected activity

/-- Reads the items of a sequence in brackets; an item may be a single entry. -/
def flowItems (activity : Activity) (first : Bool) : Nat → Build Unit
  | 0 => return
  | fuel + 1 => do
    if (← peek) ≠ .flowSequenceEnd && !first then
      if !(← accept .flowEntry) then fail .sequenceEndExpected activity
    let item ← next
    match item.value with
    | .flowSequenceEnd =>
      skip
      emit .sequenceEnd item.start
    | .key =>
      skip
      emit .mappingStart item.start
      singleEntry fuel
      flowItems activity false fuel
    | _ =>
      node false false fuel
      flowItems activity false fuel

/-- Reads an entry that is an item of a sequence. -/
def singleEntry : Nat → Build Unit
  | 0 => return
  | fuel + 1 => do
    let first ← next
    if first.value ∈ [.value, .flowEntry, .flowSequenceEnd] then
      -- the token that stands for a missing key is passed over
      skip
      emitEmpty first.stop
    else node false false fuel
    if ← accept .value then nodeBefore [.flowEntry, .flowSequenceEnd] false false (← mark) fuel
    else emitEmpty (← mark)
    emit .mappingEnd (← mark)

/-- Reads the entries of a mapping in braces. -/
def flowEntries (activity : Activity) (first : Bool) : Nat → Build Unit
  | 0 => return
  | fuel + 1 => do
    if (← peek) ≠ .flowMappingEnd && !first then
      if !(← accept .flowEntry) then fail .mappingEndExpected activity
    let entry ← next
    match entry.value with
    | .flowMappingEnd =>
      skip
      emit .mappingEnd entry.start
    | .key =>
      skip
      nodeBefore [.value, .flowEntry, .flowMappingEnd] false false (← mark) fuel
      if ← accept .value then nodeBefore [.flowEntry, .flowMappingEnd] false false (← mark) fuel
      else emitEmpty (← mark)
      flowEntries activity false fuel
    | _ =>
      node false false fuel
      emitEmpty (← mark)
      flowEntries activity false fuel

end

/-- Reads the directives of a document: at most one version, which is 1.1 or 1.2, and tag handles
that are all different. -/
def directives : Nat → Bool → Build Unit
  | 0, _ => return
  | fuel + 1, versioned => do
    match ← peek with
    | .versionDirective major minor =>
      if versioned then fail .repeatedVersion none
      if major ≠ 1 || (minor ≠ 1 && minor ≠ 2) then fail .unsupportedVersion none
      skip
      directives fuel true
    | .tagDirective handle stem =>
      if ((← get).handles.lookup handle).isSome then fail .repeatedTagHandle none
      skip
      modify fun s => { s with handles := (handle, stem) :: s.handles }
      directives fuel versioned
    | _ => return

/-- Skips marks that end a document. -/
def skipEnds : Nat → Build Unit
  | 0 => return
  | fuel + 1 => do if ← accept .documentEnd then skipEnds fuel

/-- Whether a token begins a document that says so. -/
def isExplicitStart : Token → Bool
  | .versionDirective .. | .tagDirective .. | .documentStart => true
  | _ => false

/-- Reads the first document, if there is one. -/
def document (fuel : Nat) : Build Unit := do
  let token ← peek
  if token = .streamEnd then return
  if isExplicitStart token then
    directives fuel false
    if !(← accept .documentStart) then fail .documentStartExpected none
    let token ← next
    if isExplicitStart token.value || token.value ∈ [.documentEnd, .streamEnd] then
      emitEmpty token.start
    else node true false fuel
  else node true false fuel
  let _ ← accept .documentEnd

/-- Whether anything but the end of the text follows a document. -/
def hasMore (fuel : Nat) : Build Bool := do
  skipEnds fuel
  return (← peek) ≠ .streamEnd

end Build

/-- The events of a text: those of its document, or those in front of an error. -/
def Events.ofText (text : List Char) : Events :=
  let tokens := Tokens.ofText text
  let fuel := 8 * tokens.tokens.length + 8
  let (result, s) := (Build.document fuel).run.run { tokens }
  { events := s.events.toList
    anchored := s.anchored
    failure := match result with
      | .ok () => none
      | .error error => some error
    hasMore := match ((Build.hasMore fuel).run.run s).1 with
      | .ok more => more
      | .error _ => true }

end DocumentCursor.Yaml
