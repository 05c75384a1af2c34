import DocumentCursor.Yaml.Scalar

/-! # Tokens

A text is first cut into tokens: the marks, names and scalars that it shows, and those that its
indentation stands for, which begin and end block collections.

That something is the key of a mapping shows only at the colon after it. Wherever a key may begin,
the number of the next token is therefore kept, one for each level of brackets and braces; at the
colon the key mark is put in front of that token, and the mark that begins a mapping too where the
key is indented further than what is around it. A key stays on its line and within 1024 bytes.
At the indentation of the collection around it there must be a key.

That a text is ill-formed shows only at a place, and the tokens in front of it are tokens all the
same, but for those that would have been a key or are behind one.

Main definitions:

* `Token`, `Marked` and `Tokens`;
* `Tokens.ofText`.
-/

namespace DocumentCursor.Yaml

open Text

/-- A token. -/
inductive Token where
  | versionDirective (major minor : Nat)
  /-- What a tag handle stands for. -/
  | tagDirective (handle stem : String)
  | documentStart
  | documentEnd
  | blockSequenceStart
  | blockMappingStart
  | blockEnd
  | flowSequenceStart
  | flowSequenceEnd
  | flowMappingStart
  | flowMappingEnd
  | blockEntry
  | flowEntry
  | key
  | value
  | alias (name : String)
  | anchor (name : String)
  | tag (handle suffix : String)
  | scalar (text : String) (style : Style)
  | streamEnd
  deriving DecidableEq, Repr, Inhabited

/-- Something with the place where it begins and the one where it ends. -/
structure Marked (α : Type) where
  value : α
  start : Mark
  stop : Mark
  deriving Repr

/-- Tokens of a text: all of it, or what is in front of an error. -/
structure Tokens where
  tokens : List (Marked Token)
  failure : Option SyntaxError
  deriving Repr

/-! ## Names and tags -/

namespace Scan

/-- Reads the name of an anchor or of an alias from its mark on. -/
def anchorName (construct : Construct) : Scan String := do
  let activity : Activity := ⟨.scanning, construct, ← mark⟩
  skip 1
  let chars ← takeWhile isNameChar
  let next ← peek
  if chars ≠ [] &&
      (endsWord next || next.any (· ∈ ['?', ':', ',', ']', '\x7d', '%', '@', '\x60'])) then
    return String.ofList chars
  else fail .nameExpected activity

/-- Whether a character may stand in a tag as it is. -/
def isTagChar (verbatim : Bool) (c : Char) : Bool :=
  isNameChar c ||
    c ∈ [';', '/', '?', ':', '@', '&', '=', '+', '$', '.', '!', '~', '*', '\'', '(', ')'] ||
    (verbatim && c ∈ [',', '[', ']'])

/-- The byte that is written as a percent sign and two hexadecimal digits. -/
def escapedByte (activity : Activity) : Scan Nat := do
  let digits := ((← get).rest.drop 1).take 2
  if (← peek) ≠ some '%' || digits.length < 2 then fail .escapedByteExpected activity
  let some byte := Numeral.digits? 16 digits | fail .escapedByteExpected activity
  return byte

/-- The number of bytes of a character, by its first. -/
def encodedLength? (first : Nat) : Option Nat :=
  if first < 0x80 then some 1
  else if 0xc0 ≤ first ∧ first < 0xe0 then some 2
  else if 0xe0 ≤ first ∧ first < 0xf0 then some 3
  else if 0xf0 ≤ first ∧ first < 0xf8 then some 4
  else none

/-- Bytes after the first of an escaped character. -/
def trailingBytes (activity : Activity) : Nat → Nat → Scan Nat
  | 0, code => return code
  | n + 1, code => do
    let byte ← escapedByte activity
    if byte < 0x80 ∨ 0xc0 ≤ byte then fail .trailingByteExpected activity
    skip 3
    trailingBytes activity n (code * 64 + byte % 64)

/-- Reads an escaped character of a tag. -/
def tagEscape (activity : Activity) : Scan Char := do
  let first ← escapedByte activity
  let some length := encodedLength? first | fail .leadingByteExpected activity
  skip 3
  let lead := if length = 1 then first else first % (1 <<< (7 - length))
  let code ← trailingBytes activity (length - 1) lead
  return (char? code).getD '\ufffd'

/-- Reads what may stand in a tag. -/
def tagChars (activity : Activity) (verbatim : Bool) : Nat → List Char → Scan (List Char)
  | 0, chars => return chars
  | fuel + 1, chars => do
    match ← peek with
    | none => return chars
    | some c =>
      if c = '%' then tagChars activity verbatim fuel (chars ++ [← tagEscape activity])
      else if isTagChar verbatim c then
        skip 1
        tagChars activity verbatim fuel (chars ++ [c])
      else return chars

/-- Takes what may stand in a tag. -/
def takeTagChars (activity : Activity) (verbatim : Bool) : Scan (List Char) := do
  tagChars activity verbatim ((← get).size + 1) []

/-- Reads a tag handle: a name between two exclamation marks, the second of which may be missing
when what was read turns out to be none. -/
def tagHandle (activity : Activity) : Scan (List Char) := do
  if (← peek) ≠ some '!' then fail .tagMarkExpected activity
  skip 1
  let chars ← takeWhile isNameChar
  if (← peek) = some '!' then
    skip 1
    return '!' :: chars ++ ['!']
  else return '!' :: chars

/-- Whether a handle has both its exclamation marks. -/
def isFullHandle (handle : List Char) : Bool := 1 < handle.length && handle.getLast? = some '!'

/-- Reads a tag from its mark on: verbatim, after a handle, or local. -/
def tag (inFlow : Bool) : Scan Token := do
  let start ← mark
  let scanning : Activity := ⟨.scanning, .tag, start⟩
  let parsing : Activity := ⟨.parsing, .tag, start⟩
  let token ←
    if (← peekAt 1) = some '<' then do
      skip 2
      let chars ← takeTagChars parsing true
      if chars = [] then fail .tagTextExpected parsing
      if (← peek) ≠ some '>' then fail .tagEndExpected scanning
      skip 1
      pure (Token.tag "" (String.ofList chars))
    else do
      let handle ← tagHandle scanning
      let chars ← takeTagChars parsing false
      if isFullHandle handle then
        if chars = [] then fail .tagTextExpected parsing
        pure (Token.tag (String.ofList handle) (String.ofList chars))
      else
        let suffix := handle.drop 1 ++ chars
        pure (if suffix = [] then Token.tag "" "!" else Token.tag "!" (String.ofList suffix))
  let next ← peek
  if endsWord next || (inFlow && next = some ',') then return token
  else fail .blankExpected scanning

/-! ## Directives -/

/-- Reads a number of a version, of at most nine digits. -/
def versionNumber (activity : Activity) : Scan Nat := do
  let digits := (← get).rest.takeWhile Char.isDigit
  skip (min digits.length 9)
  if 9 < digits.length then fail .versionNumberTooLong activity
  match Numeral.digits? 10 digits with
  | some n => return n
  | none => fail .versionNumberExpected activity

/-- Reads the version that a directive gives. -/
def version (start : Mark) : Scan Token := do
  let activity : Activity := ⟨.scanning, .versionDirective, start⟩
  let _ ← takeWhile isBlank
  let major ← versionNumber activity
  if (← peek) ≠ some '.' then fail .versionPointExpected activity
  skip 1
  return .versionDirective major (← versionNumber activity)

/-- Reads what a directive says that a tag handle stands for. -/
def handleMeaning (start : Mark) : Scan Token := do
  let scanning : Activity := ⟨.scanning, .tagDirective, start⟩
  let parsing : Activity := ⟨.parsing, .tagDirective, start⟩
  let _ ← takeWhile isBlank
  let handle ← tagHandle ⟨.scanning, .tagDirectiveHandle, start⟩
  if 1 < handle.length && !isFullHandle handle then
    fail .tagMarkExpected (some ⟨.parsing, .tagDirectiveHandle, start⟩)
  if !(← peek).any isBlank then fail .directiveBlankExpected scanning
  let _ ← takeWhile isBlank
  let stem ← takeTagChars parsing true
  if stem = [] then fail .tagTextExpected parsing
  if !endsWord (← peek) then fail .blankExpected scanning
  return .tagDirective (String.ofList handle) (String.ofList stem)

/-- Reads a directive from its percent sign on, to the end of its line. -/
def directive : Scan Token := do
  let start ← mark
  let activity : Activity := ⟨.scanning, .directive, start⟩
  skip 1
  let name ← takeWhile isNameChar
  if name = [] then fail .directiveNameExpected activity
  if !endsWord (← peek) then fail .directiveNameEndExpected activity
  let token ←
    if name = "YAML".toList then version start
    else if name = "TAG".toList then handleMeaning start
    else fail .unknownDirective activity
  skipToNextLine activity
  return token

end Scan

/-! ## Cutting a text into tokens -/

/-- Where a key may have begun. -/
structure PossibleKey where
  /-- The number of the token that would be the key. -/
  number : Nat
  index : Nat
  mark : Mark
  /-- Whether it must turn out to be a key. -/
  required : Bool
  deriving Repr

/-- Whether a key that had not ended at a place is none: it is on an earlier line, or too long. -/
def PossibleKey.isOver (place : Place) (key : PossibleKey) : Bool :=
  key.mark.line < place.line || key.index + 1024 < place.index

/-- The state of cutting a text into tokens. -/
structure Cutter where
  place : Place
  tokens : Array (Marked Token) := #[]
  /-- How many of the tokens are known to stay as they are. -/
  settled : Nat := 0
  /-- The indentation of the collection around the place, -1 outside of any. -/
  indent : Int := -1
  /-- The indentations of the collections around that one. -/
  indents : List Int := []
  /-- Where a key may have begun outside of brackets and braces, and within each of them, the
  innermost first. -/
  keys : List (Option PossibleKey) := [none]
  /-- Whether a key may begin at the place. -/
  keyAllowed : Bool := true
  deriving Repr

/-- Reads tokens, or fails and keeps those that it has. -/
abbrev Cut := ExceptT SyntaxError (StateM Cutter)

namespace Cut

/-- Reads on at the place. -/
def scan {β : Type} (read : Scan β) : Cut β := do
  let s ← get
  match read.run s.place with
  | .ok (value, place) =>
    set { s with place }
    return value
  | .error error => throw error

/-- The line and column of the place. -/
def mark : Cut Mark := return (← get).place.mark

/-- Fails because of a problem at the place. -/
def fail {β : Type} (problem : Problem) (activity : Option Activity) : Cut β :=
  scan (Scan.fail problem activity)

/-- Whether the place is within brackets or braces. -/
def inFlow : Cut Bool := return 1 < (← get).keys.length

/-- Puts a token at the end. -/
def push (token : Marked Token) : Cut Unit :=
  modify fun s => { s with tokens := s.tokens.push token }

/-- Puts the token that is read next at the end. -/
def pushScan (read : Scan Token) : Cut Unit := do
  let start ← mark
  let token ← scan read
  push ⟨token, start, ← mark⟩

/-- Puts a token in front of the one of the given number. -/
def insertAt (number : Nat) (token : Marked Token) : Cut Unit :=
  modify fun s => { s with tokens := s.tokens.insertIdxIfInBounds number token }

def allowKey (allowed : Bool) : Cut Unit := modify fun s => { s with keyAllowed := allowed }

def setKey (key : Option PossibleKey) : Cut Unit :=
  modify fun s => { s with keys := key :: s.keys.drop 1 }

/-- Fails because a key must have ended before the place. -/
def failKey {β : Type} (key : PossibleKey) : Cut β :=
  fail .keyEndExpected (some ⟨.scanning, .simpleKey, key.mark⟩)

/-- What may have been a key is none, which fails if it must be one. -/
def dropKey : Cut Unit := do
  match (← get).keys.head? with
  | some (some key) => if key.required then failKey key else setKey none
  | _ => return

/-- What has become too long for a key, or is behind the end of its line, is none, which fails for
one that must be one. Only the outermost must be. -/
def dropOldKeys : Cut Unit := do
  let s ← get
  if let some (some key) := s.keys.getLast? then
    if key.required && key.isOver s.place then failKey key
  set { s with keys := s.keys.map (Option.filter fun key => !key.isOver s.place) }

/-- Notes that a key may begin at the place, if it may. -/
def noteKey : Cut Unit := do
  let s ← get
  if s.keyAllowed then
    dropKey
    let p := s.place
    setKey (some ⟨s.tokens.size, p.index, p.mark, s.keys.length = 1 && s.indent = p.column⟩)

/-- Begins a block collection where the text is indented further than before. -/
def indentTo (start : Mark) (token : Token) (number : Option Nat) : Cut Unit := do
  let s ← get
  if s.keys.length = 1 && s.indent < start.column then
    match number with
    | some number => insertAt number ⟨token, start, start⟩
    | none => push ⟨token, start, start⟩
    modify fun s => { s with indents := s.indent :: s.indents, indent := start.column }

/-- Ends the block collections that are indented further than a column. -/
def dedentFrom (column : Int) (token : Marked Token) :
    List Int → Int → List (Marked Token) → List Int × Int × List (Marked Token)
  | [], indent, ends => ([], indent, ends)
  | outer :: indents, indent, ends =>
    if column < indent then dedentFrom column token indents outer (token :: ends)
    else (outer :: indents, indent, ends)

/-- Ends the block collections that are indented further than a column. -/
def dedentTo (column : Int) : Cut Unit := do
  let s ← get
  if s.keys.length = 1 then
    let mark := s.place.mark
    let (indents, indent, ends) :=
      dedentFrom column ⟨.blockEnd, mark, mark⟩ s.indents s.indent []
    set { s with indents, indent, tokens := s.tokens ++ ends.toArray }

/-- A mark of byte order, which may begin any line. -/
def byteOrderMark : Char := '\ufeff'

/-- Goes on to the next token, over blanks, comments and line ends. A tab is no blank where a key
may begin. A mark of byte order counts as a column of its line. -/
def skipToToken : Nat → Cut Unit
  | 0 => return
  | fuel + 1 => do
    if (← get).place.column = 0 && (← scan Scan.peek) = some byteOrderMark then
      scan (Scan.skip 1)
    let s ← get
    let flow ← inFlow
    let _ ← scan (Scan.takeWhile fun c => c = ' ' || (c = '\t' && (flow || !s.keyAllowed)))
    scan Scan.skipComment
    if (← scan Scan.peek).any isBreak then
      let _ ← scan Scan.readBreak
      if !flow then allowKey true
      skipToToken fuel

/-- A mark of the given length, which is a token by itself. -/
def indicator (length : Nat) (token : Token) : Cut Unit :=
  pushScan do
    Scan.skip length
    return token

/-- A mark that begins or ends a document. -/
def documentMark (token : Token) : Cut Unit := do
  dedentTo (-1)
  dropKey
  allowKey false
  indicator 3 token

/-- A mark that begins a collection. -/
def openFlow (token : Token) : Cut Unit := do
  noteKey
  modify fun s => { s with keys := none :: s.keys, keyAllowed := true }
  indicator 1 token

/-- A mark that ends a collection. -/
def closeFlow (token : Token) : Cut Unit := do
  dropKey
  modify fun s => { s with
    keys := if 1 < s.keys.length then s.keys.drop 1 else s.keys, keyAllowed := false }
  indicator 1 token

/-- A mark in front of an item of a block sequence. -/
def blockEntry : Cut Unit := do
  let s ← get
  if s.keys.length = 1 then
    if !s.keyAllowed then fail .entryNotAllowed none
    indentTo s.place.mark .blockSequenceStart none
  dropKey
  allowKey true
  indicator 1 .blockEntry

/-- A mark in front of a key. -/
def keyMark : Cut Unit := do
  let s ← get
  if s.keys.length = 1 then
    if !s.keyAllowed then fail .keyNotAllowed none
    indentTo s.place.mark .blockMappingStart none
  dropKey
  allowKey (s.keys.length = 1)
  indicator 1 .key

/-- A mark in front of a value. -/
def valueMark : Cut Unit := do
  let s ← get
  match s.keys.headD none with
  | some key =>
    insertAt key.number ⟨.key, key.mark, key.mark⟩
    indentTo key.mark .blockMappingStart (some key.number)
    setKey none
    allowKey false
  | none =>
    if s.keys.length = 1 then
      if !s.keyAllowed then fail .valueNotAllowed none
      indentTo s.place.mark .blockMappingStart none
    allowKey (s.keys.length = 1)
  indicator 1 .value

/-- A token that may be a key. -/
def keyLike (read : Scan Token) : Cut Unit := do
  noteKey
  allowKey false
  pushScan read

/-- A plain scalar, after which a key may begin on a new line. -/
def plainScalar : Cut Unit := do
  noteKey
  allowKey false
  let s ← get
  let (text, broken) ← scan (Scan.plain (1 < s.keys.length) (s.indent + 1).toNat)
  push ⟨.scalar text .plain, s.place.mark, ← mark⟩
  if broken then allowKey true

/-- A block scalar. -/
def blockScalar (style : Style) : Cut Unit := do
  dropKey
  allowKey true
  let indent := (← get).indent
  pushScan (return .scalar (← Scan.block style indent) style)

/-- The end of the text, which begins a line. -/
def textEnd : Cut Unit := do
  modify fun s =>
    if s.place.column = 0 then s
    else { s with place := { s.place with line := s.place.line + 1, column := 0 } }
  dedentTo (-1)
  dropKey
  let mark ← mark
  push ⟨.streamEnd, mark, mark⟩

/-- The characters that cannot begin a plain scalar, or only before a word. -/
def indicators : List Char :=
  ['-', '?', ':', ',', '[', ']', '\x7b', '\x7d', '#', '&', '*', '!', '|', '>', '\'', '"', '%', '@',
    '\x60']

/-- Reads the next token and says whether there are more. -/
def next : Cut Bool := do
  skipToToken ((← get).place.size + 1)
  dropOldKeys
  let s ← get
  dedentTo s.place.column
  let flow ← inFlow
  let after ← scan (Scan.peekAt 1)
  match s.place.rest.head? with
  | none =>
    textEnd
    return false
  | some c =>
    if s.place.column = 0 && c = '%' then
      dedentTo (-1)
      dropKey
      allowKey false
      pushScan Scan.directive
    else if ← scan (Scan.atMark ['-', '-', '-']) then documentMark .documentStart
    else if ← scan (Scan.atMark ['.', '.', '.']) then documentMark .documentEnd
    else if c = '[' then openFlow .flowSequenceStart
    else if c = '\x7b' then openFlow .flowMappingStart
    else if c = ']' then closeFlow .flowSequenceEnd
    else if c = '\x7d' then closeFlow .flowMappingEnd
    else if c = ',' then
      dropKey
      allowKey true
      indicator 1 .flowEntry
    else if c = '-' && endsWord after then blockEntry
    else if c = '?' && (flow || endsWord after) then keyMark
    else if c = ':' && (flow || endsWord after) then valueMark
    else if c = '*' then keyLike (return .alias (← Scan.anchorName .aliasName))
    else if c = '&' then keyLike (return .anchor (← Scan.anchorName .anchor))
    else if c = '!' then keyLike (Scan.tag flow)
    else if c = '|' && !flow then blockScalar .literal
    else if c = '>' && !flow then blockScalar .folded
    else if c = '\'' || c = '"' then keyLike (return .scalar (← Scan.quoted c) .quoted)
    else if c ∉ indicators && !endsWord (some c) || c = '-' && !after.any isBlank ||
        !flow && (c = '?' || c = ':') && !endsWord after then plainScalar
    else fail .tokenExpected (some ⟨.scanning, .token, s.place.mark⟩)
    return true

/-- The number of tokens that stay as they are: all, or those in front of the first that may be a
key. -/
def settle : Cut Unit :=
  modify fun s => { s with
    settled := (s.keys.filterMap (·.map (·.number))).foldl min s.tokens.size }

/-- Reads all tokens. Each but the last uses up a character. -/
def all : Nat → Cut Unit
  | 0 => return
  | fuel + 1 => do
    settle
    let more ← next
    dropOldKeys
    if more then all fuel

end Cut

/-- The tokens of a text. -/
def Tokens.ofText (text : List Char) : Tokens :=
  let size := text.length
  let (result, s) := (Cut.all (size + 2)).run.run { place := { rest := text, size } }
  match result with
  | .ok () => ⟨s.tokens.toList, none⟩
  | .error error => ⟨(s.tokens.extract 0 s.settled).toList, some error⟩

end DocumentCursor.Yaml
