import DocumentCursor.Yaml.Error

/-! # Places in a text

A place is what is left of a text together with how far it is from the beginning, in encoded bytes,
and in lines and columns. Lines end with a line feed, a carriage return, both, or one of three other
characters.

Main definitions:

* `Place` and `Scan`, which reads on from a place or fails;
* `skip`, `takeWhile` and `readBreak`.
-/

namespace DocumentCursor.Yaml

/-- Whether a character ends a line. -/
def isBreak (c : Char) : Bool :=
  c = '\n' || c = '\r' || c = '\x85' || c = '\u2028' || c = '\u2029'

/-- Whether a character separates words within a line. -/
def isBlank (c : Char) : Bool := c = ' ' || c = '\t'

/-- Whether a word ends before what follows: a blank, a line end or the end of the text. -/
def endsWord : Option Char → Bool
  | none => true
  | some c => isBlank c || isBreak c

/-- Whether a line ends before what follows. -/
def endsLine : Option Char → Bool
  | none => true
  | some c => isBreak c

/-- Letters, digits, the hyphen and the underscore, of which names are made. -/
def isNameChar (c : Char) : Bool := c.isAlphanum || c = '-' || c = '_'

/-- What is left of a text, and where that is. -/
structure Place where
  rest : List Char
  /-- The number of characters of the whole text. -/
  size : Nat
  /-- The bytes before it. -/
  index : Nat := 0
  line : Nat := 0
  column : Nat := 0
  deriving Repr

/-- The number of bytes of characters. -/
def encodedSize (chars : List Char) : Nat := chars.foldl (fun n c => n + c.utf8Size) 0

/-- The line and column of a place. -/
def Place.mark (place : Place) : Mark := ⟨place.line, place.column⟩

/-- Reads on from a place, or fails. -/
abbrev Scan := StateT Place (Except SyntaxError)

namespace Scan

/-- Where reading goes on. -/
def mark : Scan Mark := return (← get).mark

/-- Fails because of a problem at the place. -/
def fail {β : Type} (problem : Problem) (activity : Option Activity) : Scan β := do
  throw ⟨problem, ← mark, activity⟩

/-- The next character. -/
def peek : Scan (Option Char) := return (← get).rest.head?

/-- The character after the next `n`. -/
def peekAt (n : Nat) : Scan (Option Char) := return (← get).rest[n]?

/-- Skips characters of the line. -/
def skip (n : Nat) : Scan Unit :=
  modify fun p => { p with
    rest := p.rest.drop n
    index := p.index + encodedSize (p.rest.take n)
    column := p.column + n }

/-- Takes the characters of the line as far as they satisfy `p`. -/
def takeWhile (p : Char → Bool) : Scan (List Char) := do
  let taken := (← get).rest.takeWhile p
  skip taken.length
  return taken

/-- Takes the end of a line, if that comes next, and gives it as the text that it stands for: a line
feed, or one of the two separators as it is. -/
def readBreak : Scan (List Char) := do
  let p ← get
  match p.rest with
  | '\r' :: '\n' :: rest =>
    set { p with rest, index := p.index + 2, line := p.line + 1, column := 0 }
    return ['\n']
  | c :: rest =>
    if isBreak c then
      set { p with rest, index := p.index + c.utf8Size, line := p.line + 1, column := 0 }
      return [if c = '\u2028' || c = '\u2029' then c else '\n']
    else return []
  | [] => return []

/-- Whether a mark of three characters stands at the beginning of a line, as a word of its own. -/
def atMark (mark : List Char) : Scan Bool := do
  let p ← get
  return p.column = 0 && mark.isPrefixOf p.rest && endsWord p.rest[3]?

/-- Whether a mark that begins or ends a document comes next. -/
def atDocumentMark : Scan Bool := do
  return (← atMark ['-', '-', '-']) || (← atMark ['.', '.', '.'])

/-- Skips a comment, if one comes next, up to the end of its line. -/
def skipComment : Scan Unit := do
  if (← peek) = some '#' then
    let _ ← takeWhile (!isBreak ·)

/-- Skips blanks and a comment up to the end of the line, and that too; nothing else may stand
there. -/
def skipToNextLine (activity : Activity) : Scan Unit := do
  let _ ← takeWhile isBlank
  skipComment
  if !endsLine (← peek) then fail .lineEndExpected activity
  let _ ← readBreak

end Scan

end DocumentCursor.Yaml
