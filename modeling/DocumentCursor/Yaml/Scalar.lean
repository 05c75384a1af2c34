import DocumentCursor.Text.Numeral
import DocumentCursor.Yaml.Place

/-! # Scalars

A scalar is a text in one of four styles. Plain and quoted scalars may go on over several lines,
which are folded: the end of a line becomes a space, and `n` empty lines become `n` line feeds. A
block scalar keeps its lines, or folds them likewise where neither line begins with a blank; its
indentation is given or taken from its first line, and its last line ends are clipped to one, all
dropped or all kept.

Main definitions:

* `Scan.plain`, `Scan.quoted` and `Scan.block` read a scalar of a style.
-/

namespace DocumentCursor.Yaml

open Text

/-- How a scalar is written. -/
inductive Style where
  | plain
  | quoted
  | literal
  | folded
  deriving DecidableEq, Repr

/-! ## Gaps between words -/

/-- What stands between two words of a plain or quoted scalar. -/
structure Gap where
  /-- The blanks of the first line. -/
  blanks : List Char := []
  /-- The first line end. -/
  first : List Char := []
  /-- The line ends after that. -/
  more : List Char := []
  /-- Whether the line has ended. -/
  broken : Bool := false
  deriving Repr

/-- The text that a gap stands for. -/
def Gap.text (gap : Gap) : List Char :=
  if !gap.broken then gap.blanks
  else if gap.first ≠ ['\n'] then gap.first ++ gap.more
  else if gap.more = [] then [' ']
  else gap.more

namespace Scan

/-- Takes blanks and line ends. A tab left of the column `indent` is refused after a line end. -/
def gap (activity : Activity) (indent : Nat) : Nat → Gap → Scan Gap
  | 0, gap => return gap
  | fuel + 1, gap => do
    match ← peek with
    | none => return gap
    | some c =>
      if isBlank c then
        if gap.broken && c = '\t' && (← get).column < indent then
          fail .tabLeftOfIndentation activity
        skip 1
        Scan.gap activity indent fuel
          (if gap.broken then gap else { gap with blanks := gap.blanks ++ [c] })
      else if isBreak c then
        let text ← readBreak
        Scan.gap activity indent fuel
          (if gap.broken then { gap with more := gap.more ++ text }
          else { gap with blanks := [], first := text, broken := true })
      else return gap

/-- Takes the gap that comes next. -/
def takeGap (activity : Activity) (indent : Nat) (start : Gap) : Scan Gap := do
  gap activity indent ((← get).size + 1) start

/-! ## Plain scalars -/

/-- Whether a character separates the items of a collection in brackets or braces. -/
def isFlowMark (c : Char) : Bool := c ∈ [',', '[', ']', '\x7b', '\x7d']

/-- The next word of a plain scalar. It ends before a colon that ends a word. In brackets or braces
it also ends before what separates their items, and before a colon that such a mark follows. -/
def plainWord (inFlow : Bool) : List Char → List Char
  | [] => []
  | c :: rest =>
    let stops := endsWord (some c) || (c = ':' && endsWord rest.head?) ||
      (inFlow && (isFlowMark c ||
        (c = ':' && rest.head?.any fun next => isFlowMark next || next = '?')))
    if stops then [] else c :: plainWord inFlow rest

/-- Reads on in a plain scalar: its text so far, and the gap after that. The scalar ends before a
document mark, a comment, a word that is none, and left of the column `indent` outside of brackets
and braces. -/
def plainFrom (activity : Activity) (inFlow : Bool) (indent : Nat) :
    Nat → List Char → Gap → Scan (List Char × Bool)
  | 0, text, gap => return (text, gap.broken)
  | fuel + 1, text, gap => do
    if (← atDocumentMark) || (← peek) = some '#' then return (text, gap.broken)
    let word := plainWord inFlow (← get).rest
    skip word.length
    if inFlow && (← peek) = some ':' && !endsWord (← peekAt 1) then fail .colonFound activity
    if word = [] then return (text, gap.broken)
    let text := text ++ gap.text ++ word
    let next ← peek
    if next.isNone || !endsWord next then return (text, false)
    let gap ← takeGap activity indent {}
    if !inFlow && (← get).column < indent then return (text, gap.broken)
    plainFrom activity inFlow indent fuel text gap

/-- Reads a plain scalar, and says whether a line end follows it. -/
def plain (inFlow : Bool) (indent : Nat) : Scan (String × Bool) := do
  let activity := ⟨.scanning, .plainScalar, ← mark⟩
  let (text, broken) ← plainFrom activity inFlow indent ((← get).size + 1) [] {}
  return (String.ofList text, broken)

/-! ## Quoted scalars -/

/-- What an escape of one letter stands for. -/
def simpleEscape? : Char → Option Char
  | '0' => some '\x00'
  | 'a' => some '\x07'
  | 'b' => some '\x08'
  | 't' | '\t' => some '\t'
  | 'n' => some '\n'
  | 'v' => some '\x0b'
  | 'f' => some '\x0c'
  | 'r' => some '\r'
  | 'e' => some '\x1b'
  | ' ' => some ' '
  | '"' => some '"'
  | '/' => some '/'
  | '\\' => some '\\'
  | 'N' => some '\x85'
  | '_' => some '\xa0'
  | 'L' => some '\u2028'
  | 'P' => some '\u2029'
  | _ => none

/-- The number of hexadecimal digits after an escape. -/
def escapeDigits? : Char → Option Nat
  | 'x' => some 2
  | 'u' => some 4
  | 'U' => some 8
  | _ => none

/-- The character of a code point, of which surrogates are none. -/
def char? (code : Nat) : Option Char :=
  if h : code.isValidChar then some (Char.ofNatAux code h) else none

/-- Reads an escape from its backslash on, in a scalar that begins at `start`. -/
def escape (start : Mark) : Scan Char := do
  let activity : Activity := ⟨.parsing, .quotedScalar, start⟩
  let some letter ← peekAt 1 | fail .unknownEscape activity
  match simpleEscape? letter with
  | some c =>
    skip 2
    return c
  | none =>
    let some count := escapeDigits? letter | fail .unknownEscape activity
    skip 2
    let digits := (← get).rest.take count
    if digits.length < count then fail .hexadecimalExpected activity
    let some code := Numeral.digits? 16 digits | fail .hexadecimalExpected activity
    let some c := char? code | fail .characterCodeExpected activity
    skip count
    return c

/-- Reads the characters of a quoted scalar up to a blank, a line end or the closing quote, after
some that are given backwards. After a backslash at the end of a line the next line goes on without
a space. -/
def quotedWord (quote : Char) (start : Mark) : Nat → List Char → Scan (List Char × Gap)
  | 0, before => return (before.reverse, {})
  | fuel + 1, before => do
    let some c ← peek | return (before.reverse, {})
    if endsWord (some c) then return (before.reverse, {})
    else if quote = '\'' then
      if c ≠ quote then skip 1; quotedWord quote start fuel (c :: before)
      else if (← peekAt 1) = some quote then
        skip 2
        quotedWord quote start fuel (c :: before)
      else return (before.reverse, {})
    else if c = quote then return (before.reverse, {})
    else if c ≠ '\\' then skip 1; quotedWord quote start fuel (c :: before)
    else if (← peekAt 1).any isBreak then
      skip 1
      let _ ← readBreak
      return (before.reverse, { broken := true })
    else quotedWord quote start fuel ((← escape start) :: before)

/-- Reads on in a quoted scalar, whose text so far is given, up to the closing quote. -/
def quotedFrom (quote : Char) (start : Mark) : Nat → List Char → Scan (List Char)
  | 0, text => return text
  | fuel + 1, text => do
    let activity : Activity := ⟨.scanning, .quotedScalar, start⟩
    if (← atDocumentMark) then fail .documentMarkFound activity
    if (← peek).isNone then fail .textEndFound activity
    let (word, gap) ← quotedWord quote start ((← get).size + 1) []
    let text := text ++ word
    if (← peek) = some quote then
      skip 1
      return text
    let gap ← takeGap activity 0 gap
    quotedFrom quote start fuel (text ++ gap.text)

/-- Reads a quoted scalar from its opening quote on. -/
def quoted (quote : Char) : Scan String := do
  let start ← mark
  skip 1
  return String.ofList (← quotedFrom quote start ((← get).size + 2) [])

/-! ## Block scalars -/

/-- What becomes of the line ends after the last line of a block scalar. -/
inductive Chomping where
  | clip
  | strip
  | keep
  deriving DecidableEq, Repr

/-- Reads how a block scalar ends, if that is given. -/
def chomping? : Scan (Option Chomping) := do
  match ← peek with
  | some '+' => skip 1; return some .keep
  | some '-' => skip 1; return some .strip
  | _ => return none

/-- Reads how far a block scalar is indented, if that is given; not at all is refused. -/
def indentation? (activity : Activity) : Scan (Option Nat) := do
  match (← peek).bind (Numeral.digit? 10) with
  | some 0 => fail .indentationZero activity
  | some n => skip 1; return some n
  | none => return none

/-- Takes the indentation and the empty lines in front of a line: the line ends, and the deepest
indentation that was met. While the indentation of the scalar is not known all of it is taken. -/
def blockGap (activity : Activity) (indent : Option Nat) :
    Nat → Nat → List Char → Scan (Nat × List Char)
  | 0, deepest, text => return (deepest, text)
  | fuel + 1, deepest, text => do
    let column := (← get).column
    let spaces := ((← get).rest.takeWhile (· = ' ')).length
    skip (match indent with
      | none => spaces
      | some n => min spaces (n - column))
    let deepest := max deepest (← get).column
    if (← peek) = some '\t' && indent.all ((← get).column < ·) then
      fail .tabInIndentation activity
    if (← peek).any isBreak then blockGap activity indent fuel deepest (text ++ (← readBreak))
    else return (deepest, text)

/-- Reads the lines of a block scalar, whose text so far is given, with the last line end and the
empty lines after it. -/
def blockLines (activity : Activity) (style : Style) (indent : Nat) :
    Nat → List Char → List Char → List Char → Bool → Scan (List Char × List Char × List Char)
  | 0, text, last, empty, _ => return (text, last, empty)
  | fuel + 1, text, last, empty, indented => do
    if (← get).column ≠ indent || (← peek).isNone then return (text, last, empty)
    let indents := (← peek).any isBlank
    let folds := style = .folded && last = ['\n'] && !indented && !indents
    let between := if !folds then last else if empty = [] then [' '] else []
    let line ← takeWhile (!isBreak ·)
    let text := text ++ between ++ empty ++ line
    let last ← readBreak
    let (_, empty) ← blockGap activity (some indent) ((← get).size + 1) 0 []
    blockLines activity style indent fuel text last empty indents

/-- Reads a block scalar from its mark on, inside of a collection that is indented by `parent`. -/
def block (style : Style) (parent : Int) : Scan String := do
  let activity := ⟨.scanning, .blockScalar, ← mark⟩
  skip 1
  let first ← chomping?
  let given ← indentation? activity
  let second ← if first.isNone then chomping? else pure none
  let chomping := (first.or second).getD .clip
  skipToNextLine activity
  let fuel := (← get).size + 1
  let known := given.map fun (n : Nat) => (max parent 0).toNat + n
  let (deepest, empty) ← blockGap activity known fuel 0 []
  let indent := known.getD (max (max deepest (parent + 1).toNat) 1)
  let (text, last, empty) ← blockLines activity style indent fuel [] [] empty false
  return String.ofList (match chomping with
    | .strip => text
    | .clip => text ++ last
    | .keep => text ++ last ++ empty)

end Scan

end DocumentCursor.Yaml
