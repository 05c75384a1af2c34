import DocumentCursor.Text.CharacterClass
import DocumentCursor.Text.Numeral
import DocumentCursor.Text.Split
import DocumentCursor.Text.Terminal

/-! # The log of the probe

A log line has a level, and a filter says which levels are shown. A filter is written as directives
with commas between them: a level is for everything, and a name with a level, or without one for all
levels, is for what has a name that begins so. After the name a condition may stand in brackets: the
name of a span, which lines of this log are never part of, and in braces a field, which they have if
it is the message. The longest name counts, of two equal ones the one with a field, and of two equal
directives the later. A filter without directives shows nothing.

Main definitions:

* `Level` and `LogLine`;
* `Directive.read?`;
* `Filter.read?` and `Filter.shows`.
-/

namespace DocumentCursor.Probe

open Text

/-- How important a line is. -/
inductive Level where
  | error
  | warn
  | info
  | debug
  | trace
  deriving DecidableEq, Repr

namespace Level

/-- From the most important level to the least. -/
def all : List Level := [error, warn, info, debug, trace]

/-- The name. -/
def text : Level → String
  | error => "ERROR"
  | warn => "WARN"
  | info => "INFO"
  | debug => "DEBUG"
  | trace => "TRACE"

/-- The number of a level, from one for the most important. -/
def rank : Level → Nat
  | error => 1
  | warn => 2
  | info => 3
  | debug => 4
  | trace => 5

end Level

/-- The name under which the program logs. -/
def logName : String := "docwire"

/-- The variable that holds the filter. -/
def filterName : String := "RUST_LOG"

/-- A line of the log. -/
structure LogLine where
  level : Level
  message : String
  deriving DecidableEq, Repr

/-- The text of a line, which no terminal takes for a command. -/
def LogLine.text (line : LogLine) : String :=
  line.level.text ++ " " ++ logName ++ ": " ++ Terminal.harmless line.message

/-- The only field of a line. -/
def messageField : List Char := "message".toList

/-! ## Directives -/

/-- Shows what has a name that begins in a certain way, up to a rank. -/
structure Directive where
  stem : List Char := []
  /-- A field that a line must have. -/
  field : Option (List Char) := none
  /-- Whether it is only for what is part of a span, or for a certain value of the field. -/
  conditional : Bool := false
  rank : Nat
  deriving DecidableEq, Repr

namespace Directive

/-- The rank up to which a written level shows lines. -/
def rank? (text : List Char) : Option Nat :=
  let word := (String.ofList text).toUpper
  if word = "OFF" then some 0
  else match Level.all.find? (·.text = word) with
    | some level => some level.rank
    | none => Numeral.read? Level.trace.rank text

/-- The rank that shows everything. -/
def everything : Nat := Level.trace.rank

/-- The first of some marks from a place on, with its place. -/
def find? (marks : List Char) (start : Nat) (text : List Char) : Option (Char × Nat) :=
  (text.zipIdx.drop start).find? fun (c, _) => c ∈ marks

/-- The part of a text between two places. -/
def slice (text : List Char) (start stop : Nat) : List Char := (text.drop start).take (stop - start)

/-- Reads a level from a place on. -/
def levelFrom? (text : List Char) (start : Nat) : Option Nat :=
  match text.drop start with
  | [] => some everything
  | level => rank? level

/-- Reads what may follow a condition. -/
def ending? (text trimmed : List Char) (place : Nat) : Option Nat :=
  match trimmed[place]? with
  | none => some everything
  | some '=' => levelFrom? text (place + 1)
  | some _ => none

/-- Reads a condition from after its opening bracket on. -/
def condition? (stem text trimmed : List Char) (start : Nat) : Option Directive := do
  let (mark, place) ← find? [']', '\x7b'] start trimmed
  if mark = ']' then
    return { stem, conditional := true, rank := ← ending? text trimmed (place + 1) }
  let (_, close) ← find? ['\x7d'] (place + 1) trimmed
  let field := slice text (place + 1) close
  if field = [] ∨ trimmed[close + 1]? ≠ some ']' then none
  let name := field.takeWhile (· ≠ '=')
  let conditional := place ≠ start || name ≠ field
  return { stem, field := some name, conditional, rank := ← ending? text trimmed (close + 2) }

/-- Whether a directive can begin with a character. -/
def canBegin (c : Char) : Bool := isAlphanumeric c || c ∈ ['-', ':', '_']

/-- Reads a directive. Its marks are looked for between the white space at its ends, while its parts
are counted from where the white space begins. -/
def read? (text : List Char) : Option Directive :=
  let trimmed := trim text
  match trimmed with
  | [] => none
  | '[' :: _ => condition? [] text trimmed 1
  | c :: _ =>
    if !canBegin c then none
    else match find? ['=', '['] 0 trimmed with
      | none =>
        match rank? text with
        | some rank => some { rank }
        | none => some { stem := text, rank := everything }
      | some (mark, place) =>
        let stem := slice text 0 place
        if mark = '=' then (levelFrom? text (place + 1)).map fun rank => { stem, rank }
        else condition? stem text trimmed (place + 1)

/-- Whether a directive is for lines of a name. -/
def applies (name : List Char) (directive : Directive) : Bool :=
  !directive.conditional && directive.stem.isPrefixOf name &&
    directive.field.all (· = messageField)

/-- Whether a directive says no less about a line than another one that is for it too. -/
def outranks (directive other : Directive) : Bool :=
  other.stem.length < directive.stem.length ||
    (other.stem.length = directive.stem.length &&
      (directive.field.isSome || other.field.isNone))

end Directive

/-! ## Filters -/

/-- Which lines are shown. -/
abbrev Filter := List Directive

namespace Filter

/-- Reads a filter, in which empty directives do not count. -/
def read? (text : String) : Option Filter :=
  ((cut ',' text.toList).filter (· ≠ [])).mapM Directive.read?

/-- Shows everything from `Level.info` up. -/
def informative : Filter := [{ rank := Level.info.rank }]

/-- The filter of a text: the usual one without a text or with one that is ill-formed. -/
def ofText (text : Option String) : Filter := (text.bind read?).getD informative

/-- The rank up to which a filter shows what has the given name. -/
def rankOf (filter : Filter) (name : List Char) : Nat :=
  let step := fun (best : Option Directive) (directive : Directive) =>
    if directive.applies name && best.all directive.outranks then some directive else best
  ((filter.foldl step none).map (·.rank)).getD 0

/-- Whether a filter shows a line. -/
def shows (filter : Filter) (line : LogLine) : Bool :=
  line.level.rank ≤ filter.rankOf logName.toList

/-- Nothing is shown without a directive. -/
@[simp] theorem shows_nil (line : LogLine) : shows [] line = false := by
  cases line with
  | mk level message => cases level <;> rfl

end Filter

end DocumentCursor.Probe
