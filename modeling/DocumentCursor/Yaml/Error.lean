import DocumentCursor.Text.Quoted
import DocumentCursor.Text.Split

/-! # Why a text is refused

A text is refused because it is ill-formed, or because something in it is not what was asked for.
The report says where: lines and columns are counted from 1 in it, and the very beginning of the
text is not mentioned.

Main definitions:

* `Mark` is a place that a report can mention;
* `SyntaxError` says what is ill-formed and what was being read;
* `Mismatch` says what is not what was asked for;
* `YamlError` and `YamlError.message`.
-/

namespace DocumentCursor.Yaml

open Text

/-! ## Places -/

/-- A place in a text: its line and column, counted from 0. -/
structure Mark where
  line : Nat := 0
  column : Nat := 0
  deriving DecidableEq, Repr, Inhabited

/-- The number of a line or column in a report. -/
def countText (n : Nat) : String := String.ofList (digitsText (n + 1))

/-- The end of a report that mentions a place. -/
def Mark.reported (mark : Mark) : String :=
  if mark = {} then ""
  else " at line " ++ countText mark.line ++ " column " ++ countText mark.column

/-! ## Ill-formed texts -/

/-- What is being read. -/
inductive Construct where
  | token
  | simpleKey
  | directive
  | versionDirective
  | tagDirective
  | tagDirectiveHandle
  | tag
  | anchor
  | aliasName
  | blockScalar
  | quotedScalar
  | plainScalar
  | node
  | blockNode
  | flowNode
  | blockCollection
  | blockMapping
  | flowSequence
  | flowMapping
  deriving DecidableEq, Repr

/-- What a report calls something that is read. -/
def Construct.text : Construct → String
  | token => "for the next token"
  | simpleKey => "a simple key"
  | directive => "a directive"
  | versionDirective => "a %YAML directive"
  | tagDirective => "a %TAG directive"
  | tagDirectiveHandle => "a tag directive"
  | tag => "a tag"
  | anchor => "an anchor"
  | aliasName => "an alias"
  | blockScalar => "a block scalar"
  | quotedScalar => "a quoted scalar"
  | plainScalar => "a plain scalar"
  | node => "a node"
  | blockNode => "a block node"
  | flowNode => "a flow node"
  | blockCollection => "a block collection"
  | blockMapping => "a block mapping"
  | flowSequence => "a flow sequence"
  | flowMapping => "a flow mapping"

/-- How something is read: as characters or as what they stand for. -/
inductive Reading where
  | scanning
  | parsing
  deriving DecidableEq, Repr

/-- What a report calls a way of reading. -/
def Reading.text : Reading → String
  | scanning => "scanning"
  | parsing => "parsing"

/-- What was going on when a text turned out to be ill-formed, and where that began. -/
structure Activity where
  reading : Reading
  construct : Construct
  start : Mark
  deriving DecidableEq, Repr

/-- What makes a text ill-formed. -/
inductive Problem where
  | tokenExpected
  | keyEndExpected
  | entryNotAllowed
  | keyNotAllowed
  | valueNotAllowed
  | unknownDirective
  | directiveNameExpected
  | directiveNameEndExpected
  | lineEndExpected
  | versionPointExpected
  | versionNumberExpected
  | versionNumberTooLong
  | directiveBlankExpected
  | blankExpected
  | tagMarkExpected
  | tagEndExpected
  | tagTextExpected
  | escapedByteExpected
  | leadingByteExpected
  | trailingByteExpected
  | nameExpected
  | indentationZero
  | tabInIndentation
  | tabLeftOfIndentation
  | documentMarkFound
  | textEndFound
  | unknownEscape
  | hexadecimalExpected
  | characterCodeExpected
  | colonFound
  | documentStartExpected
  | repeatedVersion
  | unsupportedVersion
  | repeatedTagHandle
  | unknownTagHandle
  | nodeExpected
  | blockEntryExpected
  | blockKeyExpected
  | sequenceEndExpected
  | mappingEndExpected
  deriving DecidableEq, Repr

/-- What a report says about a problem. -/
def Problem.text : Problem → String
  | tokenExpected => "found character that cannot start any token"
  | keyEndExpected => "could not find expected ':'"
  | entryNotAllowed => "block sequence entries are not allowed in this context"
  | keyNotAllowed => "mapping keys are not allowed in this context"
  | valueNotAllowed => "mapping values are not allowed in this context"
  | unknownDirective => "found unknown directive name"
  | directiveNameExpected => "could not find expected directive name"
  | directiveNameEndExpected => "found unexpected non-alphabetical character"
  | lineEndExpected => "did not find expected comment or line break"
  | versionPointExpected => "did not find expected digit or '.' character"
  | versionNumberExpected => "did not find expected version number"
  | versionNumberTooLong => "found extremely long version number"
  | directiveBlankExpected => "did not find expected whitespace"
  | blankExpected => "did not find expected whitespace or line break"
  | tagMarkExpected => "did not find expected '!'"
  | tagEndExpected => "did not find the expected '>'"
  | tagTextExpected => "did not find expected tag URI"
  | escapedByteExpected => "did not find URI escaped octet"
  | leadingByteExpected => "found an incorrect leading UTF-8 octet"
  | trailingByteExpected => "found an incorrect trailing UTF-8 octet"
  | nameExpected => "did not find expected alphabetic or numeric character"
  | indentationZero => "found an indentation indicator equal to 0"
  | tabInIndentation => "found a tab character where an indentation space is expected"
  | tabLeftOfIndentation => "found a tab character that violates indentation"
  | documentMarkFound => "found unexpected document indicator"
  | textEndFound => "found unexpected end of stream"
  | unknownEscape => "found unknown escape character"
  | hexadecimalExpected => "did not find expected hexdecimal number"
  | characterCodeExpected => "found invalid Unicode character escape code"
  | colonFound => "found unexpected ':'"
  | documentStartExpected => "did not find expected <document start>"
  | repeatedVersion => "found duplicate %YAML directive"
  | unsupportedVersion => "found incompatible YAML document"
  | repeatedTagHandle => "found duplicate %TAG directive"
  | unknownTagHandle => "found undefined tag handle"
  | nodeExpected => "did not find expected node content"
  | blockEntryExpected => "did not find expected '-' indicator"
  | blockKeyExpected => "did not find expected key"
  | sequenceEndExpected => "did not find expected ',' or ']'"
  | mappingEndExpected => "did not find expected ',' or '\x7d'"

/-- A problem, where it is, and what was going on. -/
structure SyntaxError where
  problem : Problem
  mark : Mark
  activity : Option Activity
  deriving DecidableEq, Repr

/-- The text that reports an ill-formed text. Where the activity began is not repeated. -/
def SyntaxError.message (error : SyntaxError) : String :=
  error.problem.text ++ error.mark.reported ++
    match error.activity with
    | none => ""
    | some activity =>
      ", while " ++ activity.reading.text ++ " " ++ activity.construct.text ++
        if activity.start = error.mark then "" else activity.start.reported

/-! ## Values that are not what was asked for -/

/-- What was found. -/
inductive Found where
  | unit
  | boolean (value : Bool)
  | integer (value : Int)
  /-- An integer that does not fit into 64 bits. -/
  | wideInteger (value : Int)
  /-- A floating-point number, as it is written without an exponent. -/
  | float (digits : String)
  | text (value : String)
  | sequence
  | mapping
  deriving DecidableEq, Repr

/-- What a report calls something that was found. -/
def Found.report : Found → String
  | unit => "unit value"
  | boolean value => "boolean \x60" ++ (if value then "true" else "false") ++ "\x60"
  | integer value => "integer \x60" ++ toString value ++ "\x60"
  | wideInteger value =>
    "integer \x60" ++ toString value ++ "\x60 as " ++ (if value < 0 then "i128" else "u128")
  | float digits => "floating point \x60" ++ digits ++ "\x60"
  | text value => "string " ++ Quoted.quote value
  | sequence => "sequence"
  | mapping => "map"

/-- Why a value is refused. -/
inductive Mismatch where
  /-- It is of another type. -/
  | type (found : Found) (expected : String)
  /-- It is of the type, but not one of its values. -/
  | value (found : Found) (expected : String)
  /-- A field that is there twice. -/
  | repeatedField (name : String)
  deriving DecidableEq, Repr

/-- The text that reports a mismatch. -/
def Mismatch.text : Mismatch → String
  | type found expected => "invalid type: " ++ found.report ++ ", expected " ++ expected
  | value found expected => "invalid value: " ++ found.report ++ ", expected " ++ expected
  | repeatedField name => "duplicate field \x60" ++ name ++ "\x60"

/-- Where a mismatch is: the names of the fields that lead to it, and its place. -/
structure Spot where
  path : List String
  mark : Mark
  deriving DecidableEq, Repr

/-! ## Errors -/

/-- Why a text is refused. -/
inductive YamlError where
  /-- A character that may not stand in a text, so many bytes after its beginning. -/
  | controlCharacter (index : Nat)
  | illFormed (error : SyntaxError)
  /-- An alias for an anchor that was not met. -/
  | unknownAnchor (mark : Mark)
  | mismatch (reason : Mismatch) (spot : Option Spot)
  | severalDocuments
  deriving DecidableEq, Repr

namespace YamlError

/-- An error in something that is at a spot, which has no spot of its own further inside. -/
def within (path : List String) (mark : Mark) : YamlError → YamlError
  | mismatch reason none => mismatch reason (some ⟨path, mark⟩)
  | error => error

/-- The text that reports an error. -/
def message : YamlError → String
  | controlCharacter index =>
    "control characters are not allowed" ++
      if index = 0 then "" else " at position " ++ toString index
  | illFormed error => error.message
  | unknownAnchor mark => "unknown anchor" ++ mark.reported
  | mismatch reason none => reason.text
  | mismatch reason (some spot) =>
    (if spot.path = [] then "" else ".".intercalate spot.path ++ ": ") ++ reason.text ++
      spot.mark.reported
  | severalDocuments =>
    "deserializing from YAML containing more than one document is not supported"

end YamlError

end DocumentCursor.Yaml
