/-! # Text on a terminal

A terminal obeys control characters and the sequences that an escape character begins. A text that
somebody else has chosen must not command the terminal that it is shown on: either what a terminal
would obey is left out of it, or the characters that may begin a command are written by number.

A sequence goes on up to a character that ends its sort, and any other escape character begins the
next one. White space within a sequence is shown, and so is what follows it up to the next control
character, where the sequence goes on.

Main definitions:

* `Terminal.visible` leaves out what a terminal obeys;
* `Terminal.harmless` writes it by number.
-/

namespace DocumentCursor.Text.Terminal

/-- Whether a character is an ASCII control that moves the place of writing as blanks do. -/
def isSpacing (c : Char) : Bool := c ∈ ['\t', '\n', '\x0c', '\r']

/-- Whether a character outside of any sequence is shown. -/
def isShown (c : Char) : Bool := (' ' ≤ c && c ≠ '\x7f') || isSpacing c

/-! ## Sequences -/

/-- What a character is part of. -/
inductive Sequence where
  | none
  /-- After an escape character. -/
  | escape
  /-- After an escape character and blanks or punctuation. -/
  | designation
  /-- A function with its parameters. -/
  | function
  /-- A command that a bell ends. -/
  | command
  /-- A string that only another sequence ends. -/
  | string
  deriving DecidableEq, Repr

namespace Sequence

/-- What the character after the escape character begins. -/
def begun (c : Char) : Sequence :=
  if c = '[' then function
  else if c = ']' then command
  else if c ∈ ['P', 'X', '^', '_'] then string
  else if ' ' ≤ c ∧ c ≤ '/' then designation
  else if '0' ≤ c ∧ c ≤ '~' then none
  else escape

/-- What follows a character. -/
def after (c : Char) (sequence : Sequence) : Sequence :=
  if c = '\x1b' then escape
  else if c = '\x18' ∨ c = '\x1a' then none
  else match sequence with
    | none => none
    | escape => begun c
    | designation => if '0' ≤ c ∧ c ≤ '~' then none else designation
    | function => if '@' ≤ c ∧ c ≤ '~' then none else function
    | command => if c = '\x07' then none else command
    | string => string

/-- Whether a character is shown. -/
def shows (c : Char) : Sequence → Bool
  | none => isShown c
  | escape | designation | function => isSpacing c
  | command | string => false

end Sequence

/-- The characters of a text that are shown, after what it follows. Once one is shown, so are those
after it, as if there were no sequence. -/
def visibleFrom : Sequence → Bool → List Char → List Char
  | _, _, [] => []
  | sequence, showing, c :: rest =>
    if showing && isShown c then
      c :: visibleFrom (if c.toNat < 0x80 then sequence else .none) true rest
    else if sequence.shows c then c :: visibleFrom (sequence.after c) true rest
    else visibleFrom (sequence.after c) false rest

/-- A text without control characters, white space apart, and without sequences. -/
def visible (text : List Char) : List Char := visibleFrom .none false text

/-! ## Numbers -/

/-- A number in hexadecimal, with two digits at least. -/
def twoDigits (n : Nat) : List Char :=
  let digits := Nat.toDigits 16 n
  List.replicate (2 - digits.length) '0' ++ digits

/-- A character as it may be shown: by number if it is one that terminals obey. -/
def number (c : Char) : List Char :=
  if c ∈ ['\x07', '\x08', '\x0c', '\x1b', '\x7f'] then '\\' :: 'x' :: twoDigits c.toNat
  else if '\x80' ≤ c ∧ c ≤ '\x9f' then
    '\\' :: 'u' :: '\x7b' :: Nat.toDigits 16 c.toNat ++ ['\x7d']
  else [c]

/-- A text with the characters that terminals obey by number; line ends, tabs and the other controls
stay. -/
def harmless (text : String) : String := String.ofList (text.toList.flatMap number)

end DocumentCursor.Text.Terminal
