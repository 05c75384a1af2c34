import DocumentCursor.Text.Unprintable

/-! # Quoted text

Text as it appears inside error messages: between double quotes, with the quote and the backslash
escaped, the four common controls in their short form, and every other unprintable character by its
code point in hexadecimal.

Main definitions:

* `Quoted.escape` writes one character;
* `Quoted.quote` writes a whole text.
-/

namespace DocumentCursor.Text.Quoted

/-- How one character is written between the quotes. -/
def escape (c : Char) : List Char :=
  if c = '\x00' then ['\\', '0']
  else if c = '\t' then ['\\', 't']
  else if c = '\r' then ['\\', 'r']
  else if c = '\n' then ['\\', 'n']
  else if c = '\\' then ['\\', '\\']
  else if c = '"' then ['\\', '"']
  else if isUnprintable c then
    '\\' :: 'u' :: '\x7b' :: Nat.toDigits 16 c.toNat ++ ['\x7d']
  else [c]

/-- The text between double quotes. -/
def quote (text : String) : String :=
  String.ofList ('"' :: text.toList.flatMap escape ++ ['"'])

/-- A quote inside the text is preceded by a backslash. -/
@[simp] theorem escape_quote : escape '"' = ['\\', '"'] := by decide

/-- A backslash inside the text is doubled. -/
@[simp] theorem escape_backslash : escape '\\' = ['\\', '\\'] := by decide

end DocumentCursor.Text.Quoted
