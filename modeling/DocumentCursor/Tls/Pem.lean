import DocumentCursor.Text.Encoding
import DocumentCursor.Text.Quoted
import DocumentCursor.Tls.Base64

/-! # Sections of PEM files

A PEM file holds sections between a line that begins one with a label and a line that ends the one
of that label; other lines do not matter. What is in a section is written in base 64. Sections of
unknown labels are passed over.

Main definitions:

* `Pem.Section` and `PemError`;
* `Pem.sections` finds the well-formed sections in front of the first ill-formed one;
* `Pem.certificates` and `Pem.privateKey?`.
-/

namespace DocumentCursor.Tls

/-- Why a PEM file is refused. -/
inductive PemError where
  | content (error : Base64Error)
  /-- The file ends within a section. -/
  | missingSectionEnd (label : String)
  | illegalSectionStart (line : String)
  deriving DecidableEq, Repr

/-- The text that reports an error. -/
def PemError.message : PemError → String
  | content error => error.message
  | missingSectionEnd label => "section end " ++ Text.Quoted.quote label ++ " missing"
  | illegalSectionStart line => "illegal section start: " ++ Text.Quoted.quote line

/-- The structure that a private key is written in. -/
inductive KeyFormat where
  /-- The parts of an RSA key. -/
  | rsa
  /-- A number for an elliptic curve. -/
  | ellipticCurve
  /-- A key of any sort, which is named. -/
  | general
  deriving DecidableEq, Repr

namespace Pem

/-- What a section holds. -/
inductive Kind where
  | certificate
  | privateKey (format : KeyFormat)
  /-- Something that is known but not asked for. -/
  | other
  deriving DecidableEq, Repr

/-- The known labels. -/
def labels : List (String × Kind) := [
  ("CERTIFICATE", .certificate), ("PRIVATE KEY", .privateKey .general),
  ("RSA PRIVATE KEY", .privateKey .rsa), ("EC PRIVATE KEY", .privateKey .ellipticCurve),
  ("PUBLIC KEY", .other), ("X509 CRL", .other), ("CERTIFICATE REQUEST", .other),
  ("ECHCONFIG", .other)]

/-- A section. -/
structure Section where
  kind : Kind
  content : List UInt8
  deriving DecidableEq, Repr

/-- The lines of a file, each with its end. -/
def lines : List UInt8 → List (List UInt8)
  | [] => []
  | byte :: rest =>
    if byte = 10 ∨ byte = 13 then [byte] :: lines rest
    else match lines rest with
      | [] => [[byte]]
      | line :: more => (byte :: line) :: more

/-- The beginning of a line that begins a section. -/
def startMark : List UInt8 := "-----BEGIN ".toUTF8.toList

/-- The line that ends the section of a label. -/
def endMark (label : List UInt8) : List UInt8 :=
  "-----END ".toUTF8.toList ++ label ++ "-----".toUTF8.toList

/-- The dash. -/
def dash : UInt8 := 45

/-- The label of a line that begins a section: it ends with five dashes, which may have blanks and
line ends among and after them. -/
def label? (line : List UInt8) : Option (List UInt8) :=
  let tail := (line.reverse.takeWhile fun byte => byte = dash || byte ∈ [10, 13, 32]).reverse
  let trailer := tail.dropWhile (· ≠ dash)
  if (tail.filter (· = dash)).length = 5 then
    some ((line.take (line.length - trailer.length)).drop startMark.length)
  else none

/-- The sections in lines, where a section has begun if its label is given, with what it holds so
far. -/
def sectionsFrom : Option (List UInt8) → List UInt8 → List (List UInt8) →
    List (Except PemError Section)
  | none, _, [] => []
  | some label, _, [] => [.error (.missingSectionEnd (Text.Encoding.text label))]
  | label, content, line :: lines =>
    if startMark.isPrefixOf line then
      match label? line with
      | some label => sectionsFrom (some label) content lines
      | none => [.error (.illegalSectionStart (Text.Encoding.text line))]
    else
      match label with
      | none => sectionsFrom none content lines
      | some label =>
        if (endMark label).isPrefixOf line then
          match labels.lookup (Text.Encoding.text label) with
          | none => sectionsFrom none [] lines
          | some kind =>
            match Base64.decode content with
            | .ok content => .ok ⟨kind, content⟩ :: sectionsFrom none [] lines
            | .error error => [.error (.content error)]
        else sectionsFrom (some label) (content ++ line) lines

/-- The sections of a file, up to the first ill-formed one. -/
def sections (file : List UInt8) : List (Except PemError Section) :=
  sectionsFrom none [] (lines file)

/-- The certificates of a file. -/
def certificates (file : List UInt8) : Except PemError (List (List UInt8)) := do
  let sections ← (sections file).mapM id
  return (sections.filter (·.kind = .certificate)).map (·.content)

/-- The private key of a file, if there is one; what follows the first one does not matter. -/
def privateKey? (file : List UInt8) : Except PemError (Option (KeyFormat × List UInt8)) :=
  (sections file).findSome? (fun
    | .error error => some (.error error)
    | .ok ⟨.privateKey format, content⟩ => some (.ok (some (format, content)))
    | .ok _ => none) |>.getD (.ok none)

end Pem

end DocumentCursor.Tls
