import DocumentCursor.Net.Ip
import DocumentCursor.Settings.Basic
import DocumentCursor.Stream.Error

/-! # Names of TLS servers

A server proves to have a name, which is either a host name or an address. A host name is made of
labels between dots, one more of which may end it. A label has one to 63 letters, digits, hyphens
and underscores, all of them ASCII, and does not begin or end with a hyphen; the last label is not a
number; and the name has at most 253 characters. It is kept as it is written.

Main definitions:

* `ServerName.read?` and `ServerName.text`;
* `ServerName.expected` is the name that settings ask for.
-/

namespace DocumentCursor.Tls

open Net Text

/-- The name of a server. -/
inductive ServerName where
  | host (name : String)
  | address (ip : Ip)
  deriving DecidableEq, Repr

namespace ServerName

/-- The most characters of a label, and of a name. -/
def maxLabelLength : Nat := 63
def maxNameLength : Nat := 253

/-- Whether a character may stand in a label. -/
def isLabelChar (c : Char) : Bool := c.isAlphanum || c = '-' || c = '_'

/-- Whether a text is a label of a host name. -/
def isLabel (label : List Char) : Bool :=
  label ≠ [] && label.length ≤ maxLabelLength && label.all isLabelChar &&
    label.head? ≠ some '-' && label.getLast? ≠ some '-'

/-- The labels of a name, without the dot that may end it. -/
def labels (name : List Char) : List (List Char) :=
  let pieces := cut '.' name
  if pieces.getLast? = some [] && 1 < pieces.length then pieces.dropLast else pieces

/-- Whether a text is a host name. -/
def isHostName (name : List Char) : Bool :=
  name.length ≤ maxNameLength && (labels name).all isLabel &&
    !((labels name).getLast?.any fun label => label.all Char.isDigit)

/-- Reads a host name or an address. -/
def read? (text : String) : Option ServerName :=
  if isHostName text.toList then some (host text) else (Ip.read? text.toList).map address

/-- The text of a name. -/
def text : ServerName → String
  | host name => name
  | address ip => ip.text

/-- The name that the settings ask for, else that of the host. -/
def expected (settings : TlsSettings) (host : String) : Except TransportError ServerName :=
  let name := settings.serverName.getD host
  match read? name with
  | some name => .ok name
  | none => .error (.tlsConfig ("invalid server name: " ++ name))

end ServerName

end DocumentCursor.Tls
