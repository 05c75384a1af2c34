import DocumentCursor.Net.Ip
import DocumentCursor.Net.SystemError
import DocumentCursor.ProtocolError

/-! # Server addresses

A server is named by a host and a port. In text the host is a name or a version 4 address, or stands
in brackets, as a version 6 address must; the port follows a colon and may be left out.

An address may carry pinned candidates, which are then tried instead of resolving its host.

Main definitions:

* `Address.read?` and `Address.parse` read the text form;
* `Address.text` writes it;
* `Address.socketAddresses` lists what to connect to.
-/

namespace DocumentCursor.Net

open Text

/-- The port where a server names none, `27017`. -/
def defaultPort : UInt16 := 27017

/-- A server, with the socket addresses that stand in for its host when they are pinned. `text`
shows none of `candidates`. -/
structure Address where
  host : String
  port : UInt16
  candidates : Option (List SocketAddress) := none
  deriving DecidableEq, Repr

namespace Address

/-- The server that is meant when none is named. -/
def localhost : Address := ⟨"localhost", defaultPort, none⟩

instance : Inhabited Address := ⟨localhost⟩

/-! ## Reading -/

/-- Reads a port: a numeral of at most `65535`, perhaps with a plus sign and zeros. -/
def port? (text : List Char) : Option UInt16 :=
  (Numeral.read? 65535 text).map UInt16.ofNat

/-- The port that follows a host in brackets: `defaultPort` when the text ends there. -/
def portAfter? : List Char → Option UInt16
  | [] => some defaultPort
  | ':' :: port => port? port
  | _ => none

/-- Reads a host and a port. A host in brackets goes up to the first `']'`, any other one up to the
first colon. -/
def read? : List Char → Option (List Char × UInt16)
  | [] => none
  | '[' :: rest =>
    match rest.dropWhile (· ≠ ']') with
    | [] => none
    | _ :: after => (portAfter? after).map fun port => (rest.takeWhile (· ≠ ']'), port)
  | text =>
    match text.dropWhile (· ≠ ':') with
    | [] => some (text, defaultPort)
    | _ :: port =>
      if text.head? = some ':' then none
      else (port? port).map fun port => (text.takeWhile (· ≠ ':'), port)

/-- Reads the text form of an address; a refused text is reported as it is, by `.invalidAddress`. -/
def parse (text : String) : Except ProtocolError Address :=
  match read? text.toList with
  | some (host, port) => .ok ⟨String.ofList host, port, none⟩
  | none => .error (.invalidAddress text)

/-! ## Writing -/

/-- The host as it stands before the port: in brackets when it holds a colon, unless it begins with
a bracket already. -/
def hostText (host : List Char) : List Char :=
  if ':' ∈ host ∧ host.head? ≠ some '[' then '[' :: host ++ [']'] else host

/-- The text form of a host and a port: `hostText host`, a colon and the port. -/
def written (host : List Char) (port : UInt16) : List Char :=
  hostText host ++ ':' :: digitsText port.toNat

/-- The text form of an address. -/
def text (address : Address) : String :=
  String.ofList (written address.host.toList address.port)

instance : ToString Address := ⟨text⟩

/-- The address of a socket, pinned to it: its only candidate is the socket itself. -/
def ofSocket (socket : SocketAddress) : Address :=
  ⟨socket.ip.text, socket.port, some [socket]⟩

/-! ## Resolving -/

/-- A host without the brackets at its ends, however many there are. -/
def bareHost (host : List Char) : List Char :=
  ((host.dropWhile (· == '[')).reverse.dropWhile (· == ']')).reverse

/-- What to connect to: the pinned candidates, else the address that the host is, else what the
given name service answers. A host with a NUL cannot be asked for, so `lookup` is not asked. -/
def socketAddresses (address : Address)
    (lookup : List Char → UInt16 → Except SystemError (List SocketAddress)) :
    Except SystemError (List SocketAddress) :=
  match address.candidates with
  | some candidates => .ok candidates
  | none =>
    let host := bareHost address.host.toList
    match Ip.read? host with
    | some ip => .ok [⟨ip, address.port, 0⟩]
    | none => if '\x00' ∈ host then .error .nulInName else lookup host address.port

end Address

end DocumentCursor.Net
