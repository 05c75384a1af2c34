import DocumentCursor.Settings.Basic
import DocumentCursor.Text.Numeral

/-! # Settings of the environment

Each setting has a variable of its own. A number that cannot be read leaves its setting as it is; a
truth value is true when it is `1` or the word `true` in any case, and false otherwise; a text is
taken as it is. A variable that is no text counts as one that is not set.

Main definitions:

* `Environment` and `Environment.get?`;
* `Environment.layer`.
-/

namespace DocumentCursor

open Text

/-- The values of variables, as bytes. Of two with the same name the first is the one that is
set. -/
abbrev Environment := List (String × ByteArray)

namespace Environment

/-- The value of a variable that is set to a text. Bytes that are no UTF-8 are as good as
nothing. -/
def get? (environment : Environment) (name : String) : Option String :=
  (environment.lookup name).bind String.fromUTF8?

/-- The value of a variable that is set to a number in range, a numeral of at most `bound`. -/
def number? (environment : Environment) (bound : Nat) (name : String) : Option Nat :=
  (environment.get? name).bind fun text => Numeral.read? bound text.toList

/-- Whether a text says yes: `1`, or `true` in any case. Every other text says no. -/
def isTrue (text : String) : Bool := text = "1" || text.toLower = "true"

/-- The variables that give settings. -/
def names : List String := ["DOCWIRE_HOST", "DOCWIRE_PORT", "DOCWIRE_CONNECT_TIMEOUT_MS",
  "DOCWIRE_READ_TIMEOUT_MS", "DOCWIRE_KEEP_ALIVE", "DOCWIRE_RECV_BUFFER", "DOCWIRE_SEND_BUFFER",
  "DOCWIRE_TLS_ENABLED", "DOCWIRE_TLS_CA", "DOCWIRE_TLS_CERT", "DOCWIRE_TLS_KEY",
  "DOCWIRE_TLS_SERVER_NAME"]

/-- The variable that names a file of settings, `DOCWIRE_CONFIG`. -/
def fileName : String := "DOCWIRE_CONFIG"

/-- The settings that variables give. A variable that is missing, or whose text cannot be read,
gives none. -/
def layer (environment : Environment) : Layer where
  host := environment.get? "DOCWIRE_HOST"
  port := (environment.number? 65535 "DOCWIRE_PORT").map UInt16.ofNat
  connectTimeoutMs :=
    (environment.number? (UInt64.size - 1) "DOCWIRE_CONNECT_TIMEOUT_MS").map UInt64.ofNat
  readTimeoutMs :=
    (environment.number? (UInt64.size - 1) "DOCWIRE_READ_TIMEOUT_MS").map UInt64.ofNat
  keepAlive := (environment.get? "DOCWIRE_KEEP_ALIVE").map isTrue
  receiveBufferSize :=
    (environment.number? (UInt32.size - 1) "DOCWIRE_RECV_BUFFER").map UInt32.ofNat
  sendBufferSize := (environment.number? (UInt32.size - 1) "DOCWIRE_SEND_BUFFER").map UInt32.ofNat
  tlsEnabled := (environment.get? "DOCWIRE_TLS_ENABLED").map isTrue
  caCertPath := environment.get? "DOCWIRE_TLS_CA"
  clientCertPath := environment.get? "DOCWIRE_TLS_CERT"
  clientKeyPath := environment.get? "DOCWIRE_TLS_KEY"
  serverName := environment.get? "DOCWIRE_TLS_SERVER_NAME"

end Environment

end DocumentCursor
