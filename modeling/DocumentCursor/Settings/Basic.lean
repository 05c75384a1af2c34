import DocumentCursor.Net.Address

/-! # Settings

How to reach a server: its host and port, the options of its sockets, and whether and how to use
TLS. Settings are put together from layers, each of which gives some of them: what a layer gives
replaces what was there before.

Main definitions:

* `SocketSettings`, `TlsSettings` and `Settings`, with their defaults;
* `Settings.validate` and `SettingsError`;
* `Layer` and `Layer.over`.
-/

namespace DocumentCursor

open Net

/-- Why settings could not be loaded: a file could not be read or is no settings, or they are not
valid. -/
inductive SettingsError where
  | unreadable (path : String) (source : SystemError)
  | illFormed (path : String) (reason : String)
  | invalid (reason : String)
  deriving DecidableEq, Repr

/-- The text that reports an error. -/
def SettingsError.message : SettingsError → String
  | unreadable path source => "failed to read config file '" ++ path ++ "': " ++ source.message
  | illFormed path reason => "failed to parse config file '" ++ path ++ "': " ++ reason
  | invalid reason => "configuration validation failed: " ++ reason

/-- The name of a kind of error. -/
def SettingsError.name : SettingsError → String
  | unreadable .. => "IoError"
  | illFormed .. => "ParseError"
  | invalid _ => "ValidationError"

/-! ## Sockets -/

/-- The options of every connection attempt. Times are in milliseconds, of which zero means no
limit, and a buffer size of zero leaves the size to the system. -/
structure SocketSettings where
  connectTimeoutMs : UInt64 := 10000
  readTimeoutMs : UInt64 := 0
  keepAlive : Bool := true
  receiveBufferSize : UInt32 := 0
  sendBufferSize : UInt32 := 0
  deriving DecidableEq, Repr, Inhabited

namespace SocketSettings

/-- A time in whole milliseconds; what does not fit 64 bits wraps. -/
def milliseconds (seconds nanoseconds : Nat) : UInt64 :=
  UInt64.ofNat (seconds * 1000 + nanoseconds / 1000000)

/-- A time limit in milliseconds, if there is one: `0` stands for none. -/
def limit? (ms : UInt64) : Option UInt64 := if ms = 0 then none else some ms

/-- How long connecting may take, by `connectTimeoutMs`. -/
def connectTimeout? (settings : SocketSettings) : Option UInt64 := limit? settings.connectTimeoutMs

/-- How long a read may wait, by `readTimeoutMs`. -/
def readTimeout? (settings : SocketSettings) : Option UInt64 := limit? settings.readTimeoutMs

end SocketSettings

/-! ## TLS -/

/-- Whether and how to use TLS. The paths and the name are of no consequence unless it is
`enabled`. -/
structure TlsSettings where
  enabled : Bool := false
  /-- The file with the certificates that vouch for the server. -/
  caCertPath : Option String := none
  clientCertPath : Option String := none
  clientKeyPath : Option String := none
  /-- The name that the server must have, if it is not that of the host. -/
  serverName : Option String := none
  deriving DecidableEq, Repr, Inhabited

namespace TlsSettings

/-- Trusts the certificates of a file, over TLS. -/
def withCaCert (settings : TlsSettings) (path : String) : TlsSettings :=
  { settings with caCertPath := some path, enabled := true }

/-- Shows a certificate of its own, over TLS. -/
def withClientCert (settings : TlsSettings) (cert key : String) : TlsSettings :=
  { settings with clientCertPath := some cert, clientKeyPath := some key, enabled := true }

/-- Expects a name of the server. -/
def withServerName (settings : TlsSettings) (name : String) : TlsSettings :=
  { settings with serverName := some name }

/-- With TLS a certificate of its own needs its key and the other way round: `clientCertPath` and
`clientKeyPath` are both there or both missing. -/
def validate (settings : TlsSettings) : Except SettingsError Unit :=
  if settings.enabled && settings.clientCertPath.isSome != settings.clientKeyPath.isSome then
    .error (.invalid "client_cert_path and client_key_path must be set together")
  else .ok ()

end TlsSettings

/-! ## All settings -/

/-- How to reach a server. The settings of `{}` are the defaults, which are valid. -/
structure Settings where
  host : String := "localhost"
  port : UInt16 := defaultPort
  socket : SocketSettings := {}
  tls : TlsSettings := {}
  deriving DecidableEq, Repr, Inhabited

namespace Settings

/-- The host must be named, and the TLS settings must be valid. Only the first of both is
reported. -/
def validate (settings : Settings) : Except SettingsError Unit :=
  if settings.host = "" then .error (.invalid "host is empty") else settings.tls.validate

/-- The server that is meant. -/
def address (settings : Settings) : Address := ⟨settings.host, settings.port, none⟩

end Settings

/-! ## Layers -/

/-- Some of the settings, each of which may be missing. Layers are put over each other by
`Layer.over`. -/
structure Layer where
  host : Option String := none
  port : Option UInt16 := none
  connectTimeoutMs : Option UInt64 := none
  readTimeoutMs : Option UInt64 := none
  keepAlive : Option Bool := none
  receiveBufferSize : Option UInt32 := none
  sendBufferSize : Option UInt32 := none
  tlsEnabled : Option Bool := none
  caCertPath : Option String := none
  clientCertPath : Option String := none
  clientKeyPath : Option String := none
  serverName : Option String := none
  deriving DecidableEq, Repr, Inhabited

/-- The settings of a layer, and below it the given ones: field by field the one of the layer, if it
gives one. -/
def Layer.over (layer : Layer) (below : Settings) : Settings where
  host := layer.host.getD below.host
  port := layer.port.getD below.port
  socket := {
    connectTimeoutMs := layer.connectTimeoutMs.getD below.socket.connectTimeoutMs
    readTimeoutMs := layer.readTimeoutMs.getD below.socket.readTimeoutMs
    keepAlive := layer.keepAlive.getD below.socket.keepAlive
    receiveBufferSize := layer.receiveBufferSize.getD below.socket.receiveBufferSize
    sendBufferSize := layer.sendBufferSize.getD below.socket.sendBufferSize }
  tls := {
    enabled := layer.tlsEnabled.getD below.tls.enabled
    caCertPath := layer.caCertPath.or below.tls.caCertPath
    clientCertPath := layer.clientCertPath.or below.tls.clientCertPath
    clientKeyPath := layer.clientKeyPath.or below.tls.clientKeyPath
    serverName := layer.serverName.or below.tls.serverName }

/-- A layer that gives nothing changes nothing: `over {} below = below`. -/
@[simp] theorem Layer.empty_over (below : Settings) : Layer.over {} below = below := by
  cases below
  simp [Layer.over]

end DocumentCursor
