import DocumentCursor.Settings.Environment
import DocumentCursor.Settings.Files
import DocumentCursor.Yaml.Typed

/-! # Loading settings

The environment names a file, whose settings lie over the defaults, and gives settings that lie over
those. What results must be valid.

Main definitions:

* `Layer.ofYaml` finds the settings that a text gives;
* `Settings.ofFile` and `Settings.load`.
-/

namespace DocumentCursor

open Net Yaml

namespace Layer

/-- The fields of the settings of sockets, under `socket`. -/
def socketFields : List (FieldReader Layer) := [
  .of "connect_timeout_ms" (.number "u64" (UInt64.size - 1))
    fun layer n => { layer with connectTimeoutMs := some (.ofNat n) },
  .of "read_timeout_ms" (.number "u64" (UInt64.size - 1))
    fun layer n => { layer with readTimeoutMs := some (.ofNat n) },
  .of "keep_alive" .bool fun layer keep => { layer with keepAlive := some keep },
  .of "receive_buffer_size" (.number "u32" (UInt32.size - 1))
    fun layer n => { layer with receiveBufferSize := some (.ofNat n) },
  .of "send_buffer_size" (.number "u32" (UInt32.size - 1))
    fun layer n => { layer with sendBufferSize := some (.ofNat n) }]

/-- The fields of the settings of TLS, under `ssl`. -/
def tlsFields : List (FieldReader Layer) := [
  .of "enabled" .bool fun layer enabled => { layer with tlsEnabled := some enabled },
  .of "ca_cert_path" (.optional (.text "path string"))
    fun layer path => { layer with caCertPath := path },
  .of "client_cert_path" (.optional (.text "path string"))
    fun layer path => { layer with clientCertPath := path },
  .of "client_key_path" (.optional (.text "path string"))
    fun layer path => { layer with clientKeyPath := path },
  .of "server_name" (.optional (.text "a string"))
    fun layer name => { layer with serverName := name }]

/-- The fields of settings. A field that is none of them is skipped. -/
def fields : List (FieldReader Layer) := [
  .of "host" (.text "a string") fun layer host => { layer with host := some host },
  .of "port" (.number "u16" (UInt16.size - 1))
    fun layer n => { layer with port := some (.ofNat n) },
  .nested "socket" "struct SocketSettings" socketFields,
  .nested "ssl" "struct SslSettings" tlsFields]

/-- The settings that a text gives; an empty one gives none. A text that is no tree, or has a value
of a wrong type, is refused. -/
def ofYaml (text : String) : Except YamlError Layer := do
  match ← Tree.ofText text.toList with
  | some tree =>
    let layer ← Reader.fields "struct TransportConfig" fields tree [] tree.root {}
    tree.check
    return layer
  | none => return {}

end Layer

namespace Settings

/-- The settings that a file gives, or `unreadable` or `illFormed` with its path. -/
def fileLayer (files : Files) (path : String) : Except SettingsError Layer := do
  let text ← (files.text path).mapError (.unreadable path)
  (Layer.ofYaml text).mapError fun error => .illFormed path error.message

/-- The settings of a file over the defaults, whether or not they are valid. -/
def ofFile (files : Files) (path : String) : Except SettingsError Settings :=
  (fileLayer files path).map fun layer => layer.over {}

/-- The settings of the environment, over those of the file that `DOCWIRE_CONFIG` names, over the
defaults. Only what comes of all three is validated. -/
def load (environment : Environment) (files : Files) : Except SettingsError Settings := do
  let below ← match environment.get? Environment.fileName with
    | some path => ofFile files path
    | none => pure {}
  let settings := environment.layer.over below
  settings.validate
  return settings

end Settings

end DocumentCursor
