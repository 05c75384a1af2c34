import DocumentCursor.Proofs.Numerals
import DocumentCursor.Proofs.FallibleSteps
import DocumentCursor.Settings.Load

/-! # Settings in layers

Every setting has a variable of its own. Where that holds a text that means a value of the setting,
this is its value; otherwise it is what the file gives, or the default where the file gives nothing.
So no variable matters for any other setting. What results must be valid, and whether it is does not
show before all layers lie over each other.

A variable holds bytes, and only those of a text are looked at. One that holds others, such as the
single byte `0xFF`, is taken as one that is not set: the lower layer stays, and no file is named.

* **`Setting`**: what can be set, with its variable and what the text of a variable means for it.
* **`Gets`**: the value that a setting gets from the environment, a file and the defaults.
* **`gets_iff`**: it is the one that the layers come to.
* **`FileGives`**: the layer or the failure that comes of the file.
* **`load_layered`**: what loading settings comes to, of which **`load_ignores_bytes`** is the part
  about bytes of no text.
-/

namespace DocumentCursor

open Net Text Yaml

/-! ## Variables -/

namespace Environment

variable {environment : Environment} {name text : String}

/-- **A variable is set to a text**: it holds the bytes `text.toUTF8`. A variable that holds bytes
of no text is not set to any, so that for all that follows it is as one that is not there. -/
def Sets (environment : Environment) (name text : String) : Prop :=
  environment.lookup name = some text.toUTF8

/-- `String.fromUTF8? bytes = some text` exactly if `bytes` are those of `text`: the bytes of a text
are those of no other. -/
theorem fromUTF8?_eq_some_iff {bytes : ByteArray} {text : String} :
    String.fromUTF8? bytes = some text ↔ bytes = text.toUTF8 := by
  unfold String.fromUTF8?
  constructor
  · intro read
    split at read
    · obtain rfl := Option.some.inj read
      rfl
    · cases read
  · rintro rfl
    exact dif_pos text.isValidUTF8

/-- `environment.get? name = some text` exactly if the variable is set to `text`; bytes of no text
are read as nothing. -/
theorem get?_eq_some_iff : environment.get? name = some text ↔ environment.Sets name text := by
  rw [get?, Option.bind_eq_some_iff]
  constructor
  · rintro ⟨bytes, held, read⟩
    rw [Sets, held, fromUTF8?_eq_some_iff.mp read]
  · intro sets
    exact ⟨_, sets, fromUTF8?_eq_some_iff.mpr rfl⟩

/-- **A text says yes** if it is the digit one or the word, in capital letters or small ones. -/
def SaysYes (text : String) : Prop :=
  text = "1" ∨ ∃ t ∈ ['t', 'T'], ∃ r ∈ ['r', 'R'], ∃ u ∈ ['u', 'U'], ∃ e ∈ ['e', 'E'],
    text.toList = [t, r, u, e]

/-- The code point of `c.toLower`: the capital letters, `65` to `90`, are moved by `32`, and nothing
else is. -/
theorem toNat_toLower (c : Char) :
    c.toLower.toNat = if 65 ≤ c.toNat ∧ c.toNat ≤ 90 then c.toNat + 32 else c.toNat := by
  have ends : 'A'.val.toNat = 65 ∧ 'Z'.val.toNat = 90 ∧ ('a'.val - 'A'.val).toNat = 32 := by decide
  unfold Char.toLower
  simp only [ge_iff_le, UInt32.le_iff_toNat_le, ends, Char.toNat_val]
  split
  · rename_i capital
    have shifted : (c.val + ('a'.val - 'A'.val)).toNat = c.toNat + 32 := by
      rw [UInt32.toNat_add, ends.2.2, Char.toNat_val]
      omega
    exact shifted
  · rfl

/-- `c.toLower = small` only for the small letter itself and its capital, which lies `32` below it.
-/
theorem toLower_eq_iff {c small capital : Char} (h : 65 ≤ capital.toNat ∧ capital.toNat ≤ 90)
    (same : small.toNat = capital.toNat + 32) : c.toLower = small ↔ c ∈ [small, capital] := by
  rw [List.mem_cons, List.mem_singleton, ← Char.toNat_inj, ← Char.toNat_inj, ← Char.toNat_inj,
    toNat_toLower]
  split <;> omega

/-- `isTrue text` holds of the texts that say yes: the digit `1` and the sixteen spellings of
`true`. -/
theorem isTrue_iff : isTrue text = true ↔ SaysYes text := by
  have lower : text.toLower.toList = text.toList.map Char.toLower := String.toList_map
  have word : text.toLower = "true" ↔ text.toList.map Char.toLower = ['t', 'r', 'u', 'e'] := by
    rw [← lower, ← String.toList_inj]
    rfl
  have t (c : Char) : c.toLower = 't' ↔ c ∈ ['t', 'T'] := toLower_eq_iff (by decide) (by decide)
  have r (c : Char) : c.toLower = 'r' ↔ c ∈ ['r', 'R'] := toLower_eq_iff (by decide) (by decide)
  have u (c : Char) : c.toLower = 'u' ↔ c ∈ ['u', 'U'] := toLower_eq_iff (by decide) (by decide)
  have e (c : Char) : c.toLower = 'e' ↔ c ∈ ['e', 'E'] := toLower_eq_iff (by decide) (by decide)
  rw [isTrue, Bool.or_eq_true, decide_eq_true_eq, decide_eq_true_eq, SaysYes, word]
  refine or_congr Iff.rfl ?_
  simp only [List.map_eq_cons_iff, List.map_eq_nil_iff, t, r, u, e]
  -- The two sides differ in that one of them also names what is left after each letter.
  constructor
  · rintro ⟨c, _, same, hc, d, _, rfl, hd, f, _, rfl, hf, g, _, rfl, hg, rfl⟩
    exact ⟨c, hc, d, hd, f, hf, g, hg, same⟩
  · rintro ⟨c, hc, d, hd, f, hf, g, hg, same⟩
    exact ⟨c, _, same, hc, d, _, rfl, hd, f, _, rfl, hf, g, _, rfl, hg, rfl⟩

end Environment

/-! ## Settings -/

/-- What the values of a setting are, and how they are put into text. -/
inductive Kind where
  | text
  | optionalText
  | truth
  | word16
  | word32
  | word64

namespace Kind

/-- The values of a kind. -/
abbrev Value : Kind → Type
  | text => String
  | optionalText => Option String
  | truth => Bool
  | word16 => UInt16
  | word32 => UInt32
  | word64 => UInt64

/-- **What the text of a variable means** as a value of the kind. A text that says no number in
range means nothing where one is asked for, while any text is true or false and stands for itself as
a host, a path or a name. -/
def Means (meant : String) : (kind : Kind) → kind.Value → Prop
  | text, value => value = meant
  | optionalText, value => value = some meant
  | truth, value => value = true ↔ Environment.SaysYes meant
  | word16, value => Numeral.Says meant.toList value.toNat
  | word32, value => Numeral.Says meant.toList value.toNat
  | word64, value => Numeral.Says meant.toList value.toNat

/-- What the variable of the given name is read as: the value of the kind that the environment gives
through this one variable, as `Environment.layer` has it. -/
def read? (environment : Environment) (name : String) : (kind : Kind) → Option kind.Value
  | text => environment.get? name
  | optionalText => (environment.get? name).map some
  | truth => (environment.get? name).map Environment.isTrue
  | word16 => (environment.number? 65535 name).map UInt16.ofNat
  | word32 => (environment.number? (UInt32.size - 1) name).map UInt32.ofNat
  | word64 => (environment.number? (UInt64.size - 1) name).map UInt64.ofNat

/-- `kind.read? environment name = some value` exactly if the variable is set to a text that means
`value`. So what is read is never what an unset variable or an unacceptable text would give. -/
theorem read?_eq_some_iff {environment : Environment} {name : String} {kind : Kind}
    {value : kind.Value} :
    kind.read? environment name = some value ↔
      ∃ text, environment.Sets name text ∧ kind.Means text value := by
  -- Words of all sizes are read alike: a number that does not fit is no number of theirs.
  have number {α : Type} {ofNat : Nat → α} {toNat : α → Nat} {bound : Nat}
      (toNat_ofNat : ∀ n ≤ bound, toNat (ofNat n) = n)
      (ofNat_toNat : ∀ word, ofNat (toNat word) = word) (toNat_le : ∀ word, toNat word ≤ bound)
      {word : α} :
      (environment.number? bound name).map ofNat = some word ↔
        ∃ text, environment.Sets name text ∧ Numeral.Says text.toList (toNat word) := by
    rw [Environment.number?, Option.map_bind, Option.bind_eq_some_iff]
    exact exists_congr fun text => and_congr Environment.get?_eq_some_iff
      (Numeral.map_read?_eq_some_iff toNat_ofNat ofNat_toNat toNat_le)
  cases kind with
  | text =>
    refine Environment.get?_eq_some_iff.trans ⟨fun sets => ⟨value, sets, rfl⟩, ?_⟩
    rintro ⟨text, sets, rfl⟩
    exact sets
  | optionalText =>
    rw [read?, Option.map_eq_some_iff]
    exact exists_congr fun text => and_congr Environment.get?_eq_some_iff eq_comm
  | truth =>
    rw [read?, Option.map_eq_some_iff]
    refine exists_congr fun text => and_congr Environment.get?_eq_some_iff ?_
    rw [Means, ← Environment.isTrue_iff, Bool.eq_iff_iff]
    exact Iff.comm
  | word16 =>
    exact number (fun _ small => UInt16.toNat_ofNat_of_lt' (Nat.lt_succ_of_le small))
      (fun _ => UInt16.ofNat_toNat) (fun word => Nat.le_of_lt_succ word.toNat_lt)
  | word32 =>
    exact number (fun _ small => UInt32.toNat_ofNat_of_lt' (Nat.lt_succ_of_le small))
      (fun _ => UInt32.ofNat_toNat) (fun word => Nat.le_of_lt_succ word.toNat_lt)
  | word64 =>
    exact number (fun _ small => UInt64.toNat_ofNat_of_lt' (Nat.lt_succ_of_le small))
      (fun _ => UInt64.ofNat_toNat) (fun word => Nat.le_of_lt_succ word.toNat_lt)

/-- **No other variable matters** for what one is read as: `kind.read?` looks at nothing of the
environment but `environment.lookup name`. -/
theorem read?_congr {environment other : Environment} {name : String}
    (same : environment.lookup name = other.lookup name) (kind : Kind) :
    kind.read? environment name = kind.read? other name := by
  have held : environment.get? name = other.get? name := by
    rw [Environment.get?, Environment.get?, same]
  cases kind <;> simp only [read?, Environment.number?, held]

end Kind

/-- What can be set. -/
inductive Setting where
  | host
  | port
  | connectTimeoutMs
  | readTimeoutMs
  | keepAlive
  | receiveBufferSize
  | sendBufferSize
  | tlsEnabled
  | caCertPath
  | clientCertPath
  | clientKeyPath
  | serverName

namespace Setting

/-- The kind of a setting. -/
def kind : Setting → Kind
  | host => .text
  | port => .word16
  | connectTimeoutMs | readTimeoutMs => .word64
  | receiveBufferSize | sendBufferSize => .word32
  | keepAlive | tlsEnabled => .truth
  | caCertPath | clientCertPath | clientKeyPath | serverName => .optionalText

/-- The variable of a setting; all of them begin with `DOCWIRE_`. -/
def variableName : Setting → String
  | host => "DOCWIRE_HOST"
  | port => "DOCWIRE_PORT"
  | connectTimeoutMs => "DOCWIRE_CONNECT_TIMEOUT_MS"
  | readTimeoutMs => "DOCWIRE_READ_TIMEOUT_MS"
  | keepAlive => "DOCWIRE_KEEP_ALIVE"
  | receiveBufferSize => "DOCWIRE_RECV_BUFFER"
  | sendBufferSize => "DOCWIRE_SEND_BUFFER"
  | tlsEnabled => "DOCWIRE_TLS_ENABLED"
  | caCertPath => "DOCWIRE_TLS_CA"
  | clientCertPath => "DOCWIRE_TLS_CERT"
  | clientKeyPath => "DOCWIRE_TLS_KEY"
  | serverName => "DOCWIRE_TLS_SERVER_NAME"

/-- The value that settings have. -/
def ofSettings (settings : Settings) : (setting : Setting) → setting.kind.Value
  | host => settings.host
  | port => settings.port
  | connectTimeoutMs => settings.socket.connectTimeoutMs
  | readTimeoutMs => settings.socket.readTimeoutMs
  | keepAlive => settings.socket.keepAlive
  | receiveBufferSize => settings.socket.receiveBufferSize
  | sendBufferSize => settings.socket.sendBufferSize
  | tlsEnabled => settings.tls.enabled
  | caCertPath => settings.tls.caCertPath
  | clientCertPath => settings.tls.clientCertPath
  | clientKeyPath => settings.tls.clientKeyPath
  | serverName => settings.tls.serverName

/-- The value that a layer gives, if it gives one. A path or a name in a layer is one that there is.
-/
def given? (layer : Layer) : (setting : Setting) → Option setting.kind.Value
  | host => layer.host
  | port => layer.port
  | connectTimeoutMs => layer.connectTimeoutMs
  | readTimeoutMs => layer.readTimeoutMs
  | keepAlive => layer.keepAlive
  | receiveBufferSize => layer.receiveBufferSize
  | sendBufferSize => layer.sendBufferSize
  | tlsEnabled => layer.tlsEnabled
  | caCertPath => layer.caCertPath.map some
  | clientCertPath => layer.clientCertPath.map some
  | clientKeyPath => layer.clientKeyPath.map some
  | serverName => layer.serverName.map some

/-- `setting.variableName = other.variableName` only for `setting = other`: no two settings share a
variable. -/
theorem variableName_injective : Function.Injective variableName := by
  intro setting other same
  cases setting <;> cases other <;> simp_all [variableName]

/-- The value in `layer.over below` is the one that `layer` gives, or else the one in `below`. -/
theorem ofSettings_over (layer : Layer) (below : Settings) (setting : Setting) :
    setting.ofSettings (layer.over below) =
      (setting.given? layer).getD (setting.ofSettings below) := by
  -- A layer gives a path or a name that there is; none takes one away.
  have optional (above below : Option String) : above.or below = (above.map some).getD below := by
    cases above <;> rfl
  cases setting
  case caCertPath | clientCertPath | clientKeyPath | serverName => exact optional _ _
  all_goals rfl

/-- What `environment.layer` gives for a setting is what the variable of that setting is read as,
each with the kind of its own. -/
theorem given?_layer (environment : Environment) (setting : Setting) :
    setting.given? environment.layer =
      setting.kind.read? environment setting.variableName := by
  cases setting <;> rfl

end Setting

/-! ## Layers -/

variable {environment other : Environment} {files : Files} {layer : Layer} {setting : Setting}

/-- The environment does not give a value: the variable of the setting is not set to a text, or its
text means nothing. -/
def Environment.Silent (environment : Environment) (setting : Setting) : Prop :=
  ∀ text value, environment.Sets setting.variableName text → ¬setting.kind.Means text value

/-- **The value that a setting gets**: from its variable, or else from the file, or else by
default. -/
inductive Gets (environment : Environment) (layer : Layer) (setting : Setting) :
    setting.kind.Value → Prop
  | ofVariable {text : String} {value : setting.kind.Value} :
    environment.Sets setting.variableName text → setting.kind.Means text value →
    Gets environment layer setting value
  | ofFile {value : setting.kind.Value} :
    environment.Silent setting → setting.given? layer = some value →
    Gets environment layer setting value
  | byDefault :
    environment.Silent setting → setting.given? layer = none →
    Gets environment layer setting (setting.ofSettings {})

/-- `setting.given? environment.layer = none` exactly where the environment is silent. -/
theorem given?_layer_eq_none_iff :
    setting.given? environment.layer = none ↔ environment.Silent setting := by
  rw [Setting.given?_layer, Option.eq_none_iff_forall_ne_some]
  constructor
  · intro none text value sets means
    exact none value (Kind.read?_eq_some_iff.mpr ⟨text, sets, means⟩)
  · intro silent value read
    obtain ⟨text, sets, means⟩ := Kind.read?_eq_some_iff.mp read
    exact silent text value sets means

/-- **A setting gets what the layers come to**, and nothing else: the value in
`environment.layer.over (layer.over {})`, where the environment lies over the file and the file over
the defaults. -/
theorem gets_iff {value : setting.kind.Value} :
    Gets environment layer setting value ↔
      setting.ofSettings (environment.layer.over (layer.over {})) = value := by
  rw [Setting.ofSettings_over, Setting.ofSettings_over]
  constructor
  · rintro (⟨sets, means⟩ | ⟨silent, given⟩ | ⟨silent, missing⟩)
    · rw [Setting.given?_layer, Kind.read?_eq_some_iff.mpr ⟨_, sets, means⟩, Option.getD_some]
    · rw [given?_layer_eq_none_iff.mpr silent, given, Option.getD_none, Option.getD_some]
    · rw [given?_layer_eq_none_iff.mpr silent, missing, Option.getD_none, Option.getD_none]
  · rintro rfl
    cases read : setting.given? environment.layer with
    | some value =>
      obtain ⟨text, sets, means⟩ :=
        Kind.read?_eq_some_iff.mp (Setting.given?_layer environment setting ▸ read)
      exact .ofVariable sets means
    | none =>
      have silent := given?_layer_eq_none_iff.mp read
      cases given : setting.given? layer with
      | some value => exact .ofFile silent given
      | none => exact .byDefault silent given

/-! ## Files -/

/-- **What the file gives**: nothing if none is named, a failure if it cannot be read or parsed, and
what its text denotes otherwise. Only a text names a file. -/
inductive FileGives (environment : Environment) (files : Files) :
    Except SettingsError Layer → Prop
  | unnamed :
    (∀ path, ¬environment.Sets Environment.fileName path) → FileGives environment files (.ok {})
  | unreadable {path : String} {source : SystemError} :
    environment.Sets Environment.fileName path → files.text path = .error source →
    FileGives environment files (.error (.unreadable path source))
  | illFormed {path text : String} {error : YamlError} :
    environment.Sets Environment.fileName path → files.text path = .ok text →
    Layer.ofYaml text = .error error →
    FileGives environment files (.error (.illFormed path error.message))
  | denoted {path text : String} {layer : Layer} :
    environment.Sets Environment.fileName path → files.text path = .ok text →
    Layer.ofYaml text = .ok layer → FileGives environment files (.ok layer)

/-- The layer of the file that the environment names, if it names one. -/
def fileLayer? (environment : Environment) (files : Files) : Except SettingsError Layer :=
  match environment.get? Environment.fileName with
  | some path => Settings.fileLayer files path
  | none => .ok {}

/-- **The file gives what is read of it**, and nothing else: `FileGives` has exactly one result,
which is `fileLayer? environment files`. -/
theorem fileGives_iff {given : Except SettingsError Layer} :
    FileGives environment files given ↔ fileLayer? environment files = given := by
  constructor
  · rintro (unnamed | ⟨named, failed⟩ | ⟨named, read, failed⟩ | ⟨named, read, denoted⟩)
    · have unread : environment.get? Environment.fileName = none :=
        Option.eq_none_iff_forall_ne_some.mpr fun path held =>
          unnamed path (Environment.get?_eq_some_iff.mp held)
      rw [fileLayer?, unread]
    · rw [fileLayer?, Environment.get?_eq_some_iff.mpr named]
      simp only [Settings.fileLayer, failed]
      rfl
    · rw [fileLayer?, Environment.get?_eq_some_iff.mpr named]
      simp only [Settings.fileLayer, read]
      exact congrArg (Except.mapError _) failed
    · rw [fileLayer?, Environment.get?_eq_some_iff.mpr named]
      simp only [Settings.fileLayer, read]
      exact congrArg (Except.mapError _) denoted
  · rintro rfl
    unfold fileLayer?
    cases held : environment.get? Environment.fileName with
    | none =>
      exact .unnamed fun path named =>
        absurd (held ▸ Environment.get?_eq_some_iff.mpr named) (by simp)
    | some path =>
      have named := Environment.get?_eq_some_iff.mp held
      dsimp only [Settings.fileLayer]
      cases read : files.text path with
      | error source => exact .unreadable named read
      | ok text =>
        have denotes : FileGives environment files
            ((Layer.ofYaml text).mapError fun error => .illFormed path error.message) := by
          cases parsed : Layer.ofYaml text with
          | error error => exact .illFormed named read parsed
          | ok layer => exact .denoted named read parsed
        exact denotes

namespace Settings

/-- **Settings are valid** if they name a host and, with TLS, a certificate only with its key and a
key only with its certificate. -/
structure Valid (settings : Settings) : Prop where
  named : settings.host ≠ ""
  paired : settings.tls.enabled = true →
    (settings.tls.clientCertPath.isSome ↔ settings.tls.clientKeyPath.isSome)

variable {settings : Settings}

/-- Settings without a host are refused with `"host is empty"`, whatever else they are. -/
theorem validate_of_unnamed (h : settings.host = "") :
    settings.validate = .error (.invalid "host is empty") := if_pos h

/-- The test that `TlsSettings.validate` makes holds exactly if TLS is enabled and the pair of
certificate and key is not complete. -/
theorem unpaired_iff {settings : TlsSettings} :
    (settings.enabled && settings.clientCertPath.isSome != settings.clientKeyPath.isSome) = true ↔
      ¬(settings.enabled = true →
        (settings.clientCertPath.isSome ↔ settings.clientKeyPath.isSome)) := by
  rw [Bool.and_eq_true, bne_iff_ne, ne_eq, Bool.eq_iff_iff (a := settings.clientCertPath.isSome),
    Classical.not_imp]

/-- `settings.validate = .ok ()` for valid settings. -/
theorem validate_of_valid (h : settings.Valid) : settings.validate = .ok () := by
  rw [validate, if_neg h.named, TlsSettings.validate, if_neg]
  exact fun unpaired => unpaired_iff.mp unpaired h.paired

/-- Settings with a host that are not valid are refused for one half of a pair. -/
theorem validate_of_unpaired (named : settings.host ≠ "") (h : ¬settings.Valid) :
    settings.validate =
      .error (.invalid "client_cert_path and client_key_path must be set together") := by
  rw [validate, if_neg named, TlsSettings.validate, if_pos]
  exact unpaired_iff.mpr fun paired => h ⟨named, paired⟩

/-! ## Loading -/

/-- **All layers lie over each other, and what results is looked at**: `load` reads the file that is
named, puts the environment over it and it over the defaults, and validates only then. -/
theorem load_eq :
    load environment files = do
      let layer ← fileLayer? environment files
      (environment.layer.over (layer.over {})).validate
      return environment.layer.over (layer.over {}) := by
  unfold load fileLayer? ofFile
  cases environment.get? Environment.fileName with
  | none => rfl
  | some path =>
    dsimp only
    cases fileLayer files path <;> rfl

/-- **What is loaded** is `environment.layer.over (layer.over {})` for the layer of the file, and it
passed validation. -/
theorem of_load {settings : Settings} (h : load environment files = .ok settings) :
    (∃ layer, fileLayer? environment files = .ok layer ∧
      settings = environment.layer.over (layer.over {})) ∧ settings.validate = .ok () := by
  rw [load_eq] at h
  obtain ⟨layer, given, checked⟩ := bind_eq_ok_iff.mp h
  obtain ⟨⟨⟩, accepted, same⟩ := bind_eq_ok_iff.mp checked
  obtain rfl := Except.ok.inj same
  exact ⟨⟨layer, given, rfl⟩, accepted⟩

/-- **Only its own variable matters** for a setting, as long as the same file lies below: two loads
give it the same value if `environment.lookup` agrees on its variable and on the one of the file. -/
theorem ofSettings_load_congr {settings changed : Settings}
    (loaded : load environment files = .ok settings) (again : load other files = .ok changed)
    (file : environment.lookup Environment.fileName = other.lookup Environment.fileName)
    (own : environment.lookup setting.variableName = other.lookup setting.variableName) :
    setting.ofSettings settings = setting.ofSettings changed := by
  have below : fileLayer? environment files = fileLayer? other files := by
    rw [fileLayer?, fileLayer?, Environment.get?, Environment.get?, file]
  obtain ⟨⟨layer, given, rfl⟩, -⟩ := of_load loaded
  obtain ⟨⟨layer', given', rfl⟩, -⟩ := of_load again
  obtain rfl := Except.ok.inj ((given.symm.trans below).trans given')
  rw [Setting.ofSettings_over environment.layer, Setting.ofSettings_over other.layer,
    Setting.given?_layer, Setting.given?_layer, Kind.read?_congr own]

/-- **Only texts matter**: environments that set the same variables to the same texts load alike.
What else they hold, bytes of no text included, is not looked at. -/
theorem load_congr
    (same : ∀ name text, environment.Sets name text ↔ other.Sets name text) :
    load environment files = load other files := by
  have read : environment.get? = other.get? := by
    funext name
    refine Option.ext fun text => ?_
    rw [Environment.get?_eq_some_iff, Environment.get?_eq_some_iff, same]
  have layers : environment.layer = other.layer := by
    simp only [Environment.layer, Environment.number?, read]
  rw [load_eq, load_eq, fileLayer?, fileLayer?, read, layers]

/-- **How settings are loaded.** Where the named file cannot be read or parsed, nothing else
matters. Otherwise each setting has the value that it gets, and loading succeeds if the settings
that result are valid. Two loads from the same file agree on a setting whose variable both
environments hold alike, and no two settings have the same variable.

A variable that holds bytes of no text counts as one that is not set, here and in `FileGives`: the
layer below it stays, and no file is named. Environments that differ in nothing else load alike. -/
theorem load_layered (environment : Environment) (files : Files) :
    (∃ given, FileGives environment files given) ∧
    (∀ error, FileGives environment files (.error error) →
      load environment files = .error error) ∧
    (∀ layer, FileGives environment files (.ok layer) → ∃ settings : Settings,
      (∀ setting value,
        Gets environment layer setting value ↔ setting.ofSettings settings = value) ∧
      (settings.Valid → load environment files = .ok settings) ∧
      (settings.host = "" → load environment files = .error (.invalid "host is empty")) ∧
      (settings.host ≠ "" → ¬settings.Valid → load environment files =
        .error (.invalid "client_cert_path and client_key_path must be set together"))) ∧
    (∀ (other : Environment) (setting : Setting) (settings changed : Settings),
      load environment files = .ok settings → load other files = .ok changed →
      environment.lookup Environment.fileName = other.lookup Environment.fileName →
      environment.lookup setting.variableName = other.lookup setting.variableName →
      setting.ofSettings settings = setting.ofSettings changed) ∧
    (∀ setting other : Setting, setting.variableName ≠ Environment.fileName ∧
      (setting.variableName = other.variableName → setting = other)) ∧
    ∀ other : Environment, (∀ name text, environment.Sets name text ↔ other.Sets name text) →
      load environment files = load other files := by
  refine ⟨⟨_, fileGives_iff.mpr rfl⟩, fun error gives => ?_, fun layer gives => ?_,
    fun other setting settings changed => ofSettings_load_congr,
    fun setting other => ⟨?_, fun same => Setting.variableName_injective same⟩,
    fun other => load_congr⟩
  · rw [load_eq, fileGives_iff.mp gives]
    rfl
  · have loaded : load environment files =
        (environment.layer.over (layer.over {})).validate >>=
          fun _ => .ok (environment.layer.over (layer.over {})) := by
      rw [load_eq, fileGives_iff.mp gives]
      rfl
    refine ⟨environment.layer.over (layer.over {}), fun setting value => gets_iff, fun valid => ?_,
      fun unnamed => ?_, fun named invalid => ?_⟩
    · rw [loaded, validate_of_valid valid]
      rfl
    · rw [loaded, validate_of_unnamed unnamed]
      rfl
    · rw [loaded, validate_of_unpaired named invalid]
      rfl
  · cases setting <;> decide

/-- A file, and an environment of which one number does not replace that of the file. -/
def nearText : String := "port: 1\nsocket:\n  read_timeout_ms: 7"
def nearEnvironment : Environment := [("DOCWIRE_CONFIG", "near.yaml".toUTF8),
  ("DOCWIRE_PORT", "+080".toUTF8), ("DOCWIRE_TLS_ENABLED", "TRuE".toUTF8),
  ("DOCWIRE_READ_TIMEOUT_MS", "5s".toUTF8)]

/-- A port with a sign and a zero in front, a word in mixed capitals and a time limit that is no
number, over a file. -/
theorem load_layered_near :
    ∃ settings, load nearEnvironment (fun _ => .ok nearText.toUTF8) = .ok settings ∧
      settings.host = "localhost" ∧ settings.port = 80 ∧ settings.socket.readTimeoutMs = 7 ∧
      settings.tls.enabled = true := by
  have denoted : Layer.ofYaml nearText = .ok { port := some 1, readTimeoutMs := some 7 } := by
    have found : (Layer.ofYaml nearText).toOption =
        some { port := some 1, readTimeoutMs := some 7 } := by decide +kernel
    cases read : Layer.ofYaml nearText with
    | error error =>
      rw [read] at found
      cases found
    | ok layer =>
      rw [read] at found
      exact congrArg _ (Option.some.inj found)
  obtain ⟨-, -, loads, -⟩ := load_layered nearEnvironment fun _ => .ok nearText.toUTF8
  obtain ⟨settings, gets, loaded, -⟩ := loads _ (.denoted rfl rfl denoted)
  have host : settings.host = "localhost" :=
    (gets .host "localhost").mp (.byDefault (given?_layer_eq_none_iff.mp rfl) rfl)
  have port := (gets .port (80 : UInt16)).mp
    (.ofVariable rfl (Or.inr ⟨['0', '8', '0'], rfl, Numeral.digits?_eq_some_iff.mp rfl⟩))
  have limit := (gets .readTimeoutMs (7 : UInt64)).mp
    (.ofFile (given?_layer_eq_none_iff.mp rfl) rfl)
  have enabled := (gets .tlsEnabled true).mp
    (.ofVariable rfl (iff_of_true rfl
      (Or.inr ⟨'T', by decide, 'R', by decide, 'u', by decide, 'E', by decide, rfl⟩)))
  have cert : settings.tls.clientCertPath = none :=
    (gets .clientCertPath none).mp (.byDefault (given?_layer_eq_none_iff.mp rfl) rfl)
  have key : settings.tls.clientKeyPath = none :=
    (gets .clientKeyPath none).mp (.byDefault (given?_layer_eq_none_iff.mp rfl) rfl)
  have valid : settings.Valid :=
    ⟨by rw [host]; decide, fun _ => by rw [cert, key]⟩
  exact ⟨settings, loaded valid, host, port, limit, enabled⟩

/-- An environment with one variable, which holds the single byte `0xFF` and so no text. -/
def bytesEnvironment (name : String) : Environment := [(name, ⟨#[0xFF]⟩)]

/-- The byte `0xFF` starts no character, so that it is no text. -/
theorem fromUTF8?_byte : String.fromUTF8? ⟨#[0xFF]⟩ = none := by decide

/-- `(bytesEnvironment name).get? read = none`: an environment that holds nothing else sets nothing.
-/
theorem get?_bytesEnvironment (name read : String) : (bytesEnvironment name).get? read = none := by
  rw [Environment.get?, bytesEnvironment, List.lookup_cons, List.lookup_nil]
  cases read == name
  · rfl
  · exact fromUTF8?_byte

/-- Whatever variable holds that byte, and whatever files there are, the defaults are loaded. -/
theorem load_bytesEnvironment (name : String) (files : Files) :
    load (bytesEnvironment name) files = .ok {} := by
  have unset : load (bytesEnvironment name) files = load [] files := by
    refine load_congr fun read text => ?_
    rw [← Environment.get?_eq_some_iff, ← Environment.get?_eq_some_iff, get?_bytesEnvironment]
    rfl
  exact unset

/-- **Bytes of no text are not looked at**: it is not so that a truth value whose variable holds any
bytes is true exactly if these say yes, nor that loading fails whenever the variable of the file
holds any bytes and no file can be read. With `0xFF` in `DOCWIRE_KEEP_ALIVE` connections are kept
alive as by default, and with `0xFF` in `DOCWIRE_CONFIG` the defaults are loaded. -/
theorem load_ignores_bytes :
    (¬∀ (environment : Environment) (files : Files) (settings : Settings) (bytes : ByteArray),
      load environment files = .ok settings →
      environment.lookup Setting.keepAlive.variableName = some bytes →
      (settings.socket.keepAlive = true ↔
        ∃ text, bytes = text.toUTF8 ∧ Environment.SaysYes text)) ∧
    ¬∀ (environment : Environment) (files : Files) (bytes : ByteArray),
      environment.lookup Environment.fileName = some bytes →
      (∀ path, files path = .error .notFound) →
      ∃ error, load environment files = .error error := by
  constructor
  · intro reads
    obtain ⟨text, bytes, -⟩ := (reads (bytesEnvironment Setting.keepAlive.variableName)
      (fun _ => .error .notFound) {} ⟨#[0xFF]⟩ (load_bytesEnvironment _ _) rfl).mp rfl
    have read := Environment.fromUTF8?_eq_some_iff.mpr bytes
    rw [fromUTF8?_byte] at read
    cases read
  · intro fails
    obtain ⟨error, failed⟩ := fails (bytesEnvironment Environment.fileName)
      (fun _ => .error .notFound) ⟨#[0xFF]⟩ rfl fun _ => rfl
    rw [load_bytesEnvironment] at failed
    cases failed

end Settings

end DocumentCursor
