import DocumentCursor.Settings.Files
import DocumentCursor.Tls.Certificate
import DocumentCursor.Tls.PrivateKey
import DocumentCursor.Tls.ServerName

/-! # The files of TLS settings

Before a connection is made over TLS its files are read: the certificates that vouch for the server,
then the own certificates, then the key of the first of them. The own certificates count only
together with the key, and are not looked at before the key is.

Main definition: `Tls.checkFiles`.
-/

namespace DocumentCursor.Tls

open Net

/-- A failure of TLS settings. -/
def refuse {β : Type} (reason : String) : Except TransportError β := .error (.tlsConfig reason)

/-- Reads a file, which is called a `name` file. A directory can be opened, but not read. -/
def readFile (files : Files) (name path : String) : Except TransportError (List UInt8) :=
  let quoted := Text.Quoted.quote path
  match files path with
  | .ok content => .ok content.toList
  | .error error =>
    if error.kind = .isADirectory then
      refuse ("invalid " ++ name ++ " file " ++ quoted ++ ": " ++ error.message)
    else refuse ("cannot open " ++ name ++ " file " ++ quoted ++ ": " ++ error.message)

/-- What a file holds, unless one of its sections is ill-formed. -/
def readSections {β : Type} (files : Files) (name path : String)
    (read : List UInt8 → Except PemError β) : Except TransportError β := do
  match read (← readFile files name path) with
  | .ok value => return value
  | .error error =>
    refuse ("invalid " ++ name ++ " file " ++ Text.Quoted.quote path ++ ": " ++ error.message)

/-- Reads the certificates that vouch for the server. -/
def checkAuthorities (files : Files) (path : String) : Except TransportError Unit := do
  for certificate in ← readSections files "cert" path Pem.certificates do
    if let .error error := Certificate.readAuthority certificate then
      refuse ("invalid CA cert: " ++ error.message)

/-- Why a certificate and its key are refused. -/
inductive ClientError where
  | keyIllFormed
  | noCertificates
  | certificateIllFormed (error : CertificateError)
  /-- The certificate is for another key. -/
  | keyMismatch
  deriving DecidableEq, Repr

/-- The text that reports an error. -/
def ClientError.message : ClientError → String
  | keyIllFormed => "unexpected error: failed to parse private key as RSA, ECDSA, or EdDSA"
  | noCertificates => "peer sent no certificates"
  | certificateIllFormed error => error.message
  | keyMismatch => "keys may not be consistent: KeyMismatch"

/-- Checks that a key is the one of the first certificate. -/
def checkKey (certificates : List (List UInt8)) (format : KeyFormat) (key : List UInt8) :
    Except ClientError Unit :=
  match PrivateKey.read? format key, certificates with
  | none, _ => .error .keyIllFormed
  | some _, [] => .error .noCertificates
  | some key, certificate :: _ =>
    match Certificate.read certificate with
    | .error error => .error (.certificateIllFormed error)
    | .ok certificate =>
      if key.publicKeyPart = certificate.publicKeyPart then .ok () else .error .keyMismatch

/-- Reads the own certificates and their key. -/
def checkClient (files : Files) (cert key : String) : Except TransportError Unit := do
  let certificates ← readSections files "cert" cert Pem.certificates
  match ← readSections files "key" key Pem.privateKey? with
  | none => refuse ("no private key found in " ++ Text.Quoted.quote key)
  | some (format, key) =>
    if let .error error := checkKey certificates format key then
      refuse ("invalid client cert/key: " ++ error.message)

/-- Reads the files that the settings name. -/
def checkFiles (settings : TlsSettings) (files : Files) : Except TransportError Unit := do
  if let some path := settings.caCertPath then checkAuthorities files path
  match settings.clientCertPath, settings.clientKeyPath with
  | some cert, some key => checkClient files cert key
  | _, _ => return

end DocumentCursor.Tls
