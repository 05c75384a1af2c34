import DocumentCursor.Tls.Der

/-! # Certificates

A certificate says whose a public key is. It is signed, but whether by whom it should be is looked
at only when a server shows it. Of its extensions those that restrict what a certificate is good for
are known, and stand in it once at most; an unknown one must not be critical. A certificate that
vouches for others may be of the first version, which has no extensions.

Main definitions:

* `CertificateError`;
* `Certificate.read` reads a certificate of the third version;
* `Certificate.readAuthority` reads one that vouches for others.
-/

namespace DocumentCursor.Tls

open Der

/-- Why a certificate is refused. -/
inductive CertificateError where
  | badEncoding
  | unsupportedVersion
  /-- The two places that name the way of signing differ. -/
  | signatureAlgorithmMismatch
  | unsupportedCriticalExtension
  /-- An extension that is there twice. -/
  | repeatedExtension
  deriving DecidableEq, Repr

/-- The text that reports an error. -/
def CertificateError.message (error : CertificateError) : String :=
  let other := fun (name : String) => "Other(OtherError(" ++ name ++ "))"
  "invalid peer certificate: " ++ match error with
    | badEncoding => "BadEncoding"
    | unsupportedVersion => other "UnsupportedCertVersion"
    | signatureAlgorithmMismatch => other "SignatureAlgorithmMismatch"
    | unsupportedCriticalExtension => other "UnsupportedCriticalExtension"
    | repeatedExtension => other "ExtensionValueInvalid"

/-- What is used of a certificate. -/
structure Certificate where
  subject : List UInt8
  publicKey : List UInt8
  deriving DecidableEq, Repr

namespace Certificate

/-- Reads parts of a certificate. -/
abbrev Read := Reader CertificateError

/-! ## Extensions -/

/-- The extensions that are known: the uses of the key, alternative names, whether it is an
authority, the names that it may vouch for, where revocations are published, and extended uses. -/
inductive Extension where
  | keyUsage
  | alternativeNames
  | basicConstraints
  | nameConstraints
  | revocationLists
  | extendedKeyUsage
  deriving DecidableEq, Repr

namespace Extension

/-- The last number of the identifiers. -/
def numbers : List (UInt8 × Extension) := [
  (15, keyUsage), (17, alternativeNames), (19, basicConstraints), (30, nameConstraints),
  (31, revocationLists), (37, extendedKeyUsage)]

/-- The extension of an identifier. -/
def ofIdentifier? : List UInt8 → Option Extension
  | [0x55, 0x1d, last] => numbers.lookup last
  | _ => none

/-- Checks the value of an extension. -/
def check (extension : Extension) (value : List UInt8) : Except CertificateError Unit :=
  match extension with
  | keyUsage => .ok ()
  | _ => do let _ ← (take .sequence .badEncoding : Read (List UInt8)).all .badEncoding value

end Extension

/-- Reads an extension, after some others. -/
def extension (seen : List Extension) : Read (List Extension) := do
  let identifier ← take .objectIdentifier .badEncoding
  let critical ← flag .badEncoding
  let value ← take .octetString .badEncoding
  match Extension.ofIdentifier? identifier with
  | none => if critical then throw .unsupportedCriticalExtension else return seen
  | some found =>
    if found ∈ seen then throw .repeatedExtension
    found.check value
    return found :: seen

/-- Reads extensions to their end, after some others. -/
def extensions : Nat → List Extension → Read Unit
  | 0, _ => return
  | fuel + 1, seen => do
    if ← atEnd then return
    extensions fuel (← nested .sequence .badEncoding (extension seen))

/-! ## Certificates -/

/-- Reads what is signed. -/
def body (algorithm : List UInt8) : Read Certificate := do
  let version ← nested (.numbered 0) .unsupportedVersion (natural .badEncoding)
  if version ≠ 2 then throw .unsupportedVersion
  let _ ← take .integer .badEncoding
  if (← take .sequence .badEncoding) ≠ algorithm then throw .signatureAlgorithmMismatch
  let _issuer ← take .sequence .badEncoding
  let _validity ← take .sequence .badEncoding
  let subject ← take .sequence .badEncoding
  let publicKey ← take .sequence .badEncoding
  if !(← atEnd) then
    nested (.numbered 3) .badEncoding (nested .sequence .badEncoding do
      extensions ((← get).length + 1) [])
  return { subject, publicKey }

/-- Reads a certificate with its signature. -/
def signed : Read Certificate :=
  nested .sequence .badEncoding do
    let content ← take .sequence .badEncoding
    let algorithm ← take .sequence .badEncoding
    let _signature ← bits .badEncoding
    (body algorithm).all .badEncoding content

/-- Reads what is signed in a certificate of the first version, with its signature. -/
def signedFirst : Read Certificate :=
  nested .sequence .badEncoding do
    let certificate ← nested .sequence .badEncoding do
      let _ ← take .integer .badEncoding
      let _ ← take .sequence .badEncoding
      let _issuer ← take .sequence .badEncoding
      let _validity ← take .sequence .badEncoding
      let subject ← take .sequence .badEncoding
      let publicKey ← take .sequence .badEncoding
      return { subject, publicKey }
    let _ ← take .sequence .badEncoding
    let _signature ← take .bitString .badEncoding
    return certificate

/-- Reads a certificate. -/
def read (bytes : List UInt8) : Except CertificateError Certificate :=
  signed.all .badEncoding bytes

/-- Reads a certificate that vouches for others. -/
def readAuthority (bytes : List UInt8) : Except CertificateError Certificate :=
  match read bytes with
  | .error .unsupportedVersion => signedFirst.all .badEncoding bytes
  | result => result

/-- The public key of a certificate, as a part of its own. -/
def publicKeyPart (certificate : Certificate) : List UInt8 := part .sequence certificate.publicKey

end Certificate

end DocumentCursor.Tls
