import DocumentCursor.Tls.Curve
import DocumentCursor.Tls.Der
import DocumentCursor.Tls.Pem
import DocumentCursor.Tls.TwistedCurve

/-! # Private keys

A private key is an RSA key, a number for an elliptic curve, or 32 bytes for the twisted curve. It
is taken only if its parts agree with one another, and it tells its public key.

Main definitions:

* `PrivateKey` and `PrivateKey.read?`;
* `PrivateKey.publicKeyPart`.
-/

namespace DocumentCursor.Tls

open Der

/-- A private key, as far as its public key depends on it. -/
inductive PrivateKey where
  | rsa (modulus exponent : Nat)
  | curve (curve : Curve) (scalar : Nat)
  | twistedCurve (bytes : List UInt8)
  deriving DecidableEq, Repr

namespace PrivateKey

/-- Reads parts of a key. -/
abbrev Read := Reader Unit

/-- Goes on only if something holds. -/
def require (holds : Bool) : Read Unit := if holds then return else throw ()

/-! ## RSA keys -/

/-- The numbers of an RSA key. -/
structure RsaNumbers where
  modulus : Nat
  exponent : Nat
  /-- What undoes the exponent. -/
  privateExponent : Nat
  prime₁ : Nat
  prime₂ : Nat
  /-- What undoes the exponent modulo a prime less 1. -/
  exponent₁ : Nat
  exponent₂ : Nat
  /-- What undoes the second prime modulo the first. -/
  coefficient : Nat
  deriving DecidableEq, Repr

/-- The fewest and the most bits of the modulus. -/
def minModulusBits : Nat := 2048
def maxModulusBits : Nat := 8192

/-- The most bits of the exponent. -/
def maxExponentBits : Nat := 33

/-- Whether two numbers undo each other, of which the second is below the modulus. -/
def undoes (modulus a b : Nat) : Bool := b < modulus && a * b % modulus = 1

/-- Whether the numbers make a key. -/
def RsaNumbers.agree (k : RsaNumbers) : Bool :=
  1 <<< (minModulusBits - 1) ≤ k.modulus && k.modulus < 1 <<< maxModulusBits &&
    k.modulus % 2 = 1 && 3 ≤ k.exponent && k.exponent % 2 = 1 &&
    k.exponent < 1 <<< maxExponentBits && k.privateExponent < k.modulus &&
    k.prime₁ < k.modulus && k.prime₂ < k.modulus && k.prime₁ * k.prime₂ = k.modulus &&
    k.privateExponent * k.exponent % (k.prime₁ - 1) = 1 &&
    k.privateExponent * k.exponent % (k.prime₂ - 1) = 1 &&
    undoes (k.prime₁ - 1) k.exponent k.exponent₁ &&
    undoes (k.prime₂ - 1) k.exponent k.exponent₂ &&
    undoes k.prime₁ k.prime₂ k.coefficient

/-- Reads an RSA key. -/
def rsaKey : Read PrivateKey :=
  nested .sequence () do
    require ((← natural ()) = 0)
    let numbers := {
      modulus := ← natural ()
      exponent := ← natural ()
      privateExponent := ← natural ()
      prime₁ := ← natural ()
      prime₂ := ← natural ()
      exponent₁ := ← natural ()
      exponent₂ := ← natural ()
      coefficient := ← natural () : RsaNumbers }
    require numbers.agree
    return .rsa numbers.modulus numbers.exponent

/-! ## Keys of elliptic curves -/

/-- The given number of bytes of a number, the most significant one first. -/
def bigEndian (size n : Nat) : List UInt8 := (Wire.LittleEndian.digits size n).reverse

/-- The ways to write a point of a curve: with both coordinates, or with the last bit of the second
one. -/
def pointForms (curve : Curve) : CurvePoint → List (List UInt8)
  | .infinity => []
  | .affine x y =>
    let x := bigEndian curve.size x
    [4 :: x ++ bigEndian curve.size y, UInt8.ofNat (2 + y % 2) :: x]

/-- Reads a key of a curve, with its public key if that is there. -/
def curveKey (curve : Curve) : Read PrivateKey :=
  nested .sequence () do
    require ((← natural ()) = 1)
    let scalar := number (← take .octetString ())
    let _ ← optional (.numbered 0) (nested (.numbered 0) () do
      require ((← take .objectIdentifier ()) = curve.identifier))
    let publicKey ← optional (.numbered 1) (nested (.numbered 1) () (bits ()))
    require (1 ≤ scalar && scalar < curve.order)
    if let some publicKey := publicKey then
      require (publicKey ∈ pointForms curve (curve.multiple scalar))
    return .curve curve scalar

/-! ## Keys of any sort -/

/-- The identifiers of sorts of keys. -/
def rsaIdentifier : List UInt8 := [0x2a, 0x86, 0x48, 0x86, 0xf7, 0x0d, 0x01, 0x01, 0x01]
def curveIdentifier : List UInt8 := [0x2a, 0x86, 0x48, 0xce, 0x3d, 0x02, 0x01]
def twistedCurveIdentifier : List UInt8 := [0x2b, 0x65, 0x70]

/-- Reads what a key is for, which says how the key is read. The public key, if it is there, may
stand beside a key of the twisted curve only. -/
def algorithm : Read (Option (List UInt8) → Read PrivateKey) := do
  let identifier ← take .objectIdentifier ()
  if identifier = rsaIdentifier then
    require ((← take .null ()) = [])
    return fun publicKey => do
      require publicKey.isNone
      rsaKey
  else if identifier = curveIdentifier then
    let name ← take .objectIdentifier ()
    match Curve.known.find? (·.identifier = name) with
    | none => throw ()
    | some found =>
      return fun publicKey => do
        require publicKey.isNone
        curveKey found
  else if identifier = twistedCurveIdentifier then
    return fun publicKey => do
      let bytes ← take .octetString ()
      require (bytes.length = TwistedCurve.privateKeySize)
      if let some publicKey := publicKey then
        require (publicKey = 0 :: TwistedCurve.publicKey bytes)
      return .twistedCurve bytes
  else throw ()

/-- Reads a key that is named. What stands behind its public key does not matter. -/
def anyKey : Read PrivateKey :=
  nested .sequence () do
    let version ← natural ()
    require (version ≤ 1)
    let read ← nested .sequence () algorithm
    let content ← take .octetString ()
    let _ ← optional (.numbered 0) (take (.numbered 0) ())
    let publicKey ← optional (.numberedBytes 1) (take (.numberedBytes 1) ())
    require (version = 1 || publicKey.isNone)
    let _ ← takeRest
    (read publicKey).all () content

/-- Whether a key is a number for an elliptic curve. -/
def isCurve : PrivateKey → Bool
  | .curve .. => true
  | _ => false

/-- Reads a key; what follows it does not matter. A section for a number of an elliptic curve may
hold a key that is named, and a number with no curve belongs to the first curve that it fits. -/
def read? (format : KeyFormat) (bytes : List UInt8) : Option PrivateKey :=
  let attempt := fun (read : Read PrivateKey) => (read.run bytes).toOption.map Prod.fst
  match format with
  | .rsa => attempt rsaKey
  | .general => attempt anyKey
  | .ellipticCurve =>
    ((attempt anyKey).filter isCurve).or
      (Curve.known.findSome? fun known => attempt (curveKey known))

/-! ## Public keys -/

/-- A part that says what a public key is for, and holds it. -/
def publicKeyOf (algorithm key : List UInt8) : List UInt8 :=
  part .sequence (part .sequence algorithm ++ part .bitString (0 :: key))

/-- A number that is not negative, as a part; its highest bit is 0. -/
def numberPart (n : Nat) : List UInt8 :=
  part .integer (bigEndian ((Nat.log2 n + 1) / 8 + 1) n)

/-- The public key of a private key, as it stands in certificates. -/
def publicKeyPart : PrivateKey → List UInt8
  | .rsa modulus exponent =>
    publicKeyOf (part .objectIdentifier rsaIdentifier ++ part .null [])
      (part .sequence (numberPart modulus ++ numberPart exponent))
  | .curve known scalar =>
    publicKeyOf (part .objectIdentifier curveIdentifier ++ part .objectIdentifier known.identifier)
      ((pointForms known (known.multiple scalar)).headD [])
  | .twistedCurve bytes =>
    publicKeyOf (part .objectIdentifier twistedCurveIdentifier) (TwistedCurve.publicKey bytes)

end PrivateKey

end DocumentCursor.Tls
