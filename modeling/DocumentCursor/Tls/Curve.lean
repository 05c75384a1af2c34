import DocumentCursor.Arith.Remainder

/-! # Elliptic curves

The points of a curve `y² = x³ - 3x + b` over the numbers modulo a prime, with a point at infinity,
are added: three points on a line have the sum zero. Such a sum does not depend on `b`. A private
key is a number, and its public key is the base point taken so many times.

Main definitions:

* `Curve`, with `Curve.prime256`, `Curve.prime384` and `Curve.prime521`;
* `Curve.add` and `Curve.multiple`.
-/

namespace DocumentCursor.Tls

/-- A curve. -/
structure Curve where
  /-- What the curve is called in keys. -/
  identifier : List UInt8
  /-- The prime that numbers are taken modulo. -/
  modulus : Nat
  base : Nat × Nat
  /-- How often the base point gives zero. -/
  order : Nat
  /-- The number of bytes of a coordinate. -/
  size : Nat
  deriving DecidableEq, Repr

/-- A point of a curve. -/
inductive CurvePoint where
  | infinity
  | affine (x y : Nat)
  deriving DecidableEq, Repr

namespace Curve

open Remainder

variable (curve : Curve)

/-- The sum of two points. -/
def add : CurvePoint → CurvePoint → CurvePoint
  | .infinity, q => q
  | p, .infinity => p
  | .affine x₁ y₁, .affine x₂ y₂ =>
    let m := curve.modulus
    if x₁ = x₂ ∧ (y₁ + y₂) % m = 0 then .infinity
    else
      let slope :=
        if x₁ = x₂ then sub m (3 * x₁ * x₁) 3 * inverse m (2 * y₁) % m
        else sub m y₂ y₁ * inverse m (sub m x₂ x₁) % m
      let x := sub m (sub m (slope * slope) x₁) x₂
      .affine x (sub m (slope * sub m x₁ x) y₁)

/-- The base point, taken so many times. -/
def multiple (n : Nat) : CurvePoint :=
  repeated curve.add .infinity (.affine curve.base.1 curve.base.2) n

/-! ## The curves that are known -/

/-- The number that words of 128 bits are, the most significant one first. -/
def joinWords (words : List Nat) : Nat := words.foldl (fun n word => (n <<< 128) + word) 0

/-- The curve over a prime of 256 bits. -/
def prime256 : Curve where
  identifier := [0x2a, 0x86, 0x48, 0xce, 0x3d, 0x03, 0x01, 0x07]
  modulus := joinWords [0xffffffff000000010000000000000000, 0x00000000ffffffffffffffffffffffff]
  base :=
    (joinWords [0x6b17d1f2e12c4247f8bce6e563a440f2, 0x77037d812deb33a0f4a13945d898c296],
      joinWords [0x4fe342e2fe1a7f9b8ee7eb4a7c0f9e16, 0x2bce33576b315ececbb6406837bf51f5])
  order := joinWords [0xffffffff00000000ffffffffffffffff, 0xbce6faada7179e84f3b9cac2fc632551]
  size := 32

/-- The curve over a prime of 384 bits. -/
def prime384 : Curve where
  identifier := [0x2b, 0x81, 0x04, 0x00, 0x22]
  modulus := joinWords [0xffffffffffffffffffffffffffffffff, 0xfffffffffffffffffffffffffffffffe,
    0xffffffff0000000000000000ffffffff]
  base :=
    (joinWords [0xaa87ca22be8b05378eb1c71ef320ad74, 0x6e1d3b628ba79b9859f741e082542a38,
      0x5502f25dbf55296c3a545e3872760ab7],
    joinWords [0x3617de4a96262c6f5d9e98bf9292dc29, 0xf8f41dbd289a147ce9da3113b5f0b8c0,
      0x0a60b1ce1d7e819d7a431d7c90ea0e5f])
  order := joinWords [0xffffffffffffffffffffffffffffffff, 0xffffffffffffffffc7634d81f4372ddf,
    0x581a0db248b0a77aecec196accc52973]
  size := 48

/-- The curve over a prime of 521 bits. -/
def prime521 : Curve where
  identifier := [0x2b, 0x81, 0x04, 0x00, 0x23]
  modulus := joinWords [0x1ff, 0xffffffffffffffffffffffffffffffff,
    0xffffffffffffffffffffffffffffffff, 0xffffffffffffffffffffffffffffffff,
    0xffffffffffffffffffffffffffffffff]
  base :=
    (joinWords [0xc6, 0x858e06b70404e9cd9e3ecb662395b442, 0x9c648139053fb521f828af606b4d3dba,
      0xa14b5e77efe75928fe1dc127a2ffa8de, 0x3348b3c1856a429bf97e7e31c2e5bd66],
    joinWords [0x118, 0x39296a789a3bc0045c8a5fb42c7d1bd9, 0x98f54449579b446817afbd17273e662c,
      0x97ee72995ef42640c550b9013fad0761, 0x353c7086a272c24088be94769fd16650])
  order := joinWords [0x1ff, 0xffffffffffffffffffffffffffffffff,
    0xfffffffffffffffffffffffffffffffa, 0x51868783bf2f966b7fcc0148f709a5d0,
    0x3bb5c9b8899c47aebb6fb71e91386409]
  size := 66

/-- The curves that are known, in the order in which they are tried. -/
def known : List Curve := [prime256, prime384, prime521]

end Curve

end DocumentCursor.Tls
