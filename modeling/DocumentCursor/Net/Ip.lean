import DocumentCursor.Text.Numeral
import DocumentCursor.Text.Split

/-! # Internet addresses

Addresses of both families with their canonical text form and the reader of that form.

A version 4 address is four decimal octets without leading zeros. A version 6 address is eight
hexadecimal groups, of which one run of at least two zero groups, the longest and among equals the
first, is written as a double colon; an address that carries a version 4 address in its last two
groups after `ffff` shows it in dotted form. The reader also takes groups with leading zeros, upper
case digits, any single run of zeros behind a double colon, and a dotted form in last place.

Main definitions:

* `Ip`, `Ip.text` and `Ip.read?`;
* `SocketAddress`, `SocketAddress.text` and `SocketAddress.read?`.
-/

namespace DocumentCursor.Net

open Text

/-- A version 4 address, as its octets. -/
structure Ipv4 where
  a : UInt8
  b : UInt8
  c : UInt8
  d : UInt8
  deriving DecidableEq, Repr

/-- A version 6 address, as its eight groups. -/
structure Ipv6 where
  groups : Vector UInt16 8
  deriving DecidableEq, Repr

/-- An address of either family. -/
inductive Ip where
  | v4 (address : Ipv4)
  | v6 (address : Ipv6)
  deriving DecidableEq, Repr

/-! ## Version 4 -/

namespace Ipv4

/-- Four decimal octets between dots, `127.0.0.1`. -/
def text (ip : Ipv4) : List Char :=
  joined '.' ([ip.a, ip.b, ip.c, ip.d].map fun octet => digitsText octet.toNat)

/-- Reads an octet: at most three digits, no leading zero beside zero itself, at most `255`. -/
def octet? (digits : List Char) : Option UInt8 :=
  if digits.length ≤ 3 ∧ (digits.head? ≠ some '0' ∨ digits.length = 1) then
    ((Numeral.digits? 10 digits).filter (· ≤ 255)).map UInt8.ofNat
  else none

/-- Reads four octets between dots, neither more nor fewer. -/
def read? (text : List Char) : Option Ipv4 :=
  match (cut '.' text).mapM octet? with
  | some [a, b, c, d] => some ⟨a, b, c, d⟩
  | _ => none

end Ipv4

/-! ## Version 6 -/

namespace Ipv6

/-- A group in hexadecimal without leading zeros, so that of zero is `0`. -/
def groupText (group : UInt16) : List Char := Nat.toDigits 16 group.toNat

/-- The number of zero groups in a row from a place on, `0` if the group there is not zero. -/
def zerosAt (groups : List UInt16) (place : Nat) : Nat :=
  ((groups.drop place).takeWhile (· == 0)).length

/-- Where the longest run of zero groups begins, the first one of equals, and its length, which is
`0` if no group is zero. -/
def longestZeros (groups : List UInt16) : Nat × Nat :=
  (List.range groups.length).foldl (fun best place =>
    if best.2 < zerosAt groups place then (place, zerosAt groups place) else best) (0, 0)

/-- The version 4 address that the last two groups hold, when the others are five zeros and
`ffff`. -/
def mapped? (ip : Ipv6) : Option Ipv4 :=
  match ip.groups.toList with
  | [0, 0, 0, 0, 0, 0xffff, high, low] =>
    some ⟨(high >>> 8).toUInt8, high.toUInt8, (low >>> 8).toUInt8, low.toUInt8⟩
  | _ => none

/-- Groups between colons, without a double colon. -/
def groupsText (groups : List UInt16) : List Char := joined ':' (groups.map groupText)

/-- The canonical text of an address: `::` stands for the longest run of zeros, if there are two at
least, and a `mapped?` address is written with dots. -/
def text (ip : Ipv6) : List Char :=
  match ip.mapped? with
  | some v4 => "::ffff:".toList ++ v4.text
  | none =>
    let groups := ip.groups.toList
    let (start, length) := longestZeros groups
    if 1 < length then
      groupsText (groups.take start) ++ ':' :: ':' :: groupsText (groups.drop (start + length))
    else groupsText groups

/-- Reads a group of one to four hexadecimal digits, of either case. -/
def group? (digits : List Char) : Option UInt16 :=
  if digits.length ≤ 4 then (Numeral.digits? 16 digits).map UInt16.ofNat else none

/-- Reads groups of which the last may be a dotted version 4 address, which fills two. No piece may
be empty. -/
def groups? : List (List Char) → Option (List UInt16)
  | [] => some []
  | [piece] =>
    match Ipv4.read? piece with
    | some v4 => some [v4.a.toUInt16 <<< 8 ||| v4.b.toUInt16, v4.c.toUInt16 <<< 8 ||| v4.d.toUInt16]
    | none => (group? piece).map ([·])
  | piece :: pieces => (group? piece).bind fun group => (groups? pieces).map (group :: ·)

/-- The parts of a text before and after its first double colon, and `none` if there is none. -/
def splitGap : List Char → Option (List Char × List Char)
  | ':' :: ':' :: rest => some ([], rest)
  | c :: rest => (splitGap rest).map fun parts => (c :: parts.1, parts.2)
  | [] => none

/-- The pieces of one side of a double colon, of which there are none when the side is empty: `cut`
would find an empty one. -/
def sidePieces (side : List Char) : List (List Char) :=
  if side = [] then [] else cut ':' side

/-- The address with the given groups, when they are eight, and `none` otherwise. -/
def ofGroups? (groups : List UInt16) : Option Ipv6 :=
  if h : groups.toArray.size = 8 then some ⟨⟨groups.toArray, h⟩⟩ else none

/-- Reads eight groups, or fewer around one double colon that stands for the missing zeros, of which
there is one at least. -/
def read? (text : List Char) : Option Ipv6 :=
  match splitGap text with
  | none => (groups? (cut ':' text)).bind ofGroups?
  | some (front, back) =>
    ((sidePieces front).mapM group?).bind fun head =>
      (groups? (sidePieces back)).bind fun tail =>
        if head.length + tail.length ≤ 7 then
          ofGroups? (head ++ List.replicate (8 - (head.length + tail.length)) 0 ++ tail)
        else none

end Ipv6

/-! ## Either family -/

namespace Ip

/-- The canonical text of an address. -/
def text : Ip → String
  | v4 ip => String.ofList ip.text
  | v6 ip => String.ofList ip.text

/-- Reads an address of either family, version 4 first. -/
def read? (text : List Char) : Option Ip :=
  match Ipv4.read? text with
  | some ip => some (v4 ip)
  | none => (Ipv6.read? text).map v6

end Ip

/-! ## Socket addresses -/

/-- An address with a port. The scope matters only to version 6 addresses and is otherwise zero. -/
structure SocketAddress where
  ip : Ip
  port : UInt16
  scope : UInt32 := 0
  deriving DecidableEq, Repr

namespace SocketAddress

/-- A version 6 address stands in brackets, with its scope after a percent sign unless zero:
`[fe80::1%2]:80`. -/
def text (address : SocketAddress) : String :=
  let port := toString address.port.toNat
  match address.ip with
  | .v4 _ => address.ip.text ++ ":" ++ port
  | .v6 _ =>
    let scope := if address.scope = 0 then "" else "%" ++ toString address.scope.toNat
    "[" ++ address.ip.text ++ scope ++ "]:" ++ port

/-- Reads an unsigned decimal of at most `bound`, without a sign. Zeros in front are no matter. -/
def decimal? (bound : Nat) (digits : List Char) : Option Nat :=
  (Numeral.digits? 10 digits).filter (· ≤ bound)

/-- Reads the text form of a socket address, `ip:port` or `[ip%scope]:port`. -/
def read? : List Char → Option SocketAddress
  | '[' :: rest =>
    match rest.dropWhile (· ≠ ']') with
    | ']' :: ':' :: port =>
      let inside := rest.takeWhile (· ≠ ']')
      (decimal? 65535 port).bind fun port =>
        (Ipv6.read? (inside.takeWhile (· ≠ '%'))).bind fun ip =>
          match inside.dropWhile (· ≠ '%') with
          | '%' :: scope =>
            (decimal? 4294967295 scope).map fun scope =>
              ⟨.v6 ip, UInt16.ofNat port, UInt32.ofNat scope⟩
          | _ => some ⟨.v6 ip, UInt16.ofNat port, 0⟩
    | _ => none
  | text =>
    match text.dropWhile (· ≠ ':') with
    | ':' :: port =>
      (decimal? 65535 port).bind fun port =>
        (Ipv4.read? (text.takeWhile (· ≠ ':'))).map fun ip => ⟨.v4 ip, UInt16.ofNat port, 0⟩
    | _ => none

end SocketAddress

end DocumentCursor.Net
