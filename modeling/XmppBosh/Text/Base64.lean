import XmppBosh.Bytes

/-!
# Base64

The standard alphabet with padding, as one text for each byte string: a group of four characters
stands for three bytes, the last group is filled with `=`, and the bits that a filled group does
not use are zero.

* `encode` writes, `decode?` reads and refuses whatever `encode` does not write: other characters,
  missing padding, unused bits that are not zero.
-/

namespace XmppBosh.Text.Base64

def digit (n : Nat) : Char :=
  if n < 26 then Char.ofNat (65 + n)
  else if n < 52 then Char.ofNat (71 + n)
  else if n < 62 then Char.ofNat (n - 4)
  else if n = 62 then '+' else '/'

def value? (c : Char) : Option Nat :=
  if 'A' ≤ c ∧ c ≤ 'Z' then some (c.toNat - 65)
  else if 'a' ≤ c ∧ c ≤ 'z' then some (c.toNat - 71)
  else if '0' ≤ c ∧ c ≤ '9' then some (c.toNat + 4)
  else if c = '+' then some 62
  else if c = '/' then some 63
  else none

def encodeChars : Bytes → List Char
  | [] => []
  | [a] => [digit (a.toNat / 4), digit (a.toNat % 4 * 16), '=', '=']
  | [a, b] =>
    [digit (a.toNat / 4), digit (a.toNat % 4 * 16 + b.toNat / 16), digit (b.toNat % 16 * 4), '=']
  | a :: b :: c :: rest =>
    digit (a.toNat / 4) :: digit (a.toNat % 4 * 16 + b.toNat / 16)
      :: digit (b.toNat % 16 * 4 + c.toNat / 64) :: digit (c.toNat % 64) :: encodeChars rest

def decodeChars? : List Char → Option Bytes
  | [] => some []
  | [a, b, '=', '='] => do
    let x ← value? a
    let y ← value? b
    guard (y % 16 = 0)
    some [UInt8.ofNat (x * 4 + y / 16)]
  | [a, b, c, '='] => do
    let x ← value? a
    let y ← value? b
    let z ← value? c
    guard (z % 4 = 0)
    some [UInt8.ofNat (x * 4 + y / 16), UInt8.ofNat (y % 16 * 16 + z / 4)]
  | a :: b :: c :: d :: rest => do
    let x ← value? a
    let y ← value? b
    let z ← value? c
    let w ← value? d
    let bytes ← decodeChars? rest
    some (UInt8.ofNat (x * 4 + y / 16) :: UInt8.ofNat (y % 16 * 16 + z / 4)
      :: UInt8.ofNat (z % 4 * 64 + w) :: bytes)
  | _ => none

def encode (bytes : Bytes) : String := String.ofList (encodeChars bytes)

def decode? (text : String) : Option Bytes := decodeChars? text.toList

end XmppBosh.Text.Base64
