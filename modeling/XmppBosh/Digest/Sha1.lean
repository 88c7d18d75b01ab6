import XmppBosh.Bytes

/-!
# SHA-1

* `Chain` : the five words carried from block to block, `Chain.initial` before the first;
* `pad` : a message filled up to whole blocks of 64 bytes, its length in bits in the last eight;
* `schedule` : the 80 words a block of 16 grows into;
* `Chain.absorb` : one block taken in, in 80 rounds;
* `sha1` : the digest, 20 bytes (`length_sha1`).
-/

namespace XmppBosh.Digest

/-- The five words carried from one block to the next. -/
structure Chain where
  a : UInt32
  b : UInt32
  c : UInt32
  d : UInt32
  e : UInt32

def Chain.initial : Chain := ⟨0x67452301, 0xEFCDAB89, 0x98BADCFE, 0x10325476, 0xC3D2E1F0⟩

/-- Rotation to the left by `n` bits, for `0 < n < 32`. -/
def rotateLeft (w n : UInt32) : UInt32 := (w <<< n) ||| (w >>> (32 - n))

/-! ## Words and blocks -/

def wordBytes (w : UInt32) : Bytes :=
  [(w >>> 24).toUInt8, (w >>> 16).toUInt8, (w >>> 8).toUInt8, w.toUInt8]

def wordOf (a b c d : UInt8) : UInt32 :=
  (a.toUInt32 <<< 24) ||| (b.toUInt32 <<< 16) ||| (c.toUInt32 <<< 8) ||| d.toUInt32

def words : Bytes → List UInt32
  | a :: b :: c :: d :: rest => wordOf a b c d :: words rest
  | _ => []

/-- A length in bits as eight bytes, the highest first. -/
def lengthBytes (bits : UInt64) : Bytes :=
  wordBytes (bits >>> 32).toUInt32 ++ wordBytes bits.toUInt32

/-- A message followed by a one bit, by zeros, and by its length in bits; whole blocks of 64 bytes. -/
def pad (message : Bytes) : Bytes :=
  message ++ 0x80 :: (List.replicate ((119 - message.length % 64) % 64) 0
    ++ lengthBytes (UInt64.ofNat (8 * message.length)))

def nextWord (ws : Array UInt32) : UInt32 :=
  let t := ws.size
  rotateLeft (ws.getD (t - 3) 0 ^^^ ws.getD (t - 8) 0 ^^^ ws.getD (t - 14) 0 ^^^ ws.getD (t - 16) 0) 1

/-- The schedule of a block: its 16 words, then 64 more. -/
def schedule (block : Array UInt32) : Array UInt32 :=
  (List.range 64).foldl (fun ws _ => ws.push (nextWord ws)) block

/-! ## Rounds -/

def mix (t : Nat) (x y z : UInt32) : UInt32 :=
  if t < 20 then ((x &&& y) ||| (~~~x &&& z)) + 0x5A827999
  else if t < 40 then (x ^^^ y ^^^ z) + 0x6ED9EBA1
  else if t < 60 then ((x &&& y) ||| (x &&& z) ||| (y &&& z)) + 0x8F1BBCDC
  else (x ^^^ y ^^^ z) + 0xCA62C1D6

def Chain.round (s : Chain) (t : Nat) (w : UInt32) : Chain :=
  ⟨rotateLeft s.a 5 + mix t s.b s.c s.d + s.e + w, s.a, rotateLeft s.b 30, s.c, s.d⟩

def Chain.absorb (s : Chain) (block : Array UInt32) : Chain :=
  let ws := schedule block
  let r := (List.range 80).foldl (fun r t => r.round t (ws.getD t 0)) s
  ⟨s.a + r.a, s.b + r.b, s.c + r.c, s.d + r.d, s.e + r.e⟩

/-- A chain with the words of the block that is being filled. -/
structure Absorber where
  chain : Chain := Chain.initial
  block : Array UInt32 := #[]

/-- One more word; the sixteenth of a block has the block taken in. -/
def Absorber.push (s : Absorber) (w : UInt32) : Absorber :=
  let block := s.block.push w
  if block.size = 16 then ⟨s.chain.absorb block, #[]⟩ else ⟨s.chain, block⟩

def Chain.bytes (s : Chain) : Bytes :=
  wordBytes s.a ++ wordBytes s.b ++ wordBytes s.c ++ wordBytes s.d ++ wordBytes s.e

def sha1 (message : Bytes) : Bytes := ((words (pad message)).foldl Absorber.push {}).chain.bytes

@[simp] theorem length_sha1 (message : Bytes) : (sha1 message).length = 20 := rfl

end XmppBosh.Digest
