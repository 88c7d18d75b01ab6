import XmppBosh.Digest.Sha1

/-!
# Keyed digests and password stretching

* `hmac key message` : HMAC with SHA-1, 20 bytes (`length_hmac`);
* `pbkdf2 password salt n` : one block of PBKDF2 over that, 20 bytes (`length_pbkdf2`): the
  exclusive or of the first `n` links of a chain of keyed digests, and of one link when `n` is zero.
-/

namespace XmppBosh.Digest

/-- A key as one block of 64 bytes: a longer one by its digest, a shorter one filled with zeros. -/
def keyBlock (key : Bytes) : Bytes :=
  let short := if 64 < key.length then sha1 key else key
  short ++ List.replicate (64 - short.length) 0

def hmac (key message : Bytes) : Bytes :=
  let block := keyBlock key
  sha1 (block.map (· ^^^ 0x5C) ++ sha1 (block.map (· ^^^ 0x36) ++ message))

@[simp] theorem length_hmac (key message : Bytes) : (hmac key message).length = 20 := rfl

/-- Takes `n` more links of the chain after `link`, each added to `total`. -/
def stretch (password : Bytes) : Nat → Bytes → Bytes → Bytes
  | 0, _, total => total
  | n + 1, link, total =>
    let next := hmac password link
    stretch password n next (total.xor next)

/-- PBKDF2 with HMAC and SHA-1, deriving one block. -/
def pbkdf2 (password salt : Bytes) (iterations : Nat) : Bytes :=
  let first := hmac password (salt ++ [0, 0, 0, 1])
  stretch password (iterations - 1) first first

theorem length_stretch (password : Bytes) (n : Nat) (link total : Bytes) (h : total.length = 20) :
    (stretch password n link total).length = 20 := by
  induction n generalizing link total with
  | zero => exact h
  | succ n ih => exact ih _ _ (by simp [Bytes.xor, h])

@[simp] theorem length_pbkdf2 (password salt : Bytes) (iterations : Nat) :
    (pbkdf2 password salt iterations).length = 20 :=
  length_stretch _ _ _ _ (length_hmac _ _)

end XmppBosh.Digest
