/-!
# Byte strings

* `Bytes` : a byte string as a list, so that messages are built with `++` and reasoned about by
  induction;
* `utf8` and `ofUtf8?` : the bytes of a text, and the text of bytes that are valid UTF-8
  (`ofUtf8?_eq_some_iff` : each is the other's inverse);
* `xor` and `xor?` : bytewise exclusive or; `xor?` refuses operands of different lengths;
* `toHex` : two lower case digits a byte.
-/

namespace XmppBosh

abbrev Bytes := List UInt8

namespace Bytes

def utf8 (text : String) : Bytes := text.toByteArray.data.toList

def ofUtf8? (bytes : Bytes) : Option String := String.fromUTF8? ⟨bytes.toArray⟩

@[simp] theorem ofUtf8?_utf8 (text : String) : ofUtf8? (utf8 text) = some text := by
  simp [ofUtf8?, utf8, String.fromUTF8?, String.fromUTF8, text.isValidUTF8]

theorem utf8_append (a b : String) : utf8 (a ++ b) = utf8 a ++ utf8 b := by
  simp [utf8]

theorem ofUtf8?_eq_some_iff {bytes : Bytes} {text : String} :
    ofUtf8? bytes = some text ↔ bytes = utf8 text := by
  constructor
  · intro h
    simp only [ofUtf8?, String.fromUTF8?] at h
    split at h
    · obtain rfl := Option.some.inj h
      simp [utf8, String.fromUTF8]
    · cases h
  · rintro rfl
    simp

/-- Bytewise exclusive or, as far as the shorter operand goes. -/
def xor (a b : Bytes) : Bytes := List.zipWith (· ^^^ ·) a b

/-- Bytewise exclusive or of operands of one length; there is none of two lengths. -/
def xor? (a b : Bytes) : Option Bytes := if a.length = b.length then some (xor a b) else none

def hexDigit (n : Nat) : Char := if n < 10 then Char.ofNat (48 + n) else Char.ofNat (87 + n)

def toHex (bytes : Bytes) : String :=
  String.ofList (bytes.flatMap fun b => [hexDigit (b.toNat / 16), hexDigit (b.toNat % 16)])

end Bytes

end XmppBosh
