import XmppBosh.Sasl.Error
import XmppBosh.Text.Base64
import XmppBosh.Text.Blank

/-!
# Payloads as text

A payload travels as the text of an element, in base64. An absent payload has no text, and one that
is present but empty is written as an equals sign.

* `encode` writes a payload; `decode` reads one, blanks around it aside.
-/

namespace XmppBosh.Sasl.Payload

def encode : Option Bytes → Option String
  | none => none
  | some [] => some "="
  | some bytes => some (Text.Base64.encode bytes)

def decode (text : String) : Except MechanismError (Option Bytes) :=
  let inner := Text.trim text
  if inner = "" then .ok none
  else if inner = "=" then .ok (some [])
  else match Text.Base64.decode? inner with
    | some bytes => .ok (some bytes)
    | none => .error .cannotDecodeChallenge

end XmppBosh.Sasl.Payload
