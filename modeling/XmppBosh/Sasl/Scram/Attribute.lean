import XmppBosh.Bytes
import XmppBosh.Sasl.Error
import XmppBosh.Text.Fields

/-!
# SCRAM messages as attribute lists

A SCRAM message is a list of attributes with commas between them; an attribute is one character, an
equals sign, and a value.

* `Frame.render` writes a list of attributes;
* `Frame.parse` reads one back, in order and with repetitions.
-/

namespace XmppBosh.Sasl.Scram

structure Attribute where
  key : Char
  value : String
  deriving DecidableEq

def Attribute.chars (a : Attribute) : List Char := a.key :: '=' :: a.value.toList

/-- The attribute that a run of characters spells: its second character is the equals sign. -/
def Attribute.ofChars? : List Char → Option Attribute
  | key :: '=' :: value => some ⟨key, String.ofList value⟩
  | _ => none

namespace Frame

def text (attributes : List Attribute) : String :=
  String.ofList (Text.joined ',' (attributes.map Attribute.chars))

def render (attributes : List Attribute) : Bytes := Bytes.utf8 (text attributes)

def ofText? (text : String) : Option (List Attribute) :=
  (Text.fields ',' text.toList).mapM Attribute.ofChars?

def parse (message : Bytes) : Except MechanismError (List Attribute) :=
  match Bytes.ofUtf8? message with
  | none => .error .cannotDecodeChallenge
  | some text =>
    match ofText? text with
    | none => .error (.malformedChallenge "expected equals sign")
    | some attributes => .ok attributes

end Frame

end XmppBosh.Sasl.Scram
