/-!
# Names in upper case

`upper text` is a text in upper case as far as names of ASCII characters are concerned: the small
letters of ASCII, and the two letters beyond it whose upper case is one letter of ASCII, the long s
and the dotless i. Every other character keeps apart from ASCII in either case, or becomes several
letters.
-/

namespace XmppBosh.Text

/-- A character in upper case, if that is a letter of ASCII; else itself. -/
def upperChar (c : Char) : Char :=
  if c = 'ſ' then 'S' else if c = 'ı' then 'I' else c.toUpper

def upper (text : String) : String := String.ofList (text.toList.map upperChar)

end XmppBosh.Text
