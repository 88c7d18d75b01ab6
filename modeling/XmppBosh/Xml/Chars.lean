import XmppBosh.Text.Ranges

/-!
# Characters of XML

Which characters may stand in a document (`isAllowed`), begin a name (`isNameStart`) or go on in one
(`isNameChar`), and which separate (`isBlank`).
-/

namespace XmppBosh.Xml

/-- Space, tab, and the ends of lines. -/
def isBlank (c : Char) : Bool := c = ' ' || c = '\t' || c = '\n' || c = '\r'

def isAllowed (c : Char) : Bool :=
  c = '\t' || c = '\n' || c = '\r' || (' ' ≤ c && c ≠ '\uFFFE' && c ≠ '\uFFFF')

/-- The ranges of characters that begin a name, the colon left out. -/
def nameStarts : Text.Ranges :=
  [(0x41, 0x5A), (0x5F, 0x5F), (0x61, 0x7A), (0xC0, 0xD6), (0xD8, 0xF6), (0xF8, 0x2FF), (0x370, 0x37D),
    (0x37F, 0x1FFF), (0x200C, 0x200D), (0x2070, 0x218F), (0x2C00, 0x2FEF), (0x3001, 0xD7FF),
    (0xF900, 0xFDCF), (0x10000, 0xEFFFF)]

/-- The ranges of characters that a name may hold but not begin with. -/
def nameExtras : Text.Ranges :=
  [(0x2D, 0x2E), (0x30, 0x39), (0xB7, 0xB7), (0x300, 0x36F), (0x203F, 0x2040)]

def isNameStart (c : Char) : Bool := nameStarts.has c

def isNameChar (c : Char) : Bool := isNameStart c || nameExtras.has c

end XmppBosh.Xml
