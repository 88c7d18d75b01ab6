import XmppBosh.Stringprep.Classes
import XmppBosh.Stringprep.Folding
import XmppBosh.Stringprep.Normalize

/-!
# Profiles

A profile prepares a text for comparison: some characters are dropped, case is folded where the
profile folds it, the text is normalised, and then it is refused if it holds a prohibited or
unassigned character or mixes directions of writing.

* `nodeprep` for the local part of an address: no case, no blanks, none of `" & ' / : < > @`;
* `nameprep` for domains: no case, blanks beyond ASCII are prohibited;
* `resourceprep` for resources: case is kept, and so is the space.
-/

namespace XmppBosh.Stringprep

open Text (Ranges)

/-- What a profile folds and refuses. -/
structure Profile where
  /-- Whether case is folded. -/
  folds : Bool
  /-- Classes of characters that are refused. -/
  prohibited : List Ranges
  /-- Single characters that are refused. -/
  excluded : List Char := []

def alwaysProhibited : List Ranges :=
  [otherSpace, otherControl, privateUse, nonCharacter, unfitForPlainText, unfitForCanonical,
    displayProperty, tagging]

def nodeprep : Profile :=
  { folds := true
    prohibited := asciiSpace :: asciiControl :: alwaysProhibited
    excluded := ['"', '&', '\'', '/', ':', '<', '>', '@'] }

def nameprep : Profile := { folds := true, prohibited := alwaysProhibited }

def resourceprep : Profile := { folds := false, prohibited := asciiControl :: alwaysProhibited }

/-- Whether the directions of writing are mixed: a text with a character written from right to left
has none written the other way, and begins and ends with such characters. -/
def mixesDirections (cs : List Char) : Bool :=
  cs.any rightToLeft.has
    && (cs.any leftToRight.has || !(cs.head?.any rightToLeft.has && cs.getLast?.any rightToLeft.has))

namespace Profile

/-- A text with characters dropped, folded and normalised. -/
def map (p : Profile) (cs : List Char) : List Char :=
  let kept := cs.filter fun c => !mappedToNothing.has c
  normalize (if p.folds then kept.flatMap fold else kept)

def refuses (p : Profile) (c : Char) : Bool :=
  p.excluded.contains c || p.prohibited.any (·.has c) || unassigned.has c

def prepare? (p : Profile) (text : String) : Option String :=
  let cs := p.map text.toList
  if cs.any p.refuses || mixesDirections cs then none else some (String.ofList cs)

end Profile

end XmppBosh.Stringprep
