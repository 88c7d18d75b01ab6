import XmppBosh.Xml.Run

/-!
# Tags and texts

A document cut into tags and texts, with the characters that they mean.

* `QName` : a name with the label of its namespace, empty when it has none;
* `Token` : an opening tag, a closing tag, or a text;
* `Token.next?` : the first token of a run of characters, and the rest.

Comments, processing instructions and document types are not taken.
-/

namespace XmppBosh.Xml

structure QName where
  label : String
  base : String
  deriving DecidableEq

def QName.text (q : QName) : String := if q.label = "" then q.base else q.label ++ ":" ++ q.base

inductive Token where
  | opening (name : QName) (attributes : List (QName × String)) (closed : Bool)
  | closing (name : QName)
  | text (content : String)

namespace Token

/-! ## Parts of a tag -/

def cutAt? (mark : List Char) : List Char → Option (List Char × List Char)
  | [] => none
  | c :: cs =>
    if mark.isPrefixOf (c :: cs) then some ([], (c :: cs).drop mark.length)
    else (cutAt? mark cs).map fun (a, b) => (c :: a, b)

def isPlainName : List Char → Bool
  | [] => false
  | c :: cs => isNameStart c && cs.all isNameChar

def qname? (cs : List Char) : Option QName :=
  match cutAt? [':'] cs with
  | none => if isPlainName cs then some ⟨"", String.ofList cs⟩ else none
  | some (label, base) =>
    if isPlainName label && isPlainName base then some ⟨String.ofList label, String.ofList base⟩
    else none

def takeName? (cs : List Char) : Option (QName × List Char) := do
  let isIn := fun c => isNameChar c || c = ':'
  let written := cs.takeWhile isIn
  guard (byteCount written ≤ capacity)
  let name ← qname? written
  some (name, cs.dropWhile isIn)

def takeValue? : List Char → Option (List Char × List Char)
  | '"' :: cs => cutAt? ['"'] cs
  | '\'' :: cs => cutAt? ['\''] cs
  | _ => none

def takeAttribute? (cs : List Char) : Option ((QName × String) × List Char) := do
  let (name, rest) ← takeName? cs
  match rest.dropWhile isBlank with
  | '=' :: rest =>
    let (raw, rest) ← takeValue? (rest.dropWhile isBlank)
    let value ← Run.value? raw
    some ((name, String.ofList value), rest)
  | _ => none

/-- The attributes at the front of a run, up to the end of the tag, and whether the tag closes
itself. A blank stands before each attribute; there are at most `budget` of them. -/
def takeAttributes? : Nat → List Char → Option (List (QName × String) × Bool × List Char)
  | 0, _ => none
  | budget + 1, cs =>
    match cs.dropWhile isBlank with
    | '>' :: rest => some ([], false, rest)
    | '/' :: '>' :: rest => some ([], true, rest)
    | inner =>
      if cs.head?.any isBlank then do
        let (one, rest) ← takeAttribute? inner
        let (attributes, closed, rest) ← takeAttributes? budget rest
        some (one :: attributes, closed, rest)
      else none

/-! ## Tokens -/

/-- The first token of a run, and the rest. A text may hold neither `]]>` nor the end of the
document. -/
def next? : List Char → Option (Token × List Char)
  | '<' :: '/' :: cs => do
    let (name, rest) ← takeName? cs
    match rest.dropWhile isBlank with
    | '>' :: rest => some (.closing name, rest)
    | _ => none
  | '<' :: '!' :: '[' :: 'C' :: 'D' :: 'A' :: 'T' :: 'A' :: '[' :: cs => do
    let (content, rest) ← cutAt? [']', ']', '>'] cs
    some (.text (String.ofList (← Run.cdata? content)), rest)
  | '<' :: cs => do
    let (name, rest) ← takeName? cs
    let (attributes, closed, rest) ← takeAttributes? (cs.length + 1) rest
    some (.opening name attributes closed, rest)
  | [] => none
  | cs => do
    let raw := cs.takeWhile (· ≠ '<')
    guard (cutAt? [']', ']', '>'] raw).isNone
    some (.text (String.ofList (← Run.text? raw)), cs.dropWhile (· ≠ '<'))

end Token

end XmppBosh.Xml
