import XmppBosh.Xml.Element
import XmppBosh.Xml.Namespace
import XmppBosh.Xml.Token

/-!
# Reading a document

`Element.parse? text` is the root element of a document. An XML declaration may stand in front, and
what follows the root is not looked at. Each element's name has a namespace: by its label, or by the
default namespace of the elements around it.
-/

namespace XmppBosh.Xml

namespace Reader

/-! ## Names and namespaces -/

/-- Adds a value under a key in the order of keys, in place of an older one. -/
def put (key value : String) : List (String × String) → List (String × String)
  | [] => [(key, value)]
  | (k, v) :: rest =>
    if key = k then (k, value) :: rest
    else if key < k then (key, value) :: (k, v) :: rest
    else (k, v) :: put key value rest

/-- The label that an attribute declares, if it declares one; the empty label is the default. -/
def declares? (name : QName) : Option String :=
  if name.label = "" ∧ name.base = "xmlns" then some ""
  else if name.label = "xmlns" then some name.base
  else none

def declarations (attributes : List (QName × String)) : List (String × String) :=
  attributes.foldl (fun out (name, value) =>
    match declares? name with
    | some label => put label value out
    | none => out) []

def plainAttributes (attributes : List (QName × String)) : List (String × String) :=
  attributes.foldl (fun out (name, value) =>
    match declares? name with
    | some _ => out
    | none => put name.text value out) []

/-- Whether a namespace may be declared under a label. The label `xml` and its namespace belong
together, `xmlns` is no label to declare, and under a label there has to be a namespace. -/
def mayDeclare (label uri : String) : Bool :=
  if label = "xmlns" || uri = Namespace.xmlns then false
  else if label = "xml" || uri = Namespace.xml then label = "xml" && uri = Namespace.xml
  else label = "" || uri ≠ ""

/-- The tag of an opening tag within a scope of namespaces, and the scope inside it. -/
def tag? (scope : List (String × String)) (name : QName) (attributes : List (QName × String)) :
    Option (Tag × List (String × String)) := do
  guard (attributes.all fun (name, value) => (declares? name).all (mayDeclare · value))
  let declared := declarations attributes
  let scope := declared ++ scope
  let ns ← scope.lookup name.label
  some ({ name := name.base, ns, declared, attributes := plainAttributes attributes }, scope)

/-! ## Nesting -/

/-- An element that is still open, with the nodes read so far, the last one first. -/
structure Frame where
  name : QName
  tag : Tag
  scope : List (String × String)
  nodes : List Node := []

def Frame.close (f : Frame) : Element := ⟨f.tag, f.nodes.reverse⟩

/-- What reading one token leads to. -/
inductive Progress where
  /-- The root is closed. -/
  | done (root : Element)
  /-- These elements are open, the innermost first. -/
  | reading (frames : List Frame)

/-- A node inside the innermost open element; with none open it has to be the root. -/
def addElement (e : Element) : List Frame → Progress
  | [] => .done e
  | f :: frames => .reading ({ f with nodes := e.toNode :: f.nodes } :: frames)

def step? (frames : List Frame) : Token → Option Progress
  | .opening name attributes closed => do
    let (tag, scope) ← tag? ((frames.head?.map Frame.scope).getD []) name attributes
    if closed then some (addElement ⟨tag, []⟩ frames)
    else some (.reading ({ name, tag, scope } :: frames))
  | .closing name =>
    match frames with
    | [] => none
    | f :: frames => if f.name = name then some (addElement f.close frames) else none
  | .text content =>
    match frames with
    | [] => none
    | f :: frames =>
      if content = "" then some (.reading (f :: frames))
      else some (.reading ({ f with nodes := .text content :: f.nodes } :: frames))

/-- The root of a run of characters, in at most `budget` tokens. -/
def root? : Nat → List Frame → List Char → Option Element
  | 0, _, _ => none
  | budget + 1, frames, cs => do
    let (token, rest) ← Token.next? cs
    match ← step? frames token with
    | .done root => some root
    | .reading frames => root? budget frames rest

/-! ## Documents -/

def equalsIgnoringCase (a b : String) : Bool := a.toLower = b.toLower

/-- Whether the attributes of an XML declaration are those of a document that can be read. -/
def isReadable : List (QName × String) → Bool
  | [(⟨"", "version"⟩, "1.0")] => true
  | [(⟨"", "version"⟩, "1.0"), (⟨"", "encoding"⟩, encoding)] => equalsIgnoringCase encoding "utf-8"
  | [(⟨"", "version"⟩, "1.0"), (⟨"", "encoding"⟩, encoding), (⟨"", "standalone"⟩, alone)] =>
    equalsIgnoringCase encoding "utf-8" && equalsIgnoringCase alone "yes"
  | _ => false

def afterDeclaration? : List Char → Option (List Char)
  | '<' :: '?' :: 'x' :: 'm' :: 'l' :: cs => do
    let (inner, rest) ← Token.cutAt? ['?', '>'] cs
    let (attributes, closed, left) ← Token.takeAttributes? (inner.length + 1) (inner ++ ['>'])
    if isReadable attributes && !closed && left.isEmpty then some (rest.dropWhile isBlank) else none
  | cs => some cs

end Reader

def Element.parse? (text : String) : Option Element := do
  let cs ← Reader.afterDeclaration? text.toList
  Reader.root? (cs.length + 1) [] cs

end XmppBosh.Xml
