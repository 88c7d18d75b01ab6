/-!
# Elements

* `Tag` : what stands in an element's opening tag, namespaces resolved;
* `Node` : a text or an element;
* `Element` : a tag with the nodes inside; `Element.attr?`, `Element.elements` and `Element.text`
  look into it.
-/

namespace XmppBosh.Xml

structure Tag where
  /-- The name without the label of its namespace. -/
  name : String
  /-- The namespace of the name. -/
  ns : String
  /-- The namespaces declared here by label, the default one under the empty label. -/
  declared : List (String × String) := []
  /-- The attributes by name, label and all, in the order of their names. -/
  attributes : List (String × String) := []

inductive Node where
  | text (content : String)
  | element (tag : Tag) (children : List Node)

structure Element where
  tag : Tag
  children : List Node := []

def Node.element? : Node → Option Element
  | .text _ => none
  | .element tag children => some ⟨tag, children⟩

def Node.text? : Node → Option String
  | .text content => some content
  | .element _ _ => none

namespace Element

def toNode (e : Element) : Node := .element e.tag e.children

def name (e : Element) : String := e.tag.name

def ns (e : Element) : String := e.tag.ns

def attr? (e : Element) (name : String) : Option String := e.tag.attributes.lookup name

def elements (e : Element) : List Element := e.children.filterMap Node.element?

def text (e : Element) : String := String.join (e.children.filterMap Node.text?)

def is (e : Element) (name ns : String) : Bool := e.name = name && e.ns = ns

def make (name ns : String) (attributes : List (String × String)) (text : String) : Element :=
  { tag := { name, ns, attributes }, children := if text = "" then [] else [.text text] }

end Element

end XmppBosh.Xml
