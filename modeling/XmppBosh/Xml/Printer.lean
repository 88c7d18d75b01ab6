import XmppBosh.Xml.Element

/-!
# Writing an element

`Element.print e` is the element as a document of its own. Declarations stand in single quotes and
attributes in double quotes. An element's name is written without a label where its namespace is the
default one, else with a label that its own tag or the outermost element declares for it; where
there is neither, the default namespace is declared on the spot, or a label is made up if the tag
has a default namespace already. An attribute's label is kept, made up or replaced so that its own
tag declares it. Only one label is declared for a namespace in one tag.
-/

namespace XmppBosh.Xml

namespace Printer

def escapeText (c : Char) : String :=
  match c with
  | '<' => "&lt;"
  | '>' => "&gt;"
  | '&' => "&amp;"
  | '\r' => "&#xd;"
  | c => c.toString

def escapeValue (c : Char) : String :=
  match c with
  | '"' => "&#34;"
  | '\'' => "&#39;"
  | '\n' => "&#xa;"
  | '\t' => "&#x9;"
  | c => escapeText c

def escaped (escape : Char → String) (text : String) : String :=
  String.join (text.toList.map escape)

def declaration (label uri : String) : String :=
  let name := if label = "" then "xmlns" else "xmlns:" ++ label
  " " ++ name ++ "='" ++ escaped escapeValue uri ++ "'"

def valued (name value : String) : String :=
  " " ++ name ++ "=\"" ++ escaped escapeValue value ++ "\""

def labelled (label name : String) : String := if label = "" then name else label ++ ":" ++ name

/-! ## Labels -/

/-- The labels that a tag declares, with their namespaces, and how many of them are made up. -/
structure Labels where
  entries : List (String × String) := []
  made : Nat := 0

namespace Labels

/-- The labels among declarations: of those for one namespace the last one stays. -/
def ofDeclared (declared : List (String × String)) : Labels where
  entries := (declared.filter (·.1 ≠ "")).foldl
    (fun out (label, uri) => out.filter (·.2 ≠ uri) ++ [(label, uri)]) []

def find? (l : Labels) (uri : String) : Option String :=
  (l.entries.find? (·.2 = uri)).map Prod.fst

/-- A label made up for a namespace, and the labels with it. -/
def make (l : Labels) (uri : String) : String × Labels :=
  let label := "tns" ++ toString l.made
  (label, ⟨l.entries ++ [(label, uri)], l.made + 1⟩)

end Labels

/-- What is in force around an element. -/
structure Scope where
  /-- The default namespace, if it is not empty. -/
  default : String := ""
  /-- The labels of the outermost element. -/
  outermost : Labels := {}
  /-- The declarations around, the innermost first. -/
  declared : List (String × String) := []

/-! ## Tags -/

/-- How an element's name is written: its label, what its tag declares for it, and the default
namespace inside. -/
structure Naming where
  label : String
  /-- The default namespace that the tag declares. -/
  ownDefault : Option String
  labels : Labels
  default : String

def naming (scope : Scope) (tag : Tag) : Naming :=
  let own := tag.declared.lookup ""
  let default := own.getD scope.default
  let labels := Labels.ofDeclared tag.declared
  if tag.ns = default ∧ tag.ns ≠ "" then ⟨"", own, labels, default⟩
  else match labels.find? tag.ns <|> scope.outermost.find? tag.ns with
    | some label => ⟨label, own, labels, default⟩
    | none =>
      if own.isNone then ⟨"", some tag.ns, labels, tag.ns⟩
      else
        let (label, labels) := labels.make tag.ns
        ⟨label, own, labels, default⟩

/-- An attribute, given the declarations in force and the labels of its tag, and the labels after
it. The label `xml` needs no declaration, and one that nothing declares is left alone. -/
def attributeText (declared : List (String × String)) (labels : Labels) (name value : String) :
    String × Labels :=
  let verbatim := (valued name value, labels)
  match name.splitOn ":" with
  | [label, base] =>
    if label = "xml" then verbatim
    else match declared.lookup label with
      | none => verbatim
      | some uri =>
        match labels.find? uri with
        | some own => (valued (labelled own base) value, labels)
        | none =>
          let (made, labels) := labels.make uri
          (declaration made uri ++ valued (labelled made base) value, labels)
  | _ => verbatim

def attributesText (declared : List (String × String)) (labels : Labels) :
    List (String × String) → String
  | [] => ""
  | (name, value) :: rest =>
    let (text, labels) := attributeText declared labels name value
    text ++ attributesText declared labels rest

def head (n : Naming) (declared : List (String × String)) (tag : Tag) : String :=
  "<" ++ labelled n.label tag.name
    ++ (n.ownDefault.map (declaration "")).getD ""
    ++ String.join (n.labels.entries.map fun (label, uri) => declaration label uri)
    ++ attributesText declared n.labels tag.attributes

def foot (n : Naming) (tag : Tag) : String := "</" ++ labelled n.label tag.name ++ ">"

mutual

def node (scope : Scope) : Node → String
  | .text content => escaped escapeText content
  | .element tag children =>
    let n := naming scope tag
    let inside := { scope with default := n.default, declared := tag.declared ++ scope.declared }
    if children.isEmpty then head n inside.declared tag ++ "/>"
    else head n inside.declared tag ++ ">" ++ nodes inside children ++ foot n tag

def nodes (scope : Scope) : List Node → String
  | [] => ""
  | c :: cs => node scope c ++ nodes scope cs

end

end Printer

def Element.print (e : Element) : String :=
  Printer.node { outermost := .ofDeclared e.tag.declared } e.toNode

end XmppBosh.Xml
