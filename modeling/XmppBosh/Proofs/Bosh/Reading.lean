import Mathlib.Data.List.Induction
import Mathlib.Data.List.Nodup
import XmppBosh.Proofs.Bosh.Writing

/-!
# Bodies are read back

Whatever values its attributes are given, a body says what it was meant to say: someone who reads its text finds the
attributes and, after them, the stanzas.

* `read?` : a reader of bodies, which knows nothing of how they are written; `read?_text` : it reads what was written;
* `Beginning`, `Edit` : what a body begins as, and what is done to it after that;
* `latest` : the attributes that assignments leave; `assigned_eq_latest` : these are the ones that a body keeps;
* `read_back` : what is read in a body that was edited.
-/

namespace XmppBosh.Bosh.Body

open Xml

/-! ## A reader -/

/-- The characters of a value, its references resolved. A value has no `<` in it, and no `&` but in a reference. -/
def resolve? : List Char → Option (List Char)
  | [] => some []
  | '&' :: 'a' :: 'm' :: 'p' :: ';' :: cs => (resolve? cs).map ('&' :: ·)
  | '&' :: 'l' :: 't' :: ';' :: cs => (resolve? cs).map ('<' :: ·)
  | '&' :: 'g' :: 't' :: ';' :: cs => (resolve? cs).map ('>' :: ·)
  | '&' :: 'a' :: 'p' :: 'o' :: 's' :: ';' :: cs => (resolve? cs).map ('\'' :: ·)
  | '&' :: 'q' :: 'u' :: 'o' :: 't' :: ';' :: cs => (resolve? cs).map ('"' :: ·)
  | '&' :: _ => none
  | '<' :: _ => none
  | c :: cs => (resolve? cs).map (c :: ·)

/-- The characters that a name goes on with, the colon after its label among them. -/
def isNamed (c : Char) : Bool := isNameChar c || c = ':'

/-- The attribute at the front of a run, and the rest: a name, an equals sign, and a value up to the next quote. -/
def readAttribute? (cs : List Char) : Option ((String × String) × List Char) :=
  match cs.takeWhile isNamed, cs.dropWhile isNamed with
  | c :: name, '=' :: '\'' :: rest =>
    match rest.dropWhile (· ≠ '\'') with
    | '\'' :: after => (resolve? (rest.takeWhile (· ≠ '\''))).map fun value =>
        ((String.ofList (c :: name), String.ofList value), after)
    | _ => none
  | _, _ => none

theorem length_readAttribute? {cs after : List Char} {a : String × String} (h : readAttribute? cs = some (a, after)) :
    after.length < cs.length := by
  unfold readAttribute? at h
  split at h
  · next c name rest _ hrest =>
    split at h
    · next after' hafter =>
      obtain ⟨value, -, heq⟩ := Option.map_eq_some_iff.1 h
      cases heq
      have hcs := (List.dropWhile_suffix (l := cs) isNamed).length_le
      have hvalue := (List.dropWhile_suffix (l := rest) (· ≠ '\'')).length_le
      rw [hrest] at hcs
      rw [hafter] at hvalue
      simp only [List.length_cons] at hcs hvalue
      omega
    · cases h
  · cases h

def readAttributes? : List Char → Option (List (String × String) × List Char)
  | ' ' :: cs =>
    match _hread : readAttribute? cs with
    | none => none
    | some (a, after) => (readAttributes? after).map fun (attributes, rest) => (a :: attributes, rest)
  | cs => some ([], cs)
termination_by cs => cs.length
decreasing_by
  have hshorter := length_readAttribute? _hread
  simp only [List.length_cons]
  omega

def foot : List Char := ['<', '/', 'b', 'o', 'd', 'y', '>']

/-- What stands between the tags of a body, given what follows its attributes. The closing tag is the one at the end,
since a stanza may have the like of it inside. -/
def content? : List Char → Option String
  | ['/', '>'] => some ""
  | '>' :: rest =>
    if foot.isSuffixOf rest then some (String.ofList (rest.take (rest.length - foot.length))) else none
  | _ => none

/-- The attributes of a body, and what stands between its tags. -/
def read? (text : String) : Option (List (String × String) × String) :=
  match text.toList with
  | '<' :: 'b' :: 'o' :: 'd' :: 'y' :: cs =>
    (readAttributes? cs).bind fun (attributes, rest) => (content? rest).map fun content => (attributes, content)
  | _ => none

/-! ## Reading what was written -/

theorem resolve?_escapeChar (c : Char) (cs : List Char) :
    resolve? (escapeChar c ++ cs) = (resolve? cs).map (c :: ·) := by
  unfold escapeChar
  split
  · rfl
  · rfl
  · rfl
  · rfl
  · rfl
  · next hamp hlt _ _ _ =>
    -- Any other character begins no reference.
    refine resolve?.eq_9 c cs ?_ ?_ ?_ ?_ ?_ hamp hlt <;> exact fun _ h _ => hamp h

/-- **A value is read back.** -/
theorem resolve?_escape (value : String) : resolve? (escape value) = some value.toList := by
  unfold escape
  induction value.toList with
  | nil => rfl
  | cons c cs ih => rw [List.flatMap_cons, resolve?_escapeChar, ih, Option.map_some]

/-- A name that can be read: it is not empty, and all of its characters are those of a name. -/
def Named (name : String) : Prop := name.toList ≠ [] ∧ ∀ c ∈ name.toList, isNamed c

variable {a : String × String} {l : List (String × String)} {b : Body}

theorem takeWhile_stop {p : Char → Bool} {c : Char} {cs : List Char} (hcs : ∀ d ∈ cs, p d) (hc : p c = false)
    (rest : List Char) : (cs ++ c :: rest).takeWhile p = cs := by
  rw [List.takeWhile_append_of_pos hcs, List.takeWhile_cons_of_neg (by simp [hc]), List.append_nil]

theorem dropWhile_stop {p : Char → Bool} {c : Char} {cs : List Char} (hcs : ∀ d ∈ cs, p d) (hc : p c = false)
    (rest : List Char) : (cs ++ c :: rest).dropWhile p = c :: rest := by
  rw [List.dropWhile_append_of_pos hcs, List.dropWhile_cons_of_neg (by simp [hc])]

/-- **An attribute is read back**: its name ends at the equals sign, its value at the first quote. -/
theorem readAttribute?_append (ha : Named a.1) (rest : List Char) :
    readAttribute? (a.1.toList ++ '=' :: '\'' :: (escape a.2 ++ '\'' :: rest)) = some (a, rest) := by
  have hequals : isNamed '=' = false := by decide
  have hvalue : ∀ c ∈ escape a.2, decide (c ≠ '\'') = true := by
    intro c hc
    rw [decide_eq_true_iff]
    rintro rfl
    exact quote_not_mem_escape a.2 hc
  obtain ⟨c, name, hname⟩ := List.exists_cons_of_ne_nil ha.1
  have hback : String.ofList (c :: name) = a.1 := by rw [← hname, String.ofList_toList]
  rw [readAttribute?, takeWhile_stop ha.2 hequals, dropWhile_stop ha.2 hequals, hname]
  simp only [takeWhile_stop hvalue (decide_eq_false (not_not_intro rfl)),
    dropWhile_stop hvalue (decide_eq_false (not_not_intro rfl)), resolve?_escape, Option.map_some, hback,
    String.ofList_toList]

/-- **The attributes are read back**, up to where none begins. -/
theorem readAttributes?_append (hl : ∀ a ∈ l, Named a.1) {rest : List Char} (hr : rest.head? ≠ some ' ') :
    readAttributes? (l.flatMap attributeChars ++ rest) = some (l, rest) := by
  induction l with
  | nil =>
    rw [List.flatMap_nil, List.nil_append]
    unfold readAttributes?
    split
    · exact absurd rfl hr
    · rfl
  | cons a l ih =>
    obtain ⟨ha, hl⟩ := List.forall_mem_cons.1 hl
    rw [List.flatMap_cons, List.append_assoc, attributeChars_eq, readAttributes?]
    split
    · next hnone =>
      rw [readAttribute?_append ha] at hnone
      cases hnone
    · next a' after hsome =>
      rw [readAttribute?_append ha] at hsome
      cases hsome
      rw [ih hl]
      rfl

theorem content?_foot (printed : List Char) : content? ('>' :: (printed ++ foot)) = some (String.ofList printed) := by
  have hfoot : foot.isSuffixOf (printed ++ foot) := List.isSuffixOf_iff_suffix.2 (List.suffix_append printed foot)
  have hlength : (printed ++ foot).length - foot.length = printed.length := by
    rw [List.length_append, Nat.add_sub_cancel]
  rw [content?, if_pos hfoot, hlength, List.take_left]

theorem content?_tailChars (b : Body) : content? b.tailChars = some (String.join (b.stanzas.map Element.print)) := by
  unfold tailChars
  cases hs : b.stanzas with
  | nil => rfl
  | cons e es =>
    have hprinted : String.ofList ((e :: es).flatMap (·.print.toList)) = String.join ((e :: es).map Element.print) := by
      rw [← String.toList_inj, String.toList_ofList, String.toList_join, List.flatMap_map]
    rw [List.isEmpty_cons, if_neg Bool.false_ne_true, ← hprinted]
    exact content?_foot _

/-- **A body is read back**: its attributes, and its stanzas one after the other. -/
theorem read?_text (hb : ∀ a ∈ b.attributes, Named a.1) :
    read? b.text = some (b.attributes, String.join (b.stanzas.map Element.print)) := by
  rw [read?, text, String.toList_ofList, chars_eq]
  simp only [List.cons_append, List.nil_append, readAttributes?_append hb (head?_tailChars b), Option.bind_some,
    content?_tailChars, Option.map_some]

/-! ## Attributes that are set -/

/-- The attributes that assignments leave: each name where it came first, with the value that it got last. -/
def latest (assignments : List (String × String)) : List (String × String) :=
  (assignments.map Prod.fst).eraseDups.filterMap fun name => (assignments.reverse.lookup name).map (name, ·)

theorem map_fst_assign (name value : String) (l : List (String × String)) :
    (assign name value l).map Prod.fst =
      if name ∈ l.map Prod.fst then l.map Prod.fst else l.map Prod.fst ++ [name] := by
  induction l with
  | nil => rfl
  | cons a l ih =>
    unfold assign
    by_cases hname : a.1 = name
    · simp [hname]
    · by_cases hmem : name ∈ l.map Prod.fst
      · rw [if_pos hmem] at ih
        rw [if_neg hname, List.map_cons, List.map_cons, ih, if_pos (List.mem_cons_of_mem _ hmem)]
      · rw [if_neg hmem] at ih
        have hother : name ∉ a.1 :: l.map Prod.fst := by
          rw [List.mem_cons, not_or]
          exact ⟨Ne.symm hname, hmem⟩
        rw [if_neg hname, List.map_cons, List.map_cons, ih, if_neg hother, List.cons_append]

def assigned (assignments l : List (String × String)) : List (String × String) :=
  assignments.foldl (fun l a => assign a.1 a.2 l) l

theorem assigned_concat (assignments : List (String × String)) (a : String × String) :
    assigned (assignments ++ [a]) l = assign a.1 a.2 (assigned assignments l) := by
  rw [assigned, List.foldl_append]
  rfl

theorem eraseDups_concat (names : List String) (name : String) :
    (names ++ [name]).eraseDups = if name ∈ names then names.eraseDups else names.eraseDups ++ [name] := by
  rw [List.eraseDups_append]
  by_cases hmem : name ∈ names
  · simp [List.removeAll, hmem]
  · simp [List.removeAll, hmem, List.eraseDups_cons]

/-- Names come in the order in which they came first. -/
theorem map_fst_assigned (assignments : List (String × String)) :
    (assigned assignments []).map Prod.fst = (assignments.map Prod.fst).eraseDups := by
  induction assignments using List.reverseRecOn with
  | nil => rfl
  | append_singleton assignments a ih =>
    rw [assigned_concat, map_fst_assign, List.map_append, List.map_singleton, eraseDups_concat, ih]
    simp only [List.mem_eraseDups]

theorem lookup_assigned (assignments : List (String × String)) (name : String) :
    (assigned assignments []).lookup name = assignments.reverse.lookup name := by
  induction assignments using List.reverseRecOn with
  | nil => rfl
  | append_singleton assignments a ih =>
    rw [assigned_concat, lookup_assign, ih, List.reverse_concat, List.lookup_cons]
    by_cases hname : name = a.1
    · simp [hname]
    · rw [if_neg hname, beq_false_of_ne hname]

theorem nodup_assigned (assignments : List (String × String)) : ((assigned assignments []).map Prod.fst).Nodup := by
  induction assignments using List.reverseRecOn with
  | nil => exact List.nodup_nil
  | append_singleton assignments a ih =>
    rw [assigned_concat, map_fst_assign]
    split
    · exact ih
    · next hnew => exact List.concat_eq_append ▸ ih.concat hnew

/-- Without repetition, names and their values are all there is to a list of attributes. -/
theorem eq_filterMap_lookup (h : (l.map Prod.fst).Nodup) :
    l = (l.map Prod.fst).filterMap fun name => (l.lookup name).map (name, ·) := by
  induction l with
  | nil => rfl
  | cons a l ih =>
    obtain ⟨hnew, hrest⟩ := List.nodup_cons.1 h
    have hlookup : (l.map Prod.fst).filterMap (fun name => ((a :: l).lookup name).map (name, ·)) =
        (l.map Prod.fst).filterMap fun name => (l.lookup name).map (name, ·) := by
      apply List.filterMap_congr
      intro name hname
      rw [List.lookup_cons, beq_false_of_ne (ne_of_mem_of_not_mem hname hnew)]
    have hfirst : (a :: l).lookup a.1 = some a.2 := List.lookup_cons_self
    rw [List.map_cons, List.filterMap_cons, hfirst, hlookup, ← ih hrest]
    rfl

/-- **The attributes that assignments leave** are the latest ones. -/
theorem assigned_eq_latest (assignments : List (String × String)) : assigned assignments [] = latest assignments := by
  rw [eq_filterMap_lookup (nodup_assigned assignments), map_fst_assigned, latest]
  simp only [lookup_assigned]

/-! ## Bodies that are edited -/

def attributeNames : List String :=
  ["content", "xmlns", "xmlns:xmpp", "ver", "xmpp:version", "xml:lang", "ack", "secure", "rid", "to", "route", "hold",
    "wait", "sid", "pause", "xmpp:restart", "type"]

/-- What a body begins as. -/
inductive Beginning where
  /-- A body with its number and the session's identifier, as far as there are any. -/
  | plain (rid : Option Nat) (sid : Option String)
  /-- The body that asks for a session. -/
  | creation (settings : Settings) (rid : Nat)

def Beginning.body : Beginning → Body
  | plain (some rid) sid => numbered rid sid
  | plain none sid => unnumbered.set? "sid" sid
  | creation settings rid => sessionCreation settings rid

/-- The attributes that it has been given, in this order. -/
def Beginning.assignments : Beginning → List (String × String)
  | plain rid sid =>
    [("xmlns", Namespace.httpBind)] ++ (rid.map fun rid => ("rid", toString rid)).toList ++ (sid.map ("sid", ·)).toList
  | creation settings rid =>
    [("content", "text/xml; charset=utf-8"), ("xmlns", Namespace.httpBind), ("xmlns:xmpp", Namespace.xbosh),
      ("ver", settings.version), ("xmpp:version", "1.0"), ("xml:lang", "en"), ("ack", "1"),
      ("secure", if settings.secure then "true" else "false"), ("rid", toString rid), ("to", settings.hostName)] ++
      (settings.route.map ("route", ·)).toList ++ [("hold", toString settings.hold), ("wait", toString settings.wait)]

inductive Edit where
  /-- An attribute gets a value. -/
  | set (name value : String)
  /-- A stanza goes into it. -/
  | push (stanza : Element)

def Edit.apply (b : Body) : Edit → Body
  | set name value => b.set name value
  | push stanza => b.push stanza

def Edit.assignment? : Edit → Option (String × String)
  | set name value => some (name, value)
  | push _ => none

def Edit.stanza? : Edit → Option Element
  | set _ _ => none
  | push stanza => some stanza

theorem attributes_beginning (beginning : Beginning) :
    beginning.body.attributes = assigned beginning.assignments [] := by
  cases beginning with
  | plain rid sid => cases rid <;> cases sid <;> rfl
  | creation settings rid =>
    rw [Beginning.body, sessionCreation, Beginning.assignments]
    cases settings.route <;> rfl

theorem stanzas_beginning (beginning : Beginning) : beginning.body.stanzas = [] := by
  cases beginning with
  | plain rid sid => cases rid <;> cases sid <;> rfl
  | creation settings rid =>
    rw [Beginning.body, sessionCreation]
    cases settings.route <;> rfl

theorem named_beginning (beginning : Beginning) : ∀ a ∈ beginning.assignments, a.1 ∈ attributeNames := by
  cases beginning with
  | plain rid sid => cases rid <;> cases sid <;> simp [Beginning.assignments, attributeNames]
  | creation settings rid => cases hroute : settings.route <;> simp [Beginning.assignments, attributeNames, hroute]

theorem named_of_mem : ∀ name ∈ attributeNames, Named name := by
  have hall : attributeNames.all fun name => !name.toList.isEmpty && name.toList.all isNamed := by decide
  simpa [Named] using hall

theorem attributes_edited (edits : List Edit) (b : Body) :
    (edits.foldl Edit.apply b).attributes = assigned (edits.filterMap Edit.assignment?) b.attributes := by
  induction edits generalizing b with
  | nil => rfl
  | cons edit edits ih =>
    rw [List.foldl_cons, ih]
    cases edit <;> rfl

theorem stanzas_edited (edits : List Edit) (b : Body) :
    (edits.foldl Edit.apply b).stanzas = b.stanzas ++ edits.filterMap Edit.stanza? := by
  induction edits generalizing b with
  | nil => exact (List.append_nil _).symm
  | cons edit edits ih =>
    rw [List.foldl_cons, ih]
    cases edit with
    | set name value => rfl
    | push stanza => exact List.append_assoc ..

/-- **An edited body is read back.** Whatever values its attributes are given, at its beginning and by edits, they
are the latest ones in the order in which their names came first, no name comes twice, and a reader of its text
finds exactly these and, after them, the stanzas in the order in which they were pushed. -/
theorem read_back (beginning : Beginning) {edits : List Edit}
    (h : ∀ a ∈ edits.filterMap Edit.assignment?, a.1 ∈ attributeNames) :
    let b := edits.foldl Edit.apply beginning.body
    let attributes := latest (beginning.assignments ++ edits.filterMap Edit.assignment?)
    let stanzas := edits.filterMap Edit.stanza?
    b.attributes = attributes ∧ b.stanzas = stanzas ∧ (b.attributes.map Prod.fst).Nodup ∧
      read? b.text = some (attributes, String.join (stanzas.map Element.print)) := by
  intro b attributes stanzas
  have hassigned : b.attributes = assigned (beginning.assignments ++ edits.filterMap Edit.assignment?) [] := by
    rw [attributes_edited, attributes_beginning, assigned, assigned, assigned, List.foldl_append]
  have hattributes : b.attributes = attributes := hassigned.trans (assigned_eq_latest _)
  have hstanzas : b.stanzas = stanzas := by
    rw [stanzas_edited, stanzas_beginning, List.nil_append]
  have hnodup : (b.attributes.map Prod.fst).Nodup := hassigned ▸ nodup_assigned _
  have hnamed : ∀ a ∈ b.attributes, Named a.1 := by
    intro a ha
    -- The body has no names but those that were assigned.
    have hname := List.mem_map_of_mem (f := Prod.fst) ha
    rw [hassigned, map_fst_assigned, List.mem_eraseDups, List.mem_map] at hname
    obtain ⟨a', ha', heq⟩ := hname
    rw [← heq]
    apply named_of_mem
    rcases List.mem_append.1 ha' with hbeginning | hedit
    · exact named_beginning beginning a' hbeginning
    · exact h a' hedit
  have hread := read?_text hnamed
  rw [hattributes, hstanzas] at hread
  exact ⟨hattributes, hstanzas, hnodup, hread⟩

/-- A value that would end the tag, if it were written as it is, stays a value. -/
theorem read_back_of_tag :
    let presence := Element.make "presence" "jabber:client" [] ""
    let edits : List Edit :=
      [.set "pause" "10", .push presence, .set "sid" "'/><b c='&amp;", .push presence, .set "to" "<a&b>"]
    (∀ a ∈ edits.filterMap Edit.assignment?, a.1 ∈ attributeNames) ∧
      read? (edits.foldl Edit.apply (Beginning.plain (some 7) (some "s")).body).text =
        some ([("xmlns", "http://jabber.org/protocol/httpbind"), ("rid", "7"), ("sid", "'/><b c='&amp;"),
          ("pause", "10"), ("to", "<a&b>")], presence.print ++ presence.print) := by
  intro presence edits
  have hnames : ∀ a ∈ edits.filterMap Edit.assignment?, a.1 ∈ attributeNames := by decide
  obtain ⟨-, -, -, hread⟩ := read_back (.plain (some 7) (some "s")) hnames
  have hlatest : latest ((Beginning.plain (some 7) (some "s")).assignments ++ edits.filterMap Edit.assignment?) =
      [("xmlns", "http://jabber.org/protocol/httpbind"), ("rid", "7"), ("sid", "'/><b c='&amp;"), ("pause", "10"),
        ("to", "<a&b>")] := by decide +kernel
  have hjoin : String.join [presence.print, presence.print] = presence.print ++ presence.print := by
    simp
  rw [hlatest] at hread
  rw [← hjoin]
  exact ⟨hnames, hread⟩

end XmppBosh.Bosh.Body
