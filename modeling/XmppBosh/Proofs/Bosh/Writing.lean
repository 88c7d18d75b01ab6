import XmppBosh.Proofs.Bosh.Drafts

/-!
# Bodies told apart by their texts

A session knows its requests by their texts. This is enough to tell two of its bodies apart, because the
attributes of a body, and its number among them, can be read off its text.

* `escape_injective` : a value is determined by the way it is written;
* `Body.Plain` : no name of an attribute has an equals sign in it;
* `attributes_of_text` : two such bodies with one text have the same attributes, so that
  (`nodup_texts`) bodies with numbers of their own have texts of their own;
* `Session.Plain` : the pending body is such a body; `Plain.edited`, `Plain.drafted` : and so is whatever
  becomes of it.
-/

namespace XmppBosh.Bosh

namespace Body

/-! ## Values -/

/-- What stands in front of the first of a kind is determined, and so is what follows it. -/
theorem eq_of_append_cons {c : Char} {xs ys rest rest' : List Char} (hx : c ∉ xs) (hy : c ∉ ys)
    (h : xs ++ c :: rest = ys ++ c :: rest') : xs = ys ∧ rest = rest' := by
  induction xs generalizing ys with
  | nil =>
    cases ys with
    | nil => exact ⟨rfl, (List.cons.inj h).2⟩
    | cons y ys => exact absurd (List.cons.inj h).1 (List.ne_of_not_mem_cons hy)
  | cons x xs ih =>
    cases ys with
    | nil => exact absurd (List.cons.inj h).1.symm (List.ne_of_not_mem_cons hx)
    | cons y ys =>
      obtain ⟨rfl, htail⟩ := List.cons.inj h
      obtain ⟨rfl, hrest⟩ := ih (List.not_mem_of_not_mem_cons hx) (List.not_mem_of_not_mem_cons hy) htail
      exact ⟨rfl, hrest⟩

theorem quote_not_mem_escapeChar (c : Char) : '\'' ∉ escapeChar c := by
  unfold escapeChar
  split <;> simp_all [eq_comm]

theorem quote_not_mem_escape (value : String) : '\'' ∉ escape value := by
  simp [escape, quote_not_mem_escapeChar]

/-- A character is determined by how it is written, whatever follows. -/
theorem escapeChar_append_inj {c d : Char} {rest rest' : List Char}
    (h : escapeChar c ++ rest = escapeChar d ++ rest') : c = d ∧ rest = rest' := by
  unfold escapeChar at h
  split at h <;> split at h <;> simp only [List.cons_append, List.nil_append, List.cons.injEq] at h <;>
    grind

theorem escapeChar_ne_nil (c : Char) : escapeChar c ≠ [] := by
  unfold escapeChar
  split <;> simp

theorem escape_injective {v w : String} (h : escape v = escape w) : v = w := by
  apply String.toList_inj.1
  unfold escape at h
  generalize v.toList = xs at h ⊢
  generalize w.toList = ys at h ⊢
  induction xs generalizing ys with
  | nil =>
    cases ys with
    | nil => rfl
    | cons y ys => simp [escapeChar_ne_nil] at h
  | cons x xs ih =>
    cases ys with
    | nil => simp [escapeChar_ne_nil] at h
    | cons y ys =>
      rw [List.flatMap_cons, List.flatMap_cons] at h
      obtain ⟨rfl, htail⟩ := escapeChar_append_inj h
      rw [ih ys htail]

/-! ## Attributes -/

/-- No name of an attribute has an equals sign in it. -/
def Plain (b : Body) : Prop := ∀ a ∈ b.attributes, '=' ∉ a.1.toList

variable {a b : Body} {name : String}

theorem attributeChars_eq (a : String × String) (rest : List Char) :
    attributeChars a ++ rest = ' ' :: (a.1.toList ++ '=' :: '\'' :: (escape a.2 ++ '\'' :: rest)) := by
  simp [attributeChars]

/-- Attributes are determined by how they are written, up to where no attribute can begin. -/
theorem eq_of_attributeChars {l l' : List (String × String)} {rest rest' : List Char}
    (hl : ∀ a ∈ l, '=' ∉ a.1.toList) (hl' : ∀ a ∈ l', '=' ∉ a.1.toList) (hr : rest.head? ≠ some ' ')
    (hr' : rest'.head? ≠ some ' ')
    (h : l.flatMap attributeChars ++ rest = l'.flatMap attributeChars ++ rest') : l = l' := by
  induction l generalizing l' with
  | nil =>
    cases l' with
    | nil => rfl
    | cons a l' =>
      rw [List.flatMap_cons, List.append_assoc, attributeChars_eq] at h
      exact absurd (congrArg List.head? h) hr
  | cons a l ih =>
    cases l' with
    | nil =>
      rw [List.flatMap_cons, List.append_assoc, attributeChars_eq] at h
      exact absurd (congrArg List.head? h).symm hr'
    | cons a' l' =>
      obtain ⟨ha, hl⟩ := List.forall_mem_cons.1 hl
      obtain ⟨ha', hl'⟩ := List.forall_mem_cons.1 hl'
      rw [List.flatMap_cons, List.append_assoc, attributeChars_eq, List.flatMap_cons, List.append_assoc,
        attributeChars_eq, List.cons.injEq] at h
      -- The name ends at the first equals sign, and the value at the first quote after it.
      obtain ⟨hname, htail⟩ := eq_of_append_cons ha ha' h.2
      obtain ⟨hvalue, hrest⟩ :=
        eq_of_append_cons (quote_not_mem_escape a.2) (quote_not_mem_escape a'.2) (List.cons.inj htail).2
      have hsame : a = a' := Prod.ext (String.toList_inj.1 hname) (escape_injective hvalue)
      rw [hsame, ih hl hl' hrest]

/-- What follows the attributes of a body. -/
def tailChars (b : Body) : List Char :=
  if b.stanzas.isEmpty then ['/', '>']
  else '>' :: (b.stanzas.flatMap (·.print.toList) ++ ['<', '/', 'b', 'o', 'd', 'y', '>'])

theorem chars_eq (b : Body) :
    b.chars = ['<', 'b', 'o', 'd', 'y'] ++ (b.attributes.flatMap attributeChars ++ b.tailChars) := by
  unfold chars tailChars
  split <;> simp

theorem head?_tailChars (b : Body) : b.tailChars.head? ≠ some ' ' := by
  unfold tailChars
  split <;> simp

/-- **The attributes of a body** can be read off its text. -/
theorem attributes_of_text (ha : a.Plain) (hb : b.Plain) (h : a.text = b.text) :
    a.attributes = b.attributes := by
  have hchars : a.chars = b.chars := String.ofList_injective h
  rw [chars_eq, chars_eq] at hchars
  exact eq_of_attributeChars ha hb (head?_tailChars a) (head?_tailChars b)
    (List.append_cancel_left hchars)

theorem nodup_texts {bodies : List Body} (hp : ∀ b ∈ bodies, b.Plain)
    (hn : (bodies.map (Body.attr? "rid")).Nodup) : (bodies.map Body.text).Nodup := by
  rw [List.Nodup, List.pairwise_map] at hn ⊢
  refine hn.imp_of_mem fun {a b} ha hb hne htext => hne ?_
  rw [attr?, attr?, attributes_of_text (hp a ha) (hp b hb) htext]

/-! ## Plain bodies -/

theorem mem_assign {value : String} {l : List (String × String)} {p : String × String}
    (h : p ∈ assign name value l) : p.1 = name ∨ p ∈ l := by
  induction l with
  | nil =>
    rw [assign, List.mem_singleton] at h
    exact .inl (congrArg Prod.fst h)
  | cons x l ih =>
    obtain ⟨n, v⟩ := x
    unfold assign at h
    split at h
    · next hn =>
      rcases List.mem_cons.1 h with rfl | h
      · exact .inl hn
      · exact .inr (List.mem_cons_of_mem _ h)
    · rcases List.mem_cons.1 h with rfl | h
      · exact .inr List.mem_cons_self
      · exact (ih h).imp_right (List.mem_cons_of_mem _)

theorem plain_empty : ({} : Body).Plain := by
  simp [Plain]

theorem Plain.set (h : b.Plain) (hn : '=' ∉ name.toList) (value : String) :
    (b.set name value).Plain := by
  intro p hp
  rcases mem_assign hp with rfl | hp
  · exact hn
  · exact h p hp

theorem Plain.set? (h : b.Plain) (hn : '=' ∉ name.toList) (value : Option String) :
    (b.set? name value).Plain := by
  cases value with
  | none => exact h
  | some value => exact h.set hn value

theorem plain_unnumbered : unnumbered.Plain := plain_empty.set (by decide) _

theorem plain_numbered (rid : Nat) (sid : Option String) : (numbered rid sid).Plain :=
  (plain_unnumbered.set (by decide) _).set? (by decide) sid

theorem plain_sessionCreation (s : Settings) (rid : Nat) : (sessionCreation s rid).Plain := by
  unfold sessionCreation
  repeat' first
    | refine Plain.set ?_ (by simp) _
    | refine Plain.set? ?_ (by simp) _
  exact plain_empty

theorem Plain.restart (h : b.Plain) (host : String) : (b.restart host).Plain := by
  unfold Body.restart
  repeat' refine Plain.set ?_ (by simp) _
  exact h

theorem Plain.push (h : b.Plain) (e : Xml.Element) : (b.push e).Plain := h

end Body

namespace Session

variable {s : Session} {i : Input}

def Plain (s : Session) : Prop := ∀ body, s.pending = some body → body.Plain

theorem Plain.draft (h : s.Plain) : s.draft.Plain := by
  unfold Session.draft
  split
  · next hp => exact h _ hp
  · exact Body.plain_numbered _ _
  · exact Body.plain_unnumbered

theorem Plain.edited (h : s.Plain) (i : Input) : (s.edited i).Plain := by
  cases i with
  | send stanza => exact h.draft.push stanza
  | restart => exact h.draft.restart _
  | pause =>
    unfold Session.edited
    cases s.maxPause? with
    | none => exact h.draft
    | some seconds => exact h.draft.set (by decide) _
  | _ => exact h.draft

theorem Plain.drafted {o : Outcome} {body : Body} (h : s.Plain) (hb : body.Plain) (hd : Drafted body s o) :
    o.session.Plain := by
  cases hd with
  | kept posts pending => rwa [Plain, pending]
  | edited posts pending =>
    rw [Plain, pending]
    rintro _ ⟨⟩
    exact hb
  | posted request posts text pending =>
    rw [Plain, pending]
    rintro _ ⟨⟩

end Session

end XmppBosh.Bosh
