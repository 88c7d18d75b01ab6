import XmppBosh.Proofs.Sasl.Acceptance

/-!
# Lists of attributes and their messages

* `Frame.Writable` : the lists of attributes that can be written; `Frame.parse_exact` : what is written for these is
  read, as the same list, and any other message is refused, for one of two causes;
* `escapeUsername_eq` : a username is escaped by two replacements, one after the other;
* `initial_unambiguous` : the client's first message says who logs in and with which nonce, and nothing else.
-/

namespace XmppBosh.Sasl.Scram

open Text

/-! ## What is read, and what is refused -/

/-- A list of attributes that can be written: there is at least one, and no comma inside of any. -/
def Frame.Writable (attributes : List Attribute) : Prop :=
  attributes ≠ [] ∧ ∀ a ∈ attributes, a.key ≠ ',' ∧ ',' ∉ a.value.toList

theorem ofChars?_eq_none_iff {cs : List Char} : Attribute.ofChars? cs = none ↔ cs[1]? ≠ some '=' := by
  match cs with
  | [] => exact iff_of_true rfl nofun
  | [key] => exact iff_of_true rfl nofun
  | key :: c :: value =>
    by_cases hc : c = '='
    · simp [hc, Attribute.ofChars?]
    · simp [hc, Attribute.ofChars?]

theorem mapM_eq_none_iff {α β : Type} {f : α → Option β} {xs : List α} :
    xs.mapM f = none ↔ ∃ x ∈ xs, f x = none := by
  induction xs with
  | nil => exact iff_of_false nofun nofun
  | cons x xs ih =>
    simp only [List.mapM_cons, List.mem_cons, exists_eq_or_imp, ← ih]
    cases f x with
    | none => exact iff_of_true rfl (.inl rfl)
    | some y =>
      cases xs.mapM f with
      | none => exact iff_of_true rfl (.inr rfl)
      | some ys => exact iff_of_false nofun nofun

namespace Frame

/-- A text is no list of attributes if an item of it has no equals sign in second place. -/
theorem ofText?_eq_none_iff {text : String} :
    ofText? text = none ↔ ∃ item ∈ fields ',' text.toList, item[1]? ≠ some '=' := by
  simp only [ofText?, mapM_eq_none_iff, ofChars?_eq_none_iff]

theorem parse_of_no_text {message : Bytes} (h : ∀ text, message ≠ Bytes.utf8 text) :
    parse message = .error .cannotDecodeChallenge := by
  have hnone : Bytes.ofUtf8? message = none :=
    Option.eq_none_iff_forall_ne_some.2 fun text htext => h text (Bytes.ofUtf8?_eq_some_iff.1 htext)
  simp only [parse, hnone]

/-- What becomes of a text. -/
theorem parse_utf8 (text : String) : parse (Bytes.utf8 text) = match ofText? text with
    | none => .error (.malformedChallenge "expected equals sign")
    | some attributes => .ok attributes := by
  cases htext : ofText? text <;> simp only [parse, Bytes.ofUtf8?_utf8, htext]

/-- A message that is no text is refused as such. -/
theorem parse_eq_no_text_iff {message : Bytes} :
    parse message = .error .cannotDecodeChallenge ↔ ∀ text, message ≠ Bytes.utf8 text := by
  constructor
  · rintro h text rfl
    rw [parse_utf8] at h
    split at h <;> cases h
  · exact parse_of_no_text

/-- A text is refused for an item that is no attribute. -/
theorem parse_eq_malformed_iff {message : Bytes} :
    parse message = .error (.malformedChallenge "expected equals sign") ↔
      ∃ text, message = Bytes.utf8 text ∧ ∃ item ∈ fields ',' text.toList, item[1]? ≠ some '=' := by
  simp only [← ofText?_eq_none_iff]
  constructor
  · intro h
    by_cases htext : ∃ text, message = Bytes.utf8 text
    · obtain ⟨text, rfl⟩ := htext
      refine ⟨text, rfl, ?_⟩
      rw [parse_utf8] at h
      split at h
      · next hnone => exact hnone
      · cases h
    · rw [parse_of_no_text fun text heq => htext ⟨text, heq⟩] at h
      cases h
  · rintro ⟨text, rfl, hnone⟩
    rw [parse_utf8, hnone]

/-- **Which messages are read.** What is written for a list of attributes is read as this list, order and repetitions
included, and nothing else is read: a message is refused exactly if it is not what is written for any list, which
is so if it is no text, or if there is an item between its commas that has no equals sign in second place. -/
theorem parse_exact (message : Bytes) (attributes : List Attribute) :
    (parse message = .ok attributes ↔ message = render attributes ∧ Writable attributes) ∧
      (Writable attributes → parse (render attributes) = .ok attributes) ∧
      ((∃ e, parse message = .error e) ↔ ¬ ∃ written, message = render written ∧ Writable written) ∧
      (parse message = .error .cannotDecodeChallenge ↔ ∀ text, message ≠ Bytes.utf8 text) ∧
      (parse message = .error (.malformedChallenge "expected equals sign") ↔
        ∃ text, message = Bytes.utf8 text ∧ ∃ item ∈ fields ',' text.toList, item[1]? ≠ some '=') := by
  refine ⟨parse_eq_ok_iff, fun h => parse_eq_ok_iff.2 ⟨rfl, h⟩, ?_, parse_eq_no_text_iff, parse_eq_malformed_iff⟩
  constructor
  · rintro ⟨e, he⟩ ⟨written, hwritten⟩
    cases he.symm.trans (parse_eq_ok_iff.2 hwritten)
  · intro hnone
    cases hparse : parse message with
    | error e => exact ⟨e, rfl⟩
    | ok written => exact absurd ⟨written, parse_eq_ok_iff.1 hparse⟩ hnone

end Frame

/-! ## The client's first message -/

/-- Characters, with a code in every place of one of them. -/
def replaced (c : Char) (code cs : List Char) : List Char := cs.flatMap fun d => if d = c then code else [d]

/-- **A username is escaped** by two replacements. The codes have no comma in them, so that the second replacement
leaves alone what the first one has put in. -/
theorem escapeUsername_eq (username : String) : (escapeUsername username).toList =
    replaced ',' ['=', '2', 'C'] (replaced '=' ['=', '3', 'D'] username.toList) := by
  rw [escapeUsername, String.toList_ofList, replaced, replaced, List.flatMap_assoc]
  congr 1
  funext c
  by_cases heq : c = '='
  · simp [heq]
  · simp [heq]

/-- The message without its header is a list of two attributes. -/
theorem clientFirstBare_eq (username nonce : String) : Bytes.utf8 (clientFirstBare username nonce) =
    Frame.render [⟨'n', escapeUsername username⟩, ⟨'r', nonce⟩] := by
  rw [Frame.render, Frame.text]
  refine congrArg Bytes.utf8 (String.toList_inj.1 ?_)
  simp [clientFirstBare, Attribute.chars, joined]

theorem parse_clientFirstBare {nonce : String} (hn : ',' ∉ nonce.toList) (username : String) :
    Frame.parse (Bytes.utf8 (clientFirstBare username nonce)) =
      .ok [⟨'n', escapeUsername username⟩, ⟨'r', nonce⟩] := by
  rw [clientFirstBare_eq]
  apply parse_render (List.cons_ne_nil _ _)
  simp [comma_not_mem_escapeUsername, hn]

theorem escapeUsername_injective {username other : String} (h : escapeUsername username = escapeUsername other) :
    username = other := by
  have hback := unescape?_escapeUsername username
  rw [h, unescape?_escapeUsername] at hback
  exact (String.toList_inj.1 (Option.some.inj hback)).symm

theorem clientFirst_injective {username nonce username' nonce' : String} (hn : ',' ∉ nonce.toList)
    (hn' : ',' ∉ nonce'.toList) (h : clientFirst username nonce = clientFirst username' nonce') :
    username = username' ∧ nonce = nonce' := by
  rw [clientFirst, clientFirst, Bytes.utf8_append, Bytes.utf8_append] at h
  have hparse := parse_clientFirstBare hn username
  rw [List.append_cancel_left h, parse_clientFirstBare hn' username'] at hparse
  simp only [Except.ok.injEq, List.cons.injEq, Attribute.mk.injEq, true_and, and_true] at hparse
  exact ⟨(escapeUsername_injective hparse.1).symm, hparse.2.symm⟩

/-- **The client's first message is unambiguous**, whatever the username. After its header it is a list of exactly
two attributes: the nonce, and a name from which the username is got back when the codes are undone from left to
right. So no two clients that differ in username or nonce begin with the same message. -/
theorem initial_unambiguous {s : Scram} (hs : ',' ∉ s.nonce.toList) :
    (∃ text name, s.initial.2 = Bytes.utf8 ("n,," ++ text) ∧
      Frame.parse (Bytes.utf8 text) = .ok [⟨'n', name⟩, ⟨'r', s.nonce⟩] ∧
      name.toList = replaced ',' ['=', '2', 'C'] (replaced '=' ['=', '3', 'D'] s.username.toList) ∧
      unescape? name.toList = some s.username.toList) ∧
      ∀ other : Scram, ',' ∉ other.nonce.toList → other.initial.2 = s.initial.2 →
        other.username = s.username ∧ other.nonce = s.nonce := by
  have hinitial : s.initial.2 = Bytes.utf8 ("n,," ++ clientFirstBare s.username s.nonce) := by
    simp only [initial, clientFirst, gs2Header]
  refine ⟨⟨clientFirstBare s.username s.nonce, escapeUsername s.username, hinitial, ?_, ?_, ?_⟩, ?_⟩
  · exact parse_clientFirstBare hs s.username
  · exact escapeUsername_eq s.username
  · exact unescape?_escapeUsername s.username
  · intro other hother h
    exact clientFirst_injective hother hs h

/-- A username that has a comma in it, and one that has the code of a comma in its place, begin differently. -/
theorem initial_unambiguous_of_code :
    let s : Scram := { username := "a,r=x", password := "", nonce := "fyko" }
    let other : Scram := { username := "a=2Cr=x", password := "", nonce := "fyko" }
    ',' ∉ s.nonce.toList ∧ ',' ∉ other.nonce.toList ∧ other.initial.2 ≠ s.initial.2 := by
  intro s other
  have hs : ',' ∉ s.nonce.toList := by decide
  have hother : ',' ∉ other.nonce.toList := by decide
  refine ⟨hs, hother, fun h => ?_⟩
  obtain ⟨husername, -⟩ := (initial_unambiguous hs).2 other hother h
  exact absurd husername (by decide)

end XmppBosh.Sasl.Scram
