import XmppBosh.Proofs.Text.Base64
import XmppBosh.Sasl.Payload
import XmppBosh.Sasl.Scram.Exchange

/-!
# What the server's messages say

* `Scram.last?` : the last value of an attribute;
* `Offers`, `offers_of_parse` : the choices of a server-first message are the last values of its
  attributes;
* `authMessage_eq`, `signature` : what both sides sign, and the signature that the server owes for such a message,
  which is the one that the client waits for (`clientFinal_ok`);
* `Shows`, `verify_cases` : only a message that shows it is accepted as the server's proof;
  `verify_of_shows` : the verdict on a message that shows a signature;
* `shows_serverFinal`, `Payload.decode_encode` : a server that knows the password can show it.
-/

namespace XmppBosh.Sasl.Scram

open Digest Text

/-! ## Attributes -/

def last? (key : Char) : List Attribute → Option String
  | [] => none
  | a :: rest => (last? key rest).or (if a.key = key then some a.value else none)

theorem elim_or {α β : Type} (x y : Option α) (d : β) (f : α → β) :
    (x.or y).elim d f = x.elim (y.elim d f) f := by
  cases x <;> rfl

/-! ## The server-first message -/

/-- A message that the client accepts as the server's first, with what it chooses. -/
structure Offers (own : String) (message : Bytes) (choices : ServerFirst) : Prop where
  accepted : ServerFirst.parse own message = .ok choices
  chosen : ∃ attributes, Frame.parse message = .ok attributes ∧
    last? 'r' attributes = some choices.nonce ∧
    (last? 's' attributes).bind Base64.decode? = some choices.salt ∧
    (last? 'i' attributes).bind Decimal.count? = some choices.iterations

/-- An attribute takes the place of one that came before. -/
theorem take_cases {a : Attribute} {p q : ServerFirst.Partial} (h : p.take a = .ok q) :
    q.nonce = (if a.key = 'r' then some a.value else none).or p.nonce ∧
      q.salt = (if a.key = 's' then some a.value else none).elim p.salt Base64.decode? ∧
      q.iterations = (if a.key = 'i' then some a.value else none).elim p.iterations Decimal.count? := by
  unfold ServerFirst.Partial.take at h
  split at h
  · next hr =>
    cases h
    simp [hr]
  · next hr =>
    split at h
    · next hs =>
      split at h
      · cases h
      · next salt hsalt =>
        cases h
        simp [hs, hsalt]
    · next hs =>
      split at h
      · next hi =>
        split at h
        · cases h
        · cases h
        · next n _ hn =>
          cases h
          simp [hi, hn]
      · next hi =>
        split at h
        · cases h
        · split at h
          · cases h
          · cases h
            simp [hr, hs, hi]

/-- Of every attribute the last value is taken. -/
theorem foldlM_take {attributes : List Attribute} {p q : ServerFirst.Partial}
    (h : attributes.foldlM ServerFirst.Partial.take p = .ok q) :
    q.nonce = (last? 'r' attributes).or p.nonce ∧
      q.salt = (last? 's' attributes).elim p.salt Base64.decode? ∧
      q.iterations = (last? 'i' attributes).elim p.iterations Decimal.count? := by
  -- What was collected before the rest counts only for what the rest does not have.
  induction attributes generalizing p with
  | nil =>
    cases h
    exact ⟨rfl, rfl, rfl⟩
  | cons a rest ih =>
    rw [List.foldlM_cons] at h
    cases hp : p.take a with
    | error e =>
      rw [hp] at h
      cases h
    | ok next =>
      rw [hp] at h
      obtain ⟨hnonce, hsalt, hiterations⟩ := ih h
      obtain ⟨hnonce', hsalt', hiterations'⟩ := take_cases hp
      refine ⟨?_, ?_, ?_⟩
      · rw [hnonce, hnonce', last?, Option.or_assoc]
      · rw [hsalt, hsalt', last?, elim_or]
      · rw [hiterations, hiterations', last?, elim_or]

theorem complete_ok {p : ServerFirst.Partial} {c : ServerFirst} (h : p.complete = .ok c) :
    p.nonce = some c.nonce ∧ p.salt = some c.salt ∧ p.iterations = some c.iterations := by
  obtain ⟨nonce, salt, iterations⟩ := p
  unfold ServerFirst.Partial.complete at h
  split at h
  · cases h
  · cases h
  · cases h
  · next hnonce hsalt hiterations =>
    cases h
    exact ⟨hnonce, hsalt, hiterations⟩

theorem bind_ok {α β ε : Type} {x : Except ε α} {f : α → Except ε β} {b : β} (h : x >>= f = .ok b) :
    ∃ a, x = .ok a ∧ f a = .ok b := by
  cases x with
  | error e => cases h
  | ok a => exact ⟨a, rfl, h⟩

/-- **The choices of a server-first message** are the last values of its attributes. -/
theorem offers_of_parse {own : String} {message : Bytes} {choices : ServerFirst}
    (h : ServerFirst.parse own message = .ok choices) : Offers own message choices := by
  obtain ⟨attributes, hattributes, hof⟩ := bind_ok h
  obtain ⟨first, hfirst, hnonce⟩ := bind_ok hof
  obtain ⟨collected, hcollected, hcomplete⟩ := bind_ok hfirst
  obtain rfl : first = choices := by
    split at hnonce
    · exact Except.ok.inj hnonce
    · cases hnonce
  obtain ⟨hr, hs, hi⟩ := foldlM_take hcollected
  obtain ⟨hr', hs', hi'⟩ := complete_ok hcomplete
  refine ⟨h, attributes, hattributes, ?_, ?_, ?_⟩
  · rw [← hr', hr, Option.or_none]
  · rw [← hs', hs]
    cases last? 's' attributes <;> rfl
  · rw [← hi', hi]
    cases last? 'i' attributes <;> rfl

/-! ## The signature -/

/-- The signature that the server owes for its first message, to whoever knows the password. -/
def signature (username password nonce : String) (serverFirst : Bytes) (choices : ServerFirst) : Bytes :=
  hmac (hmac (pbkdf2 (Bytes.utf8 password) choices.salt choices.iterations) (Bytes.utf8 "Server Key"))
    (Bytes.utf8 (clientFirstBare username nonce ++ ",") ++ serverFirst ++
      Bytes.utf8 (",c=biws,r=" ++ choices.nonce))

theorem withoutProof_eq (nonce : String) : withoutProof nonce = "c=biws,r=" ++ nonce := by
  have hheader : Base64.encode (Bytes.utf8 gs2Header) = "biws" := by decide
  rw [withoutProof, hheader]
  rfl

/-- What both sides sign, letter by letter. -/
theorem authMessage_eq (bare : String) (serverFirst : Bytes) (nonce : String) :
    authMessage bare serverFirst (withoutProof nonce) =
      Bytes.utf8 (bare ++ ",") ++ serverFirst ++ Bytes.utf8 (",c=biws,r=" ++ nonce) := by
  have hrest : ",c=biws,r=" ++ nonce = "," ++ ("c=biws,r=" ++ nonce) := by
    rw [← String.append_assoc]
    rfl
  rw [authMessage, withoutProof_eq, hrest, Bytes.utf8_append bare, Bytes.utf8_append ","]
  simp only [List.append_assoc]

/-- **The signature that the client waits for** is the one that the server owes. -/
theorem clientFinal_ok {username password nonce : String} {serverFirst : Bytes} {final : ClientFinal}
    (h : clientFinal username password nonce serverFirst = .ok final) :
    ∃ choices, Offers nonce serverFirst choices ∧
      final.serverSignature = signature username password nonce serverFirst choices := by
  obtain ⟨choices, hchoices, hfinal⟩ := bind_ok h
  refine ⟨choices, offers_of_parse hchoices, ?_⟩
  cases hfinal
  show hmac _ (authMessage _ _ _) = signature ..
  rw [authMessage_eq]
  rfl

theorem clientFinal_of_offers {nonce : String} {serverFirst : Bytes} {choices : ServerFirst}
    (h : Offers nonce serverFirst choices) (username password : String) :
    ∃ final, clientFinal username password nonce serverFirst = .ok final ∧
      final.serverSignature = signature username password nonce serverFirst choices := by
  cases hfinal : clientFinal username password nonce serverFirst with
  | error e =>
    rw [clientFinal, h.accepted] at hfinal
    cases hfinal
  | ok final =>
    obtain ⟨choices', hoffers, hsignature⟩ := clientFinal_ok hfinal
    obtain rfl : choices = choices' := Except.ok.inj (h.accepted.symm.trans hoffers.accepted)
    exact ⟨final, rfl, hsignature⟩

/-! ## The server-final message -/

/-- A message shows a signature: it reports no error, and its last `v` is the signature. -/
def Shows (due message : Bytes) : Prop :=
  ∃ attributes v, Frame.parse message = .ok attributes ∧ (∀ a ∈ attributes, a.key ≠ 'e') ∧
    last? 'v' attributes = some v ∧ Base64.decode? v = some due

/-- One more attribute of a server-final message, after the last `v` so far. -/
def noteSignature (last : Option String) (a : Attribute) : Except MechanismError (Option String) :=
  if a.key = 'e' then .error (.serverError a.value)
  else .ok (if a.key = 'v' then some a.value else last)

theorem foldlM_noteSignature (attributes : List Attribute) (last : Option String) :
    attributes.foldlM noteSignature last = (attributes.find? fun a => a.key = 'e').elim
      (.ok ((last? 'v' attributes).or last)) fun a => .error (.serverError a.value) := by
  induction attributes generalizing last with
  | nil => rfl
  | cons a rest ih =>
    rw [List.foldlM_cons, noteSignature]
    by_cases he : a.key = 'e'
    · rw [if_pos he, List.find?_cons_of_pos (by simpa using he)]
      rfl
    · have hor : (if a.key = 'v' then some a.value else last) =
          (if a.key = 'v' then some a.value else none).or last := by
        split <;> rfl
      rw [if_neg he, List.find?_cons_of_neg (by simpa using he), last?, Option.or_assoc, hor]
      exact ih _

/-- An `e` reports an error; else the last `v` is the signature. -/
theorem signatureOf_eq (attributes : List Attribute) :
    signatureOf attributes = (attributes.find? fun a => a.key = 'e').elim
      ((last? 'v' attributes).elim (.error .noSignatureInSuccessResponse) .ok)
      fun a => .error (.serverError a.value) := by
  show (attributes.foldlM noteSignature none >>= _) = _
  rw [foldlM_noteSignature]
  cases attributes.find? fun a => a.key = 'e' with
  | some a => rfl
  | none =>
    rw [Option.or_none]
    cases last? 'v' attributes <;> rfl

theorem checkSignature_of_shown {due shown : Bytes} {attributes : List Attribute} {v : String}
    (he : ∀ a ∈ attributes, a.key ≠ 'e') (hv : last? 'v' attributes = some v)
    (hshown : Base64.decode? v = some shown) :
    checkSignature due attributes =
      if shown = due then .ok () else .error .invalidSignatureInSuccessResponse := by
  have hfind : (attributes.find? fun a => a.key = 'e') = none := by simpa using he
  have hsignature : signatureOf attributes = .ok v := by rw [signatureOf_eq, hfind, hv]; rfl
  rw [checkSignature, hsignature]
  simp only [bind, Except.bind, hshown]

theorem shown_of_checkSignature {due : Bytes} {attributes : List Attribute}
    (h : checkSignature due attributes = .ok ()) :
    (∀ a ∈ attributes, a.key ≠ 'e') ∧
      ∃ v, last? 'v' attributes = some v ∧ Base64.decode? v = some due := by
  obtain ⟨v, hv, hdecode⟩ := bind_ok h
  rw [signatureOf_eq] at hv
  cases hfind : attributes.find? fun a => a.key = 'e' with
  | some a =>
    rw [hfind] at hv
    cases hv
  | none =>
    rw [hfind] at hv
    refine ⟨by simpa using hfind, v, ?_⟩
    split at hdecode
    · cases hdecode
    · next shown hshown =>
      split at hdecode
      · next heq =>
        subst heq
        cases hlast : last? 'v' attributes with
        | none =>
          rw [hlast] at hv
          cases hv
        | some w =>
          rw [hlast] at hv
          cases hv
          exact ⟨rfl, hshown⟩
      · cases hdecode

/-- **Only a message that shows the signature** is accepted as the server's proof. Another one ends the
exchange, or leaves it waiting. -/
theorem verify_cases (s : Scram) (due message : Bytes) :
    Shows due message ∧ s.verify due message = ({ s with phase := .verified }, .ok ()) ∨
      ∃ phase e, (phase = s.phase ∨ phase = .failed) ∧
        s.verify due message = ({ s with phase }, .error e) := by
  unfold verify
  cases hattributes : Frame.parse message with
  | error e => exact .inr ⟨s.phase, _, .inl rfl, rfl⟩
  | ok attributes =>
    cases hcheck : checkSignature due attributes with
    | error e => exact .inr ⟨.failed, e, .inr rfl, by simp [hcheck]⟩
    | ok _ =>
      obtain ⟨he, v, hv, hdecode⟩ := shown_of_checkSignature hcheck
      exact .inl ⟨⟨attributes, v, hattributes, he, hv, hdecode⟩, by simp [hcheck]⟩

theorem verify_of_shows {shown message : Bytes} (h : Shows shown message) (s : Scram) (due : Bytes) :
    s.verify due message =
      if shown = due then ({ s with phase := .verified }, .ok ())
      else ({ s with phase := .failed }, .error .invalidSignatureInSuccessResponse) := by
  obtain ⟨attributes, v, hattributes, he, hv, hshown⟩ := h
  simp only [verify, hattributes, checkSignature_of_shown he hv hshown]
  by_cases hdue : shown = due
  · rw [if_pos hdue, if_pos hdue]
  · rw [if_neg hdue, if_neg hdue]

theorem ne_nil_of_shows {due message : Bytes} (h : Shows due message) : message ≠ [] := by
  rintro rfl
  obtain ⟨attributes, v, hattributes, -⟩ := h
  have hempty : (Frame.parse []).toBool = false := by decide +kernel
  rw [hattributes] at hempty
  cases hempty

/-! ## A server that knows the password -/

/-- The message with which a server shows a signature. -/
def serverFinal (due : Bytes) : Bytes := Frame.render [⟨'v', Base64.encode due⟩]

theorem shows_serverFinal (due : Bytes) : Shows due (serverFinal due) := by
  refine ⟨[⟨'v', Base64.encode due⟩], Base64.encode due, ?_, by simp, rfl, Base64.decode?_encode due⟩
  have hchars : ∀ c ∈ Base64.encodeChars due, c ≠ ',' :=
    Base64.forall_mem_encodeChars (by decide) (by decide) due
  have hfields : fields ',' ('v' :: '=' :: Base64.encodeChars due) =
      ['v' :: '=' :: Base64.encodeChars due] := by
    apply fields_of_not_mem
    simpa using fun h => hchars ',' h rfl
  rw [Frame.parse, serverFinal, Frame.render, Bytes.ofUtf8?_utf8]
  simp [Frame.ofText?, Frame.text, joined, Attribute.chars, Attribute.ofChars?, Base64.encode, hfields]

end XmppBosh.Sasl.Scram

namespace XmppBosh.Sasl.Payload

theorem trim_encode (m : Bytes) : Text.trim (Text.Base64.encode m) = Text.Base64.encode m := by
  apply Text.trim_of_not_isBlank
  rw [Text.Base64.encode, String.toList_ofList]
  exact Text.Base64.forall_mem_encodeChars (by decide) (by decide) m

/-- The text of a payload that is not empty is read back. -/
theorem decode_encode {m : Bytes} (hm : m ≠ []) : decode (Text.Base64.encode m) = .ok (some m) := by
  have htrim := trim_encode m
  have hdecode := Text.Base64.decode?_encode m
  have hempty : Text.Base64.encode m ≠ "" := by
    intro h
    rw [h] at hdecode
    exact hm (Option.some.inj hdecode).symm
  have hpad : Text.Base64.encode m ≠ "=" := by
    intro h
    rw [h] at hdecode
    cases hdecode
  simp only [decode, htrim, if_neg hempty, if_neg hpad, hdecode]

end XmppBosh.Sasl.Payload
