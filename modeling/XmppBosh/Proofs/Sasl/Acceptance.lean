import XmppBosh.Proofs.Sasl.Agreement

/-!
# Which server-first messages are answered

The client gives its proof for a server-first message that is acceptable, and for no other one.

* `Frame.parse_eq_ok_iff` : which messages are lists of attributes;
* `Attribute.Fits` : what every attribute of the message has to be; `foldlM_take_ok_iff` : the attributes are
  collected without an error exactly if each of them fits;
* `Acceptable` : an acceptable message, with what it chooses; `parse_first_eq_ok_iff` : these are the messages that
  are read;
* `proof?` : the proof that is due for such a message; `clientFinal_of_acceptable` : the answer to it;
* `answered_iff` : an exchange that has been started answers acceptable messages and fails with any other one.
-/

namespace XmppBosh.Sasl.Scram

open Digest Text

/-! ## Lists of attributes -/

theorem chars_of_ofChars? {cs : List Char} {a : Attribute} (h : Attribute.ofChars? cs = some a) : cs = a.chars := by
  unfold Attribute.ofChars? at h
  split at h
  · next key value =>
    obtain rfl := Option.some.inj h
    rw [Attribute.chars, String.toList_ofList]
  · cases h

theorem chars_of_mapM {fs : List (List Char)} {attributes : List Attribute}
    (h : fs.mapM Attribute.ofChars? = some attributes) : fs = attributes.map Attribute.chars := by
  induction fs generalizing attributes with
  | nil =>
    cases h
    rfl
  | cons f fs ih =>
    rw [List.mapM_cons] at h
    obtain ⟨a, ha, h⟩ := Option.bind_eq_some_iff.1 h
    obtain ⟨rest, hrest, h⟩ := Option.bind_eq_some_iff.1 h
    cases h
    rw [List.map_cons, ← chars_of_ofChars? ha, ← ih hrest]

/-- **Which messages are lists of attributes**: there is at least one, and a comma only between two of them. -/
theorem Frame.parse_eq_ok_iff {message : Bytes} {attributes : List Attribute} :
    Frame.parse message = .ok attributes ↔ message = Frame.render attributes ∧ attributes ≠ [] ∧
      ∀ a ∈ attributes, a.key ≠ ',' ∧ ',' ∉ a.value.toList := by
  constructor
  · intro h
    unfold Frame.parse at h
    split at h
    · cases h
    · next text htext =>
      split at h
      · cases h
      · next read hread =>
        cases h
        have hfields := chars_of_mapM hread
        have hjoined := joined_fields ',' text.toList
        rw [hfields] at hjoined
        refine ⟨?_, ?_, fun a ha => ?_⟩
        · rw [Frame.render, Frame.text, hjoined, String.ofList_toList]
          exact Bytes.ofUtf8?_eq_some_iff.1 htext
        · rintro rfl
          exact fields_ne_nil ',' text.toList hfields
        · have hmem : a.chars ∈ fields ',' text.toList := hfields ▸ List.mem_map_of_mem ha
          have hcomma := not_mem_of_mem_fields ',' hmem
          simp only [Attribute.chars, List.mem_cons, not_or] at hcomma
          exact ⟨Ne.symm hcomma.1, hcomma.2.2⟩
  · rintro ⟨rfl, hne, hcomma⟩
    exact parse_render hne hcomma

/-! ## What the attributes have to be -/

/-- What an attribute of a server-first message has to be: no error and no extension that would have to be
understood, a salt in base64, and a count that is a positive number of 32 bits. -/
structure Attribute.Fits (a : Attribute) : Prop where
  no_error : a.key ≠ 'e'
  no_extension : a.key ≠ 'm'
  salt : a.key = 's' → ∃ salt, a.value = Base64.encode salt
  count : a.key = 'i' → ∃ n, Decimal.Spells a.value n ∧ 0 < n ∧ n < UInt32.size

theorem take_ok_iff (p : ServerFirst.Partial) (a : Attribute) : (∃ q, p.take a = .ok q) ↔ a.Fits := by
  unfold ServerFirst.Partial.take
  split
  · next hr =>
    refine iff_of_true ⟨_, rfl⟩ ?_
    constructor <;> simp [hr]
  · split
    · next hs =>
      have hfits : a.Fits ↔ ∃ salt, a.value = Base64.encode salt :=
        ⟨fun h => h.salt hs, fun h => ⟨by simp [hs], by simp [hs], fun _ => h, by simp [hs]⟩⟩
      rw [hfits]
      cases hdecode : Base64.decode? a.value with
      | none =>
        refine iff_of_false nofun ?_
        rintro ⟨salt, hsalt⟩
        rw [Base64.decode?_eq_some_iff.2 hsalt] at hdecode
        cases hdecode
      | some salt => exact iff_of_true ⟨_, rfl⟩ ⟨salt, Base64.decode?_eq_some_iff.1 hdecode⟩
    · next hs =>
      split
      · next hi =>
        have hfits : a.Fits ↔ ∃ n, Decimal.Spells a.value n ∧ 0 < n ∧ n < UInt32.size :=
          ⟨fun h => h.count hi, fun h => ⟨by simp [hi], by simp [hi], by simp [hi], fun _ => h⟩⟩
        rw [hfits]
        have hcounts : ∀ {n}, Decimal.Spells a.value n → n < UInt32.size → Decimal.count? a.value = some n :=
          fun hspells hlt => Decimal.count?_eq_some_iff.2 ⟨hspells, hlt⟩
        split
        · next hnone =>
          refine iff_of_false nofun ?_
          rintro ⟨n, hspells, -, hlt⟩
          cases (hcounts hspells hlt).symm.trans hnone
        · next hzero =>
          refine iff_of_false nofun ?_
          rintro ⟨n, hspells, hpos, hlt⟩
          cases (hcounts hspells hlt).symm.trans hzero
          cases hpos
        · next n hpositive hn =>
          obtain ⟨hspells, hlt⟩ := Decimal.count?_eq_some_iff.1 hn
          exact iff_of_true ⟨_, rfl⟩ ⟨n, hspells, Nat.pos_of_ne_zero hpositive, hlt⟩
      · next hi =>
        split
        · next he => exact iff_of_false nofun fun h => h.no_error he
        · next he =>
          split
          · next hm => exact iff_of_false nofun fun h => h.no_extension hm
          · next hm => exact iff_of_true ⟨_, rfl⟩ ⟨he, hm, fun h => absurd h hs, fun h => absurd h hi⟩

/-- **The attributes are collected** exactly if each of them fits. -/
theorem foldlM_take_ok_iff (p : ServerFirst.Partial) (attributes : List Attribute) :
    (∃ q, attributes.foldlM ServerFirst.Partial.take p = .ok q) ↔ ∀ a ∈ attributes, a.Fits := by
  induction attributes generalizing p with
  | nil => exact iff_of_true ⟨p, rfl⟩ (List.forall_mem_nil _)
  | cons a rest ih =>
    rw [List.forall_mem_cons, ← take_ok_iff p, List.foldlM_cons]
    cases hp : p.take a with
    | error e =>
      refine iff_of_false nofun ?_
      rintro ⟨⟨q, hq⟩, -⟩
      cases hq
    | ok next =>
      rw [← ih next]
      exact ⟨fun h => ⟨⟨next, rfl⟩, h⟩, fun h => h.2⟩

/-! ## Acceptable messages -/

/-- A server-first message that is acceptable for a client with the nonce `own`, and what it chooses: each of its
attributes fits, of a repeated one the last counts, and the nonce begins with the client's own and goes on after
it. -/
structure Acceptable (own : String) (message : Bytes) (choices : ServerFirst) : Prop where
  attributes : ∃ attributes, message = Frame.render attributes ∧ attributes ≠ [] ∧
    (∀ a ∈ attributes, (a.key ≠ ',' ∧ ',' ∉ a.value.toList) ∧ a.Fits) ∧
    last? 'r' attributes = some choices.nonce ∧
    last? 's' attributes = some (Base64.encode choices.salt) ∧
    ∃ count, last? 'i' attributes = some count ∧ Decimal.Spells count choices.iterations ∧
      0 < choices.iterations ∧ choices.iterations < UInt32.size
  nonce : ∃ rest, rest ≠ "" ∧ choices.nonce = own ++ rest

theorem extendsNonce_iff {own full : String} :
    ServerFirst.extendsNonce own full ↔ ∃ rest, rest ≠ "" ∧ full = own ++ rest := by
  rw [ServerFirst.extendsNonce, Bool.and_eq_true, List.isPrefixOf_iff_prefix, decide_eq_true_iff]
  constructor
  · rintro ⟨⟨rest, hrest⟩, hlt⟩
    have hfull : full = own ++ String.ofList rest := by
      rw [← String.toList_inj, String.toList_append, String.toList_ofList, hrest]
    refine ⟨String.ofList rest, ?_, hfull⟩
    intro hempty
    rw [hfull, hempty, String.append_empty] at hlt
    exact Nat.lt_irrefl _ hlt
  · rintro ⟨rest, hne, rfl⟩
    have hpos : 0 < rest.length := by
      rw [Nat.pos_iff_ne_zero]
      simpa using hne
    exact ⟨⟨rest.toList, String.toList_append.symm⟩, by rw [String.length_append]; omega⟩

theorem mem_of_last? {key : Char} {attributes : List Attribute} {v : String} (h : last? key attributes = some v) :
    ∃ a ∈ attributes, a.key = key ∧ a.value = v := by
  induction attributes with
  | nil => cases h
  | cons a rest ih =>
    rw [last?, Option.or_eq_some_iff] at h
    rcases h with h | ⟨-, h⟩
    · obtain ⟨b, hb, heq⟩ := ih h
      exact ⟨b, List.mem_cons_of_mem _ hb, heq⟩
    · split at h
      · next hkey => exact ⟨a, List.mem_cons_self, hkey, Option.some.inj h⟩
      · cases h

/-- **Which server-first messages are read**, and what they are read as. -/
theorem parse_first_eq_ok_iff {own : String} {message : Bytes} {choices : ServerFirst} :
    ServerFirst.parse own message = .ok choices ↔ Acceptable own message choices := by
  constructor
  · intro h
    obtain ⟨attributes, hattributes, hof⟩ := bind_ok h
    obtain ⟨first, hfirst, hnonce⟩ := bind_ok hof
    obtain ⟨collected, hcollected, -⟩ := bind_ok hfirst
    obtain ⟨hextends, rfl⟩ : ServerFirst.extendsNonce own first.nonce ∧ first = choices := by
      split at hnonce
      · next hextends => exact ⟨hextends, Except.ok.inj hnonce⟩
      · cases hnonce
    obtain ⟨-, attributes', hattributes', hr, hs, hi⟩ := offers_of_parse h
    obtain rfl : attributes = attributes' := Except.ok.inj (hattributes.symm.trans hattributes')
    obtain ⟨hrender, hne, hcomma⟩ := Frame.parse_eq_ok_iff.1 hattributes
    have hfits := (foldlM_take_ok_iff {} attributes).1 ⟨collected, hcollected⟩
    obtain ⟨salt, hsalt, hdecode⟩ := Option.bind_eq_some_iff.1 hs
    obtain ⟨count, hcount, hcounts⟩ := Option.bind_eq_some_iff.1 hi
    obtain ⟨hspells, hlt⟩ := Decimal.count?_eq_some_iff.1 hcounts
    refine ⟨⟨attributes, hrender, hne, fun a ha => ⟨hcomma a ha, hfits a ha⟩, hr, ?_, count, hcount, hspells, ?_,
      hlt⟩, extendsNonce_iff.1 hextends⟩
    · rw [hsalt, Base64.decode?_eq_some_iff.1 hdecode]
    · -- The count that was taken is one of those that fit.
      obtain ⟨a, ha, hkey, rfl⟩ := mem_of_last? hcount
      obtain ⟨n, hspells', hpos, hlt'⟩ := (hfits a ha).count hkey
      obtain rfl : n = first.iterations :=
        Option.some.inj ((Decimal.count?_eq_some_iff.2 ⟨hspells', hlt'⟩).symm.trans hcounts)
      exact hpos
  · rintro ⟨⟨attributes, hrender, hne, hall, hr, hs, count, hi, hspells, -, hlt⟩, hnonce⟩
    have hattributes := Frame.parse_eq_ok_iff.2 ⟨hrender, hne, fun a ha => (hall a ha).1⟩
    obtain ⟨collected, hcollected⟩ := (foldlM_take_ok_iff {} attributes).2 fun a ha => (hall a ha).2
    obtain ⟨hr', hs', hi'⟩ := foldlM_take hcollected
    rw [hr, Option.some_or] at hr'
    rw [hs, Option.elim_some, Base64.decode?_encode] at hs'
    rw [hi, Option.elim_some, Decimal.count?_eq_some_iff.2 ⟨hspells, hlt⟩] at hi'
    have hfirst : ServerFirst.ofAttributes attributes = .ok choices := by
      rw [ServerFirst.ofAttributes, hcollected]
      show collected.complete = _
      simp only [ServerFirst.Partial.complete, hr', hs', hi']
    rw [ServerFirst.parse, hattributes]
    show (ServerFirst.ofAttributes attributes >>= _) = _
    rw [hfirst]
    exact if_pos (extendsNonce_iff.2 hnonce)

/-- Whether a message is acceptable can be told by reading it. -/
instance (own : String) (message : Bytes) : Decidable (∃ choices, Acceptable own message choices) :=
  decidable_of_iff ((ServerFirst.parse own message).toBool = true) <| by
    simp only [← parse_first_eq_ok_iff]
    cases ServerFirst.parse own message with
    | error e => exact iff_of_false nofun nofun
    | ok choices => exact iff_of_true rfl ⟨choices, rfl⟩

/-! ## The proof -/

/-- The proof that is due for a server-first message: the client's key, hidden by what only the key and the messages
determine. -/
def proof? (username password nonce : String) (serverFirst : Bytes) (choices : ServerFirst) : Option Bytes :=
  let clientKey := hmac (pbkdf2 (Bytes.utf8 password) choices.salt choices.iterations) (Bytes.utf8 "Client Key")
  clientKey.xor? (hmac (sha1 clientKey) (Bytes.utf8 (clientFirstBare username nonce ++ ",") ++ serverFirst ++
    Bytes.utf8 (",c=biws,r=" ++ choices.nonce)))

/-- **The answer to an acceptable message** carries the proof that is due. -/
theorem clientFinal_of_acceptable {nonce : String} {serverFirst : Bytes} {choices : ServerFirst}
    (h : Acceptable nonce serverFirst choices) (username password : String) :
    ∃ proof, proof? username password nonce serverFirst choices = some proof ∧
      clientFinal username password nonce serverFirst = .ok
        { message := Bytes.utf8 ("c=biws,r=" ++ choices.nonce ++ ",p=" ++ Base64.encode proof)
          serverSignature := signature username password nonce serverFirst choices } := by
  have hparse := parse_first_eq_ok_iff.2 h
  refine ⟨_, xor?_hmac .., ?_⟩
  obtain ⟨final, hfinal, hsignature⟩ := clientFinal_of_offers (offers_of_parse hparse) username password
  rw [hfinal, ← hsignature]
  rw [clientFinal, hparse] at hfinal
  cases hfinal
  rw [authMessage_eq, withoutProof_eq]
  rfl

/-! ## Answers -/

variable {s : Scram}

/-- **Which messages a started exchange answers.** It gives its proof for a server-first message exactly if that is
acceptable, and then waits for the signature that is due. With any other message it fails and says nothing. -/
theorem answered_iff (hs : s.phase = .started) (message : Bytes) :
    ((∃ answer, (s.response (some message)).2 = .ok answer) ↔ ∃ choices, Acceptable s.nonce message choices) ∧
      (∀ choices, Acceptable s.nonce message choices →
        ∃ proof, proof? s.username s.password s.nonce message choices = some proof ∧
          s.response (some message) =
            ({ s with phase := .proved (signature s.username s.password s.nonce message choices) },
              .ok (Bytes.utf8 ("c=biws,r=" ++ choices.nonce ++ ",p=" ++ Base64.encode proof)))) ∧
      ((¬ ∃ choices, Acceptable s.nonce message choices) →
        ∃ e, s.response (some message) = ({ s with phase := .failed }, .error e)) := by
  have hanswers : ∀ choices, Acceptable s.nonce message choices →
      ∃ proof, proof? s.username s.password s.nonce message choices = some proof ∧
        s.response (some message) =
          ({ s with phase := .proved (signature s.username s.password s.nonce message choices) },
            .ok (Bytes.utf8 ("c=biws,r=" ++ choices.nonce ++ ",p=" ++ Base64.encode proof))) := by
    intro choices h
    obtain ⟨proof, hproof, hfinal⟩ := clientFinal_of_acceptable h s.username s.password
    exact ⟨proof, hproof, by simp only [response, hs, hfinal]⟩
  have hfails : (¬ ∃ choices, Acceptable s.nonce message choices) →
      ∃ e, s.response (some message) = ({ s with phase := .failed }, .error e) := by
    intro hnone
    cases hfinal : clientFinal s.username s.password s.nonce message with
    | error e => exact ⟨e, by simp only [response, hs, hfinal]⟩
    | ok final =>
      obtain ⟨choices, hoffers, -⟩ := clientFinal_ok hfinal
      exact absurd ⟨choices, parse_first_eq_ok_iff.1 hoffers.accepted⟩ hnone
  refine ⟨⟨?_, ?_⟩, hanswers, hfails⟩
  · rintro ⟨answer, hanswer⟩
    by_contra hnone
    obtain ⟨e, he⟩ := hfails hnone
    rw [he] at hanswer
    cases hanswer
  · rintro ⟨choices, h⟩
    obtain ⟨proof, -, hresponse⟩ := hanswers choices h
    exact ⟨_, congrArg Prod.snd hresponse⟩

/-- Of repeated attributes the last ones count, and unknown ones do no harm; a nonce that adds nothing to the
client's own is refused. -/
theorem answered_of_repeated :
    let s : Scram :=
      { username := "user", password := "pencil", nonce := "fyko+d2lbbFgONRv9qkxdawL", phase := .started }
    let repeated := Bytes.utf8
      "r=x,i=1,s=AAAA,t=é,s=QSXCR+Q6sek8bf92,i=+4096,r=fyko+d2lbbFgONRv9qkxdawL3rfcNHYJY1ZVvWVs7j"
    let same := Bytes.utf8 "r=fyko+d2lbbFgONRv9qkxdawL,s=QSXCR+Q6sek8bf92,i=4096"
    s.phase = .started ∧ (∃ answer, (s.response (some repeated)).2 = .ok answer) ∧
      ∃ e, s.response (some same) = ({ s with phase := .failed }, .error e) := by
  intro s repeated same
  have haccepted : ∃ choices, Acceptable s.nonce repeated choices := by decide +kernel
  have hrefused : ¬ ∃ choices, Acceptable s.nonce same choices := by decide +kernel
  exact ⟨rfl, (answered_iff rfl repeated).1.2 haccepted, (answered_iff rfl same).2.2 hrefused⟩

end XmppBosh.Sasl.Scram
