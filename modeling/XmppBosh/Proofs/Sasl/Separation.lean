import Mathlib.Data.List.Basic
import XmppBosh.Proofs.Client.Selection
import XmppBosh.Proofs.Text.Pieces

/-!
# What the one message of PLAIN tells

PLAIN writes its three parts one after the other with a zero byte between each two, and the server cuts the message
at its zeros. A part with a NUL in it is cut as well.

* `Plain.parts`, `Plain.Separable` : the parts of a message, and that there is no NUL in them;
* `Plain.fields_initial` : what stands between the zero bytes of a message;
* `Plain.exists_shared` : parts with a NUL share their message with other parts;
* `Plain.told_apart_iff_separable` : a message is cut into its parts, and stands for no other ones, exactly if they
  are separable;
* `Jid.nul_not_mem_node`, `Negotiation.separable_iff_of_select` : which logins have separable parts.
-/

namespace XmppBosh

/-! ## The message -/

namespace Sasl.Plain

open Text Bytes

/-- The parts of the message. An absent identity to act as reads as the empty one. -/
def parts (p : Plain) : List String := [p.authzid.getD "", p.username, p.password]

/-- No part has a NUL in it. -/
def Separable (p : Plain) : Prop := ∀ part ∈ p.parts, '\x00' ∉ part.toList

instance (p : Plain) : Decidable p.Separable := inferInstanceAs (Decidable (∀ part ∈ p.parts, '\x00' ∉ part.toList))

variable {p q : Plain}

/-- Credentials with a username and a password fit, whatever is in them. -/
theorem ofCredentials_eq_ok_iff {credentials : Credentials} : ofCredentials credentials = .ok p ↔
    credentials = { username := some p.username, authzid := p.authzid, password := some p.password } := by
  obtain ⟨username, authzid, password⟩ := credentials
  cases username with
  | none => cases password <;> simp [ofCredentials]
  | some username =>
    cases password with
    | none => simp [ofCredentials]
    | some password =>
      simp only [ofCredentials, Except.ok.injEq, Credentials.mk.injEq, Option.some.injEq]
      constructor
      · rintro rfl
        exact ⟨rfl, rfl, rfl⟩
      · rintro ⟨rfl, rfl, rfl⟩
        rfl

theorem initial_eq_joined (p : Plain) : p.initial = joined 0 (p.parts.map utf8) := by
  simp [initial, parts, joined]

/-- **Between the zero bytes** of the message stand the pieces of its parts. -/
theorem fields_initial (p : Plain) : fields 0 p.initial = (p.parts.flatMap pieces).map utf8 := by
  rw [initial_eq_joined, fields_joined_eq_flatMap 0 (by simp [parts]), List.flatMap_map, List.map_flatMap]
  simp only [fields_utf8]

/-- Every NUL in a part makes for one field more. -/
theorem length_fields_initial (p : Plain) :
    (fields 0 p.initial).length = 3 + (p.parts.flatMap String.toList).count '\x00' := by
  simp only [fields_initial, parts, List.flatMap_cons, List.flatMap_nil, List.length_map, List.length_append,
    List.length_nil, length_pieces, List.count_append, List.count_nil]
  omega

theorem three_fields_iff : (fields 0 p.initial).length = 3 ↔ p.Separable := by
  rw [length_fields_initial, Nat.add_eq_left, List.count_eq_zero, List.mem_flatMap]
  simp only [Separable, not_exists, not_and]

theorem fields_of_separable (h : p.Separable) : fields 0 p.initial = p.parts.map utf8 := by
  have hwhole : p.parts.flatMap pieces = p.parts := calc
    p.parts.flatMap pieces = p.parts.flatMap fun part => [part] :=
      List.flatMap_congr fun part hpart => pieces_of_not_mem (h part hpart)
    _ = p.parts := List.flatMap_singleton' p.parts
  rw [fields_initial, hwhole]

/-- A message is cut into its parts if there is no NUL in them. -/
theorem fields_initial_eq_iff : fields 0 p.initial = p.parts.map utf8 ↔ p.Separable := by
  constructor
  · intro h
    rw [← three_fields_iff, h, List.length_map, parts]
    rfl
  · exact fields_of_separable

/-- Parts that are separable have a message of their own. -/
theorem parts_eq_of_initial_eq (hp : p.Separable) (h : q.initial = p.initial) : q.parts = p.parts := by
  have hq : q.Separable := by rwa [← three_fields_iff, h, three_fields_iff]
  apply List.map_injective_iff.2 utf8_injective
  rw [← fields_of_separable hq, ← fields_of_separable hp, h]

/-- **A NUL in a part moves a boundary**: cut there, and with two other parts run together, the parts have the same
message. -/
theorem exists_shared (h : ¬ p.Separable) : ∃ q : Plain, q.initial = p.initial ∧ q.parts ≠ p.parts := by
  simp only [Separable, not_forall, not_not] at h
  obtain ⟨part, hmem, hpart⟩ := h
  obtain ⟨a, b, heq⟩ := exists_eq_append_nul hpart
  have hne : a ≠ part ∧ b ≠ part := by
    have hlength : part.length = a.length + 1 + b.length := by
      rw [heq, String.length_append, String.length_append]
      rfl
    constructor
    · rintro rfl
      omega
    · rintro rfl
      omega
  simp only [parts, List.mem_cons, List.not_mem_nil, or_false] at hmem
  rcases hmem with hauthzid | husername | hpassword
  · -- The username is the rest of the identity, and what was the username goes in front of the password.
    refine ⟨⟨some a, b, p.username ++ "\x00" ++ p.password⟩, ?_, fun hparts => hne.1 ?_⟩
    · simp [initial, ← hauthzid, heq, utf8_append, utf8_nul]
    · exact (List.cons.inj hparts).1.trans hauthzid.symm
  · -- The rest of the username goes in front of the password.
    refine ⟨⟨p.authzid, a, b ++ "\x00" ++ p.password⟩, ?_, fun hparts => hne.1 ?_⟩
    · simp [initial, ← husername, heq, utf8_append, utf8_nul]
    · exact (List.cons.inj (List.cons.inj hparts).2).1.trans husername.symm
  · -- The password is its own rest, and the username goes behind the identity.
    refine ⟨⟨some (p.authzid.getD "" ++ "\x00" ++ p.username), a, b⟩, ?_, fun hparts => hne.2 ?_⟩
    · simp [initial, ← hpassword, heq, utf8_append, utf8_nul]
    · exact (List.cons.inj (List.cons.inj (List.cons.inj hparts).2).2).1.trans hpassword.symm

/-- **What the message tells.** Any username and password make a message, and the absent challenge is answered with
the same one. Cut at its zero bytes it falls into the pieces of its parts, of which there are exactly three, and these
are the parts, if and only if no part has a NUL in it. If one has, the message is also that of other parts, so that
nobody can tell from it who logs in as whom. -/
theorem told_apart_iff_separable (p : Plain) :
    (∀ credentials, ofCredentials credentials = .ok p ↔
        credentials = { username := some p.username, authzid := p.authzid, password := some p.password }) ∧
      p.response none = .ok p.initial ∧
      fields 0 p.initial = (p.parts.flatMap pieces).map utf8 ∧
      ((fields 0 p.initial).length = 3 ↔ p.Separable) ∧
      (fields 0 p.initial = p.parts.map utf8 ↔ p.Separable) ∧
      ((∀ q : Plain, q.initial = p.initial → q.parts = p.parts) ↔ p.Separable) := by
  refine ⟨fun _ => ofCredentials_eq_ok_iff, rfl, fields_initial p, three_fields_iff, fields_initial_eq_iff, ?_, ?_⟩
  · intro htold
    by_contra hnul
    obtain ⟨q, hq, hparts⟩ := exists_shared hnul
    exact hparts (htold q hq)
  · intro hp q h
    exact parts_eq_of_initial_eq hp h

/-- A username with a NUL in it is accepted. Its message has four fields, and is that of another user with another
password. -/
theorem not_told_apart_of_nul :
    let p : Plain := { username := "user\x00pen", password := "cil" }
    let q : Plain := { username := "user", password := "pen\x00cil" }
    ofCredentials { username := some "user\x00pen", password := some "cil" } = .ok p ∧ q.initial = p.initial ∧
      q.parts ≠ p.parts ∧ (fields 0 p.initial).length ≠ 3 ∧ fields 0 p.initial ≠ p.parts.map utf8 := by
  intro p q
  have hp : ¬ p.Separable := by decide
  obtain ⟨haccepted, -, -, hthree, hfields, -⟩ := told_apart_iff_separable p
  exact ⟨(haccepted _).2 rfl, by decide, by decide, mt hthree.1 hp, mt hfields.1 hp⟩

end Sasl.Plain

/-! ## Logins -/

/-- No character that a profile refuses is left in a prepared text. -/
theorem Stringprep.Profile.not_refuses_of_prepare? {profile : Profile} {text prepared : String}
    (h : profile.prepare? text = some prepared) {c : Char} (hc : c ∈ prepared.toList) : profile.refuses c = false := by
  simp only [prepare?] at h
  split at h
  · cases h
  · next hok =>
    cases h
    rw [String.toList_ofList] at hc
    simp only [Bool.or_eq_true, List.any_eq_true, not_or, not_exists, not_and, Bool.not_eq_true] at hok
    exact hok.1 c hc

namespace Jid

theorem prepare?_of_part_eq_ok {profile : Stringprep.Profile} {unprepared empty tooLong : JidError} {cs : List Char}
    {text : String} (h : part profile unprepared empty tooLong cs = .ok text) :
    profile.prepare? (String.ofList cs) = some text := by
  simp only [part] at h
  split at h
  · cases h
  · next prepared hprepared =>
    split_ifs at h
    cases h
    exact hprepared

/-- The node of an address that was read is prepared. -/
theorem prepare?_of_parse {text node : String} {jid : Jid} (h : parse text = .ok jid) (hnode : jid.node = some node) :
    ∃ unprepared, Stringprep.nodeprep.prepare? unprepared = some node := by
  have hpart : ∃ cs, part? (part Stringprep.nodeprep .nodePrep .nodeEmpty .nodeTooLong) cs = .ok jid.node := by
    -- The node is read first; whether the domain and the resource are read as well makes no difference to it.
    simp only [parse, bind, Except.bind] at h
    split at h
    · cases h
    · next read hread =>
      split at h
      · cases h
      · split at h
        · cases h
        · cases h
          exact ⟨_, hread⟩
  obtain ⟨cs, hcs⟩ := hpart
  rw [hnode] at hcs
  cases cs with
  | none => cases hcs
  | some cs =>
    simp only [part?] at hcs
    cases hprepared : part Stringprep.nodeprep .nodePrep .nodeEmpty .nodeTooLong cs with
    | error e => simp [hprepared, Except.map] at hcs
    | ok prepared =>
      obtain rfl : prepared = node := by simpa [hprepared, Except.map] using hcs
      exact ⟨_, prepare?_of_part_eq_ok hprepared⟩

/-- The node of an address that was read has no NUL in it; its profile refuses control characters. -/
theorem nul_not_mem_node {text node : String} {jid : Jid} (h : parse text = .ok jid) (hnode : jid.node = some node) :
    '\x00' ∉ node.toList := by
  obtain ⟨unprepared, hprepared⟩ := prepare?_of_parse h hnode
  intro hnul
  cases (Stringprep.Profile.not_refuses_of_prepare? hprepared hnul).symm.trans (by decide : _ = true)

end Jid

namespace Sasl.Negotiation

/-- **A login with PLAIN** under an address that was read has separable parts exactly if there is no NUL in the domain
and in the decoded password. -/
theorem separable_iff_of_select {account : Account} {mechanisms : Xml.Element} {nonce : Except MechanismError String}
    {text : String} {p : Plain} (haddress : Jid.parse text = .ok account.jid)
    (h : select account mechanisms nonce = .ok (.plain p)) :
    account.secret = .ok p.password ∧
      (p.Separable ↔ '\x00' ∉ account.jid.domain.toList ∧ '\x00' ∉ p.password.toList) := by
  cases select_eq_iff.1 h with
  | plain given secret =>
    refine ⟨secret, ?_⟩
    cases hnode : account.jid.node with
    | none => simp [Plain.Separable, Plain.parts, Jid.bareText, hnode]
    | some node =>
      have hnul := Jid.nul_not_mem_node haddress hnode
      simp [Plain.Separable, Plain.parts, Jid.bareText, hnode, hnul]

/-- Domains may have a NUL in them. -/
example : Jid.parse "u@d\x00v" = .ok { node := some "u", domain := "d\x00v" } := by decide +kernel

end Sasl.Negotiation

end XmppBosh
