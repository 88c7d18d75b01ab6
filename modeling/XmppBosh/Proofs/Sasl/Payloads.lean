import XmppBosh.Proofs.Sasl.Messages

/-!
# Payloads and their texts

An absent payload, an empty one and one with bytes share one kind of text, in which two texts are set apart.

* `written` : the text inside the element that carries a payload; `decode_written` : it is read back;
* `written_of_decode` : a text that is read is what is written, but for the blanks around it;
* `Spelled`, `spelled_iff` : what is written, said without the writer;
* `decode_exact` : these texts are read, and no other ones.
-/

namespace XmppBosh.Sasl.Payload

open Text

/-- The text inside the element that carries a payload: nothing for an absent one. -/
def written (payload : Option Bytes) : String := (encode payload).getD ""

/-- Which text stands for which payload: no text for an absent one, an equals sign for an empty one, and else the
bytes six bits at a time. -/
inductive Spelled : Option Bytes → String → Prop where
  | absent : Spelled none ""
  | empty : Spelled (some []) "="
  | present {bytes : Bytes} {text : String} (ne : bytes ≠ []) (spells : Base64.Spells text bytes) :
    Spelled (some bytes) text

variable {payload : Option Bytes} {text other : String}

theorem written_some {bytes : Bytes} (h : bytes ≠ []) : written (some bytes) = Base64.encode bytes := by
  cases bytes with
  | nil => exact absurd rfl h
  | cons b bytes => rfl

theorem trim_written (payload : Option Bytes) : trim (written payload) = written payload := by
  match payload with
  | none => decide
  | some [] => decide
  | some (b :: bytes) => exact trim_encode (b :: bytes)

/-- Blanks around a text make no difference. -/
theorem decode_congr (h : trim text = trim other) : decode text = decode other := by
  simp only [decode, h]

/-- **A payload is read back** from what is written. -/
theorem decode_written (payload : Option Bytes) : decode (written payload) = .ok payload := by
  match payload with
  | none => rfl
  | some [] => rfl
  | some (b :: bytes) => exact decode_encode (List.cons_ne_nil b bytes)

/-- **A text that is read** is what is written for the payload. -/
theorem written_of_decode (h : decode text = .ok payload) : trim text = written payload := by
  simp only [decode] at h
  split at h
  · next habsent =>
    cases h
    exact habsent
  · next hpresent =>
    split at h
    · next hempty =>
      cases h
      exact hempty
    · split at h
      · next bytes hbytes =>
        cases h
        have hencode := Base64.decode?_eq_some_iff.1 hbytes
        -- No bytes at all would be written as no text.
        have hne : bytes ≠ [] := by
          rintro rfl
          exact hpresent hencode
        rw [written_some hne, hencode]
      · cases h

theorem decode_eq_ok_iff : decode text = .ok payload ↔ trim text = written payload := by
  constructor
  · exact written_of_decode
  · intro h
    rw [← decode_written payload]
    exact decode_congr (h.trans (trim_written payload).symm)

/-- **What is written**, and nothing else, stands for a payload. -/
theorem spelled_iff : Spelled payload text ↔ text = written payload := by
  constructor
  · intro h
    cases h with
    | absent => rfl
    | empty => rfl
    | present ne spells => rw [written_some ne, Base64.spells_iff.1 spells]
  · rintro rfl
    match payload with
    | none => exact .absent
    | some [] => exact .empty
    | some (b :: bytes) => exact .present (List.cons_ne_nil b bytes) (Base64.spells_iff.2 rfl)

/-- There is one way in which a text is refused. -/
theorem decode_cases (text : String) : (∃ payload, decode text = .ok payload) ∨
    decode text = .error .cannotDecodeChallenge := by
  simp only [decode]
  split
  · exact .inl ⟨_, rfl⟩
  · split
    · exact .inl ⟨_, rfl⟩
    · split
      · exact .inl ⟨_, rfl⟩
      · exact .inr rfl

/-- **Reading and writing are inverse.** Every payload is read back from what is written for it; a text is read as a
payload exactly if, without the blanks around it, it is what is written for the payload, that is, what stands for
it; and every other text is refused. -/
theorem decode_exact (payload : Option Bytes) (text : String) :
    decode (written payload) = .ok payload ∧
      (decode text = .ok payload ↔ trim text = written payload) ∧
      (decode text = .ok payload ↔ Spelled payload (trim text)) ∧
      (decode text = .error .cannotDecodeChallenge ↔ ∀ other, ¬ Spelled other (trim text)) := by
  refine ⟨decode_written payload, decode_eq_ok_iff, decode_eq_ok_iff.trans spelled_iff.symm, ?_⟩
  constructor
  · intro herror other hspelled
    cases herror.symm.trans (decode_eq_ok_iff.2 (spelled_iff.1 hspelled))
  · intro hnone
    rcases decode_cases text with ⟨other, hother⟩ | herror
    · exact absurd (spelled_iff.2 (decode_eq_ok_iff.1 hother)) (hnone other)
    · exact herror

end XmppBosh.Sasl.Payload
