import XmppBosh.Text.Decimal

/-!
# Counts are read back

* `digits?_toDigits` : the digits of a number stand for it;
* `count?_toString` : a count that fits is read back from its text;
* `forall_mem_toDigits` : the characters of a number are digits;
* `Spells`, `count?_eq_some_iff` : which texts stand for a count.
-/

namespace XmppBosh.Text.Decimal

theorem forall_mem_toDigits (n : Nat) : ∀ c ∈ Nat.toDigits 10 n, '0' ≤ c ∧ c ≤ '9' := by
  intro c hc
  have hdigit := Nat.isDigit_of_mem_toDigits (by decide) (Nat.le_refl 10) hc
  simpa [Char.isDigit, Char.le_def] using hdigit

/-- The digits of a number stand for it. -/
theorem digits?_toDigits (n : Nat) : digits? (Nat.toDigits 10 n) = some n := by
  have hvalue : (Nat.toDigits 10 n).foldl (fun n c => n * 10 + (c.toNat - 48)) 0 = n := by
    have h := Nat.ofDigitChars_toDigits (n := n) (by decide) (Nat.le_refl 10)
    simpa [Nat.ofDigitChars, Nat.mul_comm] using h
  rw [digits?, if_neg, hvalue]
  simpa [Nat.toDigits_ne_nil] using forall_mem_toDigits n

theorem unsigned_toDigits (n : Nat) : unsigned (Nat.toDigits 10 n) = Nat.toDigits 10 n := by
  unfold unsigned
  split
  · next cs h =>
    have hplus := (forall_mem_toDigits n '+' (by simp [h])).1
    exact absurd hplus (by decide)
  · rfl

/-- **A count that fits** is read back from its text. -/
theorem count?_toString {n : Nat} (h : n < UInt32.size) : count? (toString n) = some n := by
  have hchars : (toString n).toList = Nat.toDigits 10 n := Nat.toList_repr
  rw [count?, hchars, unsigned_toDigits, digits?_toDigits]
  simpa using h

/-- A text stands for a number: decimal digits, with or without a plus sign in front. -/
def Spells (text : String) (n : Nat) : Prop :=
  ∃ digits : List Char, digits ≠ [] ∧ (∀ c ∈ digits, c.isDigit) ∧ n = Nat.ofDigitChars 10 digits 0 ∧
    (text.toList = digits ∨ text.toList = '+' :: digits)

theorem digits?_eq_some_iff {cs : List Char} {n : Nat} :
    digits? cs = some n ↔ cs ≠ [] ∧ (∀ c ∈ cs, c.isDigit) ∧ n = Nat.ofDigitChars 10 cs 0 := by
  have hall : cs.all (fun c => '0' ≤ c ∧ c ≤ '9') ↔ ∀ c ∈ cs, c.isDigit := by
    simp [Char.isDigit, Char.le_def]
  have hvalue : cs.foldl (fun n c => n * 10 + (c.toNat - 48)) 0 = Nat.ofDigitChars 10 cs 0 := by
    simp [Nat.ofDigitChars, Nat.mul_comm]
  rw [digits?, hvalue, ← hall]
  split
  · next hnone =>
    refine iff_of_false nofun fun ⟨hne, hdigits, _⟩ => ?_
    rcases hnone with hempty | hother
    · exact hne hempty
    · rw [hdigits] at hother
      cases hother
  · next hsome =>
    rw [not_or, Bool.not_eq_true, Bool.not_eq_false'] at hsome
    rw [Option.some.injEq, eq_comm]
    exact ⟨fun h => ⟨hsome.1, hsome.2, h⟩, fun h => h.2.2⟩

/-- What is left without a plus sign in front has either had one or not. -/
theorem digits?_unsigned {cs : List Char} {n : Nat} : digits? (unsigned cs) = some n ↔
    ∃ digits, digits? digits = some n ∧ (cs = digits ∨ cs = '+' :: digits) := by
  have hplus : ∀ {digits : List Char}, digits? ('+' :: digits) ≠ some n := by
    intro digits h
    exact absurd ((digits?_eq_some_iff.1 h).2.1 '+' List.mem_cons_self) (by decide)
  unfold unsigned
  split
  · next cs =>
    refine ⟨fun h => ⟨cs, h, .inr rfl⟩, ?_⟩
    rintro ⟨digits, h, rfl | heq⟩
    · exact absurd h hplus
    · obtain rfl : cs = digits := List.tail_eq_of_cons_eq heq
      exact h
  · next hno =>
    refine ⟨fun h => ⟨cs, h, .inl rfl⟩, ?_⟩
    rintro ⟨digits, h, rfl | heq⟩
    · exact h
    · exact absurd heq (hno digits)

/-- **Which texts stand for a count**: those that stand for a number of at most 32 bits. -/
theorem count?_eq_some_iff {text : String} {n : Nat} :
    count? text = some n ↔ Spells text n ∧ n < UInt32.size := by
  rw [count?, Option.filter_eq_some_iff, digits?_unsigned, decide_eq_true_iff, and_congr_left_iff]
  intro _
  simp only [digits?_eq_some_iff, Spells, and_assoc]

end XmppBosh.Text.Decimal
