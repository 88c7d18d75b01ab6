import Mathlib.Data.List.TakeWhile
import XmppBosh.Text.Blank
import XmppBosh.Text.Upper

/-!
# Spellings of a name

Names are compared without the blanks around them and in upper case.

* `trim_pad` : blanks around a name make no difference;
* `SameLetters`, `upper_trim_of_sameLetters` : nor does the case of its letters.
-/

namespace XmppBosh.Text

/-! ## Blanks -/

theorem trimChars_pad {before after : List Char} (hbefore : ∀ c ∈ before, isBlank c)
    (hafter : ∀ c ∈ after, isBlank c) (cs : List Char) : trimChars (before ++ cs ++ after) = trimChars cs := by
  have hreverse : ∀ c ∈ after.reverse, isBlank c := fun c hc => hafter c (List.mem_reverse.1 hc)
  rw [trimChars, List.append_assoc, List.dropWhile_append_of_pos hbefore, List.dropWhile_append, trimChars]
  split
  · next hempty =>
    -- Nothing but blanks.
    rw [List.isEmpty_iff] at hempty
    have hblank : after.dropWhile isBlank = [] := List.dropWhile_eq_nil_iff.2 hafter
    rw [hempty, hblank]
  · rw [List.reverse_append, List.dropWhile_append_of_pos hreverse]

/-- **Blanks around a name** make no difference. -/
theorem trim_pad {before after : List Char} (hbefore : ∀ c ∈ before, isBlank c) (hafter : ∀ c ∈ after, isBlank c)
    (name : String) : trim (String.ofList (before ++ name.toList ++ after)) = trim name := by
  rw [trim, String.toList_ofList, trimChars_pad hbefore hafter, trim]

/-! ## Letters -/

/-- Two texts are the same but for the case of letters of ASCII. -/
def SameLetters (x y : String) : Prop := x.toList.map Char.toLower = y.toList.map Char.toLower

/-- A character either has a lower case of its own or is one of 26. -/
theorem toLower_cases (c : Char) : c.toLower = c ∨ ∃ k < 26, c = Char.ofNat (65 + k) := by
  by_cases hupper : 'A'.toNat ≤ c.toNat ∧ c.toNat ≤ 'Z'.toNat
  · simp only [Char.reduceToNat] at hupper
    have hn : 65 + (c.toNat - 65) = c.toNat := by omega
    exact .inr ⟨c.toNat - 65, by omega, by rw [hn, Char.ofNat_toNat]⟩
  · exact .inl (dif_neg hupper)

theorem upperChar_toLower (c : Char) : upperChar c.toLower = upperChar c := by
  rcases toLower_cases c with h | ⟨k, hk, rfl⟩
  · rw [h]
  · revert k
    decide

theorem isBlank_toLower (c : Char) : isBlank c.toLower = isBlank c := by
  rcases toLower_cases c with h | ⟨k, hk, rfl⟩
  · rw [h]
  · revert k
    decide

theorem trimChars_map_toLower (cs : List Char) :
    trimChars (cs.map Char.toLower) = (trimChars cs).map Char.toLower := by
  have hblank : isBlank ∘ Char.toLower = isBlank := funext isBlank_toLower
  simp only [trimChars, List.dropWhile_map, hblank, ← List.map_reverse]

/-- **The case of letters** makes no difference to a name in upper case. -/
theorem upper_trim_of_sameLetters {x y : String} (h : SameLetters x y) : upper (trim x) = upper (trim y) := by
  have hfold : upperChar ∘ Char.toLower = upperChar := funext upperChar_toLower
  have hupper : ∀ text : String, upper (trim text) =
      String.ofList ((trimChars (text.toList.map Char.toLower)).map upperChar) := by
    intro text
    rw [trimChars_map_toLower, List.map_map, hfold, upper, trim,
      String.toList_ofList]
  rw [hupper, h, hupper]

end XmppBosh.Text
