import Mathlib.Tactic.SplitIfs
import XmppBosh.Bytes
import XmppBosh.Text.Fields

/-!
# Pieces of a text

A text falls into pieces at its NULs, and its bytes into fields at their zeros.

* `fields_append_cons`, `fields_joined_eq_flatMap`, `length_fields` : how joined fields are cut, and into how many;
* `pieces` : the texts between the NULs of a text;
* `Bytes.fields_utf8` : between the zero bytes of a text stand its pieces.
-/

namespace XmppBosh

/-! ## Fields -/

namespace Text

variable {α : Type} [DecidableEq α]

/-- On either side of a separator the cutting goes on by itself. -/
theorem fields_append_cons (sep : α) (cs ds : List α) :
    fields sep (cs ++ sep :: ds) = fields sep cs ++ fields sep ds := by
  induction cs with
  | nil => simp [fields]
  | cons c cs ih =>
    by_cases hc : c = sep
    · simp [fields, hc, ih]
    · cases hf : fields sep cs with
      | nil => exact absurd hf (fields_ne_nil sep cs)
      | cons f fs => simp [fields, hc, ih, hf]

/-- Joined fields are cut where they were joined, and wherever else they have separators in them. -/
theorem fields_joined_eq_flatMap (sep : α) {fs : List (List α)} (hne : fs ≠ []) :
    fields sep (joined sep fs) = fs.flatMap (fields sep) := by
  induction fs with
  | nil => exact absurd rfl hne
  | cons f fs ih =>
    cases fs with
    | nil => simp [joined]
    | cons g fs => rw [joined, fields_append_cons, ih (List.cons_ne_nil _ _), ← List.flatMap_cons]

/-- There is one field more than there are separators. -/
theorem length_fields (sep : α) (cs : List α) : (fields sep cs).length = cs.count sep + 1 := by
  induction cs with
  | nil => rfl
  | cons c cs ih =>
    by_cases hc : c = sep
    · simp [fields, hc, ih]
    · cases hf : fields sep cs with
      | nil => exact absurd hf (fields_ne_nil sep cs)
      | cons f fs =>
        rw [hf] at ih
        simpa [fields, hc, hf] using ih

/-! ## Texts -/

/-- The texts between the NULs of a text. -/
def pieces (text : String) : List String := (fields '\x00' text.toList).map String.ofList

theorem length_pieces (text : String) : (pieces text).length = text.toList.count '\x00' + 1 := by
  rw [pieces, List.length_map, length_fields]

theorem pieces_of_not_mem {text : String} (h : '\x00' ∉ text.toList) : pieces text = [text] := by
  rw [pieces, fields_of_not_mem _ h, List.map_singleton, String.ofList_toList]

/-- A text with a NUL in it is one text before the NUL and one after it. -/
theorem exists_eq_append_nul {text : String} (h : '\x00' ∈ text.toList) : ∃ a b, text = a ++ "\x00" ++ b := by
  obtain ⟨cs, ds, heq⟩ := List.append_of_mem h
  refine ⟨String.ofList cs, String.ofList ds, String.toList_inj.1 ?_⟩
  simp [heq]

end Text

/-! ## Bytes -/

namespace Bytes

open Text

theorem utf8_injective : Function.Injective utf8 := by
  intro text other h
  have hback := ofUtf8?_utf8 text
  rw [h, ofUtf8?_utf8] at hback
  exact (Option.some.inj hback).symm

theorem utf8_ofList (cs : List Char) : utf8 (String.ofList cs) = cs.flatMap String.utf8EncodeChar := by
  simp [utf8, String.toByteArray_ofList, List.utf8Encode]

theorem utf8_nul : utf8 "\x00" = [0] := by decide

/-- Only the NUL has a zero byte in its code: a code of one byte is the number of the character, and in longer ones
every byte has its highest bit set. -/
theorem zero_not_mem_utf8EncodeChar {c : Char} (h : c ≠ '\x00') : 0 ∉ String.utf8EncodeChar c := by
  have hpos : c.val.toNat ≠ 0 := fun h0 => h (Char.ext (UInt32.toNat_inj.1 h0))
  have hbyte {n : Nat} (hn : n % 256 ≠ 0) : 0 ≠ UInt8.ofNat n := by
    intro h0
    have hmod := congrArg UInt8.toNat h0
    rw [UInt8.toNat_ofNat'] at hmod
    exact hn hmod.symm
  simp only [String.utf8EncodeChar]
  split_ifs <;> simp only [List.mem_cons, List.not_mem_nil, or_false, not_or]
  · exact hbyte (by omega)
  · exact ⟨hbyte (by omega), hbyte (by omega)⟩
  · exact ⟨hbyte (by omega), hbyte (by omega), hbyte (by omega)⟩
  · exact ⟨hbyte (by omega), hbyte (by omega), hbyte (by omega), hbyte (by omega)⟩

theorem zero_not_mem_utf8 {text : String} (h : '\x00' ∉ text.toList) : 0 ∉ utf8 text := by
  rw [← String.ofList_toList (s := text), utf8_ofList, List.mem_flatMap]
  rintro ⟨c, hc, hzero⟩
  exact zero_not_mem_utf8EncodeChar (fun heq => h (heq ▸ hc)) hzero

/-- Texts joined by NULs have their bytes joined by zeros. -/
theorem utf8_joined (fs : List (List Char)) :
    utf8 (String.ofList (joined '\x00' fs)) = joined 0 (fs.map fun f => utf8 (String.ofList f)) := by
  induction fs with
  | nil => rfl
  | cons f fs ih =>
    cases fs with
    | nil => rfl
    | cons g fs =>
      have hnul : String.utf8EncodeChar '\x00' = [0] := by decide
      simp only [utf8_ofList, List.map_cons] at ih
      simp only [joined, List.map_cons, utf8_ofList, List.flatMap_append, List.flatMap_cons, hnul, ih,
        List.singleton_append]

/-- **The bytes of a text** are cut at their zeros where the text is cut at its NULs. -/
theorem fields_utf8 (text : String) : fields 0 (utf8 text) = (pieces text).map utf8 := by
  have hjoined : utf8 text = joined 0 ((pieces text).map utf8) := calc
    utf8 text = utf8 (String.ofList (joined '\x00' (fields '\x00' text.toList))) := by
      rw [joined_fields, String.ofList_toList]
    _ = joined 0 ((fields '\x00' text.toList).map fun f => utf8 (String.ofList f)) := utf8_joined _
    _ = joined 0 ((pieces text).map utf8) := by
      rw [pieces, List.map_map]
      rfl
  rw [hjoined, fields_joined]
  · simpa [pieces] using fields_ne_nil '\x00' text.toList
  · intro f hf
    obtain ⟨piece, hpiece, rfl⟩ := List.mem_map.1 hf
    obtain ⟨cs, hcs, rfl⟩ := List.mem_map.1 hpiece
    apply zero_not_mem_utf8
    rw [String.toList_ofList]
    exact not_mem_of_mem_fields '\x00' hcs

end Bytes

end XmppBosh
