/-!
# Blanks

* `isBlank` : the characters with the Unicode property White_Space;
* `trim` : a text without the blanks around it (`trim_of_not_isBlank` : nothing else is taken off).
-/

namespace XmppBosh.Text

/-- The characters with the Unicode property White_Space. -/
def isBlank (c : Char) : Bool :=
  let n := c.toNat
  (9 ≤ n && n ≤ 13) || n = 0x20 || n = 0x85 || n = 0xA0 || n = 0x1680 || (0x2000 ≤ n && n ≤ 0x200A)
    || n = 0x2028 || n = 0x2029 || n = 0x202F || n = 0x205F || n = 0x3000

def trimChars (cs : List Char) : List Char :=
  ((cs.dropWhile isBlank).reverse.dropWhile isBlank).reverse

def trim (text : String) : String := String.ofList (trimChars text.toList)

/-- A text without blanks has none around it. -/
theorem trim_of_not_isBlank {text : String} (h : ∀ c ∈ text.toList, ¬ isBlank c) : trim text = text := by
  have hdrop (cs : List Char) (hcs : ∀ c ∈ cs, ¬ isBlank c) : cs.dropWhile isBlank = cs := by
    cases cs with
    | nil => rfl
    | cons c cs => rw [List.dropWhile_cons_of_neg (hcs c List.mem_cons_self)]
  rw [trim, trimChars, hdrop _ h, hdrop _ fun c hc => h c (List.mem_reverse.1 hc), List.reverse_reverse,
    String.ofList_toList]

end XmppBosh.Text
