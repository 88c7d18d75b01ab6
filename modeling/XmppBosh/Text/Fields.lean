/-!
# Fields between separators

* `fields sep cs` : the runs of `cs` between the separators, one more than there are separators;
* `joined sep fs` : the fields with a separator between each two (`joined_fields` : cutting loses
  nothing; `fields_joined` : fields without the separator are found again).
-/

namespace XmppBosh.Text

variable {α : Type} [DecidableEq α]

def fields (sep : α) : List α → List (List α)
  | [] => [[]]
  | c :: cs =>
    if c = sep then [] :: fields sep cs
    else match fields sep cs with
      | [] => [[c]]
      | f :: fs => (c :: f) :: fs

def joined (sep : α) : List (List α) → List α
  | [] => []
  | [f] => f
  | f :: g :: fs => f ++ sep :: joined sep (g :: fs)

theorem fields_ne_nil (sep : α) (cs : List α) : fields sep cs ≠ [] := by
  cases cs with
  | nil => simp [fields]
  | cons c cs => simp only [fields]; split <;> (try split) <;> simp

theorem joined_fields (sep : α) (cs : List α) : joined sep (fields sep cs) = cs := by
  induction cs with
  | nil => rfl
  | cons c cs ih =>
    simp only [fields]
    have hne := fields_ne_nil sep cs
    match hf : fields sep cs with
    | [] => exact absurd hf hne
    | [f] => rw [hf] at ih; split <;> simp_all [joined]
    | f :: g :: fs => rw [hf] at ih; split <;> simp_all [joined]

theorem not_mem_of_mem_fields (sep : α) {f cs : List α} (h : f ∈ fields sep cs) : sep ∉ f := by
  induction cs generalizing f with
  | nil =>
    obtain rfl := List.mem_singleton.1 h
    exact List.not_mem_nil
  | cons c cs ih =>
    simp only [fields] at h
    split at h
    · rcases List.mem_cons.1 h with rfl | h
      · exact List.not_mem_nil
      · exact ih h
    · next hc =>
      split at h
      · next hnil => exact absurd hnil (fields_ne_nil sep cs)
      · next g fs hcons =>
        rw [hcons] at ih
        rcases List.mem_cons.1 h with rfl | h
        · rw [List.mem_cons, not_or]
          exact ⟨Ne.symm hc, ih List.mem_cons_self⟩
        · exact ih (List.mem_cons_of_mem _ h)

/-- A field is what comes before the first separator. -/
theorem fields_append_sep (sep : α) {f : List α} (h : sep ∉ f) (cs : List α) :
    fields sep (f ++ sep :: cs) = f :: fields sep cs := by
  induction f with
  | nil => simp [fields]
  | cons c f ih =>
    rw [List.mem_cons, not_or] at h
    simp [fields, Ne.symm h.1, ih h.2]

theorem fields_of_not_mem (sep : α) {f : List α} (h : sep ∉ f) : fields sep f = [f] := by
  induction f with
  | nil => rfl
  | cons c f ih =>
    rw [List.mem_cons, not_or] at h
    simp [fields, Ne.symm h.1, ih h.2]

theorem fields_joined (sep : α) {fs : List (List α)} (hne : fs ≠ []) (h : ∀ f ∈ fs, sep ∉ f) :
    fields sep (joined sep fs) = fs := by
  induction fs with
  | nil => exact absurd rfl hne
  | cons f fs ih =>
    cases fs with
    | nil => exact fields_of_not_mem sep (h f (List.mem_singleton.2 rfl))
    | cons g fs =>
      rw [joined, fields_append_sep sep (h f (List.mem_cons_self ..)),
        ih (List.cons_ne_nil _ _) fun x hx => h x (List.mem_cons_of_mem _ hx)]

end XmppBosh.Text
