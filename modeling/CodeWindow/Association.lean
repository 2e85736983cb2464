/-! Looking a key up in a list of pairs: the first pair with the key answers. -/

namespace CodeWindow.Association

variable {κ α : Type} [BEq κ] [LawfulBEq κ] [DecidableEq κ]

/-- The first pair answers for its key, and the rest for every other. -/
theorem lookup_cons (key other : κ) (value : α) (rest : List (κ × α)) :
    List.lookup other ((key, value) :: rest) =
      if other = key then some value else rest.lookup other := by
  rw [List.lookup_cons]
  by_cases h : other = key
  · simp [h]
  · rw [beq_eq_false_iff_ne.mpr h, if_neg h]

/-- Pairs of another key can be dropped. -/
theorem lookup_filter_ne (entries : List (κ × α)) {key other : κ} (h : other ≠ key) :
    List.lookup other (entries.filter fun entry => entry.1 != key) = entries.lookup other := by
  induction entries with
  | nil => rfl
  | cons entry rest ih =>
    obtain ⟨k, value⟩ := entry
    by_cases hk : k = key
    · subst hk
      simp [ih, lookup_cons, h]
    · simp [hk, lookup_cons, ih]

end CodeWindow.Association
