import RequestFilter.Text.Search

/-!
Texts inside other texts, and the cut of a text at the first mark of a kind.
-/

set_option autoImplicit false

namespace RequestFilter.Text

/-- The search finds exactly the texts that stand in the other without a gap. -/
theorem hasInfix_iff (needle cs : List Char) :
    hasInfix needle cs = true ↔ needle <:+: cs := by
  induction cs with
  | nil => simp [hasInfix]
  | cons c cs ih =>
    simp only [hasInfix, Bool.or_eq_true, List.isPrefixOf_iff_prefix, ih]
    exact List.infix_cons_iff.symm

theorem holds_iff (text needle : String) :
    holds text needle = true ↔ needle.toList <:+: text.toList :=
  hasInfix_iff needle.toList text.toList

theorem holds_self (text : String) : holds text text = true :=
  (holds_iff text text).mpr List.infix_rfl

theorem splitAt?_append {mark : Char} (before after : List Char) (free : mark ∉ before) :
    splitAt? mark (before ++ mark :: after) = some (before, after) := by
  induction before with
  | nil => simp [splitAt?]
  | cons c before ih =>
    have other : c ≠ mark := fun same => free (same ▸ List.mem_cons_self)
    have rest : splitAt? mark (before ++ mark :: after) = some (before, after) :=
      ih fun h => free (List.mem_cons_of_mem c h)
    simp only [List.cons_append, splitAt?, other, if_false, rest, Option.map_some]

theorem eq_append_of_splitAt? {mark : Char} {cs before after : List Char}
    (h : splitAt? mark cs = some (before, after)) :
    cs = before ++ mark :: after ∧ mark ∉ before := by
  induction cs generalizing before with
  | nil => cases h
  | cons c cs ih =>
    by_cases hc : c = mark
    · simp only [splitAt?, hc, if_true, Option.some.injEq, Prod.mk.injEq] at h
      obtain ⟨rfl, rfl⟩ := h
      simp [hc]
    · simp only [splitAt?, hc, if_false, Option.map_eq_some_iff, Prod.mk.injEq] at h
      obtain ⟨⟨first, last⟩, cut, rfl, rfl⟩ := h
      obtain ⟨whole, free⟩ := ih cut
      refine ⟨by rw [whole]; rfl, ?_⟩
      simp only [List.mem_cons, not_or]
      exact ⟨fun same => hc same.symm, free⟩

end RequestFilter.Text
