import Mathlib.Data.List.TakeWhile
import RequestFilter.Proofs.Text.Ascii
import RequestFilter.Proofs.Text.Lines

/-!
Texts with blanks around them. Trimming gives the one text that stands between the blanks and
neither begins nor ends with one.
-/

set_option autoImplicit false

namespace RequestFilter.Text

/-- The texts in which `key` stands with nothing but blanks around it. -/
inductive IsPadded (key : List Char) : List Char → Prop
  | mk {before after : List Char} (left : ∀ c ∈ before, isBlank c = true)
      (right : ∀ c ∈ after, isBlank c = true) : IsPadded key (before ++ key ++ after)

theorem IsPadded.trim_eq {key cs : List Char} (h : IsPadded key cs) : trim cs = trim key := by
  obtain ⟨left, right⟩ := h
  exact trim_blanks left right key

theorem isPadded_trim (cs : List Char) : IsPadded (trim cs) cs := by
  have left : ∀ c ∈ cs.takeWhile isBlank, isBlank c = true :=
    fun c hc => List.mem_takeWhile_imp hc
  have right : ∀ c ∈ ((trimLeft cs).reverse.takeWhile isBlank).reverse, isBlank c = true :=
    fun c hc => List.mem_takeWhile_imp (List.mem_reverse.mp hc)
  have cut : IsPadded (trim cs) (_ ++ trim cs ++ _) := .mk left right
  have back : trim cs ++ ((trimLeft cs).reverse.takeWhile isBlank).reverse = trimLeft cs := by
    rw [trim, trimRight, ← List.reverse_append, List.takeWhile_append_dropWhile,
      List.reverse_reverse]
  rwa [List.append_assoc, back, trimLeft, List.takeWhile_append_dropWhile] at cut

theorem trim_solid {cs : List Char} (solid : ∀ c ∈ cs, isBlank c = false) : trim cs = cs := by
  have kept {ds : List Char} (inside : ∀ c ∈ ds, isBlank c = false) :
      ds.dropWhile isBlank = ds := by
    cases ds with
    | nil => rfl
    | cons d ds => exact List.dropWhile_cons_of_neg (by simp [inside d List.mem_cons_self])
  rw [trim, trimLeft, kept solid, trimRight, kept fun c hc => solid c (List.mem_reverse.mp hc),
    List.reverse_reverse]

theorem isCaseless_isBlank : IsCaseless isBlank := isCaseless_of_ascii (by decide)

theorem trim_map_toLower (cs : List Char) :
    trim (cs.map Char.toLower) = (trim cs).map Char.toLower := by
  have same : isBlank ∘ Char.toLower = isBlank := funext isCaseless_isBlank
  simp only [trim, trimRight, trimLeft, List.dropWhile_map, ← List.map_reverse, same]

end RequestFilter.Text
