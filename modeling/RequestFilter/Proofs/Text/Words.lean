import RequestFilter.Text.Blank

/-!
Cutting a text into words. Blanks separate words and are not part of any, so a blank splits a text
into two texts that are cut on their own, and a text without a blank is a single word.
-/

set_option autoImplicit false

namespace RequestFilter.Text

private theorem consWord_append (w : List Char) (xs ys : List (List Char)) :
    consWord w (xs ++ ys) = consWord w xs ++ ys := by
  unfold consWord
  split
  · rfl
  · exact (List.cons_append).symm

private theorem mem_consWord {w v : List Char} {ws : List (List Char)} (h : v ∈ consWord w ws) :
    v = w ∧ w ≠ [] ∨ v ∈ ws := by
  unfold consWord at h
  split at h
  · exact Or.inr h
  · rename_i filled
    rcases List.mem_cons.mp h with same | later
    · exact Or.inl ⟨same, by simpa using filled⟩
    · exact Or.inr later

private theorem headWord_append_blank (a b : List Char) {c : Char} (hc : isBlank c = true) :
    headWord (a ++ c :: b) = ((headWord a).1, (headWord a).2 ++ words b) := by
  induction a with
  | nil => simp [headWord, hc, words]
  | cons x a ih =>
    simp only [List.cons_append, headWord, ih]
    by_cases hx : isBlank x = true
    · simp only [hx, if_true, consWord_append]
    · simp only [hx, if_false, Bool.false_eq_true]

theorem words_append_blank (a b : List Char) {c : Char} (hc : isBlank c = true) :
    words (a ++ c :: b) = words a ++ words b := by
  have cut := headWord_append_blank a b hc
  have joined : words (a ++ c :: b) =
      consWord (headWord a).1 ((headWord a).2 ++ words b) := by
    simp only [words, cut]
  rw [joined, consWord_append]
  rfl

private theorem words_blanks_append (w b : List Char) (hw : ∀ c ∈ w, isBlank c = true) :
    words (w ++ b) = words b := by
  induction w with
  | nil => rfl
  | cons c w ih =>
    have hc : isBlank c = true := hw c List.mem_cons_self
    have rest : words (w ++ b) = words b :=
      ih fun x hx => hw x (List.mem_cons_of_mem c hx)
    have first : words (c :: (w ++ b)) = words [] ++ words (w ++ b) :=
      words_append_blank [] (w ++ b) hc
    rw [List.cons_append, first, rest]
    rfl

/-- The words of two texts with blanks between them are the words of the one and of the other. -/
theorem words_append_blanks (a w b : List Char) (ne : w ≠ [])
    (hw : ∀ c ∈ w, isBlank c = true) : words (a ++ w ++ b) = words a ++ words b := by
  obtain ⟨c, w, rfl⟩ := List.exists_cons_of_ne_nil ne
  have hc : isBlank c = true := hw c List.mem_cons_self
  have rest : ∀ x ∈ w, isBlank x = true := fun x hx => hw x (List.mem_cons_of_mem c hx)
  rw [List.append_assoc, List.cons_append, words_append_blank a (w ++ b) hc,
    words_blanks_append w b rest]

theorem solid_of_all {t : List Char} (all : (t.all fun c => !isBlank c) = true) :
    ∀ c ∈ t, isBlank c = false := by
  simpa using all

private theorem headWord_solid (t : List Char) (solid : ∀ c ∈ t, isBlank c = false) :
    headWord t = (t, []) := by
  induction t with
  | nil => rfl
  | cons c t ih =>
    have hc : isBlank c = false := solid c List.mem_cons_self
    have rest : headWord t = (t, []) := ih fun x hx => solid x (List.mem_cons_of_mem c hx)
    simp only [headWord, rest, hc, Bool.false_eq_true, if_false]

theorem words_solid (t : List Char) (ne : t ≠ []) (solid : ∀ c ∈ t, isBlank c = false) :
    words t = [t] := by
  have whole := headWord_solid t solid
  have filled : t.isEmpty = false := by simpa using ne
  simp only [words, whole, consWord, filled, Bool.false_eq_true, if_false]

theorem words_append_token {earlier token : List Char}
    (begins : ∀ c ∈ earlier.getLast?, isBlank c = true) (filled : token ≠ [])
    (solid : ∀ c ∈ token, isBlank c = false) :
    words (earlier ++ token) = words earlier ++ [token] := by
  have whole : words token = [token] := words_solid token filled solid
  cases last : earlier.getLast? with
  | none =>
    rw [List.getLast?_eq_none_iff.mp last]
    exact whole
  | some c =>
    obtain ⟨front, rfl⟩ := List.getLast?_eq_some_iff.mp last
    have blank : isBlank c = true := begins c last
    have finished : words (front ++ [c]) = words front := by
      rw [words_append_blank front [] blank]
      exact List.append_nil _
    rw [List.append_assoc, List.singleton_append, words_append_blank front token blank, whole,
      finished]

private theorem headWord_parts (cs : List Char) :
    (∀ c ∈ (headWord cs).1, isBlank c = false) ∧
      ∀ w ∈ (headWord cs).2, w ≠ [] ∧ ∀ c ∈ w, isBlank c = false := by
  induction cs with
  | nil => simp [headWord]
  | cons c cs ih =>
    obtain ⟨unfinished, finished⟩ := ih
    by_cases hc : isBlank c = true
    · simp only [headWord, hc, if_true]
      refine ⟨by simp, ?_⟩
      intro w hw
      rcases mem_consWord hw with ⟨rfl, ne⟩ | later
      · exact ⟨ne, unfinished⟩
      · exact finished w later
    · have solid : isBlank c = false := by simpa using hc
      simp only [headWord, solid, Bool.false_eq_true, if_false]
      exact ⟨List.forall_mem_cons.mpr ⟨solid, unfinished⟩, finished⟩

theorem solid_of_mem_words {cs w : List Char} (hw : w ∈ words cs) :
    w ≠ [] ∧ ∀ c ∈ w, isBlank c = false := by
  obtain ⟨unfinished, finished⟩ := headWord_parts cs
  rcases mem_consWord hw with ⟨rfl, ne⟩ | later
  · exact ⟨ne, unfinished⟩
  · exact finished w later

theorem words_intercalate (ts : List (List Char)) :
    words ([' '].intercalate ts) = ts.flatMap words := by
  induction ts with
  | nil => rfl
  | cons t ts ih =>
    cases ts with
    | nil => simp
    | cons u ts =>
      have cut : words (t ++ ' ' :: [' '].intercalate (u :: ts)) =
          words t ++ words ([' '].intercalate (u :: ts)) :=
        words_append_blank t _ (by decide)
      rw [List.intercalate_cons_cons, List.append_assoc, List.singleton_append, cut, ih]
      rfl

theorem eq_space_or_of_mem_intercalate {ts : List (List Char)} {c : Char}
    (hc : c ∈ [' '].intercalate ts) : c = ' ' ∨ ∃ t ∈ ts, c ∈ t := by
  induction ts with
  | nil => cases hc
  | cons t ts ih =>
    cases ts with
    | nil =>
      rw [List.intercalate_singleton] at hc
      exact Or.inr ⟨t, List.mem_cons_self, hc⟩
    | cons u ts =>
      rw [List.intercalate_cons_cons, List.append_assoc, List.mem_append, List.mem_append,
        List.mem_singleton] at hc
      rcases hc with here | space | later
      · exact Or.inr ⟨t, List.mem_cons_self, here⟩
      · exact Or.inl space
      · exact (ih later).imp_right fun ⟨v, hv, inside⟩ => ⟨v, List.mem_cons_of_mem t hv, inside⟩

theorem flatMap_words_of_solid {ts : List (List Char)}
    (solid : ∀ t ∈ ts, t ≠ [] ∧ ∀ c ∈ t, isBlank c = false) : ts.flatMap words = ts := by
  induction ts with
  | nil => rfl
  | cons t ts ih =>
    obtain ⟨⟨ne, whole⟩, rest⟩ := List.forall_mem_cons.mp solid
    rw [List.flatMap_cons, words_solid t ne whole, ih rest]
    rfl

theorem words_ne_nil {cs : List Char} {c : Char} (hc : c ∈ cs) (solid : isBlank c = false) :
    words cs ≠ [] := by
  induction cs with
  | nil => simp at hc
  | cons x cs ih =>
    by_cases hx : isBlank x = true
    · have other : c ≠ x := by
        rintro rfl
        rw [solid] at hx
        cases hx
      have cut : words (x :: cs) = words cs :=
        words_blanks_append [x] cs (List.forall_mem_singleton.mpr hx)
      rw [cut]
      exact ih ((List.mem_cons.mp hc).resolve_left other)
    · simp [words, headWord, hx, consWord]

end RequestFilter.Text
