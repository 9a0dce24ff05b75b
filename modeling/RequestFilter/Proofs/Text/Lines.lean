import RequestFilter.Text.Blank

/-!
Texts of lines: what is written as one line after another is read as these lines.
-/

set_option autoImplicit false

namespace RequestFilter.Text

private theorem pieces_eq_splitOn (cs : List Char) : pieces cs = cs.splitOn '\n' := by
  induction cs with
  | nil => rfl
  | cons c cs ih =>
    rw [List.splitOn_cons_eq_if_modifyHead, ← ih, pieces]
    by_cases feed : c = '\n'
    · rw [if_pos feed, if_pos (beq_iff_eq.mpr feed)]
    · rw [if_neg feed, if_neg (by simpa using feed)]
      cases pieces : pieces cs with
      | nil => exact absurd (ih ▸ pieces) (List.splitOn_ne_nil _ _)
      | cons l ls => rfl

theorem pieces_append (a b : List Char) : pieces (a ++ '\n' :: b) = pieces a ++ pieces b := by
  rw [pieces_eq_splitOn, pieces_eq_splitOn, pieces_eq_splitOn, List.splitOn_append_cons_self]

private theorem length_splitOn (mark : Char) (cs : List Char) :
    (cs.splitOn mark).length = cs.count mark + 1 := by
  induction cs with
  | nil => rfl
  | cons c cs ih =>
    rw [List.splitOn_cons_eq_if_modifyHead, List.count_cons]
    split
    · rw [List.length_cons, ih]
    · rw [List.length_modifyHead, ih, Nat.add_zero]

theorem length_pieces (cs : List Char) : (pieces cs).length = cs.count '\n' + 1 := by
  rw [pieces_eq_splitOn, length_splitOn]

private theorem pieces_eq_singleton {cs : List Char} (free : '\n' ∉ cs) : pieces cs = [cs] := by
  rw [pieces_eq_splitOn]
  exact List.splitOn_eq_singleton free

private theorem flatMap_pieces_eq {ls : List (List Char)} (free : ∀ l ∈ ls, '\n' ∉ l) :
    ls.flatMap pieces = ls := by
  induction ls with
  | nil => rfl
  | cons l ls ih =>
    rw [List.forall_mem_cons] at free
    rw [List.flatMap_cons, pieces_eq_singleton free.1, ih free.2, List.singleton_append]

theorem pieces_intercalate {ls : List (List Char)} (nonempty : ls ≠ [])
    (free : ∀ l ∈ ls, '\n' ∉ l) : pieces (['\n'].intercalate ls) = ls := by
  rw [pieces_eq_splitOn]
  exact List.splitOn_intercalate _ free nonempty

theorem pieces_flatMap (ls : List (List Char)) :
    pieces (ls.flatMap (· ++ ['\n'])) = ls.flatMap pieces ++ [[]] := by
  induction ls with
  | nil => rfl
  | cons l ls ih =>
    rw [List.flatMap_cons, List.append_assoc, List.singleton_append, pieces_append, ih,
      List.flatMap_cons, List.append_assoc]

theorem length_flatMap_pieces_eq_iff {ls : List (List Char)} :
    (ls.flatMap pieces).length = ls.length ↔ ∀ l ∈ ls, '\n' ∉ l := by
  have count : (ls.flatMap pieces).length = ls.length + ls.flatten.count '\n' := by
    induction ls with
    | nil => rfl
    | cons l ls ih =>
      rw [List.flatMap_cons, List.length_append, length_pieces, ih, List.flatten_cons,
        List.count_append, List.length_cons]
      omega
  rw [count, Nat.add_eq_left, List.count_eq_zero, List.mem_flatten]
  simp

/-- The pieces are the texts exactly if no text is cut. -/
theorem flatMap_pieces_eq_iff {ls : List (List Char)} :
    ls.flatMap pieces = ls ↔ ∀ l ∈ ls, '\n' ∉ l :=
  ⟨fun same => length_flatMap_pieces_eq_iff.mp (congrArg List.length same), flatMap_pieces_eq⟩

private theorem splitOn_append_cons_eq_iff {mark : Char} {a b : List Char} :
    (a ++ mark :: b).splitOn mark = [a, b] ↔ mark ∉ a ∧ mark ∉ b := by
  rw [List.splitOn_append_cons_self]
  constructor
  · intro cells
    have lengths := congrArg List.length cells
    rw [List.length_append, length_splitOn, length_splitOn] at lengths
    simp only [List.length_cons, List.length_nil] at lengths
    exact ⟨List.count_eq_zero.mp (by omega), List.count_eq_zero.mp (by omega)⟩
  · rintro ⟨left, right⟩
    rw [List.splitOn_eq_singleton left, List.splitOn_eq_singleton right]
    rfl

/-- Rows of two cells with a tab between them, which are cut at line feeds and then at tabs, are
these cells exactly if no cell holds either mark. -/
theorem map_splitOn_rows_eq_iff {α : Type} {left right : α → List Char} {as : List α} :
    (as.flatMap fun a => pieces (left a ++ '\t' :: right a)).map (List.splitOn '\t') =
        as.map (fun a => [left a, right a]) ↔
      ∀ a ∈ as, ('\n' ∉ left a ∧ '\n' ∉ right a) ∧ '\t' ∉ left a ∧ '\t' ∉ right a := by
  let row (a : α) : List Char := left a ++ '\t' :: right a
  have feed (a : α) : '\n' ∉ row a ↔ '\n' ∉ left a ∧ '\n' ∉ right a := by simp [row]
  have cut : (as.flatMap fun a => pieces (row a)) = (as.map row).flatMap pieces := by
    rw [List.flatMap_map]
  change (as.flatMap fun a => pieces (row a)).map _ = _ ↔ _
  rw [cut]
  constructor
  · intro same
    have lengths := congrArg List.length same
    rw [List.length_map, List.length_map, ← List.length_map (f := row),
      length_flatMap_pieces_eq_iff] at lengths
    rw [flatMap_pieces_eq lengths, List.map_map, List.map_inj_left] at same
    intro a ha
    exact ⟨(feed a).mp (lengths _ (List.mem_map_of_mem ha)),
      splitOn_append_cons_eq_iff.mp (same a ha)⟩
  · intro free
    have whole : ∀ l ∈ as.map row, '\n' ∉ l :=
      List.forall_mem_map.mpr fun a ha => (feed a).mpr (free a ha).1
    rw [flatMap_pieces_eq whole, List.map_map]
    exact List.map_congr_left fun a ha => splitOn_append_cons_eq_iff.mpr (free a ha).2

private theorem trim_append_blank (cs : List Char) {c : Char} (blank : isBlank c = true) :
    trim (cs ++ [c]) = trim cs := by
  rw [trim, trim, trimLeft, trimLeft, List.dropWhile_append]
  split
  · rename_i nothing
    rw [List.isEmpty_iff.mp nothing, List.dropWhile_cons_of_pos blank, List.dropWhile_nil]
  · rw [trimRight, trimRight, List.reverse_append, List.reverse_singleton, List.singleton_append,
      List.dropWhile_cons_of_pos blank]

theorem trim_blanks {before after : List Char} (left : ∀ c ∈ before, isBlank c = true)
    (right : ∀ c ∈ after, isBlank c = true) (cs : List Char) :
    trim (before ++ cs ++ after) = trim cs := by
  induction after generalizing cs with
  | nil => rw [List.append_nil, trim, trim, trimLeft, List.dropWhile_append_of_pos left, trimLeft]
  | cons c after ih =>
    rw [List.append_cons, List.append_assoc before,
      ih (fun d hd => right d (List.mem_cons_of_mem c hd)),
      trim_append_blank cs (right c List.mem_cons_self)]

theorem trim_withoutReturn (line : List Char) : trim (withoutReturn line) = trim line := by
  unfold withoutReturn
  split
  · rename_i last
    obtain ⟨front, rfl⟩ := List.getLast?_eq_some_iff.mp last
    rw [List.dropLast_concat, trim_append_blank front (by decide)]
  · rfl

/-- A text on one line that neither begins nor ends with a blank. -/
structure IsLine (l : List Char) : Prop where
  free : '\n' ∉ l
  first : ∃ c ∈ l.head?, isBlank c = false
  last : ∃ c ∈ l.getLast?, isBlank c = false

namespace IsLine

variable {l : List Char}

theorem ne_nil (h : IsLine l) : l ≠ [] := by
  rintro rfl
  obtain ⟨c, none, -⟩ := h.first
  cases none

private theorem withoutReturn_eq (h : IsLine l) : withoutReturn l = l := by
  obtain ⟨c, last, solid⟩ := h.last
  rw [withoutReturn, if_neg]
  rw [Option.mem_def.mp last]
  rintro ⟨⟩
  exact absurd solid (by decide)

theorem trimLeft_append (h : IsLine l) (rest : List Char) : trimLeft (l ++ rest) = l ++ rest := by
  obtain ⟨c, first, solid⟩ := h.first
  cases l with
  | nil => cases first
  | cons d ds =>
    cases first
    simp [trimLeft, solid]

theorem trim_eq (h : IsLine l) : trim l = l := by
  have left := h.trimLeft_append []
  rw [List.append_nil] at left
  obtain ⟨c, last, solid⟩ := h.last
  rw [trim, left, trimRight]
  rw [← List.head?_reverse] at last
  cases reversed : l.reverse with
  | nil => rw [reversed] at last; cases last
  | cons d ds =>
    rw [reversed] at last
    cases last
    rw [List.dropWhile_cons_of_neg (by simp [solid]), ← reversed, List.reverse_reverse]

end IsLine

private theorem map_withoutReturn {ls : List (List Char)} (each : ∀ l ∈ ls, IsLine l) :
    ls.map withoutReturn = ls := by
  rw [List.map_congr_left fun l hl => (each l hl).withoutReturn_eq, List.map_id']

theorem lines_intercalate {ls : List (List Char)} (nonempty : ls ≠ [])
    (each : ∀ l ∈ ls, IsLine l) : lines (['\n'].intercalate ls) = ls := by
  have cut : pieces (['\n'].intercalate ls) = ls :=
    pieces_intercalate nonempty fun l hl => (each l hl).free
  have last := each _ (List.getLast_mem nonempty)
  obtain ⟨c, cs, text⟩ := List.exists_cons_of_ne_nil last.ne_nil
  have complete : ls.dropLast ++ [ls.getLast nonempty] = ls := List.dropLast_concat_getLast nonempty
  rw [lines, cut, map_withoutReturn fun l hl => each l (List.dropLast_subset ls hl),
    List.getLast?_eq_some_getLast nonempty]
  simp only [text] at complete ⊢
  exact complete

theorem lines_flatMap {ls : List (List Char)} (each : ∀ l ∈ ls, IsLine l) :
    lines (ls.flatMap (· ++ ['\n'])) = ls := by
  have cut : pieces (ls.flatMap (· ++ ['\n'])) = ls ++ [[]] := by
    rw [pieces_flatMap, flatMap_pieces_eq fun l hl => (each l hl).free]
  rw [lines, cut]
  simp [map_withoutReturn each]

end RequestFilter.Text
