import RequestFilter.Text.Case

/-!
The lower form of a text, character by character.

Only the capital sigma looks at its neighbours, and of the text before it and after it only at
whether a letter with case comes first there.
-/

set_option autoImplicit false

namespace RequestFilter.Text

/-! ### One character -/

private theorem lower_ascii {n : Nat} (hn : n < 128) :
    (Char.ofNat n).toLower = Char.ofNat n ∨ 97 ≤ (Char.ofNat n).toLower.toNat := by
  have table : ∀ n < 128,
      (Char.ofNat n).toLower = Char.ofNat n ∨ 97 ≤ (Char.ofNat n).toLower.toNat := by decide
  exact table n hn

theorem lowerRuns_bounds : ∀ r ∈ lowerRuns, 97 ≤ r.first + r.offset ∧
    (r.last + r.offset < 0xD800 ∨
      0xDFFF < r.first + r.offset ∧ r.last + r.offset < 0x110000) := by
  decide +kernel

theorem toNat_run {r : CaseRun} (hr : r ∈ lowerRuns) {n : Nat} (hn : r.holds n = true) :
    (Char.ofNat (n + r.offset).toNat).toNat = (n + r.offset).toNat ∧ 97 ≤ n + r.offset := by
  obtain ⟨low, high⟩ := lowerRuns_bounds r hr
  simp only [CaseRun.holds, Bool.and_eq_true, decide_eq_true_eq] at hn
  obtain ⟨⟨first, last⟩, -⟩ := hn
  have valid : (n + r.offset).toNat.isValidChar := by
    unfold Nat.isValidChar
    omega
  refine ⟨?_, by omega⟩
  rw [Char.ofNat, dif_pos valid]
  rfl

private theorem mem_lowerChar {c d : Char} (h : d ∈ lowerChar c) : d = c ∨ 97 ≤ d.toNat := by
  unfold lowerChar at h
  split at h
  · rename_i ascii
    have shifted := lower_ascii ascii
    rw [Char.ofNat_toNat] at shifted
    rw [List.mem_singleton.mp h]
    exact shifted
  · split at h
    · right
      simp only [List.mem_cons, List.not_mem_nil, or_false] at h
      rcases h with rfl | rfl <;> decide
    · split at h
      · rename_i r found
        right
        obtain ⟨exact, low⟩ := toNat_run (List.mem_of_find?_eq_some found) (n := c.toNat)
          (by simpa using List.find?_some found)
        rw [List.mem_singleton.mp h, exact]
        omega
      · exact Or.inl (List.mem_singleton.mp h)

private theorem lowerChar_ne_nil (c : Char) : lowerChar c ≠ [] := by
  unfold lowerChar
  split
  · simp
  · split
    · simp
    · split <;> simp

/-- The lower form of a character between two texts; the one before it is given backwards. -/
def lowerAt (before : List Char) (c : Char) (rest : List Char) : List Char :=
  if c = 'Σ' then [lowerSigma before rest] else lowerChar c

theorem lowerAfter_cons (before : List Char) (c : Char) (cs : List Char) :
    lowerAfter before (c :: cs) = lowerAt before c cs ++ lowerAfter (c :: before) cs := rfl

private theorem mem_lowerAt {before rest : List Char} {c d : Char} (h : d ∈ lowerAt before c rest) :
    d = c ∨ 97 ≤ d.toNat := by
  unfold lowerAt at h
  split at h
  · right
    rw [List.mem_singleton.mp h]
    unfold lowerSigma
    split <;> decide
  · exact mem_lowerChar h

private theorem lowerAt_ne_nil (before : List Char) (c : Char) (rest : List Char) :
    lowerAt before c rest ≠ [] := by
  unfold lowerAt
  split
  · simp
  · exact lowerChar_ne_nil c

/-! ### Whole texts -/

private theorem length_le_lowerAfter (before cs : List Char) :
    cs.length ≤ (lowerAfter before cs).length := by
  induction cs generalizing before with
  | nil => exact Nat.le_refl 0
  | cons c cs ih =>
    have one : 0 < (lowerAt before c cs).length :=
      List.length_pos_iff.mpr (lowerAt_ne_nil before c cs)
    have rest := ih (c :: before)
    rw [lowerAfter_cons, List.length_append, List.length_cons]
    omega

theorem length_le_lowerList (cs : List Char) : cs.length ≤ (lowerList cs).length :=
  length_le_lowerAfter [] cs

theorem lowerList_ne_nil {cs : List Char} (ne : cs ≠ []) : lowerList cs ≠ [] := by
  have filled := List.length_pos_iff.mpr ne
  have grown := length_le_lowerList cs
  exact List.length_pos_iff.mp (by omega)

theorem lower_ne_empty {s : String} (ne : s ≠ "") : lower s ≠ "" := by
  intro empty
  have filled : s.toList ≠ [] := fun nil => ne (String.toList_eq_nil_iff.mp nil)
  apply lowerList_ne_nil filled
  have listed := congrArg String.toList empty
  rwa [lower, String.toList_ofList] at listed

theorem head_lowerList {mark : Char} (low : mark.toNat < 97) {cs : List Char}
    (other : cs.head? ≠ some mark) : (lowerList cs).head? ≠ some mark := by
  cases cs with
  | nil => simp [lowerList, lowerAfter]
  | cons c cs =>
    intro marked
    obtain ⟨d, ds, form⟩ := List.exists_cons_of_ne_nil (lowerAt_ne_nil [] c cs)
    have member : d ∈ lowerAt [] c cs := by simp [form]
    rw [lowerList, lowerAfter_cons, form, List.cons_append, List.head?_cons,
      Option.some.injEq] at marked
    rw [List.head?_cons, ne_eq, Option.some.injEq] at other
    rcases mem_lowerAt member with same | high
    · exact other (same.symm.trans marked)
    · rw [marked] at high
      omega

/-! ### The neighbours of a sigma -/

theorem casedAhead_cons (c : Char) (cs : List Char) :
    casedAhead (c :: cs) = if isCaseIgnorable c then casedAhead cs else isCased c := by
  by_cases through : isCaseIgnorable c = true
  · simp only [casedAhead, List.dropWhile_cons_of_pos through, through, if_true]
  · simp only [casedAhead, List.dropWhile_cons_of_neg through, through, if_false,
      Bool.false_eq_true]

theorem casedAhead_of_uncased {cs : List Char} (uncased : ∀ c ∈ cs, isCased c = false) :
    casedAhead cs = false := by
  induction cs with
  | nil => rfl
  | cons c cs ih =>
    rw [casedAhead_cons]
    split
    · exact ih fun x hx => uncased x (List.mem_cons_of_mem c hx)
    · exact uncased c List.mem_cons_self

theorem isCased_of_isDigit {c : Char} (digit : c.isDigit = true) : isCased c = false := by
  have table : ∀ n < 58, Span.anyHolds casedSpans n = false := by decide
  have bound : c.toNat < 58 := by
    simp only [Char.isDigit, Bool.and_eq_true, decide_eq_true_eq, UInt32.le_iff_toNat_le] at digit
    have top : c.toNat ≤ 57 := digit.2
    omega
  exact table c.toNat bound

private theorem casedAhead_cons_congr (c : Char) {before before' : List Char}
    (same : casedAhead before = casedAhead before') :
    casedAhead (c :: before) = casedAhead (c :: before') := by
  rw [casedAhead_cons, casedAhead_cons, same]

/-- Of the text before it, a lower form depends only on whether a letter with case comes first. -/
private theorem lowerAfter_congr {before before' : List Char}
    (same : casedAhead before = casedAhead before') (cs : List Char) :
    lowerAfter before cs = lowerAfter before' cs := by
  induction cs generalizing before before' with
  | nil => rfl
  | cons c cs ih =>
    have here : lowerAt before c cs = lowerAt before' c cs := by
      simp only [lowerAt, lowerSigma, same]
    rw [lowerAfter_cons, lowerAfter_cons, here, ih (casedAhead_cons_congr c same)]

theorem lowerList_dash (cs : List Char) : lowerList ('-' :: cs) = '-' :: lowerList cs := by
  have alone : lowerAfter ['-'] cs = lowerAfter [] cs := lowerAfter_congr (by decide) cs
  rw [lowerList, lowerAfter_cons, alone]
  rfl

theorem head_lowerList_dash_iff (cs : List Char) :
    (lowerList cs).head? = some '-' ↔ cs.head? = some '-' := by
  constructor
  · intro lowered
    exact Decidable.byContradiction fun other => head_lowerList (by decide) other lowered
  · intro dash
    obtain ⟨rest, rfl⟩ := List.head?_eq_some_iff.mp dash
    rw [lowerList_dash]
    rfl

end RequestFilter.Text
