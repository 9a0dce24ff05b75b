import Mathlib.Data.List.TakeDrop
import RequestFilter.Json.Node
import RequestFilter.Proofs.Results

/-!
The fuel of reading a text as a tree.

Every step of reading either takes a character off the text or goes from an element to its value, so
twice the length of the text is enough, and any two amounts that are enough give the same tree.
-/

set_option autoImplicit false

namespace RequestFilter.Json

/-! ### What is left of a text is shorter -/

private theorem length_skipSpace_le (cs : List Char) : (skipSpace cs).length ≤ cs.length :=
  (List.dropWhile_suffix isSpace).length_le

private theorem length_of_skipLetters {ls cs rest : List Char} (h : skipLetters ls cs = .ok rest) :
    rest.length ≤ cs.length := by
  fun_induction skipLetters ls cs with
  | case1 cs =>
    cases h
    exact Nat.le_refl _
  | case2 | case4 => cases h
  | case3 l ls cs ih => exact Nat.le_succ_of_le (ih h)

private theorem length_of_skipStringFrom {state : SkipState} {cs rest : List Char}
    (h : skipStringFrom state cs = .ok rest) : rest.length ≤ cs.length := by
  fun_induction skipStringFrom state cs with
  | case1 | case4 | case6 | case9 => cases h
  | case2 =>
    cases h
    exact Nat.le_succ _
  | case3 | case5 | case7 | case8 | case10 | case11 =>
    rename_i ih
    exact Nat.le_succ_of_le (ih h)

private theorem length_of_skipString {cs rest : List Char} (h : skipString cs = .ok rest) :
    rest.length ≤ cs.length :=
  length_of_skipStringFrom h

namespace Numeral

private theorem length_digits_le (cs : List Char) : (digits cs).2.length ≤ cs.length := by
  rw [digits, List.span_eq_takeWhile_dropWhile]
  exact (List.dropWhile_suffix _).length_le

private theorem length_of_readWhole {atEnd : Cause} {cs whole rest : List Char}
    (h : readWhole atEnd cs = .ok (whole, rest)) : rest.length < cs.length := by
  unfold readWhole at h
  split at h
  · split at h
    · split at h <;> cases h
      exact Nat.lt_succ_self _
    · cases h
      exact Nat.lt_succ_self _
  · rename_i c cs _
    split at h
    · rename_i digit
      have left := length_digits_le cs
      have whole : digits (c :: cs) = (c :: (digits cs).1, (digits cs).2) := by
        simp only [digits, List.span_eq_takeWhile_dropWhile, List.takeWhile_cons_of_pos digit,
          List.dropWhile_cons_of_pos digit]
      rw [whole] at h
      cases h
      exact Nat.lt_succ_of_le left
    · cases h
  · cases h

private theorem length_of_readFraction {atEnd : Cause} {cs rest : List Char}
    {fraction : Option (List Char)} (h : readFraction atEnd cs = .ok (fraction, rest)) :
    rest.length ≤ cs.length := by
  unfold readFraction at h
  split at h
  · rename_i cs
    have left := length_digits_le cs
    split at h
    · cases h
    · rename_i cut
      cases h
      rw [cut] at left
      exact Nat.le_succ_of_le left
  · cases h
    exact Nat.le_refl _

private theorem length_readSign_le (cs : List Char) : (readSign cs).2.length ≤ cs.length := by
  unfold readSign
  split
  · exact Nat.le_succ _
  · exact Nat.le_succ _
  · exact Nat.le_refl _

private theorem length_of_readExponent {atEnd : Cause} {cs rest : List Char}
    {exponent : Option (Bool × List Char)} (h : readExponent atEnd cs = .ok (exponent, rest)) :
    rest.length ≤ cs.length := by
  unfold readExponent at h
  split at h
  · rename_i c cs
    have sign := length_readSign_le cs
    have left := length_digits_le (readSign cs).2
    split at h
    · dsimp only at h
      split at h
      · cases h
      · rename_i cut
        cases h
        rw [cut] at left
        exact Nat.le_succ_of_le (Nat.le_trans left sign)
    · cases h
      exact Nat.le_refl _
  · cases h
    exact Nat.le_refl _

private theorem length_of_read {atEnd : Cause} {cs rest : List Char} {n : Numeral}
    (h : read atEnd cs = .ok (n, rest)) : rest.length < cs.length := by
  unfold read at h
  split at h
  rename_i negative unsigned cut
  have shorter : unsigned.length ≤ cs.length := by
    split at cut <;> cases cut
    · exact Nat.le_succ _
    · exact Nat.le_refl _
  obtain ⟨⟨whole, first⟩, readWhole, h⟩ := exists_of_bind_eq_ok h
  obtain ⟨⟨fraction, second⟩, readFraction, h⟩ := exists_of_bind_eq_ok h
  obtain ⟨⟨exponent, third⟩, readExponent, h⟩ := exists_of_bind_eq_ok h
  cases h
  have := length_of_readWhole readWhole
  have := length_of_readFraction readFraction
  have := length_of_readExponent readExponent
  omega

end Numeral

/-! ### What is left after a value -/

mutual

private theorem Node.length_of_rest? (fuel : Nat) {cs rest : List Char}
    (h : (Node.readFor fuel cs).rest? = some rest) : rest.length < cs.length := by
  cases fuel with
  | zero => cases h
  | succ fuel =>
    cases cs with
    | nil => cases h
    | cons c cs =>
      rw [Node.readFor.eq_def] at h
      dsimp only at h
      split at h
      · exact Nat.lt_succ_of_le (length_of_skipLetters (toOption_eq_some_iff.mp h))
      · exact Nat.lt_succ_of_le (length_of_skipLetters (toOption_eq_some_iff.mp h))
      · exact Nat.lt_succ_of_le (length_of_skipLetters (toOption_eq_some_iff.mp h))
      · exact Nat.lt_succ_of_le (length_of_skipString (toOption_eq_some_iff.mp h))
      · have inside := Items.length_of_rest? fuel h
        exact Nat.lt_succ_of_lt (Nat.lt_of_lt_of_le inside (length_skipSpace_le cs))
      · have inside := Members.length_of_rest? fuel h
        exact Nat.lt_succ_of_lt (Nat.lt_of_lt_of_le inside (length_skipSpace_le cs))
      · split at h
        · obtain ⟨⟨n, left⟩, read, rfl⟩ := exists_of_map_eq_ok (toOption_eq_some_iff.mp h)
          exact Numeral.length_of_read read
        · cases h

private theorem Items.length_of_rest? (fuel : Nat) {stand : Stand} {cs rest : List Char}
    (h : (Items.readFor fuel stand cs).rest? = some rest) : rest.length < cs.length := by
  cases fuel with
  | zero => cases h
  | succ fuel =>
    cases cs with
    | nil => cases h
    | cons c cs =>
      rw [Items.readFor.eq_def] at h
      dsimp only at h
      have shorter := length_skipSpace_le cs
      split at h
      · split at h <;> cases h
        exact Nat.lt_succ_self _
      · split at h
        · split at h
          · have inside := Items.length_of_rest? fuel h
            exact Nat.lt_succ_of_lt (Nat.lt_of_lt_of_le inside shorter)
          · cases h
        · split at h
          · rename_i left whole
            have value := Node.length_of_rest? fuel whole
            have more := Items.length_of_rest? fuel h
            have := length_skipSpace_le left
            omega
          · cases h

private theorem Members.length_of_rest? (fuel : Nat) {stand : Stand} {cs rest : List Char}
    (h : (Members.readFor fuel stand cs).rest? = some rest) : rest.length < cs.length := by
  cases fuel with
  | zero => cases h
  | succ fuel =>
    cases cs with
    | nil => cases h
    | cons c cs =>
      rw [Members.readFor.eq_def] at h
      dsimp only at h
      have shorter := length_skipSpace_le cs
      split at h
      · split at h <;> cases h
        exact Nat.lt_succ_self _
      · split at h
        · split at h
          · have inside := Members.length_of_rest? fuel h
            exact Nat.lt_succ_of_lt (Nat.lt_of_lt_of_le inside shorter)
          · cases h
        · split at h
          · split at h
            · cases h
            · rename_i afterKey key
              have keyed := length_of_skipString key
              have spaced := length_skipSpace_le afterKey
              split at h
              · rename_i text colon
                rw [colon] at spaced
                split at h
                · rename_i left whole
                  have value := Node.length_of_rest? fuel whole
                  have more := Members.length_of_rest? fuel h
                  have := length_skipSpace_le left
                  have := length_skipSpace_le text
                  simp only [List.length_cons] at spaced ⊢
                  omega
                · cases h
              · cases h
          · cases h

end

/-! ### Enough fuel -/

mutual

/-- Any two amounts of fuel that are enough give the same value. -/
private theorem Node.readFor_eq (fuel fuel' : Nat) (cs : List Char) (enough : 2 * cs.length ≤ fuel)
    (enough' : 2 * cs.length ≤ fuel') : Node.readFor fuel cs = Node.readFor fuel' cs := by
  cases cs with
  | nil => cases fuel <;> cases fuel' <;> rfl
  | cons c cs =>
    simp only [List.length_cons] at enough enough'
    obtain ⟨fuel, rfl⟩ : ∃ f, fuel = f + 1 := ⟨fuel - 1, by omega⟩
    obtain ⟨fuel', rfl⟩ : ∃ f, fuel' = f + 1 := ⟨fuel' - 1, by omega⟩
    have shorter := length_skipSpace_le cs
    have items := Items.readFor_eq fuel fuel' .opened (skipSpace cs) (by omega) (by omega)
    have members := Members.readFor_eq fuel fuel' .opened (skipSpace cs) (by omega) (by omega)
    rw [Node.readFor.eq_def, Node.readFor.eq_def]
    dsimp only
    rw [items, members]

private theorem Items.readFor_eq (fuel fuel' : Nat) (stand : Stand) (cs : List Char)
    (enough : 2 * cs.length < fuel) (enough' : 2 * cs.length < fuel') :
    Items.readFor fuel stand cs = Items.readFor fuel' stand cs := by
  obtain ⟨fuel, rfl⟩ : ∃ f, fuel = f + 1 := ⟨fuel - 1, by omega⟩
  obtain ⟨fuel', rfl⟩ : ∃ f, fuel' = f + 1 := ⟨fuel' - 1, by omega⟩
  cases cs with
  | nil => rfl
  | cons c cs =>
    simp only [List.length_cons] at enough enough'
    have shorter := length_skipSpace_le cs
    have comma := Items.readFor_eq fuel fuel' .comma (skipSpace cs) (by omega) (by omega)
    have value := Node.readFor_eq fuel fuel' (c :: cs)
      (by rw [List.length_cons]; omega) (by rw [List.length_cons]; omega)
    rw [Items.readFor.eq_def, Items.readFor.eq_def]
    dsimp only
    rw [comma, value]
    cases whole : (Node.readFor fuel' (c :: cs)).rest? with
    | none => rfl
    | some rest =>
      have left := Node.length_of_rest? fuel' whole
      have spaced := length_skipSpace_le rest
      rw [List.length_cons] at left
      have more := Items.readFor_eq fuel fuel' .element (skipSpace rest) (by omega) (by omega)
      dsimp only
      rw [more]

private theorem Members.readFor_eq (fuel fuel' : Nat) (stand : Stand) (cs : List Char)
    (enough : 2 * cs.length < fuel) (enough' : 2 * cs.length < fuel') :
    Members.readFor fuel stand cs = Members.readFor fuel' stand cs := by
  obtain ⟨fuel, rfl⟩ : ∃ f, fuel = f + 1 := ⟨fuel - 1, by omega⟩
  obtain ⟨fuel', rfl⟩ : ∃ f, fuel' = f + 1 := ⟨fuel' - 1, by omega⟩
  cases cs with
  | nil => rfl
  | cons c cs =>
    rw [List.length_cons] at enough enough'
    have shorter := length_skipSpace_le cs
    have comma := Members.readFor_eq fuel fuel' .comma (skipSpace cs) (by omega) (by omega)
    rw [Members.readFor.eq_def, Members.readFor.eq_def]
    dsimp only
    rw [comma]
    cases key : skipString cs with
    | error fault => rfl
    | ok afterKey =>
      dsimp only
      have keyed := length_of_skipString key
      have colon := length_skipSpace_le afterKey
      split
      · rfl
      · split
        · rfl
        · split
          · split
            · rename_i text start
              rw [start, List.length_cons] at colon
              have gap := length_skipSpace_le text
              have value := Node.readFor_eq fuel fuel' (skipSpace text) (by omega) (by omega)
              rw [value]
              cases whole : (Node.readFor fuel' (skipSpace text)).rest? with
              | none => rfl
              | some rest =>
                have left := Node.length_of_rest? fuel' whole
                have spaced := length_skipSpace_le rest
                have more := Members.readFor_eq fuel fuel' .element (skipSpace rest)
                  (by omega) (by omega)
                dsimp only
                rw [more]
            · rfl
          · rfl

end

theorem Node.read_append_space {space : List Char} (isSpace : ∀ c ∈ space, Json.isSpace c = true)
    (cs : List Char) : Node.read (space ++ cs) = Node.read cs := by
  have skipped : skipSpace (space ++ cs) = skipSpace cs := List.dropWhile_append_of_pos isSpace
  have shorter := length_skipSpace_le cs
  rw [Node.read, Node.read, skipped, List.length_append]
  exact Node.readFor_eq _ _ _ (by omega) (by omega)

end RequestFilter.Json
