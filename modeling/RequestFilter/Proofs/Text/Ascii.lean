import RequestFilter.Proofs.Text.Lower

/-!
Texts that differ in the case of ASCII letters only.

Such texts have the same lower form: a letter and its small form have the same lower form, and a
sigma between letters does not see which of them are capitals.
-/

set_option autoImplicit false

namespace RequestFilter.Text

/-! ### Characters -/

theorem toLower_of_wide {c : Char} (wide : ¬c.toNat < 128) : c.toLower = c := by
  refine dif_neg ?_
  rintro ⟨-, last⟩
  have bound : c.toNat ≤ 90 := UInt32.le_iff_toNat_le.mp last
  omega

/-- What is said of characters without regard to the case of ASCII letters. -/
def IsCaseless {α : Type} (f : Char → α) : Prop := ∀ c : Char, f c.toLower = f c

theorem isCaseless_of_ascii {α : Type} {f : Char → α}
    (table : ∀ n < 128, f (Char.ofNat n).toLower = f (Char.ofNat n)) : IsCaseless f := by
  intro c
  by_cases ascii : c.toNat < 128
  · have same := table c.toNat ascii
    rwa [Char.ofNat_toNat] at same
  · rw [toLower_of_wide ascii]

theorem isCaseless_toLower : IsCaseless Char.toLower := isCaseless_of_ascii (by decide)

private theorem isCaseless_isCased : IsCaseless isCased := isCaseless_of_ascii (by decide)

private theorem isCaseless_isCaseIgnorable : IsCaseless isCaseIgnorable := isCaseless_of_ascii
    (by decide)

private theorem isCaseless_lowerChar : IsCaseless lowerChar := isCaseless_of_ascii (by decide)

theorem toLower_eq_iff {mark : Char} (caseless : IsCaseless fun c => decide (c = mark)) {c : Char} :
    c.toLower = mark ↔ c = mark :=
  decide_eq_decide.mp (caseless c)

theorem toLower_eq_letter_iff {small large : Char} (narrow : small.toNat < 128 ∧ large.toNat < 128)
    (table : ∀ n < 128, (Char.ofNat n).toLower = small ↔
      Char.ofNat n = small ∨ Char.ofNat n = large) (c : Char) :
    c.toLower = small ↔ c = small ∨ c = large := by
  by_cases ascii : c.toNat < 128
  · have own := table c.toNat ascii
    rwa [Char.ofNat_toNat] at own
  · rw [toLower_of_wide ascii]
    refine iff_of_false ?_ ?_
    · rintro rfl
      exact ascii narrow.1
    · rintro (rfl | rfl)
      · exact ascii narrow.1
      · exact ascii narrow.2

/-! ### Lists of characters -/

theorem contains_map_toLower {mark : Char} (caseless : IsCaseless fun c => decide (c = mark))
    (cs : List Char) : (cs.map Char.toLower).contains mark = cs.contains mark := by
  simp [toLower_eq_iff caseless]

private theorem casedAhead_map_toLower (cs : List Char) :
    casedAhead (cs.map Char.toLower) = casedAhead cs := by
  induction cs with
  | nil => rfl
  | cons c cs ih =>
    rw [List.map_cons, casedAhead_cons, casedAhead_cons, isCaseless_isCaseIgnorable,
      isCaseless_isCased, ih]

private theorem lowerAt_map_toLower (before rest : List Char) (c : Char) :
    lowerAt (before.map Char.toLower) c.toLower (rest.map Char.toLower) = lowerAt before c rest := by
  have sigma : c.toLower = 'Σ' ↔ c = 'Σ' := toLower_eq_iff (isCaseless_of_ascii (by decide))
  simp only [lowerAt, lowerSigma, casedAhead_map_toLower, isCaseless_lowerChar c, sigma]

private theorem lowerAfter_map_toLower (before cs : List Char) :
    lowerAfter (before.map Char.toLower) (cs.map Char.toLower) = lowerAfter before cs := by
  induction cs generalizing before with
  | nil => rfl
  | cons c cs ih =>
    rw [List.map_cons, lowerAfter_cons, lowerAfter_cons, lowerAt_map_toLower, ← List.map_cons, ih]

/-! ### Texts -/

@[simp] theorem toList_lowerAscii (s : String) :
    (lowerAscii s).toList = s.toList.map Char.toLower :=
  String.toList_ofList

theorem lowerAscii_ofList (cs : List Char) :
    lowerAscii (.ofList cs) = .ofList (cs.map Char.toLower) := by
  rw [lowerAscii, String.toList_ofList]

theorem lowerAscii_lowerAscii (s : String) : lowerAscii (lowerAscii s) = lowerAscii s := by
  rw [← String.toList_inj, toList_lowerAscii, toList_lowerAscii, List.map_map]
  exact List.map_congr_left fun c _ => isCaseless_toLower c

theorem lowerAscii_append (s t : String) : lowerAscii (s ++ t) = lowerAscii s ++ lowerAscii t := by
  rw [← String.toList_inj, toList_lowerAscii, String.toList_append, String.toList_append,
    List.map_append, toList_lowerAscii, toList_lowerAscii]

theorem lowerAscii_eq_empty_iff {s : String} : lowerAscii s = "" ↔ s = "" := by
  rw [← String.toList_eq_nil_iff, toList_lowerAscii, List.map_eq_nil_iff, String.toList_eq_nil_iff]

theorem lowerList_lowerAscii (s : String) : lowerList (lowerAscii s).toList = lowerList s.toList := by
  rw [toList_lowerAscii]
  exact lowerAfter_map_toLower [] s.toList

theorem lower_lowerAscii (s : String) : lower (lowerAscii s) = lower s :=
  congrArg String.ofList (lowerList_lowerAscii s)

end RequestFilter.Text
