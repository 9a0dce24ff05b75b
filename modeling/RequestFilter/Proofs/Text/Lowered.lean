import RequestFilter.Proofs.Text.Lower
import RequestFilter.Proofs.Text.Words

/-!
Text that is in lower case already.

Lowering gives such text, so lowering twice is lowering once, and it makes no blank out of anything
else.
-/

set_option autoImplicit false

namespace RequestFilter.Text

/-- Whether a character is its own lower form, wherever it stands. -/
def isLowered (c : Char) : Bool := c != 'Σ' && lowerChar c == [c]

/-! ### The table -/

namespace CaseRun

private def image (r : CaseRun) : Span := ⟨(r.first + r.offset).toNat, (r.last + r.offset).toNat⟩

private def isSparse (r : CaseRun) : Bool := r.step == 2 || r.first == r.last

/-- Whether a run holds no code point of a span, or of a sparse span with such ends: the two lie
apart, or the run has every second code point and the sparse span those between. -/
private def avoids (s : Span) (sparse : Bool) (r : CaseRun) : Bool :=
  Nat.blt s.last r.first ||
    (Nat.blt r.last s.first || sparse && r.step == 2 && (s.first + r.first) % 2 == 1)

private theorem bounds {r : CaseRun} {n : Nat} (held : r.holds n = true) :
    r.first ≤ n ∧ n ≤ r.last ∧ (n - r.first) % r.step = 0 := by
  simpa [holds, and_assoc] using held

private theorem image_bounds {r : CaseRun} {n : Nat} (held : r.holds n = true) :
    r.image.first ≤ (n + r.offset).toNat ∧ (n + r.offset).toNat ≤ r.image.last := by
  obtain ⟨first, last, -⟩ := bounds held
  simp only [image]
  omega

private theorem not_holds_image {r other : CaseRun} {n : Nat} (positive : 0 < r.first + r.offset)
    (held : r.holds n = true) (avoided : other.avoids r.image r.isSparse = true) :
    other.holds (n + r.offset).toNat = false := by
  rw [Bool.eq_false_iff]
  intro caught
  obtain ⟨first, last, every⟩ := bounds held
  obtain ⟨first', last', every'⟩ := bounds caught
  obtain ⟨from', to'⟩ := image_bounds held
  simp only [avoids, isSparse, Bool.or_eq_true, Bool.and_eq_true, beq_iff_eq, Nat.blt_eq]
    at avoided
  rcases avoided with below | above | ⟨⟨steps, step'⟩, odd⟩
  · omega
  · omega
  · simp only [image] at odd
    rw [step'] at every'
    rcases steps with step | single
    · rw [step] at every
      omega
    · omega

end CaseRun

private theorem lowerRuns_avoid_images :
    (lowerRuns.all fun r => lowerRuns.all (CaseRun.avoids r.image r.isSparse)) = true := by
  decide +kernel

/-- Code points beyond ASCII that no run leads to: those of blanks, and the dotted capital I, which
has a lower form of two characters. -/
private def unreached : List Span :=
  [⟨0x85, 0x85⟩, ⟨0xA0, 0xA0⟩, ⟨0x130, 0x130⟩, ⟨0x1680, 0x1680⟩, ⟨0x2000, 0x200A⟩,
    ⟨0x2028, 0x2029⟩, ⟨0x202F, 0x202F⟩, ⟨0x205F, 0x205F⟩, ⟨0x3000, 0x3000⟩]

private theorem images_avoid_unreached :
    (lowerRuns.all fun r => unreached.all fun s =>
      Nat.blt r.image.last s.first || Nat.blt s.last r.image.first) = true := by
  decide +kernel

section Run

variable {r : CaseRun} (hr : r ∈ lowerRuns) {n : Nat} (held : r.holds n = true)

include hr held

/-- Where a run leads there is nothing that has another lower form. -/
private theorem find?_image :
    lowerRuns.find? (·.holds (n + r.offset).toNat) = none := by
  rw [List.find?_eq_none]
  intro other member
  have avoided := List.all_eq_true.mp lowerRuns_avoid_images r hr
  have missed := List.all_eq_true.mp avoided other member
  obtain ⟨low, -⟩ := lowerRuns_bounds r hr
  rw [CaseRun.not_holds_image (by omega) held missed]
  exact Bool.false_ne_true

private theorem image_ne {s : Span} (member : s ∈ unreached) :
    (n + r.offset).toNat < s.first ∨ s.last < (n + r.offset).toNat := by
  have avoided := List.all_eq_true.mp images_avoid_unreached r hr
  have apart := List.all_eq_true.mp avoided s member
  obtain ⟨from', to'⟩ := CaseRun.image_bounds held
  simp only [Bool.or_eq_true, Nat.blt_eq] at apart
  omega

end Run

/-! ### Characters -/

private theorem isLowered_ascii {n : Nat} (hn : n < 128) :
    isLowered (Char.ofNat n).toLower = true := by
  have table : ∀ n < 128, isLowered (Char.ofNat n).toLower = true := by decide +kernel
  exact table n hn

private theorem isLowered_run {r : CaseRun} (hr : r ∈ lowerRuns) {n : Nat}
    (held : r.holds n = true) : isLowered (Char.ofNat (n + r.offset).toNat) = true := by
  obtain ⟨exact, low⟩ := toNat_run hr held
  have missed := find?_image hr held
  rw [← exact] at missed
  have dotted : (0x130 : Nat) ≠ (n + r.offset).toNat := by
    have apart := image_ne hr held (s := ⟨0x130, 0x130⟩) (by decide)
    simp only at apart
    omega
  generalize hd : Char.ofNat (n + r.offset).toNat = d at *
  have notDotted : d ≠ 'İ' := by
    rintro rfl
    exact dotted exact
  have notSigma : d ≠ 'Σ' := by
    rintro rfl
    revert missed
    decide +kernel
  have alone : lowerChar d = [d] := by
    unfold lowerChar
    split
    · rename_i ascii
      have fixed : d.toLower = d := by
        have table : ∀ n < 128, 97 ≤ n → (Char.ofNat n).toLower = Char.ofNat n := by decide
        have shown := table d.toNat ascii (by omega)
        rwa [Char.ofNat_toNat] at shown
      rw [fixed]
    · simp only [missed]
  simp [isLowered, notSigma, alone]

private theorem isLowered_of_mem_lowerAt {before rest : List Char} {c d : Char}
    (h : d ∈ lowerAt before c rest) : isLowered d = true := by
  unfold lowerAt at h
  split at h
  · rw [List.mem_singleton.mp h]
    unfold lowerSigma
    split <;> decide +kernel
  · rename_i notSigma
    unfold lowerChar at h
    split at h
    · rename_i ascii
      have lowered := isLowered_ascii ascii
      rw [Char.ofNat_toNat] at lowered
      rwa [List.mem_singleton.mp h]
    · rename_i wide
      split at h
      · simp only [List.mem_cons, List.not_mem_nil, or_false] at h
        rcases h with rfl | rfl <;> decide +kernel
      · rename_i notDotted
        split at h
        · rename_i r found
          rw [List.mem_singleton.mp h]
          exact isLowered_run (List.mem_of_find?_eq_some found)
            (by simpa using List.find?_some found)
        · rename_i unlisted
          have alone : lowerChar c = [c] := by simp [lowerChar, wide, notDotted, unlisted]
          rw [List.mem_singleton.mp h]
          simp [isLowered, notSigma, alone]

private theorem solid_of_mem_lowerAt {before rest : List Char} {c d : Char}
    (h : d ∈ lowerAt before c rest) (solid : isBlank c = false) : isBlank d = false := by
  unfold lowerAt at h
  split at h
  · rw [List.mem_singleton.mp h]
    unfold lowerSigma
    split <;> decide
  · unfold lowerChar at h
    split at h
    · rename_i ascii
      have table : ∀ n < 128, isBlank (Char.ofNat n) = false →
          isBlank (Char.ofNat n).toLower = false := by decide
      have kept := table c.toNat ascii
      rw [Char.ofNat_toNat] at kept
      rw [List.mem_singleton.mp h]
      exact kept solid
    · split at h
      · simp only [List.mem_cons, List.not_mem_nil, or_false] at h
        rcases h with rfl | rfl <;> decide
      · split at h
        · rename_i r found
          have hr := List.mem_of_find?_eq_some found
          have held : r.holds c.toNat = true := by simpa using List.find?_some found
          obtain ⟨exact, low⟩ := toNat_run hr held
          have apart := fun s member => image_ne hr held (s := s) member
          rw [List.mem_singleton.mp h]
          simp only [unreached, List.forall_mem_cons] at apart
          simp only [isBlank, exact, Bool.or_eq_false_iff, Bool.and_eq_false_iff,
            decide_eq_false_iff_not, beq_eq_false_iff_ne]
          omega
        · rwa [List.mem_singleton.mp h]

/-! ### Texts -/

private theorem exists_mem_lowerAt {before cs : List Char} {d : Char} (h : d ∈ lowerAfter before cs)
    :
    ∃ before' rest, ∃ c ∈ cs, d ∈ lowerAt before' c rest := by
  induction cs generalizing before with
  | nil => cases h
  | cons c cs ih =>
    rw [lowerAfter_cons, List.mem_append] at h
    rcases h with here | later
    · exact ⟨before, cs, c, List.mem_cons_self, here⟩
    · obtain ⟨before', rest, x, hx, hd⟩ := ih later
      exact ⟨before', rest, x, List.mem_cons_of_mem c hx, hd⟩

theorem lowerAfter_of_isLowered (before : List Char) {cs : List Char}
    (lowered : ∀ c ∈ cs, isLowered c = true) : lowerAfter before cs = cs := by
  induction cs generalizing before with
  | nil => rfl
  | cons c cs ih =>
    obtain ⟨first, rest⟩ := List.forall_mem_cons.mp lowered
    simp only [isLowered, Bool.and_eq_true, bne_iff_ne, beq_iff_eq] at first
    obtain ⟨notSigma, alone⟩ := first
    rw [lowerAfter_cons, lowerAt, if_neg notSigma, alone, ih (c :: before) rest]
    rfl

theorem lowerList_append_of_isLowered {xs : List Char} (ys : List Char)
    (lowered : ∀ c ∈ xs, isLowered c = true) :
    lowerList (xs ++ ys) = xs ++ lowerAfter xs.reverse ys := by
  have after (before : List Char) :
      lowerAfter before (xs ++ ys) = xs ++ lowerAfter (xs.reverse ++ before) ys := by
    induction xs generalizing before with
    | nil => rfl
    | cons x xs ih =>
      obtain ⟨first, rest⟩ := List.forall_mem_cons.mp lowered
      simp only [isLowered, Bool.and_eq_true, bne_iff_ne, beq_iff_eq] at first
      obtain ⟨notSigma, alone⟩ := first
      rw [List.cons_append, lowerAfter_cons, lowerAt, if_neg notSigma, alone, ih rest,
        List.reverse_cons, List.append_assoc]
      rfl
  rw [lowerList, after, List.append_nil]

/-- Lowering twice is lowering once. -/
theorem lower_lower (s : String) : lower (lower s) = lower s := by
  have lowered : ∀ c ∈ lowerList s.toList, isLowered c = true := by
    intro c hc
    obtain ⟨before, rest, x, -, found⟩ := exists_mem_lowerAt hc
    exact isLowered_of_mem_lowerAt found
  rw [lower, lower, String.toList_ofList]
  exact congrArg String.ofList (lowerAfter_of_isLowered [] lowered)

theorem lower_solid {s : String} (solid : ∀ c ∈ s.toList, isBlank c = false) :
    ∀ c ∈ (lower s).toList, isBlank c = false := by
  intro c hc
  rw [lower, String.toList_ofList] at hc
  obtain ⟨before, rest, x, member, found⟩ := exists_mem_lowerAt hc
  exact solid_of_mem_lowerAt found (solid x member)

end RequestFilter.Text
