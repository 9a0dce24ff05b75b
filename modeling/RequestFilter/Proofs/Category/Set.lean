import Mathlib.Data.List.Basic
import RequestFilter.Category

/-!
Sets of categories by their members.

A set is told by the categories that it holds: each category has a bit of its own, and each bit is
that of a category. So what the operations on bits do is said of one category at a time.
-/

set_option autoImplicit false

namespace RequestFilter

namespace Category

theorem mem_all (c : Category) : c ∈ all := by
  cases c <;> decide

private theorem bit_lt (c : Category) : c.bit < 9 := List.idxOf_lt_length_of_mem c.mem_all

private theorem bit_injective : Function.Injective bit := fun c _ => (List.idxOf_inj c.mem_all).mp

private theorem exists_bit_eq {i : Nat} (bound : i < 9) : ∃ c : Category, c.bit = i := by
  have nodup : all.Nodup := by decide
  exact ⟨all[i], nodup.idxOf_getElem i bound⟩

end Category

namespace CategorySet

/-! ### Members -/

@[simp] theorem contains_union (s t : CategorySet) (c : Category) :
    (s.union t).contains c = (s.contains c || t.contains c) :=
  BitVec.getLsbD_or

@[simp] theorem contains_inter (s t : CategorySet) (c : Category) :
    (s.inter t).contains c = (s.contains c && t.contains c) :=
  BitVec.getLsbD_and

@[simp] theorem contains_empty (c : Category) : empty.contains c = false :=
  BitVec.getLsbD_zero

@[simp] theorem contains_full (c : Category) : full.contains c = true := by
  rw [contains, full, BitVec.getLsbD_allOnes]
  exact decide_eq_true c.bit_lt

@[simp] theorem contains_single (c d : Category) : (single c).contains d = decide (c = d) := by
  rw [contains, single, BitVec.getLsbD_twoPow, Bool.and_eq_right_iff_imp.mpr]
  · exact decide_eq_decide.mpr Category.bit_injective.eq_iff
  · intro same
    exact decide_eq_true c.bit_lt

theorem ext_contains {s t : CategorySet} (same : ∀ c, s.contains c = t.contains c) : s = t := by
  have bits : s.bits = t.bits := by
    apply BitVec.eq_of_getLsbD_eq
    intro i bound
    obtain ⟨c, rfl⟩ := Category.exists_bit_eq bound
    exact same c
  cases s
  cases t
  exact congrArg mk bits

theorem isEmpty_eq_false_iff (s : CategorySet) :
    s.isEmpty = false ↔ ∃ c, s.contains c = true := by
  constructor
  · intro filled
    by_contra none
    have nothing : s = empty := by
      apply ext_contains
      intro c
      rw [contains_empty, Bool.eq_false_iff]
      exact fun member => none ⟨c, member⟩
    rw [nothing] at filled
    exact absurd filled (by decide)
  · rintro ⟨c, member⟩
    rw [Bool.eq_false_iff]
    intro nothing
    have zero : s = empty := congrArg mk (eq_of_beq nothing)
    rw [zero, contains_empty] at member
    cases member

theorem contains_ofList (cs : List Category) (c : Category) :
    (ofList cs).contains c = true ↔ c ∈ cs := by
  have added (s : CategorySet) :
      (cs.foldl (fun s c => s.union (single c)) s).contains c = true ↔
        s.contains c = true ∨ c ∈ cs := by
    -- the set that is extended grows along the list
    induction cs generalizing s with
    | nil => simp
    | cons d cs ih =>
      simp only [List.foldl_cons, ih, contains_union, contains_single, Bool.or_eq_true,
        decide_eq_true_eq, List.mem_cons, or_assoc, eq_comm (a := c)]
  rw [ofList, added, contains_empty]
  exact or_iff_right Bool.false_ne_true

/-! ### What restricts nothing -/

theorem isUnrestricted_iff (s : CategorySet) :
    s.isUnrestricted = true ↔ s.isEmpty = true ∨ s = full := by
  rw [isUnrestricted, Bool.or_eq_true, beq_iff_eq]

end CategorySet
end RequestFilter
