import Mathlib.Data.List.Basic
import RequestFilter.Proofs.Text.Lower

/-!
The lower form of a text that stands inside another text.

It is the lower form of the text alone, but for a capital sigma at an edge: the first of the text
may end a word that begins before it, and the last may stand within a word that goes on behind it.
A text has the same lower form in all texts exactly if it has no such sigma.
-/

set_option autoImplicit false

namespace RequestFilter.Text

/-! ### What is seen through a text -/

private theorem casedAhead_append_of_ignorable {xs : List Char}
    (ignorable : ∀ c ∈ xs, isCaseIgnorable c = true) (ys : List Char) :
    casedAhead (xs ++ ys) = casedAhead ys := by
  induction xs with
  | nil => rfl
  | cons x xs ih =>
    obtain ⟨first, rest⟩ := List.forall_mem_cons.mp ignorable
    rw [List.cons_append, casedAhead_cons, if_pos first, ih rest]

private theorem casedAhead_of_ignorable {xs : List Char}
    (ignorable : ∀ c ∈ xs, isCaseIgnorable c = true) : casedAhead xs = false := by
  have nothing := casedAhead_append_of_ignorable ignorable []
  rwa [List.append_nil] at nothing

private theorem casedAhead_append_cases (xs : List Char) :
    (∀ c ∈ xs, isCaseIgnorable c = true) ∨ ∀ ys, casedAhead (xs ++ ys) = casedAhead xs := by
  induction xs with
  | nil => exact Or.inl (by simp)
  | cons x xs ih =>
    by_cases through : isCaseIgnorable x = true
    · refine ih.imp (fun rest => List.forall_mem_cons.mpr ⟨through, rest⟩) fun hidden ys => ?_
      rw [List.cons_append, casedAhead_cons, casedAhead_cons, if_pos through, if_pos through,
        hidden]
    · refine Or.inr fun ys => ?_
      rw [List.cons_append, casedAhead_cons, casedAhead_cons, if_neg through, if_neg through]

private theorem casedAhead_append_congr (xs : List Char) {ys ys' : List Char}
    (same : casedAhead ys = casedAhead ys') : casedAhead (xs ++ ys) = casedAhead (xs ++ ys') := by
  rcases casedAhead_append_cases xs with through | hidden
  · rw [casedAhead_append_of_ignorable through, casedAhead_append_of_ignorable through, same]
  · rw [hidden, hidden]

private theorem casedAhead_sigma (cs : List Char) : casedAhead ('Σ' :: cs) = true := by
  rw [casedAhead_cons, if_neg (by decide)]
  decide

/-! ### Lower forms between other texts -/

/-- The lower form of a text between two others; the one before it is given backwards. -/
def lowerBetween (before : List Char) : List Char → List Char → List Char
  | [], _ => []
  | c :: cs, after => lowerAt before c (cs ++ after) ++ lowerBetween (c :: before) cs after

private theorem lowerBetween_nil (before cs : List Char) :
    lowerBetween before cs [] = lowerAfter before cs := by
  induction cs generalizing before with
  | nil => rfl
  | cons c cs ih => rw [lowerBetween, lowerAfter_cons, List.append_nil, ih]

private theorem lowerBetween_append (before xs ys after : List Char) :
    lowerBetween before (xs ++ ys) after =
      lowerBetween before xs (ys ++ after) ++ lowerBetween (xs.reverse ++ before) ys after := by
  induction xs generalizing before with
  | nil => rfl
  | cons x xs ih =>
    rw [List.cons_append, lowerBetween, lowerBetween, ih, List.append_assoc, List.append_assoc,
      List.reverse_cons, List.append_assoc]
    rfl

private theorem lowerList_between (left text right : List Char) :
    lowerList (left ++ text ++ right) =
      lowerBetween [] left (text ++ right) ++ lowerBetween left.reverse text right ++
        lowerBetween (text.reverse ++ left.reverse) right [] := by
  rw [lowerList, ← lowerBetween_nil, List.append_assoc, lowerBetween_append, lowerBetween_append]
  simp

private theorem lowerBetween_infix (left text right : List Char) :
    lowerBetween left.reverse text right <:+: lowerList (left ++ text ++ right) := by
  rw [lowerList_between]
  exact List.infix_append _ _ _

private theorem lowerBetween_congr {before before' text after after' : List Char}
    (same : ∀ front back, text = front ++ 'Σ' :: back →
      lowerSigma (front.reverse ++ before) (back ++ after) =
        lowerSigma (front.reverse ++ before') (back ++ after')) :
    lowerBetween before text after = lowerBetween before' text after' := by
  induction text generalizing before before' with
  | nil => rfl
  | cons c cs ih =>
    have here : lowerAt before c (cs ++ after) = lowerAt before' c (cs ++ after') := by
      unfold lowerAt
      split
      · rename_i sigma
        exact congrArg (fun s => [s]) (same [] cs (by rw [sigma]; rfl))
      · rfl
    rw [lowerBetween, lowerBetween, here, ih]
    intro front back cut
    have later := same (c :: front) back (by rw [cut]; rfl)
    rwa [List.reverse_cons, List.append_assoc, List.append_assoc] at later

private theorem lowerSigma_congr {before before' rest rest' : List Char}
    (left : casedAhead before = casedAhead before') (right : casedAhead rest = casedAhead rest') :
    lowerSigma before rest = lowerSigma before' rest' := by
  rw [lowerSigma, lowerSigma, left, right]

private theorem lowerBetween_sigma (before front back after : List Char) :
    lowerBetween before (front ++ 'Σ' :: back) after =
      lowerBetween before front ['Σ'] ++
        lowerSigma (front.reverse ++ before) (back ++ after) :: lowerBetween ['Σ'] back after := by
  have earlier : lowerBetween before front ('Σ' :: back ++ after) = lowerBetween before front ['Σ'] :=
    lowerBetween_congr fun _ rest _ => lowerSigma_congr rfl
      (casedAhead_append_congr rest (by rw [List.cons_append, casedAhead_sigma, casedAhead_sigma]))
  have later : lowerBetween ('Σ' :: (front.reverse ++ before)) back after =
      lowerBetween ['Σ'] back after :=
    lowerBetween_congr fun start _ _ => lowerSigma_congr
      (casedAhead_append_congr _ (by rw [casedAhead_sigma, casedAhead_sigma])) rfl
  rw [lowerBetween_append, earlier, lowerBetween, later, lowerAt, if_pos rfl]
  rfl

/-! ### Sigmas that are turned -/

/-- A sigma of a text is lowered otherwise between two texts than alone: the first of the text, if
it ends a word that begins on the left, or the last, if its word goes on on the right. -/
inductive TurnsSigma (left : List Char) : List Char → List Char → Prop
  | first {front back right : List Char} (ignorable : ∀ c ∈ front, isCaseIgnorable c = true)
      (begun : casedAhead left.reverse = true) (ended : casedAhead (back ++ right) = false) :
      TurnsSigma left (front ++ 'Σ' :: back) right
  | last {front back right : List Char} (begun : casedAhead front.reverse = true)
      (ignorable : ∀ c ∈ back, isCaseIgnorable c = true) (goesOn : casedAhead right = true) :
      TurnsSigma left (front ++ 'Σ' :: back) right

private theorem lowerSigma_of_not_turnsSigma {left front back right : List Char}
    (kept : ¬TurnsSigma left (front ++ 'Σ' :: back) right) :
    lowerSigma (front.reverse ++ left.reverse) (back ++ right) = lowerSigma front.reverse back := by
  rcases casedAhead_append_cases front.reverse with through | hidden
  -- its word can only have begun on the left, and only there is it final
  · have ignorable : ∀ c ∈ front, isCaseIgnorable c = true :=
      fun c hc => through c (List.mem_reverse.mpr hc)
    have alone := casedAhead_of_ignorable through
    have seen := casedAhead_append_of_ignorable through left.reverse
    have unfinished : (casedAhead left.reverse && !casedAhead (back ++ right)) = false := by
      rw [Bool.eq_false_iff]
      intro turned
      obtain ⟨begun, ended⟩ := Bool.and_eq_true_iff.mp turned
      exact kept (.first ignorable begun (by simpa using ended))
    simp [lowerSigma, alone, seen, unfinished]
  -- whether its word has begun is seen in the text, so only what follows can matter
  · rw [lowerSigma, lowerSigma, hidden]
    rcases casedAhead_append_cases back with through | hidden'
    · have alone := casedAhead_of_ignorable through
      have seen := casedAhead_append_of_ignorable through right
      have finished : (casedAhead front.reverse && casedAhead right) = false := by
        rw [Bool.eq_false_iff]
        intro turned
        obtain ⟨begun, goesOn⟩ := Bool.and_eq_true_iff.mp turned
        exact kept (.last begun through goesOn)
      rw [alone, seen]
      revert finished
      cases casedAhead front.reverse <;> cases casedAhead right <;> decide
    · rw [hidden']

private theorem lowerBetween_of_not_turnsSigma {left text right : List Char}
    (kept : ¬TurnsSigma left text right) : lowerBetween left.reverse text right = lowerList text := by
  rw [lowerList, ← lowerBetween_nil]
  apply lowerBetween_congr
  intro front back cut
  rw [List.append_nil, List.append_nil]
  exact lowerSigma_of_not_turnsSigma (cut ▸ kept)

theorem lowerList_infix_of_not_turnsSigma {left text right : List Char}
    (kept : ¬TurnsSigma left text right) :
    lowerList text <:+: lowerList (left ++ text ++ right) := by
  rw [← lowerBetween_of_not_turnsSigma kept]
  exact lowerBetween_infix left text right

theorem not_turnsSigma_of_uncased {left right : List Char}
    (uncasedLeft : ∀ c ∈ left, isCased c = false) (uncasedRight : ∀ c ∈ right, isCased c = false)
    (text : List Char) : ¬TurnsSigma left text right := by
  have noneLeft : casedAhead left.reverse = false :=
    casedAhead_of_uncased fun c hc => uncasedLeft c (List.mem_reverse.mp hc)
  have noneRight : casedAhead right = false := casedAhead_of_uncased uncasedRight
  intro turned
  cases turned with
  | first ignorable begun ended => exact Bool.false_ne_true (noneLeft.symm.trans begun)
  | last begun ignorable goesOn => exact Bool.false_ne_true (noneRight.symm.trans goesOn)

/-! ### Exactly these sigmas matter -/

private theorem length_lowerAt (before before' rest rest' : List Char) (c : Char) :
    (lowerAt before c rest).length = (lowerAt before' c rest').length := by
  unfold lowerAt
  split <;> rfl

private theorem length_lowerBetween (before before' text after after' : List Char) :
    (lowerBetween before text after).length = (lowerBetween before' text after').length := by
  induction text generalizing before before' with
  | nil => rfl
  | cons c cs ih =>
    rw [lowerBetween, lowerBetween, List.length_append, List.length_append,
      length_lowerAt _ before' _ (cs ++ after'), ih _ (c :: before')]

private theorem TurnsSigma.exists_lowerSigma_ne {left text right : List Char}
    (turned : TurnsSigma left text right) :
    ∃ front back, text = front ++ 'Σ' :: back ∧
      lowerSigma (front.reverse ++ left.reverse) (back ++ right) ≠ lowerSigma front.reverse back := by
  cases turned with
  | @first front back _ ignorable begun ended =>
    have through : ∀ c ∈ front.reverse, isCaseIgnorable c = true :=
      fun c hc => ignorable c (List.mem_reverse.mp hc)
    refine ⟨front, back, rfl, ?_⟩
    simp [lowerSigma, casedAhead_append_of_ignorable through, casedAhead_of_ignorable through,
      begun, ended]
  | @last front back _ begun ignorable goesOn =>
    have seen : casedAhead (front.reverse ++ left.reverse) = true := by
      rcases casedAhead_append_cases front.reverse with through | hidden
      · rw [casedAhead_of_ignorable through] at begun
        cases begun
      · rw [hidden, begun]
    refine ⟨front, back, rfl, ?_⟩
    simp [lowerSigma, casedAhead_append_of_ignorable ignorable, casedAhead_of_ignorable ignorable,
      seen, begun, goesOn]

/-- A text has its own lower form between two others exactly if none of its sigmas is turned. -/
private theorem lowerBetween_eq_iff {left text right : List Char} :
    lowerBetween left.reverse text right = lowerList text ↔ ¬TurnsSigma left text right := by
  refine ⟨fun same turned => ?_, lowerBetween_of_not_turnsSigma⟩
  obtain ⟨front, back, rfl, differs⟩ := turned.exists_lowerSigma_ne
  rw [lowerList, ← lowerBetween_nil, lowerBetween_sigma, lowerBetween_sigma, List.append_nil,
    List.append_nil] at same
  -- what stands before the sigma has one length, so the two forms are equal at the sigma
  obtain ⟨-, here⟩ := List.append_inj same (length_lowerBetween _ _ _ _ _)
  exact differs (List.cons.inj here).1

instance (left text right : List Char) : Decidable (TurnsSigma left text right) :=
  decidable_of_iff (¬lowerBetween left.reverse text right = lowerList text)
    (by rw [lowerBetween_eq_iff, not_not])

/-! ### Sigmas that can be turned -/

/-- A text has a sigma that is turned between some texts: the first, if no word goes on behind it
within the text, or the last, if a word goes on before it. -/
inductive HasEdgeSigma : List Char → Prop
  | first {front back : List Char} (ignorable : ∀ c ∈ front, isCaseIgnorable c = true)
      (ended : casedAhead back = false) : HasEdgeSigma (front ++ 'Σ' :: back)
  | last {front back : List Char} (begun : casedAhead front.reverse = true)
      (ignorable : ∀ c ∈ back, isCaseIgnorable c = true) : HasEdgeSigma (front ++ 'Σ' :: back)

private theorem TurnsSigma.hasEdgeSigma {left text right : List Char}
    (turned : TurnsSigma left text right) :
    HasEdgeSigma text := by
  cases turned with
  | @first front back _ ignorable begun ended =>
    refine .first ignorable ?_
    rcases casedAhead_append_cases back with through | hidden
    · exact casedAhead_of_ignorable through
    · rwa [hidden] at ended
  | last begun ignorable goesOn => exact .last begun ignorable

private theorem lowerBetween_ignorable {text : List Char}
    (ignorable : ∀ c ∈ text, isCaseIgnorable c = true) (before before' after after' : List Char) :
    lowerBetween before text after = lowerBetween before' text after' := by
  apply lowerBetween_congr
  rintro front back rfl
  exact absurd (ignorable 'Σ' (by simp)) (by decide)

private theorem not_infix_of_replaced {x y : Char} (other : y ≠ x)
    {front back left right : List Char} (absentLeft : x ∉ left) (absentRight : x ∉ right) :
    ¬front ++ x :: back <:+: left ++ (front ++ y :: back) ++ right := by
  intro within
  -- the larger text has one `x` less
  have fewer := within.sublist.count_le x
  simp only [List.count_append, List.count_cons, List.count_eq_zero.mpr absentLeft,
    List.count_eq_zero.mpr absentRight, beq_self_eq_true, if_true, beq_iff_eq, other, if_false]
    at fewer
  omega

/-- A letter beside the text turns the sigma at its edge, and then the text is not found there. -/
private theorem HasEdgeSigma.exists_not_infix {text : List Char} (edge : HasEdgeSigma text) :
    ∃ left right, ¬lowerList text <:+: lowerList (left ++ text ++ right) := by
  have letter : casedAhead ['A'] = true := by decide
  have small (before after : List Char) : lowerBetween before ['A'] after = ['a'] := rfl
  cases edge with
  | @first front back ignorable ended =>
    have through : ∀ c ∈ front.reverse, isCaseIgnorable c = true :=
      fun c hc => ignorable c (List.mem_reverse.mp hc)
    have alone : lowerSigma front.reverse back = 'σ' := by
      simp [lowerSigma, casedAhead_of_ignorable through]
    have beside : lowerSigma (front.reverse ++ ['A']) back = 'ς' := by
      simp [lowerSigma, casedAhead_append_of_ignorable through, letter, ended]
    have start := lowerBetween_ignorable ignorable ['A'] [] ['Σ'] ['Σ']
    refine ⟨['A'], [], ?_⟩
    rw [lowerList_between, lowerList, ← lowerBetween_nil, lowerBetween_sigma, lowerBetween_sigma,
      small, List.reverse_singleton, List.append_nil, List.append_nil, alone, beside, start]
    exact not_infix_of_replaced (by decide) (by decide) (by simp [lowerBetween])
  | @last front back begun ignorable =>
    have alone : lowerSigma front.reverse back = 'ς' := by
      simp [lowerSigma, casedAhead_of_ignorable ignorable, begun]
    have beside : lowerSigma front.reverse (back ++ ['A']) = 'σ' := by
      simp [lowerSigma, casedAhead_append_of_ignorable ignorable, letter]
    have rest := lowerBetween_ignorable ignorable ['Σ'] ['Σ'] ['A'] []
    refine ⟨[], ['A'], ?_⟩
    rw [lowerList_between, lowerList, ← lowerBetween_nil, lowerBetween_sigma, lowerBetween_sigma,
      small, List.reverse_nil, List.append_nil, List.append_nil, alone, beside, rest]
    exact not_infix_of_replaced (by decide) (by simp [lowerBetween]) (by decide)

theorem infix_everywhere_iff (text : List Char) :
    (∀ left right, lowerList text <:+: lowerList (left ++ text ++ right)) ↔ ¬HasEdgeSigma text := by
  constructor
  · intro found edge
    obtain ⟨left, right, missed⟩ := edge.exists_not_infix
    exact missed (found left right)
  · intro inner left right
    exact lowerList_infix_of_not_turnsSigma fun turned => inner turned.hasEdgeSigma

end RequestFilter.Text
