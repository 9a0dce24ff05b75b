import Mathlib.Data.Finset.Card
import Mathlib.Order.WellFounded
import RequestFilter.Proofs.Suggest.Offered

/-!
Accepting suggestions one after another.

Each accepted value goes on after the one before, so the values that are left become fewer with each
step. The name of a flag is accepted at the first step at most, since only values are suggested
behind its colon.
-/

set_option autoImplicit false

namespace RequestFilter

/-- No value that is recorded for any flag has a blank in it. -/
def HasSolidValues (rs : List Request) : Prop :=
  ∀ f : Flag, ∀ r ∈ rs, ∀ v ∈ r.observed f, ∀ c ∈ v.toList, Text.isBlank c = false

namespace Suggestion

/-- Suggestions that are accepted one after another, from a text on. -/
inductive Accepting (rs : List Request) : String → List Suggestion → Prop
  | nil (text : String) : Accepting rs text []
  | cons {text : String} {s : Suggestion} {ss : List Suggestion} (offered : s ∈ ofText text rs)
      (more : Accepting rs s.text ss) : Accepting rs text (s :: ss)

/-- The token that is completed at the end of a text. -/
structure Active (text : String) (token : List Char) : Prop where
  unfinished : ∃ c ∈ text.toList.getLast?, Text.isBlank c = false
  last : ∃ earlier, Text.words text.toList = earlier ++ [token]

/-! ### One step -/

private theorem display_mem_candidates {text : String} {token : List Char}
    (active : Active text token) {rs : List Request} {s : Suggestion}
    (offered : s ∈ ofText text rs) :
    s.display ∈ candidates token rs := by
  obtain ⟨earlier, cut⟩ := active.last
  rw [← map_display_ofText active.unfinished cut]
  exact List.mem_map_of_mem offered

section Step

variable {rs : List Request} (solid : HasSolidValues rs)

include solid

private theorem solid_of_mem_observedValues {f : Flag} {v : String}
    (observed : v ∈ observedValues f rs) :
    ∀ c ∈ v.toList, Text.isBlank c = false := by
  intro c hc
  by_contra blank
  obtain ⟨r, hr, recorded⟩ := mem_observed_of_blank (Or.inr observed) hc (by simpa using blank)
  exact blank (solid f r hr v recorded c hc)

private theorem active_of_offered {text : String} {s : Suggestion} (offered : s ∈ ofText text rs) :
    Active s.text s.display.toList := by
  obtain ⟨-, listed, joined⟩ := mem_ofText.mp offered
  obtain ⟨f, negative, v, given, spelled⟩ := exists_token_of_mem_candidates listed
  have whole : ∀ c ∈ s.display.toList, Text.isBlank c = false := by
    rw [spelled]
    apply f.token_solid negative
    rcases given with rfl | observed
    · simp
    · exact solid_of_mem_observedValues solid observed
  have filled : s.display.toList ≠ [] := by
    rw [spelled]
    exact f.token_ne_nil negative v.toList
  constructor
  · obtain ⟨front, text⟩ : ∃ front, s.text = front ++ s.display := by
      rw [joined]
      by_cases alone : (tokens text.toList).dropLast.map String.ofList = []
      · exact ⟨"", by simp [alone]⟩
      · exact ⟨_, by
          rw [String.intercalate_append_of_ne_nil alone (by simp), String.intercalate_singleton]⟩
    obtain ⟨c, last⟩ := Option.ne_none_iff_exists'.mp (mt List.getLast?_eq_none_iff.mp filled)
    refine ⟨c, ?_, whole c (List.mem_of_getLast? last)⟩
    rw [text, String.toList_append, List.getLast?_append, last]
    rfl
  · refine ⟨(Text.words text.toList).dropLast, ?_⟩
    rw [words_text offered, Text.words_solid _ filled whole]

private theorem exists_active_of_offered {text : String} {s : Suggestion}
    (offered : s ∈ ofText text rs) :
    ∃ f negative v, s.display.toList = Flag.token f negative v ∧
      Active s.text (f.token negative v) := by
  obtain ⟨f, negative, v, -, spelled⟩ :=
    exists_token_of_mem_candidates (mem_ofText.mp offered).2.1
  exact ⟨f, negative, v.toList, spelled, spelled ▸ active_of_offered solid offered⟩

private theorem exists_value_of_offered {text : String} {f : Flag} {negative : Bool}
    {typed : List Char} (active : Active text (f.token negative typed)) {s : Suggestion}
    (offered : s ∈ ofText text rs) :
    ∃ v ∈ observedValues f rs, Continues typed v.toList ∧
      s.display.toList = f.token negative v.toList ∧ Active s.text (f.token negative v.toList) := by
  obtain ⟨v, observed, goesOn, spelled⟩ :=
    mem_candidates_token.mp (display_mem_candidates active offered)
  have token : s.display.toList = f.token negative v.toList := by rw [spelled, String.toList_ofList]
  exact ⟨v, observed, goesOn, token, token ▸ active_of_offered solid offered⟩

end Step

/-! ### The values that are left -/

/-- The values of a flag that go on after what was typed. -/
def valuesLeft (rs : List Request) (f : Flag) (typed : List Char) : Finset String :=
  (observedValues f rs).toFinset.filter fun v => continues typed v.toList

private theorem mem_valuesLeft {rs : List Request} {f : Flag} {typed : List Char} {v : String} :
    v ∈ valuesLeft rs f typed ↔ v ∈ observedValues f rs ∧ Continues typed v.toList := by
  simp [valuesLeft, continues_iff]

private theorem card_valuesLeft_lt {rs : List Request} {f : Flag} {typed : List Char} {v : String}
    (observed : v ∈ observedValues f rs) (goesOn : Continues typed v.toList) :
    (valuesLeft rs f v.toList).card < (valuesLeft rs f typed).card := by
  apply Finset.card_lt_card
  rw [Finset.ssubset_iff_of_subset]
  · exact ⟨v, mem_valuesLeft.mpr ⟨observed, goesOn⟩,
      fun left => Continues.irrefl _ (mem_valuesLeft.mp left).2⟩
  · intro w left
    obtain ⟨known, later⟩ := mem_valuesLeft.mp left
    exact mem_valuesLeft.mpr ⟨known, goesOn.trans later⟩

private theorem card_valuesLeft_le (rs : List Request) (f : Flag) (typed : List Char) :
    (valuesLeft rs f typed).card ≤
      max 3 (rs.flatMap fun r => r.observed f).toFinset.card := by
  have part : (valuesLeft rs f typed).card ≤ (observedValues f rs).toFinset.card :=
    Finset.card_filter_le _ _
  apply part.trans
  unfold observedValues
  split
  · exact le_max_of_le_left (List.toFinset_card_le states)
  · exact le_max_right _ _

/-! ### Runs -/

section Run

variable {rs : List Request} (solid : HasSolidValues rs)

include solid

/-- Behind the name of a flag, no more suggestions can be accepted than values are left. -/
private theorem Accepting.length_le {text : String} {ss : List Suggestion}
    (run : Accepting rs text ss) {f : Flag} {negative : Bool} {typed : List Char}
    (active : Active text (f.token negative typed)) :
    ss.length ≤ (valuesLeft rs f typed).card := by
  induction run generalizing typed with
  | nil => exact Nat.zero_le _
  | cons offered more ih =>
    obtain ⟨v, observed, goesOn, -, next⟩ := exists_value_of_offered solid active offered
    have fewer := card_valuesLeft_lt observed goesOn
    have rest := ih next
    rw [List.length_cons]
    omega

private theorem Accepting.exists_continues {text : String} {ss : List Suggestion}
    (run : Accepting rs text ss) {f : Flag} {negative : Bool} {typed : List Char}
    (active : Active text (f.token negative typed)) :
    ∀ t ∈ ss, ∃ v, Continues typed v ∧ Active t.text (f.token negative v) := by
  induction run generalizing typed with
  | nil => nofun
  | @cons text s ss offered more ih =>
    obtain ⟨v, -, goesOn, -, next⟩ := exists_value_of_offered solid active offered
    intro t ht
    rcases List.mem_cons.mp ht with rfl | later
    · exact ⟨v.toList, goesOn, next⟩
    · obtain ⟨w, further, active'⟩ := ih next t later
      exact ⟨w, goesOn.trans further, active'⟩

/-- Behind the name of a flag, accepting comes to an end. -/
private theorem acc_of_active {f : Flag} {negative : Bool} {typed : List Char} {text : String}
    (active : Active text (f.token negative typed)) :
    Acc (fun after before => ∃ s ∈ ofText before rs, s.text = after) text := by
  induction left : (valuesLeft rs f typed).card using Nat.strong_induction_on
    generalizing typed text with
  | _ n ih =>
    constructor
    rintro _ ⟨s, offered, rfl⟩
    obtain ⟨v, observed, goesOn, -, next⟩ := exists_value_of_offered solid active offered
    exact ih _ (left ▸ card_valuesLeft_lt observed goesOn) next rfl

private theorem Accepting.display_ne {text : String} {s : Suggestion} {later : List Suggestion}
    (offered : s ∈ ofText text rs) (more : Accepting rs s.text later) :
    ∀ t ∈ s :: later, ∀ o ∈ ofText t.text rs, o.display ≠ s.display := by
  intro t ht o offeredLater same
  obtain ⟨f, negative, v, spelled, active⟩ := exists_active_of_offered solid offered
  -- the value of `o` goes on after that of `s`, at once or over that of `t`
  obtain ⟨w, goesOn, token⟩ : ∃ w : String, Continues v w.toList ∧
      o.display.toList = f.token negative w.toList := by
    rcases List.mem_cons.mp ht with rfl | inside
    · obtain ⟨w, -, goesOn, token, -⟩ := exists_value_of_offered solid active offeredLater
      exact ⟨w, goesOn, token⟩
    · obtain ⟨u, first, active'⟩ := more.exists_continues solid active t inside
      obtain ⟨w, -, goesOn, token, -⟩ := exists_value_of_offered solid active' offeredLater
      exact ⟨w, first.trans goesOn, token⟩
  have twice : w.toList = v := by
    rw [same, spelled] at token
    exact (token_injective f negative token).symm
  rw [twice] at goesOn
  exact Continues.irrefl _ goesOn

end Run

private theorem Accepting.of_append {rs : List Request} {text : String}
    {front later : List Suggestion} {s : Suggestion}
    (run : Accepting rs text (front ++ s :: later)) :
    ∃ text', s ∈ ofText text' rs ∧ Accepting rs s.text later := by
  induction front generalizing text with
  | nil =>
    cases run with
    | cons offered more => exact ⟨text, offered, more⟩
  | cons t front ih =>
    cases run with
    | cons offered more => exact ih more

/-- Accepting suggestions comes to an end if no recorded value has a blank in it: after the name of
a flag at most, each step takes another value of one flag or another state of `is`. What was
accepted is not suggested again. -/
theorem accepting_terminates {rs : List Request} (solid : HasSolidValues rs) :
    WellFounded (fun after before => ∃ s ∈ ofText before rs, s.text = after) ∧
      ∀ text ss, Accepting rs text ss →
        (∃ f : Flag, ss.length ≤ 1 + max 3 (rs.flatMap fun r => r.observed f).toFinset.card) ∧
          ∀ front s later, ss = front ++ s :: later →
            ∀ t ∈ s :: later, ∀ o ∈ ofText t.text rs, o.display ≠ s.display := by
  refine ⟨⟨fun text => ⟨text, ?_⟩⟩, ?_⟩
  · rintro _ ⟨s, offered, rfl⟩
    obtain ⟨f, negative, v, -, active⟩ := exists_active_of_offered solid offered
    exact acc_of_active solid active
  · intro text ss run
    constructor
    · cases run with
      | nil => exact ⟨.is, Nat.zero_le _⟩
      | @cons _ s ss offered more =>
        obtain ⟨f, negative, v, -, active⟩ := exists_active_of_offered solid offered
        have short := more.length_le solid active
        have bound := card_valuesLeft_le rs f v
        refine ⟨f, ?_⟩
        rw [List.length_cons]
        omega
    · rintro front s later rfl
      obtain ⟨text', offered, more⟩ := run.of_append
      exact Accepting.display_ne solid offered more

/-- From the start of a name to the longer of two methods. -/
theorem accepting_terminates_applied :
    let rs : List Request :=
      [{ url := "u", method := some "AB" }, { url := "u", method := some "a" }]
    let ss : List Suggestion :=
      [⟨"-method:", "x -method:"⟩, ⟨"-method:a", "x -method:a"⟩, ⟨"-method:AB", "x -method:AB"⟩]
    HasSolidValues rs ∧ Accepting rs "x -M" ss ∧
      Acc (fun after before => ∃ s ∈ ofText before rs, s.text = after) "x -M" ∧
      (∃ f : Flag, ss.length ≤ 1 + max 3 (rs.flatMap fun r => r.observed f).toFinset.card) ∧
      ∀ o ∈ ofText "x -method:AB" rs, o.display ≠ "-method:a" := by
  intro rs ss
  have all : ∀ f : Flag, ∀ r ∈ rs, ∀ v ∈ r.observed f,
      (v.toList.all fun c => !Text.isBlank c) = true := by
    intro f
    cases f <;> decide +kernel
  have solid : HasSolidValues rs := fun f r hr v hv => Text.solid_of_all (all f r hr v hv)
  have run : Accepting rs "x -M" ss := by
    refine .cons ?_ (.cons ?_ (.cons ?_ (.nil _))) <;>
      (rw [mem_ofText, mem_candidates]; decide +kernel)
  obtain ⟨ends, bounded⟩ := accepting_terminates solid
  obtain ⟨short, fresh⟩ := bounded "x -M" ss run
  refine ⟨solid, run, ends.apply "x -M", short, ?_⟩
  exact fresh [⟨"-method:", "x -method:"⟩] ⟨"-method:a", "x -method:a"⟩
    [⟨"-method:AB", "x -method:AB"⟩] rfl ⟨"-method:AB", "x -method:AB"⟩ (by simp)

end Suggestion
end RequestFilter
