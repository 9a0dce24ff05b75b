import Mathlib.Data.List.TakeDrop
import Mathlib.Data.List.TakeWhile

/-!
Runs of characters of one kind: where a run is followed by a character of another kind, a text is
cut at the end of the run.
-/

set_option autoImplicit false

namespace RequestFilter.Text

/-- A run of characters that `p` holds of ends where this text begins. -/
def EndsRun (p : Char → Bool) (rest : List Char) : Prop := ∀ c ∈ rest.head?, p c = false

@[simp] theorem endsRun_nil (p : Char → Bool) : EndsRun p [] := nofun

@[simp] theorem endsRun_cons {p : Char → Bool} {c : Char} {cs : List Char} :
    EndsRun p (c :: cs) ↔ p c = false := by
  simp [EndsRun]

theorem endsRun_not_iff {stops : Char → Bool} {cs : List Char} :
    EndsRun (fun c => !stops c) cs ↔ ∀ c ∈ cs.head?, stops c = true := by
  simp [EndsRun]

section Runs

variable {p : Char → Bool} {run rest : List Char}

theorem takeWhile_append_of_endsRun (holds : ∀ c ∈ run, p c = true) (ended : EndsRun p rest) :
    (run ++ rest).takeWhile p = run := by
  have none : rest.takeWhile p = [] := by
    cases rest with
    | nil => rfl
    | cons c cs => simp [endsRun_cons.mp ended]
  rw [List.takeWhile_append_of_pos holds, none, List.append_nil]

theorem span_append_of_endsRun (holds : ∀ c ∈ run, p c = true) (ended : EndsRun p rest) :
    (run ++ rest).span p = (run, rest) := by
  have joined := List.takeWhile_append_dropWhile (p := p) (l := run ++ rest)
  rw [takeWhile_append_of_endsRun holds ended] at joined
  rw [List.span_eq_takeWhile_dropWhile, takeWhile_append_of_endsRun holds ended,
    List.append_cancel_left joined]

theorem prefix_takeWhile_iff : run <+: (run ++ rest).takeWhile p ↔ ∀ c ∈ run, p c = true := by
  constructor
  · intro within c hc
    exact List.mem_takeWhile_imp (within.mem hc)
  · intro holds
    rw [List.takeWhile_append_of_pos holds]
    exact List.prefix_append run _

theorem exists_run (p : Char → Bool) (cs : List Char) :
    ∃ run rest, cs = run ++ rest ∧ (∀ c ∈ run, p c = true) ∧ EndsRun p rest := by
  induction cs with
  | nil => exact ⟨[], [], rfl, nofun, endsRun_nil p⟩
  | cons c cs ih =>
    cases hc : p c with
    | false => exact ⟨[], c :: cs, rfl, nofun, endsRun_cons.mpr hc⟩
    | true =>
      obtain ⟨run, rest, rfl, holds, ended⟩ := ih
      exact ⟨c :: run, rest, rfl, List.forall_mem_cons.mpr ⟨hc, holds⟩, ended⟩

end Runs

end RequestFilter.Text
