import RequestFilter.Proofs.Request.Reload

/-!
Reloading in a session.

Requests come into a session from dumps alone, so their sizes are finite in every state that a
session can reach. There, reloading what is kept leaves exactly that, as far as its sizes are read
back from their texts; it fails where nothing is kept, and then changes nothing.
-/

set_option autoImplicit false

namespace RequestFilter.Session

def HasFiniteSizes (s : Session) : Prop := ∀ r ∈ s.requests, r.HasFiniteSizes

private theorem hasFiniteSizes_initial : initial.HasFiniteSizes := by
  intro r hr
  cases hr

private theorem HasFiniteSizes.kept {s : Session} (h : s.HasFiniteSizes) :
    ∀ r ∈ s.kept, r.HasFiniteSizes :=
  fun r hr => h r (List.mem_filter.mp hr).1

private theorem HasFiniteSizes.step? {s t : Session} {a : Step} {shown : Option (List Suggestion)}
    (h : s.HasFiniteSizes) (taken : s.step? a = .ok (t, shown)) : t.HasFiniteSizes := by
  cases a with
  | load text =>
    obtain ⟨rs, loaded, same⟩ := exists_of_map_eq_ok taken
    cases same
    exact Request.hasFiniteSizes_of_load loaded
  | append text =>
    obtain ⟨rs, loaded, same⟩ := exists_of_map_eq_ok taken
    cases same
    intro r hr
    rcases List.mem_append.mp hr with old | new
    · exact h r old
    · exact Request.hasFiniteSizes_of_load loaded r new
  | clear =>
    cases taken
    intro r hr
    cases hr
  | chooseCategories source =>
    obtain ⟨categories, -, same⟩ := exists_of_map_eq_ok taken
    cases same
    exact h
  | setQuery text => cases taken; exact h
  | type text => cases taken; exact h
  | suggest => cases taken; exact h
  | accept index => cases taken; exact h
  | reload =>
    obtain ⟨rs, loaded, same⟩ := exists_of_map_eq_ok taken
    cases same
    exact Request.hasFiniteSizes_of_load loaded

private theorem HasFiniteSizes.step {s : Session} (h : s.HasFiniteSizes) (a : Step) :
    (s.step a).state.HasFiniteSizes := by
  unfold Session.step
  split
  · exact h.step? ‹_›
  · exact h

/-- The sizes are finite in every state of a session. -/
private theorem HasFiniteSizes.run {s : Session} (h : s.HasFiniteSizes) (steps : List Step) :
    ∀ outcome ∈ s.run steps, outcome.state.HasFiniteSizes := by
  induction steps generalizing s with
  | nil =>
    intro outcome member
    cases member
  | cons a steps ih =>
    intro outcome member
    rcases List.mem_cons.mp member with rfl | later
    · exact h.step a
    · exact ih (h.step a) outcome later

private theorem load_dump_kept {steps : List Step} {outcome : Outcome}
    (reached : outcome ∈ initial.run steps) (nonempty : outcome.state.kept ≠ [])
    (readBack : ∀ r ∈ outcome.state.kept, r.HasReadBackSizes) :
    Request.load (dump outcome.state.kept) = .ok outcome.state.kept := by
  have finite := (hasFiniteSizes_initial.run steps outcome reached).kept
  exact Request.load_dump nonempty fun r hr => ⟨finite r hr, readBack r hr⟩

private theorem step_reload_of_kept {steps : List Step} {outcome : Outcome}
    (reached : outcome ∈ initial.run steps) (nonempty : outcome.state.kept ≠ [])
    (readBack : ∀ r ∈ outcome.state.kept, r.HasReadBackSizes) :
    outcome.state.step .reload =
      ⟨none, none, { outcome.state with requests := outcome.state.kept }⟩ := by
  simp only [Session.step, Session.step?, load_dump_kept reached nonempty readBack, Except.map]

private theorem step_reload_of_kept_eq_nil {s : Session} (empty : s.kept = []) :
    s.step .reload = ⟨none, some .empty, s⟩ := by
  have loaded : Request.load (dump []) = .error .empty := by decide
  simp only [Session.step, Session.step?, empty, loaded, Except.map]

/-- Reloading again changes nothing, whether the reload before it has failed or not. -/
theorem state_step_reload_twice {steps : List Step} {outcome : Outcome}
    (reached : outcome ∈ initial.run steps)
    (readBack : ∀ r ∈ outcome.state.kept, r.HasReadBackSizes) :
    ((outcome.state.step .reload).state.step .reload).state =
      (outcome.state.step .reload).state := by
  cases kept : outcome.state.kept with
  | nil => rw [step_reload_of_kept_eq_nil kept, step_reload_of_kept_eq_nil kept]
  | cons r rs =>
    have nonempty : outcome.state.kept ≠ [] := kept ▸ List.cons_ne_nil r rs
    rw [step_reload_of_kept reached nonempty readBack]
    have again : ({ outcome.state with requests := outcome.state.kept } : Session).kept =
        outcome.state.kept := filterRequests_filterRequests _ _ _
    simp only [Session.step, Session.step?, again, load_dump_kept reached nonempty readBack,
      Except.map]

end RequestFilter.Session
