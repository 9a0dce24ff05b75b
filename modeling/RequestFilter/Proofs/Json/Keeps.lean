import RequestFilter.Json.Decode
import RequestFilter.Proofs.Results

/-!
What holds of every structure that is read.

A property of drafts that the empty draft has and that every field keeps is a property of every
structure that reading gives, from an object or from an array, whatever the text.
-/

set_option autoImplicit false

namespace RequestFilter

namespace Json

/-! ### Structures -/

/-- Reading the field keeps a property of drafts. -/
def Field.Keeps {δ : Type} (P : δ → Prop) (f : Field δ) : Prop :=
  ∀ levels node before after, P before → f.put levels node before = .ok after → P after

theorem Field.keeps_defaulted {α δ : Type} {P : δ → Prop} (Q : α → Prop) {decoder : Decoder α}
    {set : δ → α → δ} (name : String)
    (gives : ∀ levels node a, decoder levels node = .ok a → Q a)
    (keeps : ∀ draft a, P draft → Q a → P (set draft a)) :
    (Field.defaulted name decoder set).Keeps P := by
  intro levels node before after holds put
  obtain ⟨a, decoded, rfl⟩ := exists_of_map_eq_ok put
  exact keeps before a holds (gives levels node a decoded)

private theorem Field.Keeps.putAt {δ : Type} {P : δ → Prop} {f : Field δ} (h : f.Keeps P)
    {place : Place} {levels : Nat} {node : Node} {before after : δ} (holds : P before)
    (put : f.putAt place levels node before = .ok after) : P after :=
  h levels node before after holds (eq_ok_of_mapError_eq_ok put)

namespace Shape

variable {δ : Type} {shape : Shape δ} {P : δ → Prop}

theorem decodeItems_keeps {levels : Nat} {fs : List (Field δ)} {items : Items} {before after : δ}
    (each : ∀ f ∈ fs, f.Keeps P) (holds : P before)
    (h : shape.decodeItems levels fs items before = .ok after) : P after := by
  fun_induction shape.decodeItems levels fs items before with
  | case1 | case8 => cases h; exact holds
  | case2 | case3 | case4 | case6 => cases h
  | case5 f fs rest draft optional ih =>
    exact ih (fun g hg => each g (List.mem_cons_of_mem f hg)) holds h
  | case7 f fs value more draft ih =>
    obtain ⟨next, put, later⟩ := exists_of_bind_eq_ok h
    have kept := (each f List.mem_cons_self).putAt holds put
    exact ih next (fun g hg => each g (List.mem_cons_of_mem f hg)) kept later

private theorem decodeMembers_keeps {levels : Nat} {members : Members} {seen : List String}
    {before after : δ} (each : ∀ f ∈ shape.fields, f.Keeps P) (holds : P before)
    (h : shape.decodeMembers levels members seen before = .ok after) : P after := by
  fun_induction shape.decodeMembers levels members seen before with
  | case1 | case3 | case4 => cases h
  | case2 | case7 => cases h; exact holds
  | case5 source rest seen =>
    obtain ⟨⟨key, tail⟩, -, broken⟩ := exists_of_bind_eq_ok h
    dsimp only at broken
    split at broken <;> cases broken
  | case6 source rest value more seen draft ihNone ihSome =>
    obtain ⟨⟨key, tail⟩, -, member⟩ := exists_of_bind_eq_ok h
    dsimp only at member
    split at member
    · split at member
      · cases member
      · exact ihNone holds member
    · rename_i f found
      split at member
      · cases member
      · obtain ⟨next, put, later⟩ := exists_of_bind_eq_ok member
        have kept := (each f (List.mem_of_find?_eq_some found)).putAt holds put
        exact ihSome key next kept later

/-- What the empty draft has and every field keeps, every structure that is read has. -/
theorem decode_keeps {levels : Nat} {node : Node} {a : δ} (empty : P shape.empty)
    (each : ∀ f ∈ shape.fields, f.Keeps P) (h : shape.decode levels node = .ok a) : P a := by
  unfold decode at h
  split at h
  · obtain ⟨inner, -, items⟩ := exists_of_bind_eq_ok h
    exact decodeItems_keeps each empty items
  · obtain ⟨inner, -, members⟩ := exists_of_bind_eq_ok h
    exact decodeMembers_keeps each empty members
  · cases h

end Shape

/-! ### What decoders give -/

theorem isFinite_of_double {levels : Nat} {node : Node} {x : Double}
    (h : double levels node = .ok x) : x.isFinite = true := by
  unfold double at h
  split at h
  · obtain ⟨⟨n, rest⟩, read, rfl⟩ := exists_of_map_eq_ok h
    obtain ⟨⟨numeral, tail⟩, -, checked⟩ := exists_of_bind_eq_ok read
    dsimp only at checked
    split at checked
    · rename_i finite
      cases checked
      exact finite
    · cases checked
  · cases h

theorem decoded_of_optional {α : Type} {decoder : Decoder α} {levels : Nat} {node : Node}
    {known : Option α} (h : optional decoder levels node = .ok known) :
    ∀ a ∈ known, decoder levels node = .ok a := by
  intro a present
  unfold optional at h
  split at h
  · cases h
    cases present
  · cases h
  · obtain ⟨b, decoded, rfl⟩ := exists_of_map_eq_ok h
    cases present
    exact decoded

theorem forall_mem_of_list {α : Type} {decoder : Decoder α} {Q : α → Prop}
    (gives : ∀ levels node a, decoder levels node = .ok a → Q a) {levels : Nat} {node : Node}
    {as : List α} (h : list decoder levels node = .ok as) : ∀ a ∈ as, Q a := by
  have elements (levels : Nat) (items : Items) (as : List α)
      (h : items.decode decoder levels = .ok as) : ∀ a ∈ as, Q a := by
    fun_induction items.decode decoder levels generalizing as with
    | case1 | case4 => cases h; exact nofun
    | case2 => cases h
    | case3 value more ih =>
      obtain ⟨first, decoded, others⟩ := exists_of_bind_eq_ok h
      obtain ⟨tail, rest, same⟩ := exists_of_bind_eq_ok others
      cases same
      exact List.forall_mem_cons.mpr
        ⟨gives levels value first (eq_ok_of_mapError_eq_ok decoded), ih tail rest⟩
  unfold list at h
  split at h
  · obtain ⟨inner, -, items⟩ := exists_of_bind_eq_ok h
    exact elements inner _ as items
  · cases h

theorem exists_of_decodeText {α : Type} {decoder : Decoder α} {text : List Char} {a : α}
    (h : decodeText decoder text = .ok a) : ∃ node, decoder maxDepth node = .ok a := by
  refine ⟨Node.read text, ?_⟩
  unfold decodeText at h
  dsimp only at h
  split at h
  · cases h
  · rename_i b decoded
    split at h
    · rw [decoded, Except.ok.inj h]
    · cases h

end Json
end RequestFilter
