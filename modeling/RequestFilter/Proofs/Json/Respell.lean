import RequestFilter.Proofs.Json.Filling

/-!
Objects that are spelled in another way.

A dialect says what an object may be spelled with beside its parts: values under names that nobody
knows, and null under the name of a part that is missing. Members may also change places, and the
value of a known name may itself be spelled in another way. A way of filling in a draft that accepts
a dialect makes the same of an object before and after each such step.
-/

set_option autoImplicit false

namespace RequestFilter.Json

/-! ### Steps -/

/-- How an object may be spelled: the names that are known, those under which null stands for a part
that is missing, the values that other names may have, and how the value of a name may be spelled in
another way. -/
structure Dialect where
  known : List String
  nullable : List String
  free : Phrase → Prop
  inner : String → Phrase → Phrase → Prop

namespace Dialect

/-- One step of spelling members in another way. -/
inductive Step (D : Dialect) : List Member → List Member → Prop
  | order {ms ms' : List Member} (perm : ms.Perm ms') : Step D ms ms'
  | spaced {m m' : Member} {ms : List Member} (name : m.name? = m'.name?)
      (value : m.value = m'.value) : Step D (m :: ms) (m' :: ms)
  | unknown {m : Member} {ms : List Member} {name : String} (spelled : m.name? = some name)
      (unknown : name ∉ D.known) (free : D.free m.value) : Step D ms (m :: ms)
  /-- Null is added for a part that is missing. -/
  | null {m : Member} {ms : List Member} {name : String} (spelled : m.name? = some name)
      (nullable : name ∈ D.nullable) (null : m.value = .word .null)
      (absent : ∀ n ∈ ms, n.name? ≠ some name) : Step D ms (m :: ms)
  | within {m m' : Member} {ms : List Member} {name : String} (spelled : m.name? = some name)
      (spelled' : m'.name? = some name) (inner : D.inner name m.value m'.value) :
      Step D (m :: ms) (m' :: ms)

inductive ObjectStep (D : Dialect) : Phrase → Phrase → Prop
  | members (space space' : Spaces) {ms ms' : List Member} (step : D.Step ms ms') :
      ObjectStep D (.object space ms) (.object space' ms')

end Dialect

/-- One step of spelling an array in another way: by one of its elements. -/
inductive ElementStep (R : Phrase → Phrase → Prop) : Phrase → Phrase → Prop
  | element (space space' : Spaces) (before after : List (Padded Phrase)) {i i' : Padded Phrase}
      (step : R i.part i'.part) :
      ElementStep R (.array space (before ++ i :: after)) (.array space' (before ++ i' :: after))

/-! ### What a step leaves as it is -/

variable {D : Dialect}

theorem Dialect.ObjectStep.isObject {p q : Phrase} (step : D.ObjectStep p q) :
    p.IsObject ∧ q.IsObject := by
  obtain ⟨space, space', step⟩ := step
  exact ⟨⟨_, _, rfl⟩, ⟨_, _, rfl⟩⟩

theorem Dialect.ObjectStep.ne_null {p q : Phrase} (step : D.ObjectStep p q) :
    p ≠ .word .null ∧ q ≠ .word .null := by
  obtain ⟨space, space', step⟩ := step
  exact ⟨Phrase.noConfusion, Phrase.noConfusion⟩

theorem ElementStep.ne_null {R : Phrase → Phrase → Prop} {p q : Phrase} (step : ElementStep R p q) :
    p ≠ .word .null ∧ q ≠ .word .null := by
  obtain ⟨space, space', before, after, step⟩ := step
  exact ⟨Phrase.noConfusion, Phrase.noConfusion⟩

theorem Dialect.Step.forall_iff {P : Option String → Phrase → Prop} {ms ms' : List Member}
    (step : D.Step ms ms') (unknown : ∀ name p, name ∉ D.known → D.free p → P (some name) p)
    (null : ∀ name ∈ D.nullable, P (some name) (.word .null))
    (within : ∀ name p q, D.inner name p q → (P (some name) p ↔ P (some name) q)) :
    (∀ m ∈ ms, P m.name? m.value) ↔ ∀ m ∈ ms', P m.name? m.value := by
  cases step with
  | order perm => exact forall_congr' fun m => imp_congr_left perm.mem_iff
  | spaced name value => simp only [List.forall_mem_cons, name, value]
  | unknown spelled other free =>
    simp only [List.forall_mem_cons, spelled, unknown _ _ other free, true_and]
  | null spelled nullable isNull absent =>
    simp only [List.forall_mem_cons, spelled, isNull, null _ nullable, true_and]
  | within spelled spelled' inner =>
    simp only [List.forall_mem_cons, spelled, spelled', within _ _ _ inner]

theorem Dialect.ObjectStep.fits_iff {depth : Nat} {p q : Phrase} (step : D.ObjectStep p q)
    (free : ∀ p, D.free p → p.Fits depth)
    (inner : ∀ name p q, D.inner name p q → (p.Fits depth ↔ q.Fits depth)) :
    p.Fits (depth + 1) ↔ q.Fits (depth + 1) := by
  obtain ⟨space, space', step⟩ := step
  rw [Phrase.fits_object_iff, Phrase.fits_object_iff]
  exact step.forall_iff (P := fun _ p => p.Fits depth) (fun _ p _ => free p)
    (fun _ _ => .word depth .null) inner

namespace ElementStep

variable {R : Phrase → Phrase → Prop} {p q : Phrase}

theorem fits_iff {depth : Nat} (step : ElementStep R p q)
    (each : ∀ p q, R p q → (p.Fits depth ↔ q.Fits depth)) :
    p.Fits (depth + 1) ↔ q.Fits (depth + 1) := by
  obtain ⟨space, space', before, after, step⟩ := step
  simp only [Phrase.fits_array_iff, List.forall_mem_append, List.forall_mem_cons, each _ _ step]

theorem exists_mapM_eq {α : Type} {g : Phrase → Option α} (step : ElementStep R p q)
    (each : ∀ p q, R p q → g p = g q) :
    ∃ space space' items items', p = .array space items ∧ q = .array space' items' ∧
      (items.mapM fun i => g i.part) = items'.mapM fun i => g i.part := by
  obtain ⟨space, space', before, after, step⟩ := step
  refine ⟨space, space', _, _, rfl, rfl, ?_⟩
  simp only [List.mapM_append, List.mapM_cons, each _ _ step]

end ElementStep

/-! ### Drafts -/

namespace Filling

variable {δ : Type} {f : Filling δ} {empty : δ} {ms ms' : List Member}

/-- The filling knows the names of the dialect: it passes over what may stand under others, and null
leaves an empty draft as it is. -/
structure Accepts (f : Filling δ) (empty : δ) (D : Dialect) : Prop where
  commute : f.fields.Pairwise Field.Commute
  known : f.fields.map Field.name = D.known
  nullable : D.nullable ⊆ D.known
  passes : ∀ p, D.free p → f.passes p = true
  idle : ∀ g ∈ f.fields, g.name ∈ D.nullable →
    g.fill f.levels (.word .null) empty = some empty

/-- A draft is filled in alike before and after a step. -/
theorem Accepts.run_eq (h : f.Accepts empty D) (step : D.Step ms ms')
    (inner : ∀ m ∈ ms, ∀ name q, m.name? = some name → D.inner name m.value q →
      ∃ put, f.put? name = some put ∧ put m.value = put q) :
    f.run ms [] empty = f.run ms' [] empty := by
  cases step with
  | order perm => exact run_perm h.commute perm [] empty
  | spaced name value =>
    exact run_cons_congr name (by rw [value]) (fun _ _ _ _ => by rw [value]) (fun _ _ => rfl) empty
  | @unknown m _ name spelled other free =>
    rw [← h.known] at other
    rw [run_cons_unknown spelled (put?_eq_none other), if_pos (h.passes _ free)]
  | @null m _ name spelled nullable isNull absent =>
    obtain ⟨put, known⟩ := f.exists_put? (h.known ▸ h.nullable nullable)
    obtain ⟨g, hg, rfl, rfl⟩ := exists_of_put? known
    rw [run_cons_known spelled known, if_neg List.not_mem_nil, isNull, h.idle g hg nullable,
      Option.bind_some, run_seen_of_absent absent]
  | @within m m' _ name spelled spelled' within =>
    obtain ⟨put, known, same⟩ := inner m List.mem_cons_self name m'.value spelled within
    simp only [run_cons_known spelled known, run_cons_known spelled' known, same]

end Filling

/-! ### Decoders -/

namespace Shape

variable {δ : Type} {shape : Shape δ} {p q : Phrase}

/-- A dialect of a structure: the names of its fields are known, and any value may stand under
another. -/
def dialect (shape : Shape δ) (nullable : List String) (inner : String → Phrase → Phrase → Prop) :
    Dialect where
  known := shape.fields.map Field.name
  nullable := nullable
  free _ := True
  inner := inner

theorem IsFreeForm.accepts (h : shape.IsFreeForm) {nullable : List String}
    {inner : String → Phrase → Phrase → Prop} (named : nullable ⊆ shape.fields.map Field.name)
    (idle : ∀ f ∈ shape.fields, f.name ∈ nullable →
      ∀ levels, f.fill levels (.word .null) shape.empty = some shape.empty) (levels : Nat) :
    (shape.filling levels).Accepts shape.empty (shape.dialect nullable inner) where
  commute := h.commute
  known := rfl
  nullable := named
  passes _ _ := rfl
  idle f hf hnullable := idle f hf hnullable levels

/-- A structure is read alike off an object before and after a step. -/
theorem IsFreeForm.onPhrase_decode_eq (h : shape.IsFreeForm) {D : Dialect}
    (accepts : ∀ levels, (shape.filling levels).Accepts shape.empty D)
    (inner : ∀ levels name p q, D.inner name p q →
      ∃ put, (shape.filling levels).put? name = some put ∧ put p = put q)
    (step : D.ObjectStep p q) (levels : Nat) :
    onPhrase shape.decode levels p = onPhrase shape.decode levels q := by
  obtain ⟨space, space', step⟩ := step
  cases levels with
  | zero => rfl
  | succ levels =>
    rw [onPhrase, onPhrase, h.toOption_decode_object, h.toOption_decode_object]
    exact (accepts levels).run_eq step fun m _ name q _ within => inner levels name m.value q within

theorem IsFreeForm.onPhrase_decode_eq_of_element (h : shape.IsFreeForm)
    {R : Phrase → Phrase → Prop} (step : ElementStep R p q)
    (each : ∀ levels p q, R p q → ∀ f ∈ shape.fields, f.fill levels p = f.fill levels q)
    (levels : Nat) : onPhrase shape.decode levels p = onPhrase shape.decode levels q := by
  obtain ⟨space, space', before, after, step⟩ := step
  cases levels with
  | zero => rfl
  | succ levels =>
    have same (items : List (Padded Phrase)) : List.Forall₂ (fun i i' : Padded Phrase =>
        ∀ f ∈ shape.fields, f.fill levels i.part = f.fill levels i'.part) items items :=
      List.forall₂_same.mpr fun _ _ _ _ => rfl
    exact h.toOption_decodeItems_congr
      (List.rel_append (same before) (.cons (each levels _ _ step) (same after)))
      (List.Subset.refl _) [] [] shape.empty

end Shape

theorem IsFixed.onPhrase_list_eq {α : Type} {decoder : Decoder α} (h : IsFixed decoder)
    {R : Phrase → Phrase → Prop}
    (each : ∀ levels p q, R p q → onPhrase decoder levels p = onPhrase decoder levels q)
    {p q : Phrase} (step : ElementStep R p q) (levels : Nat) :
    onPhrase (Json.list decoder) levels p = onPhrase (Json.list decoder) levels q := by
  cases levels with
  | zero =>
    obtain ⟨space, space', before, after, step⟩ := step
    rfl
  | succ levels =>
    obtain ⟨space, space', items, items', rfl, rfl, same⟩ := step.exists_mapM_eq (each levels)
    rw [onPhrase, onPhrase, h.toOption_list_array, h.toOption_list_array, same]

/-! ### Whole values -/

def Phrase.IsValue (depth : Nat) (p : Phrase) : Prop :=
  p.Fits depth ∧ (onPhrase Node.value depth p).isSome = true

theorem onPhrase_value_eq {depth levels levels' : Nat} {p : Phrase} (fits : p.Fits depth)
    (room : depth ≤ levels) (room' : depth ≤ levels') :
    onPhrase Node.value levels p = onPhrase Node.value levels' p :=
  (isLocal_value fits).toOption_eq room room' Numeral.ends_nil Numeral.ends_nil

theorem Phrase.IsValue.isSome {depth levels : Nat} {p : Phrase} (h : p.IsValue depth)
    (room : depth ≤ levels) : (onPhrase Node.value levels p).isSome = true := by
  rw [onPhrase_value_eq h.1 room (Nat.le_refl depth)]
  exact h.2

end RequestFilter.Json
