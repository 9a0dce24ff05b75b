import Mathlib.Data.List.Nodup
import RequestFilter.Proofs.Json.Filling
import RequestFilter.Proofs.Json.Keeps

/-!
Structures with a gap for the value of one field.

The value stands under the field's name in an object, or in the field's place in an array. What is
made of the structure depends on the value only through the field, and a part of a draft that only
this field sets is as the field has set it.
-/

set_option autoImplicit false

namespace RequestFilter.Json

variable {δ : Type} {shape : Shape δ} {f : Field δ} {levels : Nat}

/-- A structure with a gap for the value of a field, from its name on in an object, or in its place
in an array. -/
inductive Gap (shape : Shape δ) (f : Field δ)
  | member (space : Spaces) (before after : List Member) (key : Padded QuotedText)
      (left right : Spaces) (named : key.part.content? = some f.name)
  | element (space : Spaces) (before after : List (Padded Phrase)) (left right : Spaces)
      (placed : shape.fields[before.length]? = some f)

def Gap.fill : Gap shape f → Phrase → Phrase
  | member space before after key left right _, p =>
    .object space (before ++ (key, ⟨left, p, right⟩) :: after)
  | element space before after left right _, p =>
    .array space (before ++ ⟨left, p, right⟩ :: after)

theorem Gap.isNested_fill (gap : Gap shape f) (p : Phrase) : (gap.fill p).IsNested := by
  cases gap with
  | member => exact .object _ _
  | element => exact .array _ _

/-- What can be made of a structure by the value in its gap: nothing, whatever that is, or what the
other fields make of a draft that it has been put into. -/
inductive Splits (shape : Shape δ) (f : Field δ) (levels : Nat) : (Phrase → Option δ) → Prop
  | refused : Splits shape f levels fun _ => none
  | put (draft : δ) (next : δ → Option δ)
      (others : ∀ P : δ → Prop, (∀ g ∈ shape.fields, g.name ≠ f.name → g.Keeps P) →
        ∀ before after, P before → next before = some after → P after) :
      Splits shape f levels fun p => (f.fill levels p draft).bind next

namespace Splits

variable {made : Phrase → Option δ}

private theorem of_eq {made' : Phrase → Option δ} (h : Splits shape f levels made')
    (same : ∀ p, made p = made' p) : Splits shape f levels made :=
  funext same ▸ h

theorem made_eq (h : Splits shape f levels made) {p q : Phrase}
    (same : f.fill levels p = f.fill levels q) : made p = made q := by
  cases h with
  | refused => rfl
  | put draft next others =>
    dsimp only
    rw [same]

theorem made_keeps (h : Splits shape f levels made) {P : δ → Prop}
    (each : ∀ g ∈ shape.fields, g.name ≠ f.name → g.Keeps P) {p : Phrase}
    (sets : ∀ before after, f.fill levels p before = some after → P after) {a : δ}
    (given : made p = some a) : P a := by
  cases h with
  | refused => cases given
  | put draft next others =>
    obtain ⟨here, filled, later⟩ := Option.bind_eq_some_iff.mp given
    exact others P each here a (sets draft here filled) later

end Splits

/-! ### Objects -/

private theorem Field.Keeps.fill {P : δ → Prop} (h : f.Keeps P) {p : Phrase} {before after : δ}
    (holds : P before) (filled : f.fill levels p before = some after) : P after :=
  h levels _ before after holds (toOption_eq_some_iff.mp filled)

private theorem Filling.run_keeps {filling : Filling δ} {P : δ → Prop} {name : String}
    (each : ∀ g ∈ filling.fields, g.name ≠ name → g.Keeps P) {ms : List Member}
    {seen : List String} (came : name ∈ seen) {before after : δ} (holds : P before)
    (filled : filling.run ms seen before = some after) : P after := by
  induction ms generalizing seen before with
  | nil =>
    cases filled
    exact holds
  | cons m ms ih =>
    cases named : m.name? with
    | none =>
      rw [run_cons_unspelled named] at filled
      cases filled
    | some other =>
      cases known : filling.put? other with
      | none =>
        rw [run_cons_unknown named known, Option.ite_none_right_eq_some] at filled
        exact ih came holds filled.2
      | some put =>
        rw [run_cons_known named known, Option.ite_none_left_eq_some] at filled
        obtain ⟨fresh, later⟩ := filled
        obtain ⟨next, here, rest⟩ := Option.bind_eq_some_iff.mp later
        obtain ⟨g, member, rfl, rfl⟩ := exists_of_put? known
        have differs : g.name ≠ name := fun same => fresh (same ▸ came)
        exact ih (List.mem_cons_of_mem _ came) ((each g member differs).fill holds here) rest

private theorem splits_run (known : (shape.filling levels).put? f.name = some (f.fill levels))
    {key : Padded QuotedText} (named : key.part.content? = some f.name) (left right : Spaces)
    (before after : List Member) (seen : List String) (draft : δ) :
    Splits shape f levels fun p =>
      (shape.filling levels).run (before ++ (key, ⟨left, p, right⟩) :: after) seen draft := by
  induction before generalizing seen draft with
  | nil =>
    have here (p : Phrase) :
        (shape.filling levels).run ((key, ⟨left, p, right⟩) :: after) seen draft =
          if f.name ∈ seen then none
          else (f.fill levels p draft).bind fun draft =>
            (shape.filling levels).run after (f.name :: seen) draft :=
      Filling.run_cons_known (m := (key, ⟨left, p, right⟩)) named known seen draft
    by_cases came : f.name ∈ seen
    · exact Splits.refused.of_eq fun p => (here p).trans (if_pos came)
    · refine (Splits.put draft _ ?_).of_eq fun p => (here p).trans (if_neg came)
      intro P each before after holds filled
      exact Filling.run_keeps each List.mem_cons_self holds filled
  | cons m before ih =>
    cases spelled : m.name? with
    | none => exact Splits.refused.of_eq fun p => Filling.run_cons_unspelled spelled seen draft
    | some name =>
      cases other : (shape.filling levels).put? name with
      | none =>
        refine (ih seen draft).of_eq fun p => ?_
        exact (Filling.run_cons_unknown spelled other seen draft).trans (if_pos rfl)
      | some put =>
        have here (more : List Member) :
            (shape.filling levels).run (m :: more) seen draft =
              if name ∈ seen then none
              else (put m.value draft).bind fun draft =>
                (shape.filling levels).run more (name :: seen) draft :=
          Filling.run_cons_known spelled other seen draft
        by_cases came : name ∈ seen
        · exact Splits.refused.of_eq fun p => (here _).trans (if_pos came)
        · cases filled : put m.value draft with
          | none =>
            refine Splits.refused.of_eq fun p => ?_
            rw [List.cons_append, here, if_neg came, filled, Option.bind_none]
          | some next =>
            refine (ih (name :: seen) next).of_eq fun p => ?_
            rw [List.cons_append, here, if_neg came, filled, Option.bind_some]

/-! ### Arrays -/

private theorem Shape.IsFreeForm.toOption_decodeItems_cons (h : shape.IsFreeForm)
    (known : f ∈ shape.fields) (fs : List (Field δ)) (i : Padded Phrase)
    (items : List (Padded Phrase)) (rest : List Char) (draft : δ) :
    (shape.decodeItems levels (f :: fs) (Phrase.itemsTree (i :: items) rest) draft).toOption =
      (f.fill levels i.part draft).bind fun draft =>
        (shape.decodeItems levels fs (Phrase.itemsTree items rest) draft).toOption := by
  have here := h.fixed f known draft levels i.part
    (i.after.ends_append (Phrase.ends_itemsText items rest))
  simp only [Phrase.itemsTree, Shape.decodeItems, Field.putAt, toOption_bind, toOption_mapError,
    here]
  rfl

private theorem splits_items (h : shape.IsFreeForm) (left right : Spaces)
    (before after : List (Padded Phrase)) {fs : List (Field δ)} (within : fs ⊆ shape.fields)
    (nodup : (fs.map Field.name).Nodup) (placed : fs[before.length]? = some f) (draft : δ) :
    Splits shape f levels fun p =>
      (shape.decodeItems levels fs
        (Phrase.itemsTree (before ++ ⟨left, p, right⟩ :: after) []) draft).toOption := by
  induction before generalizing fs draft with
  | nil =>
    obtain ⟨fs, rfl⟩ : ∃ others, fs = f :: others := by
      cases fs with
      | nil => cases placed
      | cons g fs =>
        cases placed
        exact ⟨fs, rfl⟩
    have known : f ∈ shape.fields := within List.mem_cons_self
    refine (Splits.put draft _ ?_).of_eq fun p =>
      h.toOption_decodeItems_cons known fs _ after [] draft
    intro P each before' after' holds filled
    rw [List.map_cons, List.nodup_cons] at nodup
    have others : ∀ g ∈ fs, g.Keeps P := fun g member =>
      each g (within (List.mem_cons_of_mem f member)) fun same =>
        nodup.1 (List.mem_map.mpr ⟨g, member, same⟩)
    exact Shape.decodeItems_keeps others holds (toOption_eq_some_iff.mp filled)
  | cons i before ih =>
    cases fs with
    | nil => cases placed
    | cons g fs =>
      have known : g ∈ shape.fields := within List.mem_cons_self
      rw [List.map_cons, List.nodup_cons] at nodup
      cases filled : g.fill levels i.part draft with
      | none =>
        refine Splits.refused.of_eq fun p => ?_
        rw [List.cons_append, h.toOption_decodeItems_cons known, filled, Option.bind_none]
      | some next =>
        refine (ih (List.subset_of_cons_subset within) nodup.2 placed next).of_eq fun p => ?_
        rw [List.cons_append, h.toOption_decodeItems_cons known, filled, Option.bind_some]

/-- What is made of a structure by the value in its gap. -/
theorem Gap.splits (gap : Gap shape f) (h : shape.IsFreeForm)
    (nodup : (shape.fields.map Field.name).Nodup) (known : f ∈ shape.fields) (levels : Nat) :
    Splits shape f levels fun p => onPhrase shape.decode (levels + 1) (gap.fill p) := by
  cases gap with
  | member space before after key left right named =>
    have put : (shape.filling levels).put? f.name = some (f.fill levels) := by
      obtain ⟨put, found⟩ := (shape.filling levels).exists_put? (List.mem_map_of_mem known)
      obtain ⟨g, member, same, rfl⟩ := Filling.exists_of_put? found
      rwa [List.inj_on_of_nodup_map nodup member known same] at found
    exact (splits_run put named left right before after [] shape.empty).of_eq fun p =>
      h.toOption_decode_object levels space _ []
  | element space before after left right placed =>
    exact splits_items h left right before after (List.Subset.refl _) nodup placed shape.empty

end RequestFilter.Json
