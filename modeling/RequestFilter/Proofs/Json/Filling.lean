import Mathlib.Data.List.Forall2
import Mathlib.Data.List.Pairwise
import RequestFilter.Proofs.Json.Parts

/-!
Objects as drafts that are filled in, member after member.

A member of a known name is put into the draft, at most once for each name, and other members are
passed over. If values of different names may be put into a draft in either order, then so may
members, and what an object stands for does not depend on their order.
-/

set_option autoImplicit false

namespace RequestFilter.Json

/-! ### Fields -/

namespace Field

variable {α β δ : Type}

def fill (f : Field δ) (levels : Nat) (p : Phrase) (draft : δ) : Option δ :=
  onPhrase (fun levels node => f.put levels node draft) levels p

/-- The text after a value does not show in what the field makes of it. -/
def IsFixed (f : Field δ) : Prop :=
  ∀ draft, Json.IsFixed fun levels node => f.put levels node draft

/-- Values of the two fields may be read into a draft in either order. -/
def Commute (f g : Field δ) : Prop :=
  ∀ levels p q draft, (f.fill levels p draft).bind (g.fill levels q) =
    (g.fill levels q draft).bind (f.fill levels p)

instance : Std.Symm (@Commute δ) where
  symm _ _ h levels p q draft := (h levels q p draft).symm

theorem fill_defaulted (name : String) (decoder : Decoder α) (set : δ → α → δ) (levels : Nat)
    (p : Phrase) (draft : δ) :
    (defaulted name decoder set).fill levels p draft =
      (onPhrase decoder levels p).map (set draft) :=
  onPhrase_map (set draft) levels p

theorem fill_defaulted_congr {name : String} {decoder : Decoder α} {set : δ → α → δ} {levels : Nat}
    {p q : Phrase} (same : onPhrase decoder levels p = onPhrase decoder levels q) :
    (defaulted name decoder set).fill levels p = (defaulted name decoder set).fill levels q := by
  funext draft
  rw [fill_defaulted, fill_defaulted, same]

theorem IsFixed.defaulted (name : String) {decoder : Decoder α} (set : δ → α → δ)
    (h : Json.IsFixed decoder) : (defaulted name decoder set).IsFixed :=
  fun draft => h.map (set draft)

theorem Commute.defaulted {name name' : String} {decoder : Decoder α} {decoder' : Decoder β}
    {set : δ → α → δ} {set' : δ → β → δ}
    (swap : ∀ draft a b, set' (set draft a) b = set (set' draft b) a) :
    (defaulted name decoder set).Commute (defaulted name' decoder' set') := by
  intro levels p q draft
  rw [fill_defaulted, fill_defaulted]
  cases read : onPhrase decoder levels p with
  | none => cases onPhrase decoder' levels q <;> simp [fill_defaulted, read]
  | some a => cases read' : onPhrase decoder' levels q <;> simp [fill_defaulted, read, read', swap]

end Field

/-! ### Drafts -/

/-- How members fill in a draft: the fields that read the values of known names, at a level, and
which values of other names are passed over. -/
structure Filling (δ : Type) where
  fields : List (Field δ)
  levels : Nat
  passes : Phrase → Bool

namespace Filling

variable {δ : Type} (f : Filling δ)

def put? (name : String) : Option (Phrase → δ → Option δ) :=
  (f.fields.find? fun g => g.name == name).map fun g => g.fill f.levels

/-- Fills in a draft with members in order. `seen` holds the known names that have come before. -/
def run : List Member → List String → δ → Option δ
  | [], _, draft => some draft
  | m :: ms, seen, draft =>
    m.name?.bind fun name =>
      match f.put? name with
      | none => if f.passes m.value then run ms seen draft else none
      | some put =>
        if name ∈ seen then none
        else (put m.value draft).bind fun draft => run ms (name :: seen) draft

variable {f} {m m' : Member} {ms ms' : List Member} {seen seen' : List String} {name name' : String}
  {put put' : Phrase → δ → Option δ}

theorem run_cons_unspelled (unspelled : m.name? = none) (seen : List String) (draft : δ) :
    f.run (m :: ms) seen draft = none := by
  rw [run, unspelled]
  rfl

theorem run_cons_unknown (spelled : m.name? = some name) (unknown : f.put? name = none)
    (seen : List String) (draft : δ) :
    f.run (m :: ms) seen draft = if f.passes m.value then f.run ms seen draft else none := by
  simp only [run, spelled, Option.bind_some, unknown]

theorem run_cons_known (spelled : m.name? = some name) (known : f.put? name = some put)
    (seen : List String) (draft : δ) :
    f.run (m :: ms) seen draft =
      if name ∈ seen then none
      else (put m.value draft).bind fun draft => f.run ms (name :: seen) draft := by
  simp only [run, spelled, Option.bind_some, known]

theorem run_cons_congr (spelled : m.name? = m'.name?)
    (passes : f.passes m.value = f.passes m'.value)
    (same : ∀ name put, m.name? = some name → f.put? name = some put →
      put m.value = put m'.value)
    (later : ∀ seen draft, f.run ms seen draft = f.run ms' seen draft) (draft : δ) :
    f.run (m :: ms) seen draft = f.run (m' :: ms') seen draft := by
  cases named : m.name? with
  | none => rw [run_cons_unspelled named, run_cons_unspelled (spelled.symm.trans named)]
  | some name =>
    have named' := spelled.symm.trans named
    cases known : f.put? name with
    | none => rw [run_cons_unknown named known, run_cons_unknown named' known, passes, later]
    | some put =>
      simp only [run_cons_known named known, run_cons_known named' known,
        same name put named known, later]

/-! ### Names that are known -/

theorem exists_put? (f : Filling δ) (known : name ∈ f.fields.map Field.name) :
    ∃ put, f.put? name = some put := by
  obtain ⟨g, hg, rfl⟩ := List.mem_map.mp known
  have found : (f.fields.find? fun h => h.name == g.name).isSome = true :=
    List.find?_isSome.mpr ⟨g, hg, beq_self_eq_true g.name⟩
  obtain ⟨h, found⟩ := Option.isSome_iff_exists.mp found
  exact ⟨h.fill f.levels, by simp only [put?, found, Option.map_some]⟩

theorem exists_of_put? (known : f.put? name = some put) :
    ∃ g ∈ f.fields, g.name = name ∧ g.fill f.levels = put := by
  obtain ⟨g, found, rfl⟩ := Option.map_eq_some_iff.mp known
  have named : g.name = name := by simpa using List.find?_some found
  exact ⟨g, List.mem_of_find?_eq_some found, named, rfl⟩

theorem put?_eq_none (unknown : name ∉ f.fields.map Field.name) : f.put? name = none := by
  have absent (g : Field δ) (hg : g ∈ f.fields) : ¬ (g.name == name) = true := fun same =>
    unknown (List.mem_map.mpr ⟨g, hg, eq_of_beq same⟩)
  simp only [put?, List.find?_eq_none.mpr absent, Option.map_none]

/-! ### Names that have come before -/

private theorem run_congr_seen (ms : List Member) (same : ∀ name, name ∈ seen ↔ name ∈ seen')
    (draft : δ) :
    f.run ms seen draft = f.run ms seen' draft := by
  induction ms generalizing seen seen' draft with
  | nil => rfl
  | cons m ms ih =>
    cases named : m.name? with
    | none => rw [run_cons_unspelled named, run_cons_unspelled named]
    | some name =>
      cases known : f.put? name with
      | none => rw [run_cons_unknown named known, run_cons_unknown named known, ih same]
      | some put =>
        have grown (n : String) : n ∈ name :: seen ↔ n ∈ name :: seen' := by
          rw [List.mem_cons, List.mem_cons, same]
        simp only [run_cons_known named known, same name, ih grown]

theorem run_seen_of_absent (absent : ∀ m ∈ ms, m.name? ≠ some name) (draft : δ) :
    f.run ms (name :: seen) draft = f.run ms seen draft := by
  induction ms generalizing seen draft with
  | nil => rfl
  | cons m ms ih =>
    have later {seen : List String} (draft : δ) :
        f.run ms (name :: seen) draft = f.run ms seen draft :=
      ih (fun n hn => absent n (List.mem_cons_of_mem m hn)) draft
    cases named : m.name? with
    | none => rw [run_cons_unspelled named, run_cons_unspelled named]
    | some other =>
      have ne : other ≠ name := fun same => absent m List.mem_cons_self (same ▸ named)
      cases known : f.put? other with
      | none => rw [run_cons_unknown named known, run_cons_unknown named known, later]
      | some put =>
        have swapped (n : String) : n ∈ other :: name :: seen ↔ n ∈ name :: other :: seen := by
          simp only [List.mem_cons, or_left_comm]
        have rest (draft : δ) :
            f.run ms (other :: name :: seen) draft = f.run ms (other :: seen) draft :=
          (run_congr_seen ms swapped draft).trans (later draft)
        simp only [run_cons_known named known, List.mem_cons, ne, false_or, rest]

/-! ### The order of members -/

private theorem put_comm (commute : f.fields.Pairwise Field.Commute) (ne : name ≠ name')
    (known : f.put? name = some put) (known' : f.put? name' = some put') (p p' : Phrase)
    (draft : δ) : (put p draft).bind (put' p') = (put' p' draft).bind (put p) := by
  obtain ⟨g, hg, rfl, rfl⟩ := exists_of_put? known
  obtain ⟨g', hg', rfl, rfl⟩ := exists_of_put? known'
  have other : g ≠ g' := fun same => ne (congrArg Field.name same)
  exact commute.forall hg hg' other f.levels p p' draft

private theorem run_cons_of_refused (refused : ∀ seen draft, f.run ms seen draft = none) (draft : δ)
    :
    f.run (m :: ms) seen draft = none := by
  cases named : m.name? with
  | none => rw [run_cons_unspelled named]
  | some name =>
    cases known : f.put? name with
    | none => rw [run_cons_unknown named known, refused, ite_self]
    | some put =>
      simp only [run_cons_known named known, refused, Option.bind_fun_none, ite_self]

private theorem run_swap_known (commute : f.fields.Pairwise Field.Commute) (ne : name ≠ name')
    (known : f.put? name = some put) (known' : f.put? name' = some put') (p p' : Phrase)
    (ms : List Member) (draft : δ) :
    ((put p draft).bind fun draft =>
        (put' p' draft).bind fun draft => f.run ms (name' :: name :: seen) draft) =
      (put' p' draft).bind fun draft =>
        (put p draft).bind fun draft => f.run ms (name :: name' :: seen) draft := by
  have swapped (n : String) : n ∈ name' :: name :: seen ↔ n ∈ name :: name' :: seen := by
    simp only [List.mem_cons, or_left_comm]
  calc
    _ = ((put p draft).bind (put' p')).bind fun draft => f.run ms (name' :: name :: seen) draft :=
      (Option.bind_assoc _ _ _).symm
    _ = ((put' p' draft).bind (put p)).bind fun draft =>
        f.run ms (name :: name' :: seen) draft := by
      rw [put_comm commute ne known known' p p' draft]
      exact congrArg _ (funext fun draft => run_congr_seen ms swapped draft)
    _ = _ := Option.bind_assoc _ _ _

private theorem passed_or_known (f : Filling δ) (m : Member) :
    (∃ passes : Bool, ∀ ms seen draft,
        f.run (m :: ms) seen draft = if passes then f.run ms seen draft else none) ∨
      ∃ name put, m.name? = some name ∧ f.put? name = some put := by
  cases named : m.name? with
  | none =>
    refine Or.inl ⟨false, fun ms seen draft => ?_⟩
    rw [run_cons_unspelled named, if_neg Bool.false_ne_true]
  | some name =>
    cases known : f.put? name with
    | none => exact Or.inl ⟨f.passes m.value, fun _ => run_cons_unknown named known⟩
    | some put => exact Or.inr ⟨name, put, rfl, known⟩

private theorem run_swap_passed {passes : Bool}
    (passed : ∀ ms seen draft,
      f.run (m :: ms) seen draft = if passes then f.run ms seen draft else none)
    (m' : Member) (ms : List Member) (draft : δ) :
    f.run (m :: m' :: ms) seen draft = f.run (m' :: m :: ms) seen draft := by
  cases passes with
  | false => exact (passed _ _ _).trans (run_cons_of_refused (passed ms) draft).symm
  | true =>
    refine (passed _ _ _).trans (run_cons_congr rfl rfl (fun _ _ _ _ => rfl) ?_ draft)
    exact fun seen draft => (passed ms seen draft).symm

private theorem run_swap (commute : f.fields.Pairwise Field.Commute) (m m' : Member)
    (ms : List Member) (seen : List String) (draft : δ) :
    f.run (m :: m' :: ms) seen draft = f.run (m' :: m :: ms) seen draft := by
  rcases f.passed_or_known m with ⟨_, passed⟩ | ⟨name, put, named, known⟩
  · exact run_swap_passed passed m' ms draft
  rcases f.passed_or_known m' with ⟨_, passed'⟩ | ⟨name', put', named', known'⟩
  · exact (run_swap_passed passed' m ms draft).symm
  simp only [run_cons_known named known, run_cons_known named' known', List.mem_cons]
  by_cases same : name = name'
  · simp [same]
  have other : ¬ name' = name := fun h => same h.symm
  by_cases first : name ∈ seen
  · simp [first]
  by_cases second : name' ∈ seen
  · simp [second]
  simp only [first, second, same, other, or_false, if_false]
  exact run_swap_known commute same known known' m.value m'.value ms draft

/-- What an object stands for does not depend on the order of its members. -/
theorem run_perm (commute : f.fields.Pairwise Field.Commute) (perm : ms.Perm ms')
    (seen : List String) (draft : δ) : f.run ms seen draft = f.run ms' seen draft := by
  induction perm generalizing seen draft with
  | nil => rfl
  | cons m perm ih => exact run_cons_congr rfl rfl (fun _ _ _ _ => rfl) ih draft
  | swap m m' ms => exact run_swap commute m' m ms seen draft
  | trans first second ih ih' => exact (ih seen draft).trans (ih' seen draft)

end Filling

/-! ### Structures -/

namespace Shape

variable {δ : Type} {shape : Shape δ}

/-- No field has to be given, the text after a value does not show, and two fields may be read in
either order. -/
structure IsFreeForm (shape : Shape δ) : Prop where
  optional : shape.fields.any Field.required = false
  fixed : ∀ f ∈ shape.fields, f.IsFixed
  commute : shape.fields.Pairwise Field.Commute

def filling (shape : Shape δ) (levels : Nat) : Filling δ := ⟨shape.fields, levels, fun _ => true⟩

private theorem IsFreeForm.toOption_decodeMembers (h : shape.IsFreeForm) (levels : Nat)
    (ms : List Member) (rest : List Char) (seen : List String) (draft : δ) :
    (shape.decodeMembers levels (Phrase.membersTree ms rest) seen draft).toOption =
      (shape.filling levels).run ms seen draft := by
  induction ms generalizing seen draft with
  | nil =>
    have none (f : Field δ) (hf : f ∈ shape.fields) :
        ¬ (f.required && !seen.contains f.name) = true := by
      rw [Bool.and_eq_true, not_and]
      exact fun required => absurd required (List.any_eq_false.mp h.optional f hf)
    rw [Phrase.membersTree, decodeMembers, List.find?_eq_none.mpr none]
    rfl
  | cons m ms ih =>
    obtain ⟨key, value⟩ := m
    have ends := value.after.ends_append (Phrase.ends_membersText ms rest)
    simp only [Phrase.membersTree, decodeMembers, toOption_bind, key.part.toOption_readString,
      Filling.run, Member.name?, Member.value]
    cases key.part.content? with
    | none => rfl
    | some name =>
      simp only [Option.map_some, Option.bind_some, Filling.put?, filling]
      cases found : shape.fields.find? (fun f => f.name == name) with
      | none =>
        simp only [skipFault?_tree]
        exact ih seen draft
      | some f =>
        have first := h.fixed f (List.mem_of_find?_eq_some found) draft levels value.part ends
        by_cases before : name ∈ seen
        · simp [before, Except.toOption]
        · simp [before, Field.putAt, first, ih, Field.fill, filling]

theorem IsFreeForm.toOption_decode_object (h : shape.IsFreeForm) (levels : Nat) (space : Spaces)
    (ms : List Member) (rest : List Char) :
    (shape.decode (levels + 1) ((Phrase.object space ms).tree rest)).toOption =
      (shape.filling levels).run ms [] shape.empty :=
  h.toOption_decodeMembers levels ms rest [] shape.empty

theorem IsFreeForm.toOption_decodeItems_congr (h : shape.IsFreeForm) {levels : Nat}
    {items items' : List (Padded Phrase)}
    (alike : List.Forall₂
      (fun i i' => ∀ f ∈ shape.fields, f.fill levels i.part = f.fill levels i'.part) items items')
    {fs : List (Field δ)} (within : fs ⊆ shape.fields) (rest rest' : List Char) (draft : δ) :
    (shape.decodeItems levels fs (Phrase.itemsTree items rest) draft).toOption =
      (shape.decodeItems levels fs (Phrase.itemsTree items' rest') draft).toOption := by
  induction alike generalizing fs draft with
  | nil => exact toOption_decodeItems_close fs draft levels levels rest rest'
  | @cons i i' items items' same others ih =>
    cases fs with
    | nil => rfl
    | cons f fs =>
      have known : f ∈ shape.fields := within List.mem_cons_self
      have here (i : Padded Phrase) (items : List (Padded Phrase)) (rest : List Char) :=
        h.fixed f known draft levels i.part
          (i.after.ends_append (Phrase.ends_itemsText items rest))
      have first : onPhrase (fun levels node => f.put levels node draft) levels i.part =
          onPhrase (fun levels node => f.put levels node draft) levels i'.part :=
        congrFun (same f known) draft
      simp only [Phrase.itemsTree, decodeItems, Field.putAt, toOption_bind, toOption_mapError, here,
        first, ih (List.subset_of_cons_subset within)]

theorem IsFreeForm.isFixed_decode (h : shape.IsFreeForm) : IsFixed shape.decode := by
  intro levels p rest ends
  cases levels with
  | zero => cases p <;> rfl
  | succ levels =>
    cases p with
    | array space items =>
      have alike : List.Forall₂ (fun i i' : Padded Phrase => ∀ f ∈ shape.fields,
          f.fill levels i.part = f.fill levels i'.part) items items :=
        List.forall₂_same.mpr fun _ _ _ _ => rfl
      exact h.toOption_decodeItems_congr alike (List.Subset.refl _) rest [] shape.empty
    | object space ms =>
      exact (h.toOption_decode_object levels space ms rest).trans
        (h.toOption_decode_object levels space ms []).symm
    | word | number | string => rfl

end Shape
end RequestFilter.Json
