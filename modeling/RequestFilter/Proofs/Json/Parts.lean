import RequestFilter.Proofs.Json.Local
import RequestFilter.Proofs.Json.Quoted

/-!
What is decoded of a phrase, part by part.

Without its errors, decoding an array is decoding its elements one by one, and decoding an object is
putting its members into a draft one after another. The text after the phrase shows in neither, at
any level of nesting: `IsFixed` says so of a decoder.
-/

set_option autoImplicit false

namespace RequestFilter.Json

open Numeral (Ends)

/-- What the decoder makes of a phrase, if it makes anything. -/
def onPhrase {α : Type} (decoder : Decoder α) (levels : Nat) (p : Phrase) : Option α :=
  (decoder levels (p.tree [])).toOption

/-- The text after a phrase does not show in what the decoder makes of it. -/
def IsFixed {α : Type} (decoder : Decoder α) : Prop :=
  ∀ (levels : Nat) (p : Phrase) ⦃rest : List Char⦄, Ends rest →
    (decoder levels (p.tree rest)).toOption = onPhrase decoder levels p

/-! ### Scalars -/

private theorem IsLocal.toOption_leaf {α : Type} {decoder : Decoder α} (h : IsLocal decoder)
    (levels : Nat) {p : Phrase} (fits : p.Fits 0) ⦃rest : List Char⦄ (ends : Ends rest) :
    (decoder levels (p.tree rest)).toOption = onPhrase decoder levels p :=
  (h fits).toOption_eq levels.zero_le levels.zero_le ends Numeral.ends_nil

private theorem IsLocal.isFixed {α : Type} {decoder : Decoder α} (h : IsLocal decoder)
    (array : ∀ levels source items, (decoder levels (.array source items)).toOption = none)
    (object : ∀ levels source members, (decoder levels (.object source members)).toOption = none) :
    IsFixed decoder := by
  intro levels p rest ends
  cases p with
  | word w => exact h.toOption_leaf levels (.word 0 w) ends
  | number n => exact h.toOption_leaf levels (.number 0 n) ends
  | string s => exact h.toOption_leaf levels (.string 0 s) ends
  | array space items => exact (array _ _ _).trans (array _ _ _).symm
  | object space members => exact (object _ _ _).trans (object _ _ _).symm

theorem isFixed_string : IsFixed string :=
  isLocal_string.isFixed (fun _ _ _ => rfl) fun _ _ _ => rfl

theorem isFixed_boolean : IsFixed boolean :=
  isLocal_boolean.isFixed (fun _ _ _ => rfl) fun _ _ _ => rfl

theorem isFixed_double : IsFixed double :=
  isLocal_double.isFixed (fun _ _ _ => rfl) fun _ _ _ => rfl

theorem isFixed_word16 : IsFixed word16 :=
  isLocal_word16.isFixed (fun _ _ _ => rfl) fun _ _ _ => rfl

/-! ### Values that may be null -/

section Optional

variable {α : Type} {decoder : Decoder α}

theorem onPhrase_map {β : Type} (g : α → β) (levels : Nat) (p : Phrase) :
    onPhrase (fun levels node => (decoder levels node).map g) levels p =
      (onPhrase decoder levels p).map g :=
  toOption_map g _

theorem IsFixed.map {β : Type} (h : IsFixed decoder) (g : α → β) :
    IsFixed fun levels node => (decoder levels node).map g := by
  intro levels p rest ends
  rw [onPhrase_map, toOption_map, h levels p ends]

theorem onPhrase_optional {p : Phrase} (present : p ≠ .word .null) (levels : Nat) :
    onPhrase (optional decoder) levels p = (onPhrase decoder levels p).map some := by
  rw [← onPhrase_map]
  cases p with
  | word w =>
    cases w with
    | null => exact absurd rfl present
    | true | false => rfl
  | number | string | array | object => rfl

theorem onPhrase_optional_congr {p q : Phrase} {levels : Nat}
    (present : p ≠ .word .null ∧ q ≠ .word .null)
    (same : onPhrase decoder levels p = onPhrase decoder levels q) :
    onPhrase (optional decoder) levels p = onPhrase (optional decoder) levels q := by
  rw [onPhrase_optional present.1, onPhrase_optional present.2, same]

theorem IsFixed.optional (h : IsFixed decoder) : IsFixed (optional decoder) := by
  intro levels p rest ends
  have present := h.map some levels p ends
  cases p with
  | word w =>
    cases w with
    | null => rfl
    | true | false => exact present
  | number | string | array | object => exact present

theorem onPhrase_orDefault (default : α) (levels : Nat) (p : Phrase) :
    onPhrase (orDefault default decoder) levels p =
      (onPhrase (Json.optional decoder) levels p).map (·.getD default) :=
  onPhrase_map _ levels p

theorem IsFixed.orDefault (h : IsFixed decoder) (default : α) :
    IsFixed (orDefault default decoder) :=
  h.optional.map _

/-! ### Elements -/

private theorem IsFixed.toOption_decode_itemsTree (h : IsFixed decoder) (levels : Nat)
    (items : List (Padded Phrase)) (rest : List Char) :
    ((Phrase.itemsTree items rest).decode decoder levels).toOption =
      items.mapM fun i => onPhrase decoder levels i.part :=
  toOption_decode_items (f := onPhrase decoder levels) (fun i _ _ ends => h levels i.part ends) rest

theorem IsFixed.toOption_list_array (h : IsFixed decoder) (levels : Nat) (space : Spaces)
    (items : List (Padded Phrase)) (rest : List Char) :
    (Json.list decoder (levels + 1) ((Phrase.array space items).tree rest)).toOption =
      items.mapM fun i => onPhrase decoder levels i.part :=
  h.toOption_decode_itemsTree levels items rest

theorem IsFixed.list (h : IsFixed decoder) : IsFixed (list decoder) := by
  intro levels p rest ends
  cases p with
  | array space items =>
    cases levels with
    | zero => rfl
    | succ levels =>
      exact (h.toOption_list_array levels space items rest).trans
        (h.toOption_list_array levels space items []).symm
  | word | number | string | object => rfl

end Optional

/-! ### Whole values -/

private theorem isFixed_value : IsFixed Node.value := by
  intro levels p
  induction p using Phrase.nested_induction generalizing levels with
  | word w => exact isLocal_value.toOption_leaf levels (.word 0 w)
  | number n => exact isLocal_value.toOption_leaf levels (.number 0 n)
  | string s => exact isLocal_value.toOption_leaf levels (.string 0 s)
  | array space items ih =>
    intro rest ends
    cases levels with
    | zero => rfl
    | succ levels =>
      have elements := toOption_decode_items (f := onPhrase Node.value levels)
        fun i hi => ih i hi levels
      simp only [onPhrase, Phrase.tree, Node.value, enter, toOption_bind, toOption_ok,
        Option.bind_some, toOption_values, elements]
  | object space members ih =>
    intro rest ends
    cases levels with
    | zero => rfl
    | succ levels =>
      have parts := toOption_values_members (f := onPhrase Node.value levels)
        fun m hm => ih m hm levels
      simp only [onPhrase, Phrase.tree, Node.value, enter, toOption_bind, toOption_ok,
        Option.bind_some, parts]

theorem onPhrase_value_array (levels : Nat) (space : Spaces) (items : List (Padded Phrase)) :
    onPhrase Node.value (levels + 1) (.array space items) =
      (items.mapM fun i => onPhrase Node.value levels i.part).map .array := by
  rw [← isFixed_value.toOption_decode_itemsTree levels items [], ← toOption_values]
  simp only [onPhrase, Phrase.tree, Node.value, enter, toOption_bind, toOption_ok,
    Option.bind_some]
  exact (Option.map_eq_bind).symm

/-- A member of an object as it is spelled: its key and its value. -/
abbrev Member := Padded QuotedText × Padded Phrase

namespace Member

def name? (m : Member) : Option String := m.1.part.content?

def value (m : Member) : Phrase := m.2.part

def read? (levels : Nat) (m : Member) : Option (String × Value) :=
  m.name?.bind fun name => (onPhrase Node.value levels m.value).map (name, ·)

theorem mapM_read?_cons (levels : Nat) (m : Member) (members : List Member) :
    (m :: members).mapM (read? levels) =
      m.name?.bind fun name => (onPhrase Node.value levels m.value).bind fun v =>
        (members.mapM (read? levels)).bind fun more => some ((name, v) :: more) := by
  rw [List.mapM_cons, read?]
  cases m.name? with
  | none => rfl
  | some name => cases onPhrase Node.value levels m.value <;> rfl

def bare (name : String) (value : Phrase) : Member := (.bare (.ofString name), .bare value)

theorem name?_bare (name : String) (value : Phrase) : (bare name value).name? = some name :=
  QuotedText.content?_ofString name

end Member

theorem onPhrase_value_object (levels : Nat) (space : Spaces) (members : List Member) :
    onPhrase Node.value (levels + 1) (.object space members) =
      (members.mapM (Member.read? levels)).map .object := by
  have parts := toOption_values_members (f := onPhrase Node.value levels)
    fun m (_ : m ∈ members) => isFixed_value levels m.2.part
  simp only [onPhrase, Phrase.tree, Node.value, enter, toOption_bind, toOption_ok,
    Option.bind_some]
  rw [parts]
  exact (Option.map_eq_bind).symm

theorem onPhrase_choice {α : Type} (name : String) (accept? : Value → Option α) (levels : Nat)
    (p : Phrase) :
    onPhrase (choice name accept?) levels p = (onPhrase Node.value levels p).bind accept? :=
  toOption_choice name accept? levels _

theorem isFixed_choice {α : Type} (name : String) (accept? : Value → Option α) :
    IsFixed (choice name accept?) := by
  intro levels p rest ends
  rw [onPhrase_choice, toOption_choice, isFixed_value levels p ends]

end RequestFilter.Json
