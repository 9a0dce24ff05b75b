import RequestFilter.Json.Decode
import RequestFilter.Proofs.Json.Phrase
import RequestFilter.Proofs.Results

/-!
What a decoder makes of a phrase does not depend on where the phrase stands.

The tree of a phrase holds all of the text after it, so that faults can be placed, and decoding is
given the levels of nesting that are left. Neither shows in what is decoded, as long as there are
levels enough: `IsLocal` says so of a decoder, and there is one lemma for each way in which the
parts of a request are decoded. Errors are not compared, since their places do differ.
-/

set_option autoImplicit false

namespace RequestFilter.Json

open Numeral (Ends)

/-! ### Places in a text -/

/-- Where a phrase of a depth can be read: the levels that are left, and the text after it. -/
structure Setting (depth : Nat) where
  levels : Nat
  rest : List Char
  room : depth ≤ levels
  ends : Ends rest

namespace Setting

variable {depth : Nat}

private theorem enter_eq (s : Setting (depth + 1)) (node : Node) :
    enter s.levels node = .ok (s.levels - 1) := by
  obtain ⟨levels, rest, room, ends⟩ := s
  cases levels with
  | zero => exact absurd room (Nat.not_succ_le_zero depth)
  | succ levels => rfl

private theorem room_pred (s : Setting (depth + 1)) : depth ≤ s.levels - 1 :=
  Nat.le_sub_one_of_lt s.room

end Setting

/-- What the decoder makes of the tree of the phrase, if it makes anything, is the same in any two
settings. -/
def ReadsAlike {α : Type} (decoder : Decoder α) (depth : Nat) (p : Phrase) : Prop :=
  ∀ s s' : Setting depth,
    (decoder s.levels (p.tree s.rest)).toOption = (decoder s'.levels (p.tree s'.rest)).toOption

theorem ReadsAlike.toOption_eq {α : Type} {decoder : Decoder α} {depth : Nat} {p : Phrase}
    (h : ReadsAlike decoder depth p) {levels levels' : Nat} (room : depth ≤ levels)
    (room' : depth ≤ levels') {rest rest' : List Char} (ends : Ends rest) (ends' : Ends rest') :
    (decoder levels (p.tree rest)).toOption = (decoder levels' (p.tree rest')).toOption :=
  h ⟨levels, rest, room, ends⟩ ⟨levels', rest', room', ends'⟩

def IsLocal {α : Type} (decoder : Decoder α) : Prop :=
  ∀ ⦃depth : Nat⦄ ⦃p : Phrase⦄, p.Fits depth → ReadsAlike decoder depth p

/-! ### Numbers -/

namespace SpelledNumeral

/-- The number of a spelled numeral, if it is finite. -/
def number? (n : SpelledNumeral) : Option Number :=
  if n.numeral.number.toDouble.isFinite then some n.numeral.number else none

theorem toOption_readNumber (n : SpelledNumeral) {rest : List Char} (ends : Ends rest) :
    (readNumber (n.text ++ rest)).toOption = n.number?.map (·, rest) := by
  have read := Numeral.read_spelled .endInValue n.formed n.spells ends
  rw [readNumber, text, read, number?]
  by_cases finite : n.numeral.number.toDouble.isFinite = true
  · rw [if_pos finite]
    simp only [bind, Except.bind, if_pos finite]
    rfl
  · rw [if_neg finite]
    simp only [bind, Except.bind, if_neg finite]
    rfl

end SpelledNumeral

def Number.word16? : Number → Option Nat
  | .natural n => if n < 0x10000 then some n else none
  | .negative _ => none
  | .double _ => none

private theorem toOption_word16 (levels : Nat) (source : List Char)
    (rest : Except Fault (List Char)) :
    (word16 levels (.number source rest)).toOption =
      (readNumber source).toOption.bind fun read => read.1.word16? := by
  rw [word16]
  cases readNumber source with
  | error fault => rfl
  | ok read =>
    obtain ⟨number, rest⟩ := read
    cases number with
    | natural n => by_cases small : n < 0x10000 <;> simp [small, Except.toOption, Number.word16?]
    | negative z => rfl
    | double x => rfl

/-! ### Scalars -/

theorem isLocal_string : IsLocal string := by
  intro depth p _ s s'
  cases p with
  | string text =>
    simp only [Phrase.tree, string, toOption_map, text.toOption_readString, Option.map_map]
    rfl
  | word | number | array | object => rfl

theorem isLocal_boolean : IsLocal boolean := by
  intro depth p _ s s'
  cases p with
  | word w => cases w <;> rfl
  | number | string | array | object => rfl

theorem isLocal_double : IsLocal double := by
  intro depth p _ s s'
  cases p with
  | number n =>
    simp only [Phrase.tree, double, toOption_map, n.toOption_readNumber s.ends,
      n.toOption_readNumber s'.ends, Option.map_map]
    rfl
  | word | string | array | object => rfl

theorem isLocal_word16 : IsLocal word16 := by
  intro depth p _ s s'
  cases p with
  | number n =>
    simp only [Phrase.tree, toOption_word16, n.toOption_readNumber s.ends,
      n.toOption_readNumber s'.ends, Option.bind_map]
    rfl
  | word | string | array | object => rfl

/-! ### Values that may be null -/

private theorem IsLocal.map {α β : Type} {decoder : Decoder α} (h : IsLocal decoder) (g : α → β) :
    IsLocal fun levels node => (decoder levels node).map g := by
  intro depth p fits s s'
  rw [toOption_map, toOption_map, h fits s s']

theorem IsLocal.optional {α : Type} {decoder : Decoder α} (h : IsLocal decoder) :
    IsLocal (optional decoder) := by
  intro depth p fits s s'
  have present := h.map some fits s s'
  cases p with
  | word w =>
    cases w with
    | null => rfl
    | true | false => exact present
  | number | string | array | object => exact present

theorem IsLocal.orDefault {α : Type} {decoder : Decoder α} (h : IsLocal decoder) (default : α) :
    IsLocal (orDefault default decoder) :=
  h.optional.map _

/-! ### Elements -/

theorem toOption_decode_items {α : Type} {decoder : Decoder α} {levels : Nat}
    {f : Phrase → Option α} {items : List (Padded Phrase)}
    (each : ∀ i ∈ items, ∀ ⦃rest⦄, Ends rest →
      (decoder levels (i.part.tree rest)).toOption = f i.part) (rest : List Char) :
    ((Phrase.itemsTree items rest).decode decoder levels).toOption =
      items.mapM fun i => f i.part := by
  induction items with
  | nil => rfl
  | cons i items ih =>
    have first := each i List.mem_cons_self
      (i.after.ends_append (Phrase.ends_itemsText items rest))
    have later := ih fun j hj => each j (List.mem_cons_of_mem i hj)
    simp only [Phrase.itemsTree, Items.decode, toOption_bind, toOption_mapError, first, later,
      List.mapM_cons]
    rfl

private theorem toOption_decode_itemsTree {α : Type} {decoder : Decoder α} {depth : Nat}
    {items : List (Padded Phrase)} (each : ∀ i ∈ items, ReadsAlike decoder depth i.part)
    {levels : Nat} (room : depth ≤ levels) (rest : List Char) :
    ((Phrase.itemsTree items rest).decode decoder levels).toOption =
      items.mapM fun i => (decoder depth (i.part.tree [])).toOption := by
  refine toOption_decode_items (f := fun p => (decoder depth (p.tree [])).toOption) ?_ rest
  exact fun i hi _ ends => (each i hi).toOption_eq room (Nat.le_refl depth) ends Numeral.ends_nil

theorem IsLocal.list {α : Type} {decoder : Decoder α} (h : IsLocal decoder) :
    IsLocal (list decoder) := by
  intro depth p fits s s'
  cases fits with
  | @array depth space items each =>
    have alike (i : Padded Phrase) (hi : i ∈ items) := h (each i hi)
    simp only [Phrase.tree, Json.list, s.enter_eq, s'.enter_eq, toOption_bind, toOption_ok,
      Option.bind_some, toOption_decode_itemsTree alike s.room_pred,
      toOption_decode_itemsTree alike s'.room_pred]
  | word | number | string | object => rfl

/-! ### Whole values -/

theorem toOption_values (levels : Nat) (items : Items) :
    (items.values levels).toOption = (items.decode Node.value levels).toOption := by
  fun_induction items.decode Node.value levels with
  | case1 | case2 | case4 => rfl
  | case3 value more ih =>
    rw [Items.values, toOption_bind, toOption_bind, toOption_mapError]
    simp only [toOption_bind, ih]

theorem toOption_values_members {levels : Nat} {f : Phrase → Option Value}
    {members : List (Padded QuotedText × Padded Phrase)}
    (each : ∀ m ∈ members, ∀ ⦃rest⦄, Ends rest →
      (Node.value levels (m.2.part.tree rest)).toOption = f m.2.part) (rest : List Char) :
    ((Phrase.membersTree members rest).values levels).toOption =
      members.mapM fun m => m.1.part.content?.bind fun name => (f m.2.part).map (name, ·) := by
  induction members with
  | nil => rfl
  | cons m members ih =>
    obtain ⟨key, value⟩ := m
    have first := each (key, value) List.mem_cons_self
      (value.after.ends_append (Phrase.ends_membersText members rest))
    have later := ih fun n hn => each n (List.mem_cons_of_mem _ hn)
    simp only [Phrase.membersTree, Members.values, toOption_bind, later, first,
      key.part.toOption_readString, Option.bind_map, List.mapM_cons]
    cases key.part.content? with
    | none => rfl
    | some name => cases f value.part <;> rfl

private theorem toOption_values_membersTree {depth : Nat}
    {members : List (Padded QuotedText × Padded Phrase)}
    (each : ∀ m ∈ members, ReadsAlike Node.value depth m.2.part) {levels : Nat}
    (room : depth ≤ levels) (rest : List Char) :
    ((Phrase.membersTree members rest).values levels).toOption =
      members.mapM fun m => m.1.part.content?.bind fun name =>
        (Node.value depth (m.2.part.tree [])).toOption.map (name, ·) := by
  refine toOption_values_members (f := fun p => (Node.value depth (p.tree [])).toOption) ?_ rest
  exact fun m hm _ ends => (each m hm).toOption_eq room (Nat.le_refl depth) ends Numeral.ends_nil

theorem isLocal_value : IsLocal Node.value := by
  intro depth p fits
  induction fits with
  | word depth w => intro s s'; cases w <;> rfl
  | number depth n =>
    intro s s'
    simp only [Phrase.tree, Node.value, toOption_map, n.toOption_readNumber s.ends,
      n.toOption_readNumber s'.ends, Option.map_map]
    rfl
  | string depth text =>
    intro s s'
    simp only [Phrase.tree, Node.value, toOption_map, text.toOption_readString, Option.map_map]
    rfl
  | array space each ih =>
    intro s s'
    simp only [Phrase.tree, Node.value, s.enter_eq, s'.enter_eq, toOption_bind, toOption_ok,
      Option.bind_some, toOption_values, toOption_decode_itemsTree ih s.room_pred,
      toOption_decode_itemsTree ih s'.room_pred]
  | object space each ih =>
    intro s s'
    simp only [Phrase.tree, Node.value, s.enter_eq, s'.enter_eq, toOption_bind, toOption_ok,
      Option.bind_some, toOption_values_membersTree ih s.room_pred,
      toOption_values_membersTree ih s'.room_pred]

theorem toOption_choice {α : Type} (name : String) (accept? : Value → Option α) (levels : Nat)
    (node : Node) :
    (choice name accept? levels node).toOption = (node.value levels).toOption.bind accept? := by
  rw [choice]
  cases node.value levels with
  | error fault => rfl
  | ok v => cases accepted : accept? v <;> simp [Except.toOption, accepted]

theorem isLocal_choice {α : Type} (name : String) (accept? : Value → Option α) :
    IsLocal (choice name accept?) := by
  intro depth p fits s s'
  rw [toOption_choice, toOption_choice, isLocal_value fits s s']

/-! ### Structures -/

def Field.IsLocal {δ : Type} (f : Field δ) : Prop :=
  ∀ draft, Json.IsLocal fun levels node => f.put levels node draft

theorem Field.IsLocal.defaulted {α δ : Type} (name : String) {decoder : Decoder α}
    (set : δ → α → δ) (h : Json.IsLocal decoder) : (Field.defaulted name decoder set).IsLocal :=
  fun draft => h.map (set draft)

mutual

theorem skipFault?_tree (p : Phrase) (rest : List Char) : (p.tree rest).skipFault? = none := by
  cases p with
  | word w => rfl
  | number n => rfl
  | string s => rfl
  | array space items => rw [Phrase.tree, Node.skipFault?, skipFault?_itemsTree items rest]
  | object space members => rw [Phrase.tree, Node.skipFault?, skipFault?_membersTree members rest]

private theorem skipFault?_itemsTree (items : List (Padded Phrase)) (rest : List Char) :
    (Phrase.itemsTree items rest).skipFault? = none := by
  cases items with
  | nil => rfl
  | cons i items =>
    simp only [Phrase.itemsTree, Items.skipFault?, skipFault?_tree i.part,
      skipFault?_itemsTree items rest]

private theorem skipFault?_membersTree (members : List (Padded QuotedText × Padded Phrase))
    (rest : List Char) : (Phrase.membersTree members rest).skipFault? = none := by
  cases members with
  | nil => rfl
  | cons m members =>
    obtain ⟨key, value⟩ := m
    simp only [Phrase.membersTree, Members.skipFault?, skipFault?_tree value.part,
      skipFault?_membersTree members rest]

end

namespace Shape

variable {δ : Type} {shape : Shape δ}

theorem toOption_decodeItems_close (fs : List (Field δ)) (draft : δ) (levels levels' : Nat)
    (rest rest' : List Char) :
    (shape.decodeItems levels fs (.close rest) draft).toOption =
      (shape.decodeItems levels' fs (.close rest') draft).toOption := by
  induction fs with
  | nil => rfl
  | cons f fs ih =>
    rw [decodeItems, decodeItems]
    split
    · rfl
    · exact ih

private theorem toOption_decodeItems_itemsTree {depth : Nat} {fs : List (Field δ)}
    {items : List (Padded Phrase)} (isLocal : ∀ f ∈ fs, f.IsLocal)
    (each : ∀ i ∈ items, i.part.Fits depth) {levels levels' : Nat} (room : depth ≤ levels)
    (room' : depth ≤ levels') (rest rest' : List Char) (draft : δ) :
    (shape.decodeItems levels fs (Phrase.itemsTree items rest) draft).toOption =
      (shape.decodeItems levels' fs (Phrase.itemsTree items rest') draft).toOption := by
  induction items generalizing fs draft with
  | nil => exact toOption_decodeItems_close fs draft levels levels' rest rest'
  | cons i items ih =>
    cases fs with
    | nil => rfl
    | cons f fs =>
      have ends (rest : List Char) := i.after.ends_append (Phrase.ends_itemsText items rest)
      have first := (isLocal f List.mem_cons_self draft (each i List.mem_cons_self)).toOption_eq
        room room' (ends rest) (ends rest')
      have later := ih (fun g hg => isLocal g (List.mem_cons_of_mem f hg))
        fun j hj => each j (List.mem_cons_of_mem i hj)
      simp only [Phrase.itemsTree, decodeItems, Field.putAt, toOption_bind, toOption_mapError,
        later, first]

private theorem toOption_decodeMembers_membersTree {depth : Nat}
    {members : List (Padded QuotedText × Padded Phrase)} (isLocal : ∀ f ∈ shape.fields, f.IsLocal)
    (each : ∀ m ∈ members, m.2.part.Fits depth) {levels levels' : Nat} (room : depth ≤ levels)
    (room' : depth ≤ levels') (rest rest' : List Char) (seen : List String) (draft : δ) :
    (shape.decodeMembers levels (Phrase.membersTree members rest) seen draft).toOption =
      (shape.decodeMembers levels' (Phrase.membersTree members rest') seen draft).toOption := by
  induction members generalizing seen draft with
  | nil =>
    simp only [Phrase.membersTree, decodeMembers]
    split <;> rfl
  | cons m members ih =>
    obtain ⟨key, value⟩ := m
    have ends (rest : List Char) := value.after.ends_append (Phrase.ends_membersText members rest)
    have later := ih fun n hn => each n (List.mem_cons_of_mem _ hn)
    simp only [Phrase.membersTree, decodeMembers, toOption_bind, key.part.toOption_readString]
    cases key.part.content? with
    | none => rfl
    | some name =>
      simp only [Option.map_some, Option.bind_some]
      cases found : shape.fields.find? (fun f => f.name == name) with
      | none =>
        simp only [skipFault?_tree]
        exact later seen draft
      | some f =>
        have first := (isLocal f (List.mem_of_find?_eq_some found) draft
          (each (key, value) List.mem_cons_self)).toOption_eq room room' (ends rest) (ends rest')
        dsimp only
        split
        · rfl
        · simp only [Field.putAt, toOption_bind, toOption_mapError, later, first]

/-- A structure of local fields is local. -/
theorem isLocal_decode (isLocal : ∀ f ∈ shape.fields, f.IsLocal) : IsLocal shape.decode := by
  intro depth p fits s s'
  cases fits with
  | array space each =>
    simp only [Phrase.tree, decode, s.enter_eq, s'.enter_eq]
    exact toOption_decodeItems_itemsTree isLocal each s.room_pred s'.room_pred _ _ _
  | object space each =>
    simp only [Phrase.tree, decode, s.enter_eq, s'.enter_eq]
    exact toOption_decodeMembers_membersTree isLocal each s.room_pred s'.room_pred _ _ _ _
  | word | number | string => rfl

end Shape

/-! ### Whole texts -/

/-- A text that is a phrase with space around it is decoded as the phrase. -/
theorem toOption_decodeText {α : Type} (decoder : Decoder α) (p : Padded Phrase) :
    (decodeText decoder p.text).toOption =
      (decoder maxDepth (p.part.tree p.after.text)).toOption := by
  have ended : skipSpace p.after.text = [] := by
    have nothing := p.after.skipSpace_append []
    rwa [List.append_nil] at nothing
  rw [decodeText, Phrase.read_padded]
  cases decoder maxDepth (p.part.tree p.after.text) with
  | error fault => rfl
  | ok a =>
    simp only [Phrase.rest?_tree, Option.getD_some, ended]
    rfl

end RequestFilter.Json
