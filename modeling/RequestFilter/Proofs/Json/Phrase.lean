import RequestFilter.Json.Node
import RequestFilter.Proofs.Json.Numeral
import RequestFilter.Proofs.Json.StringTail

/-!
The texts of the language, and the trees that reading them gives.

A phrase is a value as it is spelled: with the space between its parts, the escapes of its strings
and the form of its numerals. The tree of a phrase is known, together with whatever text stands
after it, as long as that text does not go on as a numeral.
-/

set_option autoImplicit false

namespace RequestFilter.Json

open Numeral (Ends)

/-! ### Space -/

private theorem skipSpace_cons {c : Char} (h : isSpace c = false) (cs : List Char) :
    skipSpace (c :: cs) = c :: cs := by
  simp [skipSpace, h]

structure Spaces where
  text : List Char
  isSpace : ∀ c ∈ text, Json.isSpace c = true

namespace Spaces

def empty : Spaces := ⟨[], nofun⟩

theorem skipSpace_append (s : Spaces) (cs : List Char) : skipSpace (s.text ++ cs) = skipSpace cs :=
  List.dropWhile_append_of_pos s.isSpace

theorem ends_append (s : Spaces) {cs : List Char} (h : Ends cs) : Ends (s.text ++ cs) := by
  obtain ⟨text, isSpace⟩ := s
  cases text with
  | nil => exact h
  | cons d ds =>
    rintro c ⟨⟩
    have space := isSpace d List.mem_cons_self
    simp only [Json.isSpace, Bool.or_eq_true, decide_eq_true_eq] at space
    rcases space with ((rfl | rfl) | rfl) | rfl <;> decide

end Spaces

structure Padded (α : Type) where
  before : Spaces
  part : α
  after : Spaces

def Padded.bare {α : Type} (part : α) : Padded α := ⟨.empty, part, .empty⟩

/-! ### Phrases -/

def Word.text : Word → List Char
  | .null => ['n', 'u', 'l', 'l']
  | .true => ['t', 'r', 'u', 'e']
  | .false => ['f', 'a', 'l', 's', 'e']

structure SpelledNumeral where
  numeral : Numeral
  exponent : List Char
  formed : numeral.IsWellFormed
  spells : Numeral.SpellsExponent numeral.exponent exponent

def SpelledNumeral.text (n : SpelledNumeral) : List Char := n.numeral.spelled n.exponent

/-- A value as it is spelled. The space after an opening bracket stands apart, so that there may be
some between empty brackets. -/
inductive Phrase
  | word (word : Word)
  | number (numeral : SpelledNumeral)
  | string (text : QuotedText)
  | array (space : Spaces) (items : List (Padded Phrase))
  | object (space : Spaces) (members : List (Padded QuotedText × Padded Phrase))

namespace Phrase

/-- The phrase is nested no deeper than a number of levels. -/
inductive Fits : Nat → Phrase → Prop
  | word (depth : Nat) (w : Word) : Fits depth (.word w)
  | number (depth : Nat) (n : SpelledNumeral) : Fits depth (.number n)
  | string (depth : Nat) (s : QuotedText) : Fits depth (.string s)
  | array {depth : Nat} (space : Spaces) {items : List (Padded Phrase)}
      (each : ∀ i ∈ items, Fits depth i.part) : Fits (depth + 1) (.array space items)
  | object {depth : Nat} (space : Spaces) {members : List (Padded QuotedText × Padded Phrase)}
      (each : ∀ m ∈ members, Fits depth m.2.part) : Fits (depth + 1) (.object space members)

theorem fits_array_iff {depth : Nat} {space : Spaces} {items : List (Padded Phrase)} :
    Fits (depth + 1) (.array space items) ↔ ∀ i ∈ items, Fits depth i.part := by
  refine ⟨fun fits => ?_, .array space⟩
  cases fits with
  | array _ each => exact each

theorem fits_object_iff {depth : Nat} {space : Spaces}
    {members : List (Padded QuotedText × Padded Phrase)} :
    Fits (depth + 1) (.object space members) ↔ ∀ m ∈ members, Fits depth m.2.part := by
  refine ⟨fun fits => ?_, .object space⟩
  cases fits with
  | object _ each => exact each

/-- Induction on phrases, where what is nested is taken all at once. -/
@[elab_as_elim]
theorem nested_induction {P : Phrase → Prop} (p : Phrase) (word : ∀ w, P (.word w))
    (number : ∀ n, P (.number n)) (string : ∀ s, P (.string s))
    (array : ∀ space items, (∀ i ∈ items, P i.part) → P (.array space items))
    (object : ∀ space members, (∀ m ∈ members, P m.2.part) → P (.object space members)) : P p := by
  cases p with
  | word w => exact word w
  | number n => exact number n
  | string s => exact string s
  | array space items =>
    refine array space items fun i hi => ?_
    exact nested_induction i.part word number string array object
  | object space members =>
    refine object space members fun m hm => ?_
    exact nested_induction m.2.part word number string array object
termination_by sizeOf p
decreasing_by
  · have smaller := List.sizeOf_lt_of_mem hi
    obtain ⟨before, part, after⟩ := i
    simp only [Padded.mk.sizeOf_spec, Phrase.array.sizeOf_spec] at smaller ⊢
    omega
  · have smaller := List.sizeOf_lt_of_mem hm
    obtain ⟨key, before, part, after⟩ := m
    simp only [Prod.mk.sizeOf_spec, Padded.mk.sizeOf_spec, Phrase.object.sizeOf_spec] at smaller ⊢
    omega

theorem Fits.mono {depth more : Nat} {p : Phrase} (fits : p.Fits depth) (le : depth ≤ more) :
    p.Fits more := by
  induction fits generalizing more with
  | word depth w => exact .word more w
  | number depth n => exact .number more n
  | string depth s => exact .string more s
  | array space each ih =>
    cases more with
    | zero => exact absurd le (Nat.not_succ_le_zero _)
    | succ more => exact .array space fun i hi => ih i hi (Nat.le_of_succ_le_succ le)
  | object space each ih =>
    cases more with
    | zero => exact absurd le (Nat.not_succ_le_zero _)
    | succ more => exact .object space fun m hm => ih m hm (Nat.le_of_succ_le_succ le)

mutual

def text (phrase : Phrase) : List Char :=
  match phrase with
  | .word w => w.text
  | .number n => n.text
  | .string s => s.text
  | .array space items => '[' :: (space.text ++ itemsText [] items)
  | .object space members => '{' :: (space.text ++ membersText [] members)

def itemsText (separator : List Char) (items : List (Padded Phrase)) : List Char :=
  match items with
  | [] => [']']
  | ⟨before, p, after⟩ :: items =>
    separator ++ before.text ++ p.text ++ after.text ++ itemsText [','] items

def membersText (separator : List Char) (members : List (Padded QuotedText × Padded Phrase)) :
    List Char :=
  match members with
  | [] => ['}']
  | (key, ⟨before, p, after⟩) :: members =>
    separator ++ key.before.text ++ key.part.text ++ key.after.text ++ ':' :: before.text ++
      p.text ++ after.text ++ membersText [','] members

end

mutual

/-- The tree of a phrase with a text after it. -/
def tree (phrase : Phrase) (rest : List Char) : Node :=
  match phrase with
  | .word w => .word (w.text ++ rest) w (.ok rest)
  | .number n => .number (n.text ++ rest) (.ok rest)
  | .string s => .string (s.tail ++ rest) (.ok rest)
  | .array space items => .array ((Phrase.array space items).text ++ rest) (itemsTree items rest)
  | .object space members =>
    .object ((Phrase.object space members).text ++ rest) (membersTree members rest)

def itemsTree (items : List (Padded Phrase)) (rest : List Char) : Items :=
  match items with
  | [] => .close rest
  | ⟨_, p, after⟩ :: items =>
    .item (p.tree (after.text ++ (itemsText [','] items ++ rest))) (itemsTree items rest)

def membersTree (members : List (Padded QuotedText × Padded Phrase)) (rest : List Char) : Members :=
  match members with
  | [] => .close rest
  | (key, ⟨before, p, after⟩) :: members =>
    let more := after.text ++ (membersText [','] members ++ rest)
    let value := ':' :: (before.text ++ (p.text ++ more))
    .member (key.part.tail ++ (key.after.text ++ value)) value (p.tree more)
      (membersTree members rest)

end

/-! ### What stands before and after a phrase -/

theorem ends_itemsText (items : List (Padded Phrase)) (rest : List Char) :
    Ends (itemsText [','] items ++ rest) := by
  cases items with
  | nil => rintro c ⟨⟩; decide
  | cons i items => rintro c ⟨⟩; decide

theorem ends_membersText (members : List (Padded QuotedText × Padded Phrase)) (rest : List Char) :
    Ends (membersText [','] members ++ rest) := by
  cases members with
  | nil => rintro c ⟨⟩; decide
  | cons m members => rintro c ⟨⟩; decide

private theorem skipSpace_itemsText (items : List (Padded Phrase)) (rest : List Char) :
    skipSpace (itemsText [','] items ++ rest) = itemsText [','] items ++ rest := by
  cases items <;> exact skipSpace_cons (by decide) _

private theorem skipSpace_membersText (members : List (Padded QuotedText × Padded Phrase))
    (rest : List Char) :
    skipSpace (membersText [','] members ++ rest) = membersText [','] members ++ rest := by
  cases members <;> exact skipSpace_cons (by decide) _

private theorem exists_cons_text (p : Phrase) :
    ∃ c cs, p.text = c :: cs ∧ isSpace c = false ∧ c ≠ ']' := by
  cases p with
  | word w => cases w <;> exact ⟨_, _, rfl, by decide, by decide⟩
  | number n =>
    obtain ⟨c, cs, text, start⟩ := Numeral.exists_cons_spelled n.formed n.exponent
    refine ⟨c, cs, text, ?_, ?_⟩
    · rw [Bool.eq_false_iff]
      intro space
      simp only [isSpace, Bool.or_eq_true, decide_eq_true_eq] at space
      rcases space with ((rfl | rfl) | rfl) | rfl <;> exact absurd start (by decide)
    · rintro rfl
      exact absurd start (by decide)
  | string s => exact ⟨_, _, rfl, by decide, by decide⟩
  | array space items => exact ⟨_, _, rfl, by decide, by decide⟩
  | object space members => exact ⟨_, _, rfl, by decide, by decide⟩

private theorem text_length_pos (p : Phrase) : 0 < p.text.length := by
  obtain ⟨c, cs, text, -⟩ := exists_cons_text p
  rw [text]
  exact Nat.succ_pos _

private theorem skipSpace_text (p : Phrase) (rest : List Char) :
    skipSpace (p.text ++ rest) = p.text ++ rest := by
  obtain ⟨c, cs, text, visible, -⟩ := exists_cons_text p
  rw [text]
  exact skipSpace_cons visible _

/-! ### Reading a phrase gives its tree -/

mutual

theorem rest?_tree (p : Phrase) (rest : List Char) : (p.tree rest).rest? = some rest := by
  cases p with
  | word w => rfl
  | number n => rfl
  | string s => rfl
  | array space items => rw [tree, Node.rest?, rest?_itemsTree items rest]
  | object space members => rw [tree, Node.rest?, rest?_membersTree members rest]

private theorem rest?_itemsTree (items : List (Padded Phrase)) (rest : List Char) :
    (itemsTree items rest).rest? = some rest := by
  cases items with
  | nil => rfl
  | cons i items => rw [itemsTree, Items.rest?, rest?_itemsTree items rest]

private theorem rest?_membersTree (members : List (Padded QuotedText × Padded Phrase))
    (rest : List Char) :
    (membersTree members rest).rest? = some rest := by
  cases members with
  | nil => rfl
  | cons m members => rw [membersTree, Members.rest?, rest?_membersTree members rest]

end

private theorem readFor_number {c : Char} (start : c = '-' ∨ c.isDigit = true) (fuel : Nat)
    (cs : List Char) : Node.readFor (fuel + 1) (c :: cs) =
      .number (c :: cs) ((Numeral.read .invalidNumber (c :: cs)).map Prod.snd) := by
  rw [Node.readFor, if_pos start]
  all_goals
    rintro rfl
    exact absurd start (by decide)

private theorem readFor_spelled (n : SpelledNumeral) (fuel : Nat) {rest : List Char}
    (ends : Ends rest) :
    Node.readFor (fuel + 1) (n.text ++ rest) = .number (n.text ++ rest) (.ok rest) := by
  obtain ⟨c, cs, text, start⟩ := Numeral.exists_cons_spelled n.formed n.exponent
  have read := Numeral.read_spelled .invalidNumber n.formed n.spells ends
  rw [SpelledNumeral.text, text, List.cons_append] at *
  rw [readFor_number start, read]
  rfl

private theorem itemsText_comma (i : Padded Phrase) (items : List (Padded Phrase)) :
    itemsText [','] (i :: items) = ',' :: itemsText [] (i :: items) := rfl

private theorem membersText_comma (m : Padded QuotedText × Padded Phrase)
    (members : List (Padded QuotedText × Padded Phrase)) :
    membersText [','] (m :: members) = ',' :: membersText [] (m :: members) := rfl

private theorem readFor_item {i : Padded Phrase} {items : List (Padded Phrase)} {stand : Stand}
    (room : stand ≠ .element) {fuel : Nat} {rest : List Char}
    (here : ∀ {more}, Ends more → Node.readFor fuel (i.part.text ++ more) = i.part.tree more)
    (later : Items.readFor fuel .element (itemsText [','] items ++ rest) = itemsTree items rest) :
    Items.readFor (fuel + 1) stand (skipSpace (itemsText [] (i :: items) ++ rest)) =
      itemsTree (i :: items) rest := by
  obtain ⟨before, p, after⟩ := i
  have whole := here (after.ends_append (ends_itemsText items rest))
  have next : skipSpace (after.text ++ (itemsText [','] items ++ rest)) =
      itemsText [','] items ++ rest := by
    rw [after.skipSpace_append, skipSpace_itemsText]
  rw [itemsText, List.nil_append, List.append_assoc, List.append_assoc, List.append_assoc,
    before.skipSpace_append, skipSpace_text]
  obtain ⟨c, cs, text, -, notClosing⟩ := exists_cons_text p
  rw [text, List.cons_append] at whole ⊢
  rw [Items.readFor]
  simp only [if_neg notClosing, if_neg room, whole, rest?_tree, next, later, itemsTree]

private theorem readFor_member {m : Padded QuotedText × Padded Phrase}
    {members : List (Padded QuotedText × Padded Phrase)} {stand : Stand}
    (room : stand ≠ .element) {fuel : Nat} {rest : List Char}
    (here : ∀ {more}, Ends more → Node.readFor fuel (m.2.part.text ++ more) = m.2.part.tree more)
    (later : Members.readFor fuel .element (membersText [','] members ++ rest) =
      membersTree members rest) :
    Members.readFor (fuel + 1) stand (skipSpace (membersText [] (m :: members) ++ rest)) =
      membersTree (m :: members) rest := by
  obtain ⟨⟨before, key, after⟩, ⟨before', p, after'⟩⟩ := m
  have whole := here (after'.ends_append (ends_membersText members rest))
  have next : skipSpace (after'.text ++ (membersText [','] members ++ rest)) =
      membersText [','] members ++ rest := by
    rw [after'.skipSpace_append, skipSpace_membersText]
  have start (more : List Char) :
      skipSpace (before'.text ++ (p.text ++ more)) = p.text ++ more := by
    rw [before'.skipSpace_append, skipSpace_text]
  have colon (more : List Char) : skipSpace (after.text ++ ':' :: more) = ':' :: more := by
    rw [after.skipSpace_append]
    exact skipSpace_cons (by decide) more
  have quote (more : List Char) : skipSpace ('"' :: more) = '"' :: more :=
    skipSpace_cons (by decide) more
  simp only [membersText, List.nil_append, List.append_assoc, List.cons_append,
    before.skipSpace_append, QuotedText.text, quote]
  rw [Members.readFor]
  simp only [Char.reduceEq, if_false, if_true, if_neg room, key.skipString_tail, colon, start,
    whole, rest?_tree, next, later, membersTree]

mutual

/-- Reading a phrase gives its tree, with any text after it that does not go on as a numeral. -/
private theorem readFor_text (p : Phrase) {fuel : Nat} (enough : 2 * p.text.length ≤ fuel)
    {rest : List Char} (ends : Ends rest) : Node.readFor fuel (p.text ++ rest) = p.tree rest := by
  have filled := text_length_pos p
  obtain ⟨fuel, rfl⟩ : ∃ f, fuel = f + 1 := ⟨fuel - 1, by omega⟩
  cases p with
  | word w => cases w <;> rfl
  | number n => rw [tree, text, readFor_spelled n fuel ends]
  | string s => rw [tree, text, QuotedText.text, List.cons_append, Node.readFor, s.skipString_tail]
  | array space items =>
    have size : 2 * (itemsText [] items).length < fuel := by
      simp only [text, List.length_cons, List.length_append] at enough
      omega
    rw [tree, text, List.cons_append, List.append_assoc, Node.readFor, space.skipSpace_append,
      readFor_items items size rest]
  | object space members =>
    have size : 2 * (membersText [] members).length < fuel := by
      simp only [text, List.length_cons, List.length_append] at enough
      omega
    rw [tree, text, List.cons_append, List.append_assoc, Node.readFor, space.skipSpace_append,
      readFor_members members size rest]

private theorem readFor_items (items : List (Padded Phrase)) {fuel : Nat}
    (enough : 2 * (itemsText [] items).length < fuel) (rest : List Char) :
    Items.readFor fuel .opened (skipSpace (itemsText [] items ++ rest)) = itemsTree items rest := by
  obtain ⟨fuel, rfl⟩ : ∃ f, fuel = f + 1 := ⟨fuel - 1, by omega⟩
  cases items with
  | nil => rfl
  | cons i items =>
    simp only [itemsText, List.length_append, List.nil_append] at enough
    have filled := text_length_pos i.part
    exact readFor_item (by decide) (readFor_text i.part (by omega))
      (readFor_itemsText items (by omega) rest)

private theorem readFor_itemsText (items : List (Padded Phrase)) {fuel : Nat}
    (enough : 2 * (itemsText [','] items).length ≤ fuel) (rest : List Char) :
    Items.readFor fuel .element (itemsText [','] items ++ rest) = itemsTree items rest := by
  cases items with
  | nil =>
    obtain ⟨fuel, rfl⟩ : ∃ f, fuel = f + 1 := ⟨fuel - 1, by simp [itemsText] at enough; omega⟩
    rfl
  | cons i items =>
    simp only [itemsText, List.length_append, List.length_singleton] at enough
    obtain ⟨fuel, rfl⟩ : ∃ f, fuel = f + 1 + 1 := ⟨fuel - 2, by omega⟩
    rw [itemsText_comma, List.cons_append, Items.readFor]
    exact readFor_item (by decide) (readFor_text i.part (by omega))
      (readFor_itemsText items (by omega) rest)

private theorem readFor_members (members : List (Padded QuotedText × Padded Phrase)) {fuel : Nat}
    (enough : 2 * (membersText [] members).length < fuel) (rest : List Char) :
    Members.readFor fuel .opened (skipSpace (membersText [] members ++ rest)) =
      membersTree members rest := by
  obtain ⟨fuel, rfl⟩ : ∃ f, fuel = f + 1 := ⟨fuel - 1, by omega⟩
  cases members with
  | nil => rfl
  | cons m members =>
    obtain ⟨key, value⟩ := m
    simp only [membersText, List.length_append, List.nil_append] at enough
    have filled := text_length_pos value.part
    exact readFor_member (by decide) (readFor_text value.part (by omega))
      (readFor_membersText members (by omega) rest)

private theorem readFor_membersText (members : List (Padded QuotedText × Padded Phrase))
    {fuel : Nat} (enough : 2 * (membersText [','] members).length ≤ fuel) (rest : List Char) :
    Members.readFor fuel .element (membersText [','] members ++ rest) =
      membersTree members rest := by
  cases members with
  | nil =>
    obtain ⟨fuel, rfl⟩ : ∃ f, fuel = f + 1 := ⟨fuel - 1, by simp [membersText] at enough; omega⟩
    rfl
  | cons m members =>
    obtain ⟨key, value⟩ := m
    simp only [membersText, List.length_append, List.length_singleton] at enough
    obtain ⟨fuel, rfl⟩ : ∃ f, fuel = f + 1 + 1 := ⟨fuel - 2, by omega⟩
    rw [membersText_comma, List.cons_append, Members.readFor]
    exact readFor_member (by decide) (readFor_text value.part (by omega))
      (readFor_membersText members (by omega) rest)

end

end Phrase

/-! ### Whole texts -/

def Padded.text (p : Padded Phrase) : List Char := p.before.text ++ p.part.text ++ p.after.text

theorem Padded.text_bare (p : Phrase) : (Padded.bare p).text = p.text := List.append_nil _

namespace Phrase

theorem read_padded (p : Padded Phrase) : Node.read p.text = p.part.tree p.after.text := by
  have size : 2 * p.part.text.length ≤ 2 * p.text.length + 1 := by
    simp only [Padded.text, List.length_append]
    omega
  have ends : Ends p.after.text := by simpa using p.after.ends_append Numeral.ends_nil
  have start : skipSpace p.text = p.part.text ++ p.after.text := by
    rw [Padded.text, List.append_assoc, p.before.skipSpace_append, skipSpace_text]
  rw [Node.read, start, readFor_text p.part size ends]

theorem itemsText_eq_intercalate (items : List (Padded Phrase)) :
    itemsText [] items = [','].intercalate (items.map Padded.text) ++ [']'] := by
  induction items with
  | nil => rfl
  | cons i items ih =>
    have first : itemsText [] (i :: items) = i.text ++ itemsText [','] items := by
      simp only [itemsText, Padded.text, List.nil_append]
    cases items with
    | nil => rw [first, itemsText, List.map_singleton, List.intercalate_singleton]
    | cons j items =>
      rw [first, itemsText_comma, ih, List.map_cons (a := i), List.map_cons,
        List.intercalate_cons_cons, List.append_assoc, List.append_assoc, List.singleton_append]

inductive IsNested : Phrase → Prop
  | array (space : Spaces) (items : List (Padded Phrase)) : IsNested (.array space items)
  | object (space : Spaces) (members : List (Padded QuotedText × Padded Phrase)) :
      IsNested (.object space members)

def IsObject (p : Phrase) : Prop := ∃ space members, p = .object space members

private theorem getLast?_membersText (separator : List Char)
    (members : List (Padded QuotedText × Padded Phrase)) :
    (membersText separator members).getLast? = some '}' := by
  induction members generalizing separator with
  | nil => rfl
  | cons m members ih =>
    obtain ⟨key, value⟩ := m
    rw [membersText, List.getLast?_append, ih]
    rfl

private theorem getLast?_itemsText (separator : List Char) (items : List (Padded Phrase)) :
    (itemsText separator items).getLast? = some ']' := by
  induction items generalizing separator with
  | nil => rfl
  | cons i items ih =>
    rw [itemsText, List.getLast?_append, ih]
    rfl

theorem ends_array (space : Spaces) (items : List (Padded Phrase)) :
    (array space items).text.head? = some '[' ∧ (array space items).text.getLast? = some ']' := by
  refine ⟨rfl, ?_⟩
  have last := getLast?_itemsText [] items
  rw [text, ← List.cons_append, List.getLast?_append, last]
  rfl

theorem IsObject.ends {p : Phrase} (object : p.IsObject) :
    p.text.head? = some '{' ∧ p.text.getLast? = some '}' := by
  obtain ⟨space, members, rfl⟩ := object
  refine ⟨rfl, ?_⟩
  have last := getLast?_membersText [] members
  rw [text, ← List.cons_append, List.getLast?_append, last]
  rfl

end Phrase

/-- The text is an object of the language with space around it, nested no deeper than a number of
levels. -/
def IsObjectText (depth : Nat) (cs : List Char) : Prop :=
  ∃ p : Padded Phrase, p.part.IsObject ∧ p.part.Fits depth ∧ p.text = cs

end RequestFilter.Json
