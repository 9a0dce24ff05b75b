import RequestFilter.Json.Decode
import RequestFilter.Proofs.Json.NumberText
import RequestFilter.Proofs.Json.Phrase
import RequestFilter.Proofs.Json.Quoted

/-!
Written values are read back as the same values.

A written value is a phrase of the language without space, so reading its text gives the phrase's
tree. `Value.tree` is that tree, with the text after the value, and reading a value off it gives the
value.
-/

set_option autoImplicit false

namespace RequestFilter.Json

open Numeral (Ends)

/-! ### Values that a text can hold -/

/-- A value whose numbers a text can hold, nested no deeper than a number of levels. -/
inductive Value.Fits : Nat → Value → Prop
  | null (levels : Nat) : Fits levels .null
  | boolean (levels : Nat) (b : Bool) : Fits levels (.boolean b)
  | number (levels : Nat) {n : Number} (writable : n.IsWritable) : Fits levels (.number n)
  | string (levels : Nat) (s : String) : Fits levels (.string s)
  | array {levels : Nat} {items : List Value} (each : ∀ v ∈ items, Fits levels v) :
      Fits (levels + 1) (.array items)
  | object {levels : Nat} {members : List (String × Value)}
      (each : ∀ m ∈ members, Fits levels m.2) : Fits (levels + 1) (.object members)

mutual

def Value.tree (value : Value) (rest : List Char) : Node :=
  match value with
  | .null => .word (Value.null.text ++ rest) .null (.ok rest)
  | .boolean true => .word ((Value.boolean true).text ++ rest) .true (.ok rest)
  | .boolean false => .word ((Value.boolean false).text ++ rest) .false (.ok rest)
  | .number n => .number (n.text ++ rest) (.ok rest)
  | .string s => .string (quotedTail s ++ rest) (.ok rest)
  | .array vs => .array ((Value.array vs).text ++ rest) (itemsTree vs rest)
  | .object ms => .object ((Value.object ms).text ++ rest) (membersTree ms rest)

def itemsTree (values : List Value) (rest : List Char) : Items :=
  match values with
  | [] => .close rest
  | v :: vs => .item (v.tree (itemsText vs ++ rest)) (itemsTree vs rest)

def membersTree (members : List (String × Value)) (rest : List Char) : Members :=
  match members with
  | [] => .close rest
  | (k, v) :: ms =>
    .member (quotedTail k ++ (':' :: (v.text ++ (membersText ms ++ rest))))
      (':' :: (v.text ++ (membersText ms ++ rest))) (v.tree (membersText ms ++ rest))
      (membersTree ms rest)

end

/-! ### What stands after a value -/

theorem ends_itemsText (vs : List Value) (rest : List Char) : Ends (itemsText vs ++ rest) := by
  intro c first
  cases vs with
  | nil => simp [itemsText] at first; subst first; decide
  | cons v vs => simp [itemsText] at first; subst first; decide

theorem ends_membersText (ms : List (String × Value)) (rest : List Char) :
    Ends (membersText ms ++ rest) := by
  intro c first
  cases ms with
  | nil => simp [membersText] at first; subst first; decide
  | cons m ms => simp [membersText] at first; subst first; decide

/-! ### Written values are phrases -/

/-- The phrase has the text and the trees of the value. -/
def Phrase.Writes (p : Phrase) (v : Value) : Prop :=
  p.text = v.text ∧ ∀ rest, p.tree rest = v.tree rest

private theorem exists_items {vs : List Value} (each : ∀ v ∈ vs, ∃ p : Phrase, p.Writes v) :
    ∃ items, Phrase.itemsText [','] items = itemsText vs ∧
      (Phrase.array .empty items).text = (Value.array vs).text ∧
        ∀ rest, Phrase.itemsTree items rest = itemsTree vs rest := by
  induction vs with
  | nil => exact ⟨[], rfl, rfl, fun rest => rfl⟩
  | cons v vs ih =>
    obtain ⟨p, text, tree⟩ := each v List.mem_cons_self
    obtain ⟨items, texts, -, trees⟩ := ih fun w hw => each w (List.mem_cons_of_mem v hw)
    refine ⟨.bare p :: items, ?_, ?_, fun rest => ?_⟩
    · simp [Phrase.itemsText, itemsText, Padded.bare, Spaces.empty, text, texts]
    · simp [Phrase.itemsText, Phrase.text, Value.text, Padded.bare, Spaces.empty, text, texts]
    · simp [Phrase.itemsTree, itemsTree, Padded.bare, Spaces.empty, texts, tree, trees]

private theorem exists_members {ms : List (String × Value)}
    (each : ∀ m ∈ ms, ∃ p : Phrase, p.Writes m.2) :
    ∃ members, Phrase.membersText [','] members = membersText ms ∧
      (Phrase.object .empty members).text = (Value.object ms).text ∧
        ∀ rest, Phrase.membersTree members rest = membersTree ms rest := by
  induction ms with
  | nil => exact ⟨[], rfl, rfl, fun rest => rfl⟩
  | cons m ms ih =>
    obtain ⟨k, v⟩ := m
    obtain ⟨p, text, tree⟩ := each (k, v) List.mem_cons_self
    obtain ⟨members, texts, -, trees⟩ := ih fun w hw => each w (List.mem_cons_of_mem _ hw)
    simp only at text tree
    have key := QuotedText.text_ofString k
    refine ⟨(.bare (.ofString k), .bare p) :: members, ?_, ?_, fun rest => ?_⟩
    · simp [Phrase.membersText, membersText, Padded.bare, Spaces.empty, key, text, texts]
    · simp [Phrase.membersText, Phrase.text, Value.text, Padded.bare, Spaces.empty, key, text,
        texts]
    · simp [Phrase.membersTree, membersTree, Padded.bare, Spaces.empty, QuotedText.ofString, text,
        texts, tree, trees]

private theorem exists_array {vs : List Value} (each : ∀ v ∈ vs, ∃ p : Phrase, p.Writes v) :
    ∃ p : Phrase, p.Writes (.array vs) := by
  obtain ⟨items, -, text, trees⟩ := exists_items each
  refine ⟨.array .empty items, text, fun rest => ?_⟩
  rw [Phrase.tree, Value.tree, text, trees]

private theorem exists_object {ms : List (String × Value)}
    (each : ∀ m ∈ ms, ∃ p : Phrase, p.Writes m.2) :
    ∃ p : Phrase, p.IsObject ∧ p.Writes (.object ms) := by
  obtain ⟨members, -, text, trees⟩ := exists_members each
  refine ⟨.object .empty members, ⟨_, _, rfl⟩, text, fun rest => ?_⟩
  rw [Phrase.tree, Value.tree, text, trees]

private theorem exists_phrase {levels : Nat} {v : Value} (fits : v.Fits levels) :
    ∃ p : Phrase, p.Writes v := by
  induction fits with
  | null => exact ⟨.word .null, rfl, fun rest => rfl⟩
  | boolean levels b =>
    cases b
    · exact ⟨.word .false, rfl, fun rest => rfl⟩
    · exact ⟨.word .true, rfl, fun rest => rfl⟩
  | @number levels n writable =>
    obtain ⟨m, formed, text, -⟩ := Number.exists_numeral writable
    have same : m.spelled (Numeral.exponentText m.exponent) = n.text := text
    refine ⟨.number ⟨m, _, formed, Numeral.spellsExponent_exponentText m.exponent⟩, same,
      fun rest => ?_⟩
    rw [Phrase.tree, Value.tree, SpelledNumeral.text, same]
  | string levels s => exact ⟨.string (.ofString s), rfl, fun rest => rfl⟩
  | array each ih => exact exists_array ih
  | object each ih =>
    obtain ⟨p, -, writes⟩ := exists_object ih
    exact ⟨p, writes⟩

theorem ends_objectText {levels : Nat} {ms : List (String × Value)}
    (fits : (Value.object ms).Fits levels) :
    (Value.object ms).text.head? = some '{' ∧ (Value.object ms).text.getLast? = some '}' := by
  cases fits with
  | object each =>
    obtain ⟨p, object, text, -⟩ := exists_object fun m hm => exists_phrase (each m hm)
    rw [← text]
    exact object.ends

theorem rest?_tree {levels : Nat} {v : Value} (fits : v.Fits levels) (rest : List Char) :
    (v.tree rest).rest? = some rest := by
  obtain ⟨p, -, tree⟩ := exists_phrase fits
  rw [← tree, p.rest?_tree]

theorem read_text {levels : Nat} {v : Value} (fits : v.Fits levels) :
    Node.read v.text = v.tree [] := by
  obtain ⟨p, text, tree⟩ := exists_phrase fits
  have read := Phrase.read_padded (.bare p)
  rw [Padded.text_bare, text] at read
  rw [read, ← tree]
  rfl

/-! ### Reading a value off its tree -/

private theorem values_itemsTree {levels : Nat} {vs : List Value}
    (each : ∀ v ∈ vs, ∀ rest, Ends rest → (v.tree rest).value levels = .ok v) (rest : List Char) :
    (itemsTree vs rest).values levels = .ok vs := by
  induction vs with
  | nil => simp [itemsTree, Items.values]
  | cons v vs ih =>
    have first := each v List.mem_cons_self _ (ends_itemsText vs rest)
    have tail := ih fun w hw => each w (List.mem_cons_of_mem v hw)
    simp only [itemsTree, Items.values, first, tail, bind, Except.bind, pure, Except.pure]

private theorem values_membersTree {levels : Nat} {ms : List (String × Value)}
    (each : ∀ m ∈ ms, ∀ rest, Ends rest → (m.2.tree rest).value levels = .ok m.2)
    (rest : List Char) : (membersTree ms rest).values levels = .ok ms := by
  induction ms with
  | nil => simp [membersTree, Members.values]
  | cons m ms ih =>
    obtain ⟨k, v⟩ := m
    have first := each (k, v) List.mem_cons_self _ (ends_membersText ms rest)
    have tail := ih fun w hw => each w (List.mem_cons_of_mem _ hw)
    simp only at first
    simp only [membersTree, Members.values, readString_quotedTail, first, tail, bind, Except.bind,
      pure, Except.pure]

/-- A written value is read back as that value. -/
theorem value_tree {levels : Nat} {v : Value} (fits : v.Fits levels) {rest : List Char}
    (ends : Ends rest) : (v.tree rest).value levels = .ok v := by
  induction fits generalizing rest with
  | null => rfl
  | boolean levels b => cases b <;> rfl
  | number levels writable =>
    simp [Value.tree, Node.value, readNumber_text writable ends, Except.map]
  | string levels s => simp [Value.tree, Node.value, readString_quotedTail, Except.map]
  | array each ih =>
    have items := values_itemsTree (fun v hv rest ends => ih v hv ends) rest
    simp only [Value.tree, Node.value, enter, items, bind, Except.bind, pure, Except.pure]
  | object each ih =>
    have members := values_membersTree (fun m hm rest ends => ih m hm ends) rest
    simp only [Value.tree, Node.value, enter, members, bind, Except.bind, pure, Except.pure]

/-! ### The characters of a written text -/

private theorem not_control_of_isDigit {c : Char} (h : c.isDigit = true) : 0x20 ≤ c.toNat := by
  have first : '0'.toNat = 48 := rfl
  have bounds := Char.isDigit_iff_toNat.mp h
  omega

private theorem not_control_of_mem_numeral {n : Numeral} (formed : n.IsWellFormed) {c : Char}
    (h : c ∈ n.text) : 0x20 ≤ c.toNat := by
  obtain ⟨negative, whole, fraction, exponent⟩ := n
  have body : ∀ c ∈ whole ++ Numeral.fractionText fraction ++ Numeral.exponentText exponent,
      0x20 ≤ c.toNat := by
    intro c hc
    rcases List.mem_append.mp hc with hc | hc
    · rcases List.mem_append.mp hc with hc | hc
      · exact not_control_of_isDigit (formed.whole.isDigit c hc)
      · cases fraction with
        | none => cases hc
        | some ds =>
          rcases List.mem_cons.mp hc with rfl | digit
          · decide
          · exact not_control_of_isDigit ((formed.fraction ds rfl).2 c digit)
    · cases exponent with
      | none => cases hc
      | some power =>
        obtain ⟨sign, ds⟩ := power
        rcases List.mem_cons.mp hc with rfl | hc
        · decide
        · rcases List.mem_cons.mp hc with rfl | digit
          · cases sign <;> decide
          · exact not_control_of_isDigit ((formed.exponent _ rfl).2 c digit)
  cases negative with
  | true =>
    rcases List.mem_cons.mp h with rfl | inside
    · decide
    · exact body c inside
  | false => exact body c h

private theorem not_control_of_mem_itemsText {vs : List Value}
    (each : ∀ v ∈ vs, ∀ c ∈ v.text, 0x20 ≤ c.toNat) : ∀ c ∈ itemsText vs, 0x20 ≤ c.toNat := by
  induction vs with
  | nil => simp [itemsText]
  | cons v vs ih =>
    intro c hc
    simp only [itemsText, List.cons_append, List.mem_cons, List.mem_append] at hc
    rcases hc with rfl | first | others
    · decide
    · exact each v List.mem_cons_self c first
    · exact ih (fun w hw => each w (List.mem_cons_of_mem v hw)) c others

private theorem not_control_of_mem_membersText {ms : List (String × Value)}
    (each : ∀ m ∈ ms, ∀ c ∈ m.2.text, 0x20 ≤ c.toNat) :
    ∀ c ∈ membersText ms, 0x20 ≤ c.toNat := by
  induction ms with
  | nil => simp [membersText]
  | cons m ms ih =>
    intro c hc
    simp only [membersText, stringText_eq_cons, List.cons_append, List.append_assoc, List.mem_cons,
      List.mem_append] at hc
    rcases hc with rfl | rfl | key | rfl | first | others
    · decide
    · decide
    · exact (isStringTail_quotedTail _).not_control c key
    · decide
    · exact each m List.mem_cons_self c first
    · exact ih (fun w hw => each w (List.mem_cons_of_mem m hw)) c others

theorem not_control_of_mem_text {levels : Nat} {v : Value} (fits : v.Fits levels) :
    ∀ c ∈ v.text, 0x20 ≤ c.toNat := by
  induction fits with
  | null => exact not_control_of_all (by decide)
  | boolean levels b => cases b <;> exact not_control_of_all (by decide)
  | number levels writable =>
    obtain ⟨m, formed, text, -⟩ := Number.exists_numeral writable
    intro c hc
    rw [Value.text, ← text] at hc
    exact not_control_of_mem_numeral formed hc
  | string levels s =>
    intro c hc
    rcases List.mem_cons.mp hc with rfl | inside
    · decide
    · exact (isStringTail_quotedTail s).not_control c inside
  | @array levels vs each ih =>
    -- behind its bracket, an array reads as elements that follow one another
    intro c hc
    have outside := not_control_of_mem_itemsText ih c
    cases vs with
    | nil => exact not_control_of_all (by decide) c hc
    | cons v vs =>
      simp only [Value.text, itemsText, List.cons_append, List.mem_cons] at hc outside
      rcases hc with rfl | inside
      · decide
      · exact outside (Or.inr inside)
  | @object levels ms each ih =>
    intro c hc
    have outside := not_control_of_mem_membersText ih c
    cases ms with
    | nil => exact not_control_of_all (by decide) c hc
    | cons m ms =>
      simp only [Value.text, membersText, List.cons_append, List.mem_cons] at hc outside
      rcases hc with rfl | inside
      · decide
      · exact outside (Or.inr inside)

end RequestFilter.Json
