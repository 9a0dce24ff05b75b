import RequestFilter.Json.Lexeme
import RequestFilter.Proofs.Results

/-!
The strings of the language, and that reading one does not depend on the text after it.

A string of the language may hold half of a surrogate pair, for which it has no content: skipping
takes such a string and reading refuses it. So what is shown of reading is that its outcome, content
or none, is the string's own.
-/

set_option autoImplicit false

namespace RequestFilter.Json

theorem not_control_of_all {cs : List Char} (h : cs.all (fun c => 0x20 ≤ c.toNat) = true) :
    ∀ c ∈ cs, 0x20 ≤ c.toNat := by
  simpa using h

/-! ### Hexadecimal digits -/

def hexDigits : List Char := "0123456789abcdefABCDEF".toList

theorem mem_hexDigits_of_all {cs : List Char} (h : cs.all hexDigits.contains = true) :
    ∀ c ∈ cs, c ∈ hexDigits := by
  simpa using h

private theorem isSome_hexDigit? : ∀ c ∈ hexDigits, (hexDigit? c).isSome = true :=
  List.all_eq_true.mp (by decide)

theorem hexFault?_digits {a b c d : Char} (hex : ∀ x ∈ [a, b, c, d], x ∈ hexDigits)
    (rest : List Char) : hexFault? (a :: b :: c :: d :: rest) = none := by
  have long : ¬ Text.byteLength [a, b, c, d] < 4 := by
    have := a.utf8Size_pos
    have := b.utf8Size_pos
    have := c.utf8Size_pos
    have := d.utf8Size_pos
    simp only [Text.byteLength]
    omega
  have digits : ([a, b, c, d].all fun c => (hexDigit? c).isSome) = true :=
    List.all_eq_true.mpr fun x hx => isSome_hexDigit? x (hex x hx)
  rw [hexFault?, List.take_succ_cons, List.take_succ_cons, List.take_succ_cons, List.take_succ_cons,
    List.take_zero, if_neg long, if_pos digits]

/-! ### Strings of the language -/

def escapeLetters : List Char := ['"', '\\', '/', 'b', 'f', 'n', 'r', 't']

/-- The text of a string after its opening quote: plain characters and escapes up to the closing
quote. The four digits of an escape may be any, also half of a surrogate pair. -/
inductive IsStringTail : List Char → Prop
  | close : IsStringTail ['"']
  | plain {c : Char} {cs : List Char} (quote : c ≠ '"') (backslash : c ≠ '\\')
      (control : 0x20 ≤ c.toNat) (more : IsStringTail cs) : IsStringTail (c :: cs)
  | escape {letter : Char} {cs : List Char} (known : letter ∈ escapeLetters)
      (more : IsStringTail cs) : IsStringTail ('\\' :: letter :: cs)
  | code {a b c d : Char} {cs : List Char} (hex : ∀ x ∈ [a, b, c, d], x ∈ hexDigits)
      (more : IsStringTail cs) : IsStringTail ('\\' :: 'u' :: a :: b :: c :: d :: cs)

theorem exists_escaped {letter : Char} (known : letter ∈ escapeLetters) :
    letter ≠ 'u' ∧ ∃ c, escaped? letter = some c := by
  have stands : ∀ l ∈ escapeLetters, (escaped? l).isSome = true := List.all_eq_true.mp (by decide)
  refine ⟨?_, Option.isSome_iff_exists.mp (stands letter known)⟩
  rintro rfl
  exact absurd known (by decide)

namespace IsStringTail

variable {cs : List Char}

theorem not_control (h : IsStringTail cs) : ∀ c ∈ cs, 0x20 ≤ c.toNat := by
  induction h with
  | close => exact not_control_of_all (by decide)
  | plain quote backslash control more ih => exact List.forall_mem_cons.mpr ⟨control, ih⟩
  | @escape letter cs known more ih =>
    have letters : ∀ l ∈ escapeLetters, 0x20 ≤ l.toNat := not_control_of_all (by decide)
    exact List.forall_mem_cons.mpr ⟨by decide, List.forall_mem_cons.mpr ⟨letters letter known, ih⟩⟩
  | @code a b c d cs hex more ih =>
    have digits : ∀ x ∈ hexDigits, 0x20 ≤ x.toNat := not_control_of_all (by decide)
    have code : ∀ x ∈ [a, b, c, d] ++ cs, 0x20 ≤ x.toNat :=
      List.forall_mem_append.mpr ⟨fun x hx => digits x (hex x hx), ih⟩
    exact List.forall_mem_cons.mpr ⟨by decide, List.forall_mem_cons.mpr ⟨by decide, code⟩⟩

private theorem skipString_append (h : IsStringTail cs) (rest : List Char) :
    skipString (cs ++ rest) = .ok rest := by
  rw [skipString]
  induction h with
  | close => rfl
  | @plain c cs quote backslash control more ih =>
    rw [List.cons_append, skipStringFrom, if_neg quote, if_neg backslash,
      if_neg (Nat.not_lt.mpr control), ih]
  | @escape letter cs known more ih =>
    obtain ⟨notCode, c, stands⟩ := exists_escaped known
    simp [skipStringFrom, notCode, stands, ih]
  | @code a b c d cs hex more ih =>
    simp [skipStringFrom, hexFault?_digits hex, ih]

end IsStringTail

/-! ### Reading -/

/-- From a state, reading the text gives an outcome of its own and ends where the text ends,
whatever comes after. -/
def IsReadAlone (state : ReadState) (cs : List Char) : Prop :=
  ∃ content? : Option (List Char),
    ∀ rest, (readStringFrom state (cs ++ rest)).toOption = content?.map (·, rest)

namespace IsReadAlone

variable {state : ReadState} {cs tail : List Char}

private theorem refused (h : ∀ rest, ∃ fault, readStringFrom state (cs ++ rest) = .error fault) :
    IsReadAlone state cs := by
  refine ⟨none, fun rest => ?_⟩
  obtain ⟨fault, refused⟩ := h rest
  rw [refused]
  rfl

private theorem consContent (c : Char) (h : IsReadAlone .plain tail)
    (step : ∀ rest, readStringFrom state (cs ++ rest) =
      Json.consContent c (readStringFrom .plain (tail ++ rest))) : IsReadAlone state cs := by
  obtain ⟨content?, outcome⟩ := h
  refine ⟨content?.map (c :: ·), fun rest => ?_⟩
  rw [step, Json.consContent, toOption_map, outcome, Option.map_map, Option.map_map]
  rfl

private theorem congr {state' : ReadState} (h : IsReadAlone state' tail)
    (step : ∀ rest, readStringFrom state (cs ++ rest) = readStringFrom state' (tail ++ rest)) :
    IsReadAlone state cs := by
  obtain ⟨content?, outcome⟩ := h
  exact ⟨content?, fun rest => by rw [step, outcome]⟩

end IsReadAlone

private theorem isReadAlone_code (a b c d : Char) {cs : List Char} (plain : IsReadAlone .plain cs)
    (waiting : ∀ high, IsReadAlone (.backslash high) cs) :
    IsReadAlone (.hex none 3 0) (a :: b :: c :: d :: cs) := by
  obtain ⟨code, read⟩ : ∃ code, ∀ rest,
      readStringFrom (.hex none 3 0) (a :: b :: c :: d :: cs ++ rest) =
        if isLow code then .error (.found .loneSurrogate (.before (cs ++ rest)))
        else if isHigh code then readStringFrom (.backslash code) (cs ++ rest)
        else consContent (Char.ofNat code) (readStringFrom .plain (cs ++ rest)) :=
    ⟨_, fun rest => rfl⟩
  by_cases low : isLow code = true
  · exact .refused fun rest => ⟨_, by rw [read, if_pos low]⟩
  · by_cases high : isHigh code = true
    · exact (waiting code).congr fun rest => by rw [read, if_neg low, if_pos high]
    · exact plain.consContent (Char.ofNat code) fun rest => by rw [read, if_neg low, if_neg high]

private theorem isReadAlone_pair (a b c d : Char) {cs : List Char} (plain : IsReadAlone .plain cs)
    (high : Nat) :
    IsReadAlone (.hex (some high) 3 0) (a :: b :: c :: d :: cs) := by
  obtain ⟨code, read⟩ : ∃ code, ∀ rest,
      readStringFrom (.hex (some high) 3 0) (a :: b :: c :: d :: cs ++ rest) =
        if isLow code then
          consContent (Char.ofNat (pairValue high code)) (readStringFrom .plain (cs ++ rest))
        else .error (.found .loneSurrogate (.before (cs ++ rest))) :=
    ⟨_, fun rest => rfl⟩
  by_cases low : isLow code = true
  · exact plain.consContent _ fun rest => by rw [read, if_pos low]
  · exact .refused fun rest => ⟨_, by rw [read, if_neg low]⟩

/-- A string is read alone, also where half a pair before it waits for the other half. -/
private theorem IsStringTail.isReadAlone {cs : List Char} (h : IsStringTail cs) :
    IsReadAlone .plain cs ∧ ∀ high, IsReadAlone (.backslash high) cs := by
  induction h with
  | close =>
    exact ⟨⟨some [], fun rest => rfl⟩, fun high => .refused fun rest => ⟨_, rfl⟩⟩
  | @plain c cs quote backslash control more ih =>
    refine ⟨ih.1.consContent c fun rest => ?_, fun high => .refused fun rest => ?_⟩
    · rw [List.cons_append, readStringFrom, if_neg quote, if_neg backslash,
        if_neg (Nat.not_lt.mpr control)]
    · rw [List.cons_append, readStringFrom, if_neg backslash]
      exact ⟨_, rfl⟩
  | @escape letter cs known more ih =>
    obtain ⟨notCode, c, stands⟩ := exists_escaped known
    refine ⟨ih.1.consContent c fun rest => ?_, fun high => .refused fun rest => ?_⟩
    · simp [readStringFrom, notCode, stands]
    · simp [readStringFrom, notCode]
  | @code a b c d cs hex more ih =>
    have digits (rest : List Char) := hexFault?_digits hex (cs ++ rest)
    refine ⟨(isReadAlone_code a b c d ih.1 ih.2).congr fun rest => ?_,
      fun high => (isReadAlone_pair a b c d ih.1 high).congr fun rest => ?_⟩
    · simp [readStringFrom, digits]
    · simp [readStringFrom, digits]

/-! ### Whole strings -/

/-- A string as it is spelled: the text after its opening quote. -/
structure QuotedText where
  tail : List Char
  formed : IsStringTail tail

namespace QuotedText

def content? (s : QuotedText) : Option String := (readString s.tail).toOption.map Prod.fst

def text (s : QuotedText) : List Char := '"' :: s.tail

theorem skipString_tail (s : QuotedText) (rest : List Char) :
    skipString (s.tail ++ rest) = .ok rest :=
  s.formed.skipString_append rest

/-- Reading a spelled string gives its content, whatever comes after it. -/
theorem toOption_readString (s : QuotedText) (rest : List Char) :
    (readString (s.tail ++ rest)).toOption = s.content?.map (·, rest) := by
  obtain ⟨content, outcome⟩ := s.formed.isReadAlone.1
  have own := outcome []
  rw [List.append_nil] at own
  rw [content?, readString, readString, toOption_map, toOption_map, outcome, own]
  cases content <;> rfl

end QuotedText

end RequestFilter.Json
