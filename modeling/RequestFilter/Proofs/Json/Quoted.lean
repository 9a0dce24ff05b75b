import RequestFilter.Json.Render
import RequestFilter.Proofs.Json.StringTail

/-!
Written strings are read back as the same strings.

Each character is written as itself or as one escape, so reading a written string goes through the
pieces of its characters one by one and is in the plain state between them.
-/

set_option autoImplicit false

namespace RequestFilter.Json

/-- How a character is written: by a letter of its own, by its code, or as itself. -/
private theorem escape_cases (c : Char) :
    (∃ letter ∈ escapeLetters, escape c = ['\\', letter] ∧ escaped? letter = some c) ∨
    (c.toNat < 0x20 ∧ escape c =
      ['\\', 'u', '0', '0', Nat.digitChar (c.toNat / 16), Nat.digitChar (c.toNat % 16)]) ∨
    (escape c = [c] ∧ c ≠ '"' ∧ c ≠ '\\' ∧ 0x20 ≤ c.toNat) := by
  unfold escape
  split
  case h_8 =>
    rename_i quote backslash _ _ _ _ _
    split
    · exact Or.inr (Or.inl ⟨‹_›, rfl⟩)
    · exact Or.inr (Or.inr ⟨rfl, quote, backslash, Nat.not_lt.mp ‹_›⟩)
  all_goals exact Or.inl ⟨_, by decide, rfl, rfl⟩

/-! ### Hexadecimal digits -/

private theorem hexDigit?_digitChar : ∀ d < 16, hexDigit? (Nat.digitChar d) = some d := by decide

private theorem digitChar_mem_hexDigits : ∀ d < 16, Nat.digitChar d ∈ hexDigits := by decide

private theorem mem_hexDigits_control {c : Char} (control : c.toNat < 0x20) :
    ∀ x ∈ ['0', '0', Nat.digitChar (c.toNat / 16), Nat.digitChar (c.toNat % 16)],
      x ∈ hexDigits := by
  have zero : '0' ∈ hexDigits := by decide
  have high := digitChar_mem_hexDigits (c.toNat / 16) (by omega)
  have low := digitChar_mem_hexDigits (c.toNat % 16) (by omega)
  simp [zero, high, low]

private theorem readStringFrom_control {c : Char} (control : c.toNat < 0x20) (rest : List Char) :
    readStringFrom (.hex none 3 0)
        ('0' :: '0' :: Nat.digitChar (c.toNat / 16) :: Nat.digitChar (c.toNat % 16) :: rest) =
      consContent c (readStringFrom .plain rest) := by
  have zero : hexDigit? '0' = some 0 := by decide
  have high := hexDigit?_digitChar (c.toNat / 16) (by omega)
  have low := hexDigit?_digitChar (c.toNat % 16) (by omega)
  have code : c.toNat / 16 * 16 + c.toNat % 16 = c.toNat := by omega
  have notHigh : isHigh c.toNat = false := by simp only [isHigh]; grind
  have notLow : isLow c.toNat = false := by simp only [isLow]; grind
  simp only [readStringFrom, zero, high, low, Option.getD_some, Nat.zero_mul, Nat.zero_add,
    Nat.add_zero, code, notHigh, notLow, Char.ofNat_toNat, Bool.false_eq_true, if_false]

private theorem readStringFrom_unicode {cs : List Char} (h : hexFault? cs = none) :
    readStringFrom .plain ('\\' :: 'u' :: cs) = readStringFrom (.hex none 3 0) cs := by
  rw [readStringFrom, if_neg (by decide), if_pos rfl, readStringFrom, if_pos rfl, h]

/-! ### Whole strings -/

private theorem isStringTail_escape (c : Char) {cs : List Char} (more : IsStringTail cs) :
    IsStringTail (escape c ++ cs) := by
  rcases escape_cases c with ⟨letter, known, written, -⟩ | ⟨control, written⟩ |
      ⟨written, quote, backslash, plain⟩
  · rw [written]
    exact .escape known more
  · rw [written]
    exact .code (mem_hexDigits_control control) more
  · rw [written]
    exact .plain quote backslash plain more

private theorem readStringFrom_escape (c : Char) (rest : List Char) :
    readStringFrom .plain (escape c ++ rest) = consContent c (readStringFrom .plain rest) := by
  rcases escape_cases c with ⟨letter, known, written, stands⟩ | ⟨control, written⟩ |
      ⟨written, quote, backslash, plain⟩
  · simp [written, readStringFrom, (exists_escaped known).1, stands]
  · rw [written]
    exact (readStringFrom_unicode (hexFault?_digits (mem_hexDigits_control control) rest)).trans
      (readStringFrom_control control rest)
  · simp [written, readStringFrom, quote, backslash, Nat.not_lt.mpr plain]

def quotedTail (s : String) : List Char := s.toList.flatMap escape ++ ['"']

theorem stringText_eq_cons (s : String) : stringText s = '"' :: quotedTail s := rfl

theorem isStringTail_quotedTail (s : String) : IsStringTail (quotedTail s) := by
  rw [quotedTail]
  induction s.toList with
  | nil => exact .close
  | cons c cs ih =>
    rw [List.flatMap_cons, List.append_assoc]
    exact isStringTail_escape c ih

def QuotedText.ofString (s : String) : QuotedText := ⟨quotedTail s, isStringTail_quotedTail s⟩

theorem QuotedText.text_ofString (s : String) : (QuotedText.ofString s).text = stringText s := rfl

theorem readString_quotedTail (s : String) (rest : List Char) :
    readString (quotedTail s ++ rest) = .ok (s, rest) := by
  have content (cs : List Char) :
      readStringFrom .plain (cs.flatMap escape ++ (['"'] ++ rest)) = .ok (cs, rest) := by
    induction cs with
    | nil => simp [readStringFrom]
    | cons c cs ih =>
      rw [List.flatMap_cons, List.append_assoc, readStringFrom_escape, ih]
      rfl
  rw [readString, quotedTail, List.append_assoc, content]
  simp [Except.map]

theorem QuotedText.content?_ofString (s : String) : (QuotedText.ofString s).content? = some s := by
  have read := readString_quotedTail s []
  rw [List.append_nil] at read
  rw [content?, ofString, read]
  rfl

end RequestFilter.Json
