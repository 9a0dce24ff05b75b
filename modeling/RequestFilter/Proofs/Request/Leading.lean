import RequestFilter.Proofs.Json.Fuel
import RequestFilter.Proofs.Number.Spelled
import RequestFilter.Proofs.Request.Forms
import RequestFilter.Proofs.Text.Run

/-!
Dumps with blanks before them.

On lines all blanks are trimmed, so none before the first line shows. A dump that is an array is
read as it stands, and of the blanks only those that the language has as space may stand before it.
-/

set_option autoImplicit false

namespace RequestFilter

/-! ### Lines -/

private theorem Text.trim_cons_blank {c : Char} (blank : isBlank c = true) (cs : List Char) :
    trim (c :: cs) = trim cs := by
  have trimmed : trim ([c] ++ cs ++ []) = trim cs :=
    trim_blanks (List.forall_mem_singleton.mpr blank) (List.forall_mem_nil _) cs
  rwa [List.append_nil, List.singleton_append] at trimmed

namespace Request

private theorem toOption_loadLines_cons_blank {c : Char} (blank : Text.isBlank c = true)
    (cs : List Char) : (loadLines (c :: cs)).toOption = (loadLines cs).toOption := by
  by_cases feed : c = '\n'
  · have cut := loadLines_append [] cs
    have none : loadLines [] = .ok [] := rfl
    rw [feed, ← List.nil_append ('\n' :: cs), cut, none]
    cases loadLines cs <;> rfl
  · obtain ⟨first, others, pieces⟩ :=
      List.exists_cons_of_ne_nil (List.ne_nil_of_length_eq_add_one (Text.length_pieces cs))
    have longer : Text.pieces (c :: cs) = (c :: first) :: others := by
      rw [Text.pieces, if_neg feed, pieces]
    rw [loadLines_eq_pieces, loadLines_eq_pieces, longer, pieces, loadLinesFrom_congr]
    rw [List.map_cons, List.map_cons, Text.trim_cons_blank blank]

private theorem toOption_loadLines_blanks {blanks : List Char}
    (blank : ∀ c ∈ blanks, Text.isBlank c = true) (cs : List Char) :
    (loadLines (blanks ++ cs)).toOption = (loadLines cs).toOption := by
  induction blanks with
  | nil => rfl
  | cons c blanks ih =>
    rw [List.forall_mem_cons] at blank
    rw [List.cons_append, toOption_loadLines_cons_blank blank.1, ih blank.2]

end Request

/-! ### Arrays -/

private theorem Text.solid_of_isDigit {c : Char} (digit : c.isDigit = true) : isBlank c = false
    := by
  have spelled : Spells 10 [c] (c.toNat - '0'.toNat) :=
    .digit ((showsDigit_ten_iff c _).mpr ⟨digit, rfl⟩)
  exact spelled.solid (by decide) c List.mem_cons_self

namespace Json

private theorem toOption_decodeText_space {α : Type} (decoder : Decoder α) {space : List Char}
    (isSpace : ∀ c ∈ space, Json.isSpace c = true) (cs : List Char) :
    (decodeText decoder (space ++ cs)).toOption = (decodeText decoder cs).toOption := by
  unfold decodeText
  rw [Node.read_append_space isSpace]
  dsimp only
  cases decoder maxDepth (Node.read cs) with
  | error fault => rfl
  | ok a => dsimp only; split <;> rfl

private theorem Node.read_blank {c : Char} (blank : Text.isBlank c = true)
    (other : isSpace c = false) (cs : List Char) : Node.read (c :: cs) = .absent (c :: cs) := by
  have differs {d : Char} (solid : Text.isBlank d = false) : c ≠ d := by
    rintro rfl
    rw [blank] at solid
    cases solid
  have start : ¬(c = '-' ∨ c.isDigit = true) := by
    rintro (dash | digit)
    · exact differs (by decide) dash
    · exact differs (Text.solid_of_isDigit digit) rfl
  rw [Node.read, skipSpace, List.dropWhile_cons_of_neg (by simp [other]), Node.readFor]
  · rw [if_neg start]
  all_goals exact differs (by decide)

end Json

namespace Request

private theorem isArrayText_blanks {blanks : List Char}
    (blank : ∀ c ∈ blanks, Text.isBlank c = true) (cs : List Char) :
    isArrayText (blanks ++ cs) = isArrayText cs := by
  rw [isArrayText, isArrayText, Text.trimLeft, Text.trimLeft, List.dropWhile_append_of_pos blank]

private theorem loadArray_blanks_eq_ok_iff {blanks : List Char}
    (blank : ∀ c ∈ blanks, Text.isBlank c = true) {cs : List Char} {rs : List Request}
    (loaded : loadArray cs = .ok rs) :
    loadArray (blanks ++ cs) = .ok rs ↔ ∀ c ∈ blanks, Json.isSpace c = true := by
  obtain ⟨space, rest, rfl, isSpace, ended⟩ := Text.exists_run Json.isSpace blanks
  have skipped :
      (loadArray (space ++ rest ++ cs)).toOption = (loadArray (rest ++ cs)).toOption := by
    rw [loadArray, loadArray, toOption_mapError, toOption_mapError, List.append_assoc,
      Json.toOption_decodeText_space _ isSpace]
  rw [← toOption_eq_some_iff, skipped]
  cases rest with
  | nil =>
    rw [List.nil_append, toOption_eq_some_iff, List.append_nil]
    exact iff_of_true loaded isSpace
  | cons c rest =>
    have other := Text.endsRun_cons.mp ended
    have member : c ∈ space ++ c :: rest := List.mem_append_right _ List.mem_cons_self
    have refused : (loadArray (c :: rest ++ cs)).toOption = none := by
      rw [loadArray, toOption_mapError, Json.decodeText, List.cons_append,
        Json.Node.read_blank (blank c member) other]
      rfl
    refine iff_of_false (fun read => ?_) fun all => ?_
    · cases refused.symm.trans read
    · cases other.symm.trans (all c member)

end Request

/-- Blanks before a dump that can be loaded do not matter, unless it is an array and one of them is
no space. -/
theorem load_blanks_eq_ok_iff {blanks text : String} {rs : List Request}
    (blank : ∀ c ∈ blanks.toList, Text.isBlank c = true) (loaded : Request.load text = .ok rs) :
    Request.load (blanks ++ text) = .ok rs ↔
      (Request.isArrayText text.toList = true → ∀ c ∈ blanks.toList, Json.isSpace c = true) := by
  have form : Request.isArrayText (blanks ++ text).toList = Request.isArrayText text.toList := by
    rw [String.toList_append, Request.isArrayText_blanks blank]
  cases array : Request.isArrayText text.toList with
  | false =>
    rw [array] at form
    rw [Request.load_of_lines_eq array, Request.accept_eq_ok_iff] at loaded
    rw [Request.load_of_lines_eq form, Request.accept_eq_ok_iff, String.toList_append,
      ← toOption_eq_some_iff, Request.toOption_loadLines_blanks blank, toOption_eq_some_iff]
    exact iff_of_true loaded nofun
  | true =>
    rw [array] at form
    rw [Request.load_of_array_eq array, Request.accept_eq_ok_iff] at loaded
    rw [Request.load_of_array_eq form, Request.accept_eq_ok_iff, String.toList_append,
      and_iff_left loaded.2, Request.loadArray_blanks_eq_ok_iff blank loaded.1]
    exact ⟨fun space _ => space, fun space => space rfl⟩

/-- Space before an array, and blanks of other kinds before a line. -/
theorem load_blanks_eq_ok_iff_applied :
    let space := "\r\n \t"
    let blanks := "\u2028\u00A0\n\u3000"
    let line := "\x7b\"url\":\"a\"\x7d"
    (∀ c ∈ space.toList, Text.isBlank c = true) ∧ (∀ c ∈ blanks.toList, Text.isBlank c = true) ∧
      Request.load ("[" ++ line ++ "]") = .ok [{ url := "a" }] ∧
      Request.load (space ++ ("[" ++ line ++ "]")) = .ok [{ url := "a" }] ∧
      Request.load line = .ok [{ url := "a" }] ∧
      Request.load (blanks ++ line) = .ok [{ url := "a" }] := by
  intro space blanks line
  have blankSpace : ∀ c ∈ space.toList, Text.isBlank c = true := List.all_eq_true.mp (by decide)
  have blank : ∀ c ∈ blanks.toList, Text.isBlank c = true := List.all_eq_true.mp (by decide)
  have array : Request.load ("[" ++ line ++ "]") = .ok [{ url := "a" }] := by decide +kernel
  have lines : Request.load line = .ok [{ url := "a" }] := by decide +kernel
  have isLines : Request.isArrayText line.toList ≠ true := by decide +kernel
  have isSpace : ∀ c ∈ space.toList, Json.isSpace c = true := List.all_eq_true.mp (by decide)
  exact ⟨blankSpace, blank, array, (load_blanks_eq_ok_iff blankSpace array).mpr fun _ => isSpace,
    lines, (load_blanks_eq_ok_iff blank lines).mpr fun opens => absurd opens isLines⟩

/-- A space that does not break, before an array. -/
theorem not_load_blanks :
    ¬ ∀ (blanks text : String) (rs : List Request),
        (∀ c ∈ blanks.toList, Text.isBlank c = true) → Request.load text = .ok rs →
        Request.load (blanks ++ text) = .ok rs := by
  intro loads
  have array : Request.load "[\x7b\"url\":\"a\"\x7d]" = .ok [{ url := "a" }] := by decide +kernel
  have blank : ∀ c ∈ "\u00A0".toList, Text.isBlank c = true := List.all_eq_true.mp (by decide)
  exact absurd (loads _ _ _ blank array) (by decide +kernel)

end RequestFilter
