import Mathlib.Data.List.Basic
import RequestFilter.Proofs.Json.Keeps
import RequestFilter.Proofs.Text.Lines
import RequestFilter.Request.Load

/-!
Loading a dump of lines part by part.

Lines are read one by one and each for itself, so a dump that is cut at a line feed is loaded as its
two parts are, and an error in the second part is reported below the lines of the first.
-/

set_option autoImplicit false

namespace RequestFilter

def LoadError.below (above : Nat) : LoadError → LoadError
  | .json line error => .json (line + above) error
  | error => error

namespace Request

/-! ### Line by line -/

/-- The requests of one line, of which there is at most one. -/
def loadLine (line : Nat) (text : List Char) : Except LoadError (List Request) :=
  if Text.trim text = [] then .ok []
  else ((Json.decodeText decode (Text.trim text)).mapError (.json line)).map ([·])

theorem loadLinesFrom_cons (line : Nat) (text : List Char) (texts : List (List Char)) :
    loadLinesFrom line (text :: texts) = (do
      let first ← loadLine line text
      let others ← loadLinesFrom (line + 1) texts
      return first ++ others) := by
  rw [loadLinesFrom, loadLine]
  cases trimmed : Text.trim text with
  | nil => cases loadLinesFrom (line + 1) texts <;> rfl
  | cons c cs =>
    rw [if_neg (List.cons_ne_nil c cs)]
    dsimp only
    cases Json.decodeText decode (c :: cs) with
    | error e => rfl
    | ok r => cases loadLinesFrom (line + 1) texts <;> rfl

theorem loadLinesFrom_append (line : Nat) (texts texts' : List (List Char)) :
    loadLinesFrom line (texts ++ texts') = (do
      let first ← loadLinesFrom line texts
      let others ← loadLinesFrom (line + texts.length) texts'
      return first ++ others) := by
  induction texts generalizing line with
  | nil => cases read : loadLinesFrom line texts' <;> simp [loadLinesFrom, read, bind, Except.bind,
      pure, Except.pure]
  | cons text texts ih =>
    have count : line + (text :: texts).length = line + 1 + texts.length := by
      rw [List.length_cons]
      omega
    rw [List.cons_append, loadLinesFrom_cons, loadLinesFrom_cons, ih, count]
    simp only [bind_assoc, pure_bind, List.append_assoc]

theorem loadLinesFrom_congr {texts texts' : List (List Char)}
    (same : texts.map Text.trim = texts'.map Text.trim) (line : Nat) :
    loadLinesFrom line texts = loadLinesFrom line texts' := by
  induction texts generalizing texts' line with
  | nil =>
    rw [List.map_nil, eq_comm, List.map_eq_nil_iff] at same
    rw [same]
  | cons text texts ih =>
    obtain ⟨text', rest, rfl, here, later⟩ := List.map_eq_cons_iff.mp same.symm
    have first : loadLine line text = loadLine line text' := by rw [loadLine, loadLine, here]
    rw [loadLinesFrom_cons, loadLinesFrom_cons, first, ih later.symm]

private theorem loadLinesFrom_add (above line : Nat) (texts : List (List Char)) :
    loadLinesFrom (line + above) texts =
      (loadLinesFrom line texts).mapError (LoadError.below above) := by
  induction texts generalizing line with
  | nil => rfl
  | cons text texts ih =>
    have count : line + above + 1 = line + 1 + above := by omega
    have first : loadLine (line + above) text =
        (loadLine line text).mapError (LoadError.below above) := by
      rw [loadLine, loadLine]
      split
      · rfl
      · cases Json.decodeText decode (Text.trim text) <;> rfl
    rw [loadLinesFrom_cons, loadLinesFrom_cons, first, count, ih]
    cases loadLine line text with
    | error e => rfl
    | ok rs => cases loadLinesFrom (line + 1) texts <;> rfl

private theorem exists_json_of_loadLinesFrom {line : Nat} {texts : List (List Char)} {e : LoadError}
    (h : loadLinesFrom line texts = .error e) : ∃ line' error, e = .json line' error := by
  induction texts generalizing line with
  | nil => cases h
  | cons text texts ih =>
    rw [loadLinesFrom_cons] at h
    rcases error_of_bind_eq_error h with here | ⟨first, -, h⟩
    · rw [loadLine] at here
      split at here
      · cases here
      · cases read : Json.decodeText decode (Text.trim text) with
        | error error =>
          rw [read] at here
          cases here
          exact ⟨line, error, rfl⟩
        | ok r =>
          rw [read] at here
          cases here
    · rcases error_of_bind_eq_error h with later | ⟨others, -, h⟩
      · exact ih later
      · cases h

/-! ### Cutting at a line feed -/

/-- The lines may be taken to end at every line feed, and an empty last one counts for nothing. -/
theorem loadLines_eq_pieces (cs : List Char) : loadLines cs = loadLinesFrom 1 (Text.pieces cs) := by
  have filled : Text.pieces cs ≠ [] := List.ne_nil_of_length_eq_add_one (Text.length_pieces cs)
  have cut : Text.pieces cs = (Text.pieces cs).dropLast ++ [(Text.pieces cs).getLast filled] :=
    (List.dropLast_concat_getLast filled).symm
  generalize (Text.pieces cs).dropLast = front, (Text.pieces cs).getLast filled = last at cut
  have trimmed : (front.map Text.withoutReturn).map Text.trim = front.map Text.trim := by
    rw [List.map_map]
    exact List.map_congr_left fun line _ => Text.trim_withoutReturn line
  rw [loadLines, Text.lines, cut, List.dropLast_concat, List.getLast?_concat]
  cases last with
  | nil =>
    have none : loadLinesFrom (1 + front.length) [[]] = .ok [] := rfl
    rw [loadLinesFrom_append, none]
    dsimp only
    rw [loadLinesFrom_congr trimmed]
    cases loadLinesFrom 1 front with
    | error e => rfl
    | ok rs => simp [bind, Except.bind, pure, Except.pure]
  | cons c cs =>
    apply loadLinesFrom_congr
    rw [List.map_append, List.map_append, trimmed]

/-- A dump of lines that is cut at a line feed is loaded as its two parts. -/
theorem loadLines_append (a b : List Char) :
    loadLines (a ++ '\n' :: b) = (do
      let first ← loadLines a
      let second ← (loadLines b).mapError (LoadError.below (a.count '\n' + 1))
      return first ++ second) := by
  rw [loadLines_eq_pieces, loadLines_eq_pieces, loadLines_eq_pieces, Text.pieces_append,
    loadLinesFrom_append, Text.length_pieces, loadLinesFrom_add]

/-! ### Whole dumps -/

theorem accept_eq_ok_iff {read : Except LoadError (List Request)} {rs : List Request} :
    (do
      let requests ← read
      if requests.isEmpty then .error .empty else .ok requests : Except LoadError _) = .ok rs ↔
      read = .ok rs ∧ rs ≠ [] := by
  cases read with
  | error e => simp [bind, Except.bind]
  | ok found =>
    cases found with
    | nil =>
      refine iff_of_false nofun ?_
      rintro ⟨⟨⟩, filled⟩
      exact filled rfl
    | cons r found =>
      refine ⟨?_, And.left⟩
      rintro ⟨⟩
      exact ⟨rfl, List.cons_ne_nil _ _⟩

theorem load_of_lines_eq {text : String} (lines : isArrayText text.toList = false) :
    load text = (do
      let requests ← loadLines text.toList
      if requests.isEmpty then .error .empty else .ok requests) := by
  simp only [load, lines, Bool.false_eq_true, if_false]

/-- A text holds these requests as a dump, where holding none is no fault. -/
def IsDump (text : String) (rs : List Request) : Prop :=
  load text = .ok rs ∨ load text = .error .empty ∧ rs = []

private theorem isDump_iff {text : String} (lines : isArrayText text.toList = false)
    {rs : List Request} :
    IsDump text rs ↔ loadLines text.toList = .ok rs := by
  rw [IsDump, load_of_lines_eq lines]
  cases read : loadLines text.toList with
  | error e =>
    obtain ⟨line, error, rfl⟩ := exists_json_of_loadLinesFrom read
    simp [bind, Except.bind]
  | ok found =>
    cases found with
    | nil => simp [bind, Except.bind, eq_comm]
    | cons r found => simp [bind, Except.bind]

private theorem loadLines_eq_error_iff {text : String} (lines : isArrayText text.toList = false)
    {line : Nat} {error : Json.Error} :
    loadLines text.toList = .error (.json line error) ↔
      load text = .error (.json line error) := by
  rw [load_of_lines_eq lines]
  cases loadLines text.toList with
  | error e => simp [bind, Except.bind]
  | ok found => cases found <;> simp [bind, Except.bind]

private theorem isArrayText_append {a b : List Char} (ha : isArrayText a = false)
    (hb : isArrayText b = false) : isArrayText (a ++ '\n' :: b) = false := by
  unfold isArrayText Text.trimLeft at *
  rw [List.dropWhile_append]
  split
  · rw [List.dropWhile_cons_of_pos (by decide)]
    exact hb
  · rename_i filled
    cases start : a.dropWhile Text.isBlank with
    | nil => simp [start] at filled
    | cons c cs =>
      rw [start] at ha
      exact ha

end Request

/-- A dump of lines that is cut at a line feed is loaded as its two parts are: an error of the first
part is the error of the whole, the requests of both parts are those of the whole in order, and an
error of the second part is found below all lines of the first. -/
theorem load_append_lines {a b : String} (first : (Text.trimLeft a.toList).head? ≠ some '[')
    (second : (Text.trimLeft b.toList).head? ≠ some '[') :
    let whole := Request.load (a ++ "\n" ++ b)
    (∀ line error, Request.load a = .error (.json line error) →
        whole = .error (.json line error)) ∧
      (∀ ra rb, Request.IsDump a ra → Request.IsDump b rb →
        whole = if ra ++ rb = [] then .error .empty else .ok (ra ++ rb)) ∧
      ∀ ra line error, Request.IsDump a ra → Request.load b = .error (.json line error) →
        whole = .error (.json (line + a.toList.count '\n' + 1) error) := by
  intro whole
  have linesA : Request.isArrayText a.toList = false := by simpa [Request.isArrayText] using first
  have linesB : Request.isArrayText b.toList = false := by simpa [Request.isArrayText] using second
  have text : (a ++ "\n" ++ b).toList = a.toList ++ '\n' :: b.toList := by
    simp [String.toList_append]
  have linesBoth : Request.isArrayText (a ++ "\n" ++ b).toList = false := by
    rw [text]
    exact Request.isArrayText_append linesA linesB
  have cut := Request.loadLines_append a.toList b.toList
  rw [← text] at cut
  refine ⟨?_, ?_, ?_⟩
  · intro line error refused
    rw [← Request.loadLines_eq_error_iff linesA] at refused
    apply (Request.loadLines_eq_error_iff linesBoth).mp
    rw [cut, refused]
    rfl
  · intro ra rb heldA heldB
    rw [Request.isDump_iff linesA] at heldA
    rw [Request.isDump_iff linesB] at heldB
    have read : Request.loadLines (a ++ "\n" ++ b).toList = .ok (ra ++ rb) := by
      rw [cut, heldA, heldB]
      rfl
    rcases (Request.isDump_iff linesBoth).mpr read with loaded | ⟨refused, none⟩
    · have some : ra ++ rb ≠ [] := by
        intro none
        rw [Request.load_of_lines_eq linesBoth, read, none] at loaded
        cases loaded
      rw [if_neg some]
      exact loaded
    · rw [if_pos none]
      exact refused
  · intro ra line error heldA refused
    rw [Request.isDump_iff linesA] at heldA
    rw [← Request.loadLines_eq_error_iff linesB] at refused
    apply (Request.loadLines_eq_error_iff linesBoth).mp
    rw [cut, heldA, refused]
    rfl

/-- A dump whose lines end in different ways, before one that can be loaded and one that cannot. -/
theorem load_append_lines_applied :
    let a := "\x7b\"url\":\"u\"\x7d\r\n \n"
    let b := "\n\x7b\"url\":\"v\"\x7d\r"
    let broken := "\x7b\"url\":\"v\"\x7d\n\x7b1"
    let error : Json.Error := ⟨.keyMustBeString, 1, 2⟩
    Request.load a = .ok [{ url := "u" }] ∧ Request.load b = .ok [{ url := "v" }] ∧
      Request.load (a ++ "\n" ++ b) = .ok [{ url := "u" }, { url := "v" }] ∧
      Request.load broken = .error (.json 2 error) ∧
      Request.load (broken ++ "\n" ++ a) = .error (.json 2 error) ∧
      Request.load (a ++ "\n" ++ broken) = .error (.json 5 error) := by
  intro a b broken error
  have loadedA : Request.load a = .ok [{ url := "u" }] := by decide +kernel
  have loadedB : Request.load b = .ok [{ url := "v" }] := by decide +kernel
  have refused : Request.load broken = .error (.json 2 error) := by decide +kernel
  have startA : (Text.trimLeft a.toList).head? ≠ some '[' := by decide +kernel
  have startB : (Text.trimLeft b.toList).head? ≠ some '[' := by decide +kernel
  have startBroken : (Text.trimLeft broken.toList).head? ≠ some '[' := by decide +kernel
  have feeds : a.toList.count '\n' = 2 := by decide
  refine ⟨loadedA, loadedB, ?_, refused, ?_, ?_⟩
  · exact (load_append_lines startA startB).2.1 _ _ (Or.inl loadedA) (Or.inl loadedB)
  · exact (load_append_lines startBroken startA).1 2 error refused
  · have found := (load_append_lines startA startBroken).2.2 _ 2 error (Or.inl loadedA) refused
    rwa [feeds] at found

end RequestFilter
