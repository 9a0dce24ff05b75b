import RequestFilter.Proofs.Request.Forms

/-!
Dumps with a gap for one request.

The request is an element of an array, or stands on a line of its own between any other lines. The
dump is loaded as the requests before it, what is in the gap and the requests after it.
-/

set_option autoImplicit false

namespace RequestFilter.Request

open Json (Padded Phrase Spaces)

/-! ### Dumps with a gap -/

/-- A dump with a gap for a request, in an array or on a line. -/
inductive DumpGap
  | array (first last space : Spaces) (before after : List (Padded Phrase)) (left right : Spaces)
  | line (above below : List (List Char)) (free : ∀ l ∈ above ++ below, '\n' ∉ l)
      (left right : Spaces)

namespace DumpGap

def fill : DumpGap → Phrase → String
  | array first last space before after left right, p =>
    .ofList (Padded.text ⟨first, .array space (before ++ ⟨left, p, right⟩ :: after), last⟩)
  | line above below _ left right, p =>
    .ofList (['\n'].intercalate (above ++ Padded.text ⟨left, p, right⟩ :: below))

/-- How many requests stand before the gap. Blank lines hold none. -/
def place : DumpGap → Nat
  | array _ _ _ before _ _ _ => before.length
  | line above _ _ _ _ => (above.filter fun l => Text.trim l ≠ []).length

/-- A phrase may stand in the gap. On a line it must not have a line feed, and the dump must not be
taken for an array. -/
def Takes (gap : DumpGap) (p : Phrase) : Prop :=
  match gap with
  | array .. => True
  | line _ _ _ left right =>
    '\n' ∉ Padded.text ⟨left, p, right⟩ ∧ isArrayText (gap.fill p).toList = false

end DumpGap

/-- The requests around a gap, as far as they can be read: those before it, what is in it at a
number of levels, and those after it. -/
def around (start next : Option (List Request)) (levels : Nat) (p : Phrase) :
    Option (List Request) :=
  start.bind fun first =>
    (ofPhrase? levels p).bind fun r => next.map fun others => first ++ r :: others

/-! ### Requests in an array -/

private theorem isArrayText_padded (first last space : Spaces) (items : List (Padded Phrase)) :
    isArrayText (Padded.text ⟨first, .array space items, last⟩) = true := by
  have blank (c : Char) (hc : c ∈ first.text) := isBlank_of_isSpace (first.isSpace c hc)
  rw [isArrayText, Text.trimLeft, Padded.text, List.append_assoc,
    List.dropWhile_append_of_pos blank]
  rfl

private theorem mapM_gap (levels : Nat) (before after : List (Padded Phrase)) (left right : Spaces)
    (p : Phrase) :
    ((before ++ ⟨left, p, right⟩ :: after).mapM fun i => ofPhrase? levels i.part) =
      around (before.mapM fun i => ofPhrase? levels i.part)
        (after.mapM fun i => ofPhrase? levels i.part) levels p := by
  rw [List.mapM_append, List.mapM_cons, around]
  cases before.mapM fun i => ofPhrase? levels i.part with
  | none => rfl
  | some first =>
    cases ofPhrase? levels p with
    | none => rfl
    | some r => cases after.mapM fun i => ofPhrase? levels i.part <;> rfl

private theorem length_of_mapM {levels : Nat} {items : List (Padded Phrase)} {rs : List Request}
    (read : (items.mapM fun i => ofPhrase? levels i.part) = some rs) : rs.length = items.length := by
  induction items generalizing rs with
  | nil =>
    cases read
    rfl
  | cons i items ih =>
    rw [List.mapM_cons] at read
    obtain ⟨r, -, rest⟩ := Option.bind_eq_some_iff.mp read
    obtain ⟨others, later, whole⟩ := Option.bind_eq_some_iff.mp rest
    cases whole
    rw [List.length_cons, List.length_cons, ih later]

/-! ### Requests on lines -/

private theorem length_of_loadLinesFrom {line : Nat} {texts : List (List Char)} {rs : List Request}
    (loaded : loadLinesFrom line texts = .ok rs) :
    rs.length = (texts.filter fun l => Text.trim l ≠ []).length := by
  induction texts generalizing line rs with
  | nil =>
    cases loaded
    rfl
  | cons text texts ih =>
    rw [loadLinesFrom_cons] at loaded
    obtain ⟨first, here, rest⟩ := exists_of_bind_eq_ok loaded
    obtain ⟨others, later, rfl⟩ := exists_of_map_eq_ok rest
    rw [List.length_append, ih later]
    rw [loadLine] at here
    split at here
    · rename_i blank
      cases here
      simp [blank]
    · rename_i filled
      obtain ⟨r, -, rfl⟩ := exists_of_map_eq_ok here
      simp [filled, Nat.add_comm]

private theorem toOption_loadLines_gap {above below : List (List Char)}
    (free : ∀ l ∈ above ++ below, '\n' ∉ l) {left right : Spaces} {p : Phrase}
    (nested : p.IsNested) (feed : '\n' ∉ Padded.text ⟨left, p, right⟩) :
    (loadLines (['\n'].intercalate (above ++ Padded.text ⟨left, p, right⟩ :: below))).toOption =
      around (loadLinesFrom 1 above).toOption
        (loadLinesFrom (1 + above.length + 1) below).toOption Json.maxDepth p := by
  have line : Text.IsLine p.text := isLine_of_isNested nested fun inside =>
    feed (List.mem_append_left _ (List.mem_append_right _ inside))
  have here := toOption_loadLine_of_isLine (i := ⟨left, p, right⟩) line (1 + above.length)
  generalize Padded.text ⟨left, p, right⟩ = text at *
  have cut : Text.pieces (['\n'].intercalate (above ++ text :: below)) = above ++ text :: below := by
    refine Text.pieces_intercalate (by simp) fun l hl => ?_
    simp only [List.mem_append, List.mem_cons] at hl free
    rcases hl with h | rfl | h
    · exact free l (Or.inl h)
    · exact feed
    · exact free l (Or.inr h)
  rw [loadLines_eq_pieces, cut, loadLinesFrom_append, loadLinesFrom_cons]
  simp only [toOption_bind, here, around]
  cases (loadLinesFrom 1 above).toOption with
  | none => rfl
  | some first =>
    cases ofPhrase? Json.maxDepth p with
    | none => rfl
    | some r => cases loadLinesFrom (1 + above.length + 1) below <;> rfl

/-! ### Dumps -/

private theorem toOption_accept {read : Except LoadError (List Request)}
    (filled : ∀ rs ∈ read.toOption, rs ≠ []) :
    (do
      let requests ← read
      if requests.isEmpty then .error .empty else .ok requests : Except LoadError _).toOption =
      read.toOption := by
  ext rs
  rw [toOption_eq_some_iff, accept_eq_ok_iff, toOption_eq_some_iff]
  exact and_iff_left_of_imp fun given => filled rs (toOption_eq_some_iff.mpr given)

theorem around_eq_some_iff {start next : Option (List Request)} {levels : Nat} {p : Phrase}
    {rs : List Request} :
    around start next levels p = some rs ↔
      ∃ first r others, start = some first ∧ ofPhrase? levels p = some r ∧ next = some others ∧
        first ++ r :: others = rs := by
  simp only [around, Option.bind_eq_some_iff, Option.map_eq_some_iff]
  constructor
  · rintro ⟨first, started, r, here, others, later, whole⟩
    exact ⟨first, r, others, started, here, later, whole⟩
  · rintro ⟨first, r, others, started, here, later, whole⟩
    exact ⟨first, started, r, here, others, later, whole⟩

private theorem ne_nil_of_around {start next : Option (List Request)} {levels : Nat} {p : Phrase} :
    ∀ rs ∈ around start next levels p, rs ≠ [] := by
  intro rs loaded
  obtain ⟨first, r, others, -, -, -, rfl⟩ := around_eq_some_iff.mp loaded
  exact List.append_ne_nil_of_right_ne_nil _ (List.cons_ne_nil _ _)

/-- A dump is loaded as the requests before the gap, the request in it and those after it. -/
theorem DumpGap.exists_load (gap : DumpGap) :
    ∃ levels start next, (∀ first ∈ start, first.length = gap.place) ∧
      ∀ p, p.IsNested → gap.Takes p →
        (load (gap.fill p)).toOption = around start next (levels + 1) p := by
  cases gap with
  | array first last space before after left right =>
    refine ⟨Json.maxDepth - 2, before.mapM fun i => ofPhrase? (Json.maxDepth - 1) i.part,
      after.mapM fun i => ofPhrase? (Json.maxDepth - 1) i.part, fun rs => length_of_mapM,
      fun p _ _ => ?_⟩
    have array := isArrayText_padded first last space (before ++ ⟨left, p, right⟩ :: after)
    have read := toOption_loadArray_padded first last space (before ++ ⟨left, p, right⟩ :: after)
    rw [mapM_gap] at read
    rw [load_of_array_eq (by rw [fill, String.toList_ofList, array]), fill, String.toList_ofList,
      toOption_accept (read ▸ ne_nil_of_around)]
    exact read
  | line above below free left right =>
    refine ⟨Json.maxDepth - 1, (loadLinesFrom 1 above).toOption,
      (loadLinesFrom (1 + above.length + 1) below).toOption, ?_, fun p nested taken => ?_⟩
    · intro first loaded
      exact length_of_loadLinesFrom (toOption_eq_some_iff.mp loaded)
    · obtain ⟨feed, lines⟩ := taken
      have read := toOption_loadLines_gap free nested feed
      rw [load_of_lines_eq lines, fill, String.toList_ofList,
        toOption_accept (read ▸ ne_nil_of_around)]
      exact read

end RequestFilter.Request
