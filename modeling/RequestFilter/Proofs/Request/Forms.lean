import Mathlib.Data.List.Basic
import RequestFilter.Proofs.Json.Local
import RequestFilter.Proofs.Json.Quoted
import RequestFilter.Proofs.Request.Lines
import RequestFilter.Proofs.Request.Shape

/-!
A dump of lines and the same dump as one array.

An object on a line of its own is decoded with all levels of nesting left and nothing after it, and
an element of an array with one level fewer and the rest of the array after it. Decoding a request
is local, so neither matters, and both forms give the requests of their objects one by one.
-/

set_option autoImplicit false

namespace RequestFilter

open Json (Padded Phrase Spaces)

/-! ### Requests are decoded locally -/

private theorem UrlDetails.isLocal_decode : Json.IsLocal UrlDetails.shape.decode := by
  apply Json.Shape.isLocal_decode
  simp only [UrlDetails.shape, List.forall_mem_cons]
  exact ⟨.defaulted _ _ (Json.isLocal_string.orDefault ""),
    .defaulted _ _ (Json.isLocal_string.orDefault ""), List.forall_mem_nil _⟩

private theorem Cause.isLocal_decode : Json.IsLocal Cause.shape.decode := by
  apply Json.Shape.isLocal_decode
  simp only [Cause.shape, List.forall_mem_cons]
  exact ⟨.defaulted _ _ Json.isLocal_string.optional, List.forall_mem_nil _⟩

private theorem Header.isLocal_decode : Json.IsLocal Header.shape.decode := by
  apply Json.Shape.isLocal_decode
  simp only [Header.shape, List.forall_mem_cons]
  exact ⟨.defaulted _ _ (Json.isLocal_string.orDefault ""),
    .defaulted _ _ (Json.isLocal_string.orDefault ""), List.forall_mem_nil _⟩

private theorem ResponseHeaders.isLocal_decode : Json.IsLocal ResponseHeaders.shape.decode := by
  apply Json.Shape.isLocal_decode
  simp only [ResponseHeaders.shape, List.forall_mem_cons]
  exact ⟨.defaulted _ _ (Header.isLocal_decode.list.orDefault []), List.forall_mem_nil _⟩

namespace Request

private theorem isLocal_decode : Json.IsLocal decode := by
  apply Json.Shape.isLocal_decode
  simp only [shape, List.forall_mem_cons]
  exact ⟨.defaulted _ _ Json.isLocal_string,
    .defaulted _ _ Json.isLocal_string.optional,
    .defaulted _ _ (Json.isLocal_choice _ _).optional,
    .defaulted _ _ Json.isLocal_string.optional,
    .defaulted _ _ UrlDetails.isLocal_decode.optional,
    .defaulted _ _ Json.isLocal_string.optional,
    .defaulted _ _ Json.isLocal_word16.optional,
    .defaulted _ _ Cause.isLocal_decode.optional,
    .defaulted _ _ Json.isLocal_string.optional,
    .defaulted _ _ Json.isLocal_double.optional,
    .defaulted _ _ Json.isLocal_double.optional,
    .defaulted _ _ (Json.isLocal_boolean.orDefault false),
    .defaulted _ _ ResponseHeaders.isLocal_decode.optional,
    .defaulted _ _ (Json.isLocal_choice _ _).optional, List.forall_mem_nil _⟩

def ofPhrase? (depth : Nat) (p : Phrase) : Option Request := (decode depth (p.tree [])).toOption

/-! ### Objects on lines -/

theorem isBlank_of_isSpace {c : Char} (space : Json.isSpace c = true) : Text.isBlank c = true := by
  simp only [Json.isSpace, Bool.or_eq_true, decide_eq_true_eq] at space
  rcases space with ((rfl | rfl) | rfl) | rfl <;> decide

theorem isLine_of_isNested {p : Phrase} (nested : p.IsNested) (free : '\n' ∉ p.text) :
    Text.IsLine p.text := by
  cases nested with
  | array space items =>
    have ends := Phrase.ends_array space items
    exact ⟨free, ⟨'[', ends.1, by decide⟩, ⟨']', ends.2, by decide⟩⟩
  | object space members =>
    have ends := Phrase.IsObject.ends ⟨space, members, rfl⟩
    exact ⟨free, ⟨'{', ends.1, by decide⟩, ⟨'}', ends.2, by decide⟩⟩

theorem toOption_loadLine_of_isLine {i : Padded Phrase} (isLine : Text.IsLine i.part.text)
    (line : Nat) :
    (loadLine line i.text).toOption = (ofPhrase? Json.maxDepth i.part).map ([·]) := by
  have trimmed : Text.trim i.text = i.part.text := by
    rw [Padded.text, Text.trim_blanks
      (fun c hc => isBlank_of_isSpace (i.before.isSpace c hc))
      (fun c hc => isBlank_of_isSpace (i.after.isSpace c hc)), isLine.trim_eq]
  rw [loadLine, trimmed, if_neg isLine.ne_nil, toOption_map, toOption_mapError,
    ← Padded.text_bare, Json.toOption_decodeText]
  rfl

/-- An object of the language that stands on one line, with space around it. -/
structure StandsOnLine (i : Padded Phrase) : Prop where
  object : i.part.IsObject
  free : '\n' ∉ i.text

namespace StandsOnLine

variable {i : Padded Phrase}

private theorem isLine (h : StandsOnLine i) : Text.IsLine i.part.text := by
  obtain ⟨space, members, object⟩ := h.object
  have nested : i.part.IsNested := object ▸ .object space members
  exact isLine_of_isNested nested fun feed =>
    h.free (List.mem_append_left _ (List.mem_append_right _ feed))

private theorem isArrayText_append (h : StandsOnLine i) (cs : List Char) :
    isArrayText (i.text ++ cs) = false := by
  have blank (c : Char) (hc : c ∈ i.before.text) := isBlank_of_isSpace (i.before.isSpace c hc)
  obtain ⟨space, members, written⟩ := h.object
  rw [isArrayText, Text.trimLeft, Padded.text, List.append_assoc, List.append_assoc,
    List.dropWhile_append_of_pos blank, written]
  rfl

private theorem toOption_loadLine (h : StandsOnLine i) (line : Nat) :
    (loadLine line i.text).toOption = (ofPhrase? Json.maxDepth i.part).map ([·]) :=
  toOption_loadLine_of_isLine h.isLine line

end StandsOnLine

/-- An object on one line that is nested no deeper than a number of levels. -/
structure IsObjectLine (depth : Nat) (i : Padded Phrase) : Prop extends StandsOnLine i where
  fits : i.part.Fits depth

private theorem ofPhrase?_eq {depth levels : Nat} {p : Phrase} (fits : p.Fits depth)
    (room : depth ≤ levels) : ofPhrase? levels p = ofPhrase? depth p :=
  (isLocal_decode fits).toOption_eq room (Nat.le_refl depth) Json.Numeral.ends_nil
    Json.Numeral.ends_nil

private theorem exists_objectLines {depth : Nat} {texts : List (List Char)}
    (objects : ∀ cs ∈ texts, Json.IsObjectText depth cs) (free : ∀ cs ∈ texts, '\n' ∉ cs) :
    ∃ items : List (Padded Phrase), texts = items.map Padded.text ∧
      ∀ i ∈ items, IsObjectLine depth i := by
  induction texts with
  | nil => exact ⟨[], rfl, List.forall_mem_nil _⟩
  | cons cs texts ih =>
    obtain ⟨i, object, fits, rfl⟩ := objects cs List.mem_cons_self
    have here : IsObjectLine depth i := ⟨⟨object, free _ List.mem_cons_self⟩, fits⟩
    obtain ⟨items, rfl, others⟩ := ih (fun ds hds => objects ds (List.mem_cons_of_mem _ hds))
      (fun ds hds => free ds (List.mem_cons_of_mem _ hds))
    exact ⟨i :: items, rfl, List.forall_mem_cons.mpr ⟨here, others⟩⟩

/-! ### Both forms give the requests of their objects -/

section Forms

variable {depth : Nat} {items : List (Padded Phrase)}

private theorem toOption_loadLinesFrom (each : ∀ i ∈ items, StandsOnLine i) (line : Nat) :
    (loadLinesFrom line (items.map Padded.text)).toOption =
      items.mapM fun i => ofPhrase? Json.maxDepth i.part := by
  induction items generalizing line with
  | nil => rfl
  | cons i items ih =>
    have first := (each i List.mem_cons_self).toOption_loadLine line
    have later := ih (fun j hj => each j (List.mem_cons_of_mem i hj)) (line + 1)
    rw [List.map_cons, loadLinesFrom_cons, toOption_bind, first, List.mapM_cons, ← later]
    cases ofPhrase? Json.maxDepth i.part with
    | none => rfl
    | some r => cases loadLinesFrom (line + 1) (items.map Padded.text) <;> rfl

theorem toOption_loadLines_intercalate (nonempty : items ≠ [])
    (each : ∀ i ∈ items, StandsOnLine i) :
    (loadLines (['\n'].intercalate (items.map Padded.text))).toOption =
      items.mapM fun i => ofPhrase? Json.maxDepth i.part := by
  have cut : Text.pieces (['\n'].intercalate (items.map Padded.text)) = items.map Padded.text :=
    Text.pieces_intercalate (by simpa using nonempty)
      (List.forall_mem_map.mpr fun i hi => (each i hi).free)
  rw [loadLines_eq_pieces, cut, toOption_loadLinesFrom each]

private theorem toOption_loadLines (room : depth ≤ Json.maxDepth) (nonempty : items ≠ [])
    (each : ∀ i ∈ items, IsObjectLine depth i) :
    (loadLines (['\n'].intercalate (items.map Padded.text))).toOption =
      items.mapM fun i => ofPhrase? depth i.part := by
  rw [toOption_loadLines_intercalate nonempty fun i hi => (each i hi).toStandsOnLine]
  exact mapM_congr fun i hi => ofPhrase?_eq (each i hi).fits room

theorem toOption_loadArray_padded (first last space : Spaces) (items : List (Padded Phrase)) :
    (loadArray (Padded.text ⟨first, .array space items, last⟩)).toOption =
      items.mapM fun i => ofPhrase? (Json.maxDepth - 1) i.part := by
  rw [loadArray, toOption_mapError, Json.toOption_decodeText]
  exact isFreeForm.isFixed_decode.toOption_list_array _ _ _ _

theorem toOption_loadArray_intercalate (items : List (Padded Phrase)) :
    (loadArray ('[' :: [','].intercalate (items.map Padded.text) ++ [']'])).toOption =
      items.mapM fun i => ofPhrase? (Json.maxDepth - 1) i.part := by
  have text : '[' :: [','].intercalate (items.map Padded.text) ++ [']'] =
      Padded.text ⟨.empty, .array .empty items, .empty⟩ := by
    rw [← Padded.bare, Padded.text_bare, Phrase.text, Phrase.itemsText_eq_intercalate]
    rfl
  rw [text, toOption_loadArray_padded]

private theorem toOption_loadArray (room : depth < Json.maxDepth)
    (each : ∀ i ∈ items, IsObjectLine depth i) :
    (loadArray ('[' :: [','].intercalate (items.map Padded.text) ++ [']'])).toOption =
      items.mapM fun i => ofPhrase? depth i.part := by
  rw [toOption_loadArray_intercalate]
  exact mapM_congr fun i hi => ofPhrase?_eq (each i hi).fits (Nat.le_sub_one_of_lt room)

theorem isArrayText_lines (nonempty : items ≠ []) (each : ∀ i ∈ items, StandsOnLine i) :
    isArrayText (['\n'].intercalate (items.map Padded.text)) = false := by
  cases items with
  | nil => exact absurd rfl nonempty
  | cons i items =>
    have first := (each i List.mem_cons_self).isArrayText_append
    cases items with
    | nil => simpa using first []
    | cons j items =>
      rw [List.map_cons, List.map_cons, List.intercalate_cons_cons, List.append_assoc]
      exact first _

private theorem isArrayText_intercalate (nonempty : items ≠ [])
    (each : ∀ i ∈ items, IsObjectLine depth i) :
    isArrayText (['\n'].intercalate (items.map Padded.text)) = false :=
  isArrayText_lines nonempty fun i hi => (each i hi).toStandsOnLine

end Forms

theorem load_of_array_eq {text : String} (array : isArrayText text.toList = true) :
    load text = (do
      let requests ← loadArray text.toList
      if requests.isEmpty then .error .empty else .ok requests) := by
  simp only [load, array, if_true]

end Request

/-- Objects that stand one on each line are loaded as the same objects in one array are: both dumps
hold the same requests, or neither can be loaded. The objects must leave one of the levels that a
text may be nested, for the array around them. -/
theorem load_array_eq_ok_iff {depth : Nat} (shallow : depth < Json.maxDepth) {texts : List String}
    (nonempty : texts ≠ []) (objects : ∀ t ∈ texts, Json.IsObjectText depth t.toList)
    (oneLine : ∀ t ∈ texts, '\n' ∉ t.toList) (rs : List Request) :
    Request.load ("[" ++ ",".intercalate texts ++ "]") = .ok rs ↔
      Request.load ("\n".intercalate texts) = .ok rs := by
  obtain ⟨items, written, each⟩ : ∃ items : List (Padded Phrase),
      texts.map String.toList = items.map Padded.text ∧
        ∀ i ∈ items, Request.IsObjectLine depth i :=
    Request.exists_objectLines (by simpa using objects) (by simpa using oneLine)
  have filled : items ≠ [] := by
    rintro rfl
    exact nonempty (List.map_eq_nil_iff.mp written)
  have array : ("[" ++ ",".intercalate texts ++ "]").toList =
      '[' :: [','].intercalate (items.map Padded.text) ++ [']'] := by
    simp [String.toList_append, String.toList_intercalate, ← written]
  have lines : ("\n".intercalate texts).toList = ['\n'].intercalate (items.map Padded.text) := by
    rw [String.toList_intercalate, written]
    rfl
  have same := (Request.toOption_loadArray shallow each).trans
    (Request.toOption_loadLines (Nat.le_of_lt shallow) filled each).symm
  have opens : Request.isArrayText ("[" ++ ",".intercalate texts ++ "]").toList = true := by
    rw [array]
    rfl
  have opensNone : Request.isArrayText ("\n".intercalate texts).toList = false := by
    rw [lines]
    exact Request.isArrayText_intercalate filled each
  rw [Request.load_of_array_eq opens, Request.load_of_lines_eq opensNone, array, lines,
    ← toOption_eq_some_iff, ← toOption_eq_some_iff, toOption_bind, toOption_bind, same]

/-- Two objects with space around them. The first holds an unknown member with an empty object, a
numeral and half of a surrogate pair, for which there is no content. -/
theorem load_array_eq_ok_iff_applied :
    let first := "\x7b\"url\":\"a\\tb\", \"x\":[\x7b \x7d,-1.5E3,\"\\uD83D\"]\x7d\r"
    let second := " \x7b\"url\":\"c\"\x7d"
    let rs : List Request := [{ url := "a\tb" }, { url := "c" }]
    Json.IsObjectText 3 first.toList ∧ Json.IsObjectText 3 second.toList ∧
      Request.load ("\n".intercalate [first, second]) = .ok rs ∧
        Request.load ("[" ++ ",".intercalate [first, second] ++ "]") = .ok rs := by
  intro first second rs
  have formed : Json.Numeral.IsWellFormed ⟨true, ['1'], some ['5'], some (false, ['3'])⟩ := by
    refine ⟨Or.inr ⟨'1', [], rfl, by decide, by simp⟩, ?_, ?_⟩
    · rintro ds ⟨⟩
      exact ⟨List.cons_ne_nil _ _, by simp⟩
    · rintro power ⟨⟩
      exact ⟨List.cons_ne_nil _ _, by simp⟩
  have firstObject : Json.IsObjectText 3 first.toList := by
    dsimp only [first]
    let blank : Spaces := ⟨[' '], by simp [Json.isSpace]⟩
    let number : Phrase := .number ⟨_, ['E', '3'], formed, .unsigned (Or.inr rfl) ['3']⟩
    let half : Phrase := .string
      ⟨['\\', 'u', 'D', '8', '3', 'D', '"'], .code (Json.mem_hexDigits_of_all (by decide)) .close⟩
    let items : List (Padded Phrase) := [.bare (.object blank []), .bare number, .bare half]
    let members : List (Padded Json.QuotedText × Padded Phrase) :=
      [(.bare (.ofString "url"), .bare (.string (.ofString "a\tb"))),
        (⟨blank, .ofString "x", .empty⟩, .bare (.array .empty items))]
    refine ⟨⟨.empty, .object .empty members, ⟨['\r'], by simp [Json.isSpace]⟩⟩, ⟨_, _, rfl⟩, ?_,
      by rfl⟩
    have each : ∀ i ∈ items, i.part.Fits 1 := by
      simp only [items, List.forall_mem_cons]
      exact ⟨.object _ (List.forall_mem_nil _), .number 1 _, .string 1 _, List.forall_mem_nil _⟩
    apply Phrase.Fits.object
    simp only [members, List.forall_mem_cons]
    exact ⟨.string 2 _, .array .empty each, List.forall_mem_nil _⟩
  have secondObject : Json.IsObjectText 3 second.toList := by
    dsimp only [second]
    refine ⟨⟨⟨[' '], by simp [Json.isSpace]⟩, .object .empty
      [(.bare (.ofString "url"), .bare (.string (.ofString "c")))], .empty⟩, ⟨_, _, rfl⟩,
      .object .empty ?_, by rfl⟩
    simp only [List.forall_mem_cons]
    exact ⟨.string 2 _, List.forall_mem_nil _⟩
  have loaded : Request.load ("\n".intercalate [first, second]) = .ok rs := by decide +kernel
  have shallow : 3 < Json.maxDepth := by decide
  have objects : ∀ t ∈ [first, second], Json.IsObjectText 3 t.toList :=
    List.forall_mem_cons.mpr ⟨firstObject, List.forall_mem_singleton.mpr secondObject⟩
  have oneLine : ∀ t ∈ [first, second], '\n' ∉ t.toList := by decide
  refine ⟨firstObject, secondObject, loaded, ?_⟩
  exact (load_array_eq_ok_iff shallow (List.cons_ne_nil _ _) objects oneLine rs).mpr loaded

end RequestFilter
