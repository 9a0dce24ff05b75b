import RequestFilter.Proofs.Request.Json
import RequestFilter.Proofs.Text.Lines
import RequestFilter.Session

/-!
What filtering writes can be loaded again.

Each request that is kept is written as one object on a line of its own. Such a line has no line
feed in it, neither begins nor ends with a blank, and does not open an array, so loading the lines
reads exactly these requests.
-/

set_option autoImplicit false

namespace RequestFilter

namespace Json

private theorem isLine_object {levels : Nat} {ms : List (String × Value)}
    (fits : (Value.object ms).Fits levels) : Text.IsLine (Value.object ms).text where
  free feed := absurd (not_control_of_mem_text fits _ feed) (by decide)
  first := ⟨'{', (ends_objectText fits).1, by decide⟩
  last := ⟨'}', (ends_objectText fits).2, by decide⟩

end Json

namespace Request

private theorem toList_toLine (r : Request) : r.toLine.toList = r.toJson.text
    := String.toList_ofList

theorem isLine_toLine {r : Request} (sizes : r.HasWritableSizes) : Text.IsLine r.toLine.toList := by
  rw [toList_toLine]
  exact Json.isLine_object (reads 0 sizes).fits

private theorem decodeText_toLine {r : Request} (sizes : r.HasWritableSizes) :
    Json.decodeText decode r.toLine.toList = .ok r := by
  rw [toList_toLine]
  exact Json.decodeText_text (reads 123 sizes)

private theorem loadLinesFrom_toLine {rs : List Request} (sizes : ∀ r ∈ rs, r.HasWritableSizes)
    (line : Nat) :
    loadLinesFrom line (rs.map fun r => r.toLine.toList) = .ok rs := by
  induction rs generalizing line with
  | nil => rfl
  | cons r rs ih =>
    have here := sizes r List.mem_cons_self
    have later := ih (fun s hs => sizes s (List.mem_cons_of_mem r hs)) (line + 1)
    obtain ⟨c, cs, text⟩ := List.exists_cons_of_ne_nil (isLine_toLine here).ne_nil
    have read := decodeText_toLine here
    rw [text] at read
    rw [List.map_cons, loadLinesFrom, (isLine_toLine here).trim_eq, text]
    simp only [read, later, Except.map]

theorem load_of_lines {rs : List Request} (nonempty : rs ≠ [])
    (sizes : ∀ r ∈ rs, r.HasWritableSizes) {text : String}
    (lines : Text.lines text.toList = rs.map fun r => r.toLine.toList)
    (object : isArrayText text.toList = false) : load text = .ok rs := by
  have loaded : loadLines text.toList = .ok rs := by
    rw [loadLines, lines, loadLinesFrom_toLine sizes]
  have some : rs.isEmpty = false := by simpa using nonempty
  simp only [load, object, Bool.false_eq_true, if_false, loaded, bind, Except.bind, some]

theorem isArrayText_toLine {r : Request} (sizes : r.HasWritableSizes) (rest : List Char) :
    isArrayText (r.toLine.toList ++ rest) = false := by
  rw [isArrayText, (isLine_toLine sizes).trimLeft_append, toList_toLine]
  rfl

/-! ### What was loaded -/

private theorem hasFiniteSizes_of_decodeText {text : List Char} {r : Request}
    (h : Json.decodeText decode text = .ok r) : r.HasFiniteSizes := by
  obtain ⟨node, decoded⟩ := Json.exists_of_decodeText h
  exact hasFiniteSizes_of_decode decoded

private theorem hasFiniteSizes_of_loadLinesFrom {line : Nat} {texts : List (List Char)}
    {rs : List Request} (h : loadLinesFrom line texts = .ok rs) : ∀ r ∈ rs, r.HasFiniteSizes := by
  induction texts generalizing line rs with
  | nil =>
    rw [loadLinesFrom] at h
    cases h
    intro r hr
    cases hr
  | cons text texts ih =>
    rw [loadLinesFrom] at h
    split at h
    · exact ih h
    · split at h
      · cases h
      · rename_i r decoded
        obtain ⟨others, later, rfl⟩ := exists_of_map_eq_ok h
        exact List.forall_mem_cons.mpr ⟨hasFiniteSizes_of_decodeText decoded, ih later⟩

private theorem hasFiniteSizes_of_loadArray {text : List Char} {rs : List Request}
    (h : loadArray text = .ok rs) : ∀ r ∈ rs, r.HasFiniteSizes := by
  obtain ⟨node, decoded⟩ := Json.exists_of_decodeText (eq_ok_of_mapError_eq_ok h)
  exact Json.forall_mem_of_list (fun _ _ _ => hasFiniteSizes_of_decode) decoded

/-- The sizes of the requests of a dump are finite. -/
theorem hasFiniteSizes_of_load {text : String} {rs : List Request} (h : load text = .ok rs) :
    ∀ r ∈ rs, r.HasFiniteSizes := by
  have checked {loaded : List Request}
      (h : (if loaded.isEmpty then Except.error LoadError.empty else .ok loaded) = .ok rs) :
      loaded = rs := by
    split at h <;> cases h
    rfl
  unfold load at h
  dsimp only at h
  split at h
  · obtain ⟨loaded, read, h⟩ := exists_of_bind_eq_ok h
    exact checked h ▸ hasFiniteSizes_of_loadArray read
  · obtain ⟨loaded, read, h⟩ := exists_of_bind_eq_ok h
    exact checked h ▸ hasFiniteSizes_of_loadLinesFrom read

/-! ### Loading what was written -/

/-- Requests are loaded from their dump. -/
theorem load_dump {rs : List Request} (nonempty : rs ≠ [])
    (sizes : ∀ r ∈ rs, r.HasWritableSizes) : load (Session.dump rs) = .ok rs := by
  have text : (Session.dump rs).toList = ['\n'].intercalate (rs.map fun r => r.toLine.toList) := by
    rw [Session.dump, String.toList_intercalate, List.map_map]
    rfl
  have each : ∀ l ∈ rs.map (fun r => r.toLine.toList), Text.IsLine l := by
    intro l hl
    obtain ⟨r, hr, rfl⟩ := List.mem_map.mp hl
    exact isLine_toLine (sizes r hr)
  apply load_of_lines nonempty sizes
  · rw [text, Text.lines_intercalate (by simpa using nonempty) each]
  · rw [text]
    cases rs with
    | nil => exact absurd rfl nonempty
    | cons r rs =>
      have here := sizes r List.mem_cons_self
      cases rs with
      | nil => simpa using isArrayText_toLine here []
      | cons s rs =>
        rw [List.map_cons, List.map_cons, List.intercalate_cons_cons, List.append_assoc]
        exact isArrayText_toLine here _

/-- Requests whose sizes are counts are loaded from their dump. -/
theorem load_dump_of_counts {rs : List Request} (nonempty : rs ≠ [])
    (counts : ∀ r ∈ rs, ∀ x, x ∈ r.contentSize ∨ x ∈ r.transferredSize →
      ∃ n, 20 * n < 2 * Double.binade ∧ x = .ofNat n) : load (Session.dump rs) = .ok rs := by
  have isFinite {r : Request} (hr : r ∈ rs) {x : Double}
      (known : x ∈ r.contentSize ∨ x ∈ r.transferredSize) : x.isFinite = true := by
    obtain ⟨n, small, rfl⟩ := counts r hr x known
    exact Double.IsShort.isFinite_ofNat (.of_lt (by omega))
  have readBack {r : Request} (hr : r ∈ rs) {x : Double}
      (known : x ∈ r.contentSize ∨ x ∈ r.transferredSize) : Json.IsReadBack x := by
    obtain ⟨n, small, rfl⟩ := counts r hr x known
    exact Json.isReadBack_ofNat small
  exact load_dump nonempty fun r hr =>
    ⟨⟨fun _ hx => isFinite hr (.inl hx), fun _ hx => isFinite hr (.inr hx)⟩,
      fun _ hx => readBack hr (.inl hx), fun _ hx => readBack hr (.inr hx)⟩

end Request

theorem filterRequests_filterRequests (rs : List Request) (text : String) (s : CategorySet) :
    filterRequests (filterRequests rs text s) text s = filterRequests rs text s := by
  simp [filterRequests, List.filter_filter]

/-- What is kept of a dump and written is loaded as what was kept, and all of it is kept again, if
the sizes that are kept are read from their texts as they are. -/
theorem load_dump_filterRequests {text : String} {rs : List Request}
    (loaded : Request.load text = .ok rs) (query : String) (s : CategorySet)
    (some : filterRequests rs query s ≠ [])
    (readBack : ∀ r ∈ filterRequests rs query s, r.HasReadBackSizes) :
    Request.load (Session.dump (filterRequests rs query s)) = .ok (filterRequests rs query s) ∧
      filterRequests (filterRequests rs query s) query s = filterRequests rs query s := by
  have sizes : ∀ r ∈ filterRequests rs query s, r.HasWritableSizes := by
    intro r kept
    exact ⟨Request.hasFiniteSizes_of_load loaded r (List.mem_filter.mp kept).1, readBack r kept⟩
  exact ⟨Request.load_dump some sizes, filterRequests_filterRequests rs query s⟩

/-- Two lines with a blank one between them, of which the first is kept. Its status is a number, its
cookies stand in an object of their own, and its method has a line feed in it. -/
theorem load_dump_filterRequests_applied :
    let text := "\x7b\"url\":\"https://a.test/\",\"method\":\"a\\nb\",\"status\":200," ++
      "\"contentSize\":0.1,\"responseCookies\":\x7b\"cookies\":[\x7b\"name\":\"c\",\"domain\":null\x7d]\x7d\x7d\n\n" ++
      "\x7b\"url\":\"https://b.test/\",\"fromCache\":null\x7d"
    let first : Request :=
      { url := "https://a.test/", method := some "a\nb", status := some "200",
        contentSize := some (Decimal.toDouble false ⟨1, -1⟩),
        responseCookies := some [{ name := "c" }] }
    let second : Request := { url := "https://b.test/" }
    let kept := filterRequests [first, second] "status-code:200" .full
    Request.load text = .ok [first, second] ∧ kept = [first] ∧ kept ≠ [] ∧
      Request.load (Session.dump kept) = .ok kept ∧
        filterRequests kept "status-code:200" .full = kept := by
  intro text first second kept
  have loaded : Request.load text = .ok [first, second] := by decide +kernel
  have one : kept = [first] := by decide +kernel
  have some : kept ≠ [] := by
    rw [one]
    exact List.cons_ne_nil _ _
  have tenth : Decimal.toDouble false ⟨1, -1⟩ = .ranked false 0x3FB999999999999A (by decide) := by
    decide +kernel
  have read : Json.IsReadBack (Decimal.toDouble false ⟨1, -1⟩) := by
    rw [tenth]
    exact Json.isReadBack_of_shortest false _ (by decide +kernel) (by decide +kernel)
  have readBack : ∀ r ∈ kept, r.HasReadBackSizes := by
    rw [one]
    exact List.forall_mem_singleton.mpr ⟨by simpa [first] using read, by simp [first]⟩
  exact ⟨loaded, one, some, load_dump_filterRequests loaded "status-code:200" .full some readBack⟩

end RequestFilter
