import RequestFilter.Proofs.Query.Algebra
import RequestFilter.Proofs.Query.Rule

/-!
Whether a text that occurs in what was recorded is found there.

What is sought and what was recorded are lowered each by itself and then compared. So an occurrence
is found if it has the lower form that it has alone; only a capital sigma at its edge can have
another one, where a word goes on over the edge.
-/

set_option autoImplicit false

namespace RequestFilter

/-! ### What is compared -/

private theorem Request.matchesTerm_iff (r : Request) {t : String} (filled : t ≠ "")
    (plain : t.toList.head? ≠ some '-') :
    r.matchesTerm t = true ↔ Text.lowerList t.toList <:+: Text.lowerList r.url.toList := by
  have sought := (r.matchesTerm_dash (by simpa using filled) plain).1
  rw [String.ofList_toList] at sought
  rw [sought, Text.hasInfix_iff]

namespace Flag

/-- Whether a flag seeks a text in the lower form of what was recorded, as it is. -/
def seeksPart : Flag → Bool
  | .protocol | .domain | .cause | .setCookieName | .setCookieValue => true
  | _ => false

private theorem ignoresCase_of_seeksPart {f : Flag} (seeks : f.seeksPart = true) :
    f.ignoresCase = true := by
  cases f with
  | protocol | domain | cause | setCookieName | setCookieValue => rfl
  | _ => cases seeks

private theorem agrees_lower_iff_infix {f : Flag} (seeks : f.seeksPart = true)
    (port : Option UInt16) (value t : String) :
    f.agrees port value (Text.lower t) = true ↔
      Text.lowerList t.toList <:+: Text.lowerList value.toList := by
  have infixes : Text.holds (Text.lower value) (Text.lower t) = true ↔
      Text.lowerList t.toList <:+: Text.lowerList value.toList := by
    rw [Text.holds_iff, Text.lower, Text.lower, String.toList_ofList, String.toList_ofList]
  cases f with
  | protocol | domain | cause | setCookieName | setCookieValue => exact infixes
  | _ => cases seeks

private theorem exists_observed_eq {f : Flag} (seeks : f.seeksPart = true) (v : String) :
    ∃ r : Request, r.observed f = [v] := by
  cases f with
  | protocol => exact ⟨{ httpVersion := some v }, rfl⟩
  | domain => exact ⟨{ urlDetails := some { host := v } }, rfl⟩
  | cause => exact ⟨{ cause := some { kind := some v } }, rfl⟩
  | setCookieName => exact ⟨{ responseCookies := some [{ name := v }] }, rfl⟩
  | setCookieValue => exact ⟨{ responseCookies := some [{ value := v }] }, rfl⟩
  | _ => cases seeks

end Flag

private theorem Predicate.holds_iff_infix {f : Flag} (seeks : f.seeksPart = true) (r : Request)
    {t : String} (filled : t ≠ "") :
    holds ⟨f, f.valueOf t, false⟩ r = true ↔
      ∃ value ∈ r.observed f, Text.lowerList t.toList <:+: Text.lowerList value.toList := by
  have texts : (f.ignoresCase || f.keepsCase) = true := by
    rw [Flag.ignoresCase_of_seeksPart seeks, Bool.true_or]
  rw [f.valueOf_eq_lower texts filled, holds_text r texts (Text.lower_ne_empty filled),
    Bool.bne_false, List.any_eq_true]
  simp only [f.agrees_lower_iff_infix seeks]

/-! ### What is found -/

/-- A text that occurs is found, as a term in the URL and as the value of a flag that seeks parts,
where no sigma at its edge is turned by what stands beside it. A text is found wherever it occurs
exactly if it has no such sigma. -/
theorem finds_occurrences_iff {t : String} (filled : t ≠ "") :
    (∀ left right : List Char, ¬Text.TurnsSigma left t.toList right →
        (t.toList.head? ≠ some '-' → ∀ r : Request,
          r.url.toList = left ++ t.toList ++ right → r.matchesTerm t = true) ∧
        ∀ f : Flag, f.seeksPart = true → ∀ r : Request, ∀ value ∈ r.observed f,
          value.toList = left ++ t.toList ++ right →
            Predicate.holds ⟨f, f.valueOf t, false⟩ r = true) ∧
      (t.toList.head? ≠ some '-' →
        ((∀ r : Request, t.toList <:+: r.url.toList → r.matchesTerm t = true) ↔
          ¬Text.HasEdgeSigma t.toList)) ∧
      ∀ f : Flag, f.seeksPart = true →
        ((∀ r : Request, ∀ value ∈ r.observed f, t.toList <:+: value.toList →
            Predicate.holds ⟨f, f.valueOf t, false⟩ r = true) ↔
          ¬Text.HasEdgeSigma t.toList) := by
  refine ⟨fun left right kept => ⟨fun plain r url => ?_, fun f seeks r value observed whole => ?_⟩,
    fun plain => ?_, fun f seeks => ?_⟩
  · rw [r.matchesTerm_iff filled plain, url]
    exact Text.lowerList_infix_of_not_turnsSigma kept
  · rw [Predicate.holds_iff_infix seeks r filled]
    exact ⟨value, observed, whole ▸ Text.lowerList_infix_of_not_turnsSigma kept⟩
  · rw [← Text.infix_everywhere_iff]
    constructor
    · intro found left right
      have kept := found { url := .ofList (left ++ t.toList ++ right) }
        (by rw [String.toList_ofList]; exact List.infix_append _ _ _)
      rwa [Request.matchesTerm_iff _ filled plain, String.toList_ofList] at kept
    · rintro found r ⟨left, right, url⟩
      rw [r.matchesTerm_iff filled plain, ← url]
      exact found left right
  · rw [← Text.infix_everywhere_iff]
    constructor
    · intro found left right
      -- any surroundings of the text are those in the value of some request
      obtain ⟨r, only⟩ := f.exists_observed_eq seeks (.ofList (left ++ t.toList ++ right))
      have kept := found r _ (by rw [only]; exact List.mem_singleton_self _)
        (by rw [String.toList_ofList]; exact List.infix_append _ _ _)
      rw [Predicate.holds_iff_infix seeks r filled, only] at kept
      simpa using kept
    · rintro found r value observed ⟨left, right, whole⟩
      rw [Predicate.holds_iff_infix seeks r filled]
      exact ⟨value, observed, whole ▸ found left right⟩

/-- A sigma at the end of a text is found at the end of a word, but not wherever the text occurs. -/
theorem finds_occurrences_iff_applied :
    let r : Request :=
      { url := "https://a.test/ΑΣ/x", cause := some { kind := some "-ΑΣ." } }
    ¬Text.TurnsSigma "https://a.test/".toList "ΑΣ".toList "/x".toList ∧
      r.matchesTerm "ΑΣ" = true ∧
      Predicate.holds ⟨.cause, Flag.cause.valueOf "ΑΣ", false⟩ r = true ∧
      Text.HasEdgeSigma "ΑΣ".toList ∧
      ¬∀ r : Request, "ΑΣ".toList <:+: r.url.toList → r.matchesTerm "ΑΣ" = true := by
  intro r
  have kept : ¬Text.TurnsSigma "https://a.test/".toList "ΑΣ".toList "/x".toList := by decide
  have edge : Text.HasEdgeSigma "ΑΣ".toList :=
    @Text.HasEdgeSigma.last ['Α'] [] (by decide) (by simp)
  obtain ⟨places, terms, -⟩ := finds_occurrences_iff (t := "ΑΣ") (by decide)
  refine ⟨kept, (places _ _ kept).1 (by decide) r (by decide), ?_, edge, fun found => ?_⟩
  · exact (places ['-'] ['.'] (by decide)).2 .cause (by decide) r "-ΑΣ." (by decide) (by decide)
  · exact (terms (by decide)).mp found edge

/-- Within a longer word a sigma is not lowered as at its end: the text occurs but is not found. -/
theorem not_found_within_word :
    let r : Request :=
      { url := "https://a.test/ΑΣΒ", responseCookies := some [{ name := "n", value := "ΑΣΒ" }] }
    "ΑΣ" ≠ "" ∧ (∀ c ∈ "ΑΣ".toList, Text.isBlank c = false) ∧ "ΑΣ".toList.head? ≠ some '-' ∧
      "ΑΣ".toList <:+: r.url.toList ∧ r.matchesTerm "ΑΣ" = false ∧
      "ΑΣΒ" ∈ r.observed .setCookieValue ∧ "ΑΣ".toList <:+: "ΑΣΒ".toList ∧
      Predicate.holds ⟨.setCookieValue, Flag.setCookieValue.valueOf "ΑΣ", false⟩ r = false := by
  intro r
  exact ⟨by decide, Text.solid_of_all (by decide), by decide,
    (Text.hasInfix_iff _ _).mp (by decide), by decide, by decide,
    (Text.hasInfix_iff _ _).mp (by decide), by decide⟩

end RequestFilter
