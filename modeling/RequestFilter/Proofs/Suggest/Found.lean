import RequestFilter.Proofs.Query.Matcher
import RequestFilter.Proofs.Query.Rule

/-!
Whether a value that is suggested for a flag finds the request on which it was observed.

The value is lowered when it is typed. A flag that compares lower forms always finds the request
again. A flag that compares with what was recorded finds it only through a recorded value that
agrees with the lower form.
-/

set_option autoImplicit false

namespace RequestFilter

section Typed

variable {f : Flag} (texts : (f.ignoresCase || f.keepsCase) = true) {v : String} (ne : v ≠ "")
  (solid : ∀ c ∈ v.toList, Text.isBlank c = false) {negative : Bool} {text : String}
  (spelled : text.toList = f.token negative v.toList)

include texts ne solid spelled

private theorem parse_value :
    Query.parse text = ⟨[], [⟨f, .text (Text.lower v), negative⟩]⟩ := by
  have filled : text.toList ≠ [] := by
    rw [spelled]
    exact f.token_ne_nil negative v.toList
  have whole : ∀ c ∈ text.toList, Text.isBlank c = false := by
    rw [spelled]
    exact f.token_solid negative solid
  rw [Query.parse_solid filled whole, spelled]
  simp only [Query.consToken, Predicate.ofToken?_token, String.ofList_toList,
    Flag.valueOf_eq_lower texts ne]
  rfl

private theorem matchesFilter_value (r : Request) :
    r.matchesFilter text =
      (((r.observed f).any fun value => f.agrees r.remotePort value (Text.lower v)) !=
        negative) := by
  rw [Request.matchesFilter_eq_accepts, parse_value texts ne solid spelled]
  simp only [Query.accepts, List.all_nil, List.all_cons, Bool.true_and, Bool.and_true,
    Predicate.holds_text r texts (Text.lower_ne_empty ne)]

end Typed

/-! ### Flags that compare lower forms -/

/-- A value that was observed on a request finds it: the flag with this value keeps the request, and
the flag with a dash and this value does not. -/
theorem matchesFilter_observed (r : Request) {f : Flag} (folds : f.ignoresCase = true) {v : String}
    (observed : v ∈ r.observed f) (ne : v ≠ "") (solid : ∀ c ∈ v.toList, Text.isBlank c = false) :
    Query.parse (f.name ++ ":" ++ v) = ⟨[], [⟨f, .text (Text.lower v), false⟩]⟩ ∧
      r.matchesFilter (f.name ++ ":" ++ v) = true ∧
      r.matchesFilter ("-" ++ f.name ++ ":" ++ v) = false := by
  have texts : (f.ignoresCase || f.keepsCase) = true := by rw [folds, Bool.true_or]
  have found :
      ((r.observed f).any fun value => f.agrees r.remotePort value (Text.lower v)) = true :=
    List.any_eq_true.mpr ⟨v, observed, Flag.agrees_lower folds r.remotePort v⟩
  refine ⟨parse_value texts ne solid (f.toList_token v), ?_, ?_⟩
  · rw [matchesFilter_value texts ne solid (f.toList_token v), found]
    rfl
  · rw [matchesFilter_value texts ne solid (f.toList_token_dash v), found]
    rfl

/-- An address whose last letter is a capital sigma, which is lowered in brackets before a port. -/
theorem matchesFilter_observed_sigma :
    let r : Request := { url := "u", remoteAddress := some "::ΑΣ", remotePort := some 443 }
    Query.parse (Flag.remoteIp.name ++ ":" ++ "::ΑΣ") =
        ⟨[], [⟨.remoteIp, .text (Text.lower "::ΑΣ"), false⟩]⟩ ∧
      r.matchesFilter (Flag.remoteIp.name ++ ":" ++ "::ΑΣ") = true ∧
      r.matchesFilter ("-" ++ Flag.remoteIp.name ++ ":" ++ "::ΑΣ") = false := by
  intro r
  exact matchesFilter_observed r (f := .remoteIp) (by decide) (v := "::ΑΣ") (by decide) (by decide)
    (Text.solid_of_all (by decide))

/-! ### Flags that compare values as recorded -/

private theorem observed_eq_singleton {r : Request} {f : Flag} (recorded : f.keepsCase = true)
    (single : f ≠ .setCookieDomain) {v : String} (observed : v ∈ r.observed f) :
    r.observed f = [v] := by
  have only {known : Option String} (member : v ∈ known.toList) : known.toList = [v] := by
    rw [Option.mem_toList.mp member]
    rfl
  cases f with
  | statusCode | scheme | mimeType => exact only observed
  | setCookieDomain => exact absurd rfl single
  | _ => cases recorded

/-- A value that was observed on a request finds it if the value has no other lower form. For a
status, a scheme and a type there is no other way; a domain of a cookie also finds the request
through another domain that holds its lower form. -/
theorem matchesFilter_observed_iff (r : Request) {f : Flag} (recorded : f.keepsCase = true)
    {v : String} (observed : v ∈ r.observed f) (ne : v ≠ "")
    (solid : ∀ c ∈ v.toList, Text.isBlank c = false) :
    (Text.lower v = v → r.matchesFilter (f.name ++ ":" ++ v) = true) ∧
      (f ≠ .setCookieDomain →
        (r.matchesFilter (f.name ++ ":" ++ v) = true ↔ Text.lower v = v)) ∧
      (f = .setCookieDomain →
        (r.matchesFilter (f.name ++ ":" ++ v) = true ↔
          ∃ domain ∈ r.observed f, Text.holds domain (Text.lower v) = true)) := by
  have texts : (f.ignoresCase || f.keepsCase) = true := by rw [recorded, Bool.or_true]
  have kept : r.matchesFilter (f.name ++ ":" ++ v) = true ↔
      ∃ value ∈ r.observed f, f.agrees r.remotePort value (Text.lower v) = true := by
    rw [matchesFilter_value texts ne solid (f.toList_token v), Bool.bne_false, List.any_eq_true]
  refine ⟨?_, ?_, ?_⟩
  · intro same
    exact kept.mpr ⟨v, observed, (Flag.agrees_lower_iff recorded r.remotePort v).mpr same⟩
  · intro single
    rw [kept, observed_eq_singleton recorded single observed]
    simp only [List.mem_singleton, exists_eq_left]
    exact Flag.agrees_lower_iff recorded r.remotePort v
  · rintro rfl
    exact kept

/-- A scheme in lower case, and a domain in capitals next to the host in lower case. -/
theorem matchesFilter_observed_iff_applied :
    let r : Request :=
      { url := "https://shop.test/"
        responseCookies := some [{ name := "a", domain := some "Shop.Test" }, { name := "b" }] }
    r.matchesFilter (Flag.scheme.name ++ ":" ++ "https") = true ∧
      (r.matchesFilter (Flag.setCookieDomain.name ++ ":" ++ "Shop.Test") = true ↔
        ∃ domain ∈ r.observed .setCookieDomain,
          Text.holds domain (Text.lower "Shop.Test") = true) ∧
      ∃ domain ∈ r.observed .setCookieDomain,
        Text.holds domain (Text.lower "Shop.Test") = true := by
  intro r
  refine ⟨?_, ?_, "shop.test", by decide, by decide⟩
  · exact (matchesFilter_observed_iff r (f := .scheme) (by decide) (v := "https") (by decide)
      (by decide) (Text.solid_of_all (by decide))).1 (by decide)
  · exact (matchesFilter_observed_iff r (f := .setCookieDomain) (by decide) (v := "Shop.Test")
      (by decide) (by decide) (Text.solid_of_all (by decide))).2.2 rfl

/-- A type in capitals does not find the request on which it was observed. -/
theorem not_matchesFilter_observed_type :
    let r : Request := { url := "https://a.test/", mimeType := some "Text/HTML" }
    "Text/HTML" ∈ r.observed .mimeType ∧ "Text/HTML" ≠ "" ∧
      (∀ c ∈ "Text/HTML".toList, Text.isBlank c = false) ∧
      r.matchesFilter (Flag.mimeType.name ++ ":" ++ "Text/HTML") = false :=
  ⟨by decide, by decide, Text.solid_of_all (by decide), by decide⟩

end RequestFilter
