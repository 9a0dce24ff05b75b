import RequestFilter.Proofs.Query.Rule
import RequestFilter.Proofs.Url.Ascii

/-!
Requests that differ in the case of ASCII letters only.

What is observed on such requests differs in the case of letters only, and terms and most flags
compare lower forms, which are the same. So it does not matter in which case a text was recorded or
typed.
-/

set_option autoImplicit false

namespace RequestFilter

open Text (lowerAscii)

/-! ### The texts of a request -/

def Header.mapText (f : String → String) (h : Header) : Header := ⟨f h.name, f h.value⟩

def Cookie.mapText (f : String → String) (c : Cookie) : Cookie :=
  ⟨f c.name, f c.value, c.domain.map f⟩

namespace Request

/-- A request with every text in it replaced. -/
def mapText (f : String → String) (r : Request) : Request :=
  { r with
    url := f r.url
    method := r.method.map f
    status := r.status.map f
    httpVersion := r.httpVersion.map f
    urlDetails := r.urlDetails.map fun d => ⟨f d.scheme, f d.host⟩
    remoteAddress := r.remoteAddress.map f
    cause := r.cause.map fun c => ⟨c.kind.map f⟩
    mimeType := r.mimeType.map f
    responseHeaders := r.responseHeaders.map fun h => ⟨h.headers.map (Header.mapText f)⟩
    responseCookies := r.responseCookies.map (List.map (Cookie.mapText f)) }

/-- Whether two requests differ in the case of ASCII letters in their texts only. -/
def SameLetters (r r' : Request) : Prop := r.mapText lowerAscii = r'.mapText lowerAscii

instance (r r' : Request) : Decidable (r.SameLetters r') :=
  inferInstanceAs (Decidable (r.mapText lowerAscii = r'.mapText lowerAscii))

variable (r : Request)

private theorem headers_mapText (f : String → String) :
    (r.mapText f).headers?.getD [] = (r.headers?.getD []).map (Header.mapText f) := by
  cases known : r.responseHeaders <;> simp [headers?, mapText, known]

private theorem cookies_mapText (f : String → String) :
    (r.mapText f).cookies = r.cookies.map (Cookie.mapText f) := by
  cases known : r.responseCookies <;> simp [cookies, mapText, known]

private theorem causeKind?_mapText (f : String → String) :
    (r.mapText f).causeKind? = r.causeKind?.map f := by
  cases known : r.cause <;> simp [causeKind?, mapText, known]

private theorem scheme?_mapText : (r.mapText lowerAscii).scheme? = r.scheme?.map lowerAscii := by
  cases known : r.urlDetails <;> simp [scheme?, mapText, known, Url.scheme?_lowerAscii]

private theorem host?_mapText : (r.mapText lowerAscii).host? = r.host?.map lowerAscii := by
  cases known : r.urlDetails <;> simp [host?, mapText, known, Url.host?_lowerAscii]

private theorem cookieDomain?_mapText (c : Cookie) :
    (r.mapText lowerAscii).cookieDomain? (c.mapText lowerAscii) =
      (r.cookieDomain? c).map lowerAscii := by
  cases given : c.domain <;> simp [cookieDomain?, Cookie.mapText, given, host?_mapText]

private theorem observed_mapText (f : Flag) :
    (r.mapText lowerAscii).observed f = (r.observed f).map lowerAscii := by
  have single (known : Option String) :
      (known.map lowerAscii).toList = known.toList.map lowerAscii := by
    cases known <;> rfl
  cases f with
  | statusCode => exact single r.status
  | method => exact single r.method
  | protocol => exact single r.httpVersion
  | remoteIp => exact single r.remoteAddress
  | mimeType => exact single r.mimeType
  | scheme => rw [observed, observed, scheme?_mapText, single]
  | domain => rw [observed, observed, host?_mapText, single]
  | cause => rw [observed, observed, causeKind?_mapText, single]
  | hasResponseHeader =>
    rw [observed, observed, headers_mapText, List.map_map, List.map_map]
    rfl
  | setCookieName | setCookieValue =>
    rw [observed, observed, cookies_mapText, List.map_map, List.map_map]
    rfl
  | setCookieDomain =>
    rw [observed, observed, cookies_mapText, List.filterMap_map, List.map_filterMap]
    exact List.filterMap_congr fun c _ => r.cookieDomain?_mapText c
  | is =>
    -- the states are fixed texts, and they are written in small letters
    have lowered : Suggestion.states.map lowerAscii = Suggestion.states := by decide
    exact lowered.symm
  | transferred | size | largerThan | transferredLargerThan | regexp => rfl

end Request

/-! ### What is sought -/

private theorem lowerAscii_remoteEndpoint_lowerAscii (address : String) (port : Option UInt16) :
    lowerAscii (remoteEndpoint (lowerAscii address) port) =
      lowerAscii (remoteEndpoint address port) := by
  have colon : (lowerAscii address).toList.contains ':' = address.toList.contains ':' := by
    rw [Text.toList_lowerAscii]
    exact Text.contains_map_toLower (Text.isCaseless_of_ascii (by decide)) address.toList
  cases port with
  | none => exact Text.lowerAscii_lowerAscii address
  | some p =>
    unfold remoteEndpoint
    simp only [colon]
    split
    · exact Text.lowerAscii_lowerAscii address
    · split
      · change lowerAscii ("[" ++ lowerAscii address ++ "]:" ++ toString p.toNat) =
          lowerAscii ("[" ++ address ++ "]:" ++ toString p.toNat)
        simp only [Text.lowerAscii_append, Text.lowerAscii_lowerAscii]
      · change lowerAscii (lowerAscii address ++ ":" ++ toString p.toNat) =
          lowerAscii (address ++ ":" ++ toString p.toNat)
        simp only [Text.lowerAscii_append, Text.lowerAscii_lowerAscii]

namespace Flag

private theorem agrees_lowerAscii {f : Flag} (folds : f.ignoresCase = true) (port : Option UInt16)
    (value sought : String) : f.agrees port (lowerAscii value) sought = f.agrees port value sought := by
  cases f with
  | method | hasResponseHeader | protocol | domain | cause | setCookieName | setCookieValue =>
    simp only [agrees, Text.lower_lowerAscii]
  | remoteIp =>
    simp only [agrees]
    rw [← Text.lower_lowerAscii, lowerAscii_remoteEndpoint_lowerAscii, Text.lower_lowerAscii]
  | _ => cases folds

private theorem valueOf_lowerAscii {f : Flag} (folds : f.ignoresCase = true) (typed : String) :
    f.valueOf (lowerAscii typed) = f.valueOf typed := by
  have texts : (f.ignoresCase || f.keepsCase) = true := by rw [folds, Bool.true_or]
  by_cases empty : typed = ""
  · rw [empty]
    rfl
  · have filled : lowerAscii typed ≠ "" := mt Text.lowerAscii_eq_empty_iff.mp empty
    rw [valueOf_eq_lower texts filled, valueOf_eq_lower texts empty, Text.lower_lowerAscii]

end Flag

namespace Request

variable (r : Request)

private theorem matchesTerm_mapText (term : String) :
    (r.mapText lowerAscii).matchesTerm (lowerAscii term) = r.matchesTerm term := by
  have url : Text.lowerList (r.mapText lowerAscii).url.toList = Text.lowerList r.url.toList :=
    Text.lowerList_lowerAscii r.url
  rw [matchesTerm, matchesTerm, Text.lowerList_lowerAscii, url]

end Request

private theorem Predicate.holds_valueOf_empty (f : Flag) (negative : Bool) (r : Request) :
    holds ⟨f, f.valueOf "", negative⟩ r = true := by
  have blank : (f.valueOf "").isBlank = true := by
    rw [Flag.valueOf, if_pos (by decide)]
    decide
  rw [holds, holdsBy, blank, Bool.true_or]

private theorem Predicate.holds_mapText (r : Request) {f : Flag} (folds : f.ignoresCase = true)
    (typed : String) (negative : Bool) :
    holds ⟨f, f.valueOf (lowerAscii typed), negative⟩ (r.mapText lowerAscii) =
      holds ⟨f, f.valueOf typed, negative⟩ r := by
  have texts : (f.ignoresCase || f.keepsCase) = true := by rw [folds, Bool.true_or]
  rw [f.valueOf_lowerAscii folds]
  by_cases empty : typed = ""
  · rw [empty, holds_valueOf_empty, holds_valueOf_empty]
  · rw [f.valueOf_eq_lower texts empty]
    have port : (r.mapText lowerAscii).remotePort = r.remotePort := rfl
    rw [holds_text _ texts (Text.lower_ne_empty empty), holds_text r texts
      (Text.lower_ne_empty empty), Request.observed_mapText, List.any_map, port]
    congr 2
    funext value
    exact Flag.agrees_lowerAscii folds r.remotePort value _

/-- Terms, and the flags that compare lower forms, do not regard the case of ASCII letters: neither
in what was recorded nor in what is typed. -/
theorem letterCase_ignored {r r' : Request} (same : r.SameLetters r') :
    (∀ t t' : String, lowerAscii t = lowerAscii t' → r.matchesTerm t = r'.matchesTerm t') ∧
      ∀ f : Flag, f.ignoresCase = true → ∀ v v' : String, lowerAscii v = lowerAscii v' →
        ∀ negative, Predicate.holds ⟨f, f.valueOf v, negative⟩ r =
          Predicate.holds ⟨f, f.valueOf v', negative⟩ r' := by
  constructor
  · intro t t' typed
    rw [← r.matchesTerm_mapText, ← r'.matchesTerm_mapText, same, typed]
  · intro f folds v v' typed negative
    rw [← Predicate.holds_mapText r folds, ← Predicate.holds_mapText r' folds, same, typed]

/-- A host within a URL and an address with its port, with a sigma that ends a word of capitals. -/
theorem letterCase_ignored_applied :
    let r : Request :=
      { url := "HTTP://me@aΣb.Test/x", remoteAddress := some "FE80::aΣ", remotePort := some 443 }
    let r' : Request :=
      { url := "http://ME@AΣB.test/X", remoteAddress := some "fe80::AΣ", remotePort := some 443 }
    r.SameLetters r' ∧ lowerAscii "AΣb.T" = lowerAscii "aΣB.t" ∧
      r.matchesTerm "AΣb.T" = r'.matchesTerm "aΣB.t" ∧
      Predicate.holds ⟨.domain, Flag.domain.valueOf "AΣb.T", false⟩ r =
        Predicate.holds ⟨.domain, Flag.domain.valueOf "aΣB.t", false⟩ r' ∧
      Predicate.holds ⟨.remoteIp, Flag.remoteIp.valueOf "AΣ]", true⟩ r =
        Predicate.holds ⟨.remoteIp, Flag.remoteIp.valueOf "aΣ]", true⟩ r' := by
  intro r r'
  have same : r.SameLetters r' := by decide +kernel
  have typed : lowerAscii "AΣb.T" = lowerAscii "aΣB.t" := by decide
  obtain ⟨terms, predicates⟩ := letterCase_ignored same
  exact ⟨same, typed, terms _ _ typed, predicates .domain (by decide) _ _ typed false,
    predicates .remoteIp (by decide) _ _ (by decide) true⟩

end RequestFilter
