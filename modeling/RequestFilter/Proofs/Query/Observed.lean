import RequestFilter.Proofs.Query.Rule

/-!
Predicates about texts, and the values that are observed on a request.

What the rule of a flag reads of a request is what is suggested for the flag. So a predicate holds
exactly if one of the observed values compares with its text as the flag asks.
-/

set_option autoImplicit false

namespace RequestFilter

/-- How an observed value compares with the text sought: they are the same, or the text stands in
the value. Some flags ask it of the lower form of the value, and an address is taken with its
port. -/
def Flag.Compares (f : Flag) (port : Option UInt16) (value sought : String) : Prop :=
  match f with
  | .statusCode | .scheme => value = sought
  | .method | .hasResponseHeader => Text.lower value = sought
  | .mimeType | .setCookieDomain => sought.toList <:+: value.toList
  | .protocol | .domain | .cause | .setCookieName | .setCookieValue =>
    sought.toList <:+: (Text.lower value).toList
  | .remoteIp => sought.toList <:+: (Text.lower (remoteEndpoint value port)).toList
  | .is | .transferred | .size | .largerThan | .transferredLargerThan | .regexp => False

private theorem Flag.agrees_iff_compares (f : Flag) (port : Option UInt16) (value sought : String) :
    f.agrees port value sought = true ↔ f.Compares port value sought := by
  cases f with
  | statusCode | scheme | method | hasResponseHeader => exact beq_iff_eq
  | mimeType | setCookieDomain | protocol | domain | cause | setCookieName | setCookieValue
  | remoteIp => exact Text.holds_iff _ _
  | is | transferred | size | largerThan | transferredLargerThan | regexp =>
    exact ⟨fun agreed => (Bool.false_ne_true agreed).elim, False.elim⟩

private theorem Request.matchesSize_of_texts (r : Request) {f : Flag}
    (texts : (f.ignoresCase || f.keepsCase) = true) (count : Double) :
    r.matchesSize f count = false := by
  cases f with
  | size | largerThan | transferred | transferredLargerThan => cases texts
  | _ => rfl

private theorem Request.matchesValue_of_observed_eq_nil {r : Request} {f : Flag}
    (texts : (f.ignoresCase || f.keepsCase) = true) (none : r.observed f = [])
    (compile : Pattern.Compiler) (value : FlagValue) :
    r.matchesValue compile f value = false := by
  cases value with
  | text sought =>
    rw [matchesValue, if_neg (Flag.ne_regexp_of_texts texts),
      matchesText_eq_any_observed r f texts, none, List.any_nil]
  | size count =>
    cases count with
    | none => rfl
    | some count => exact r.matchesSize_of_texts texts count

/-- A predicate on a text holds of a request exactly if some value that is observed on it compares
with the text. Where nothing is observed, predicates do not hold unless they are negative or
blank. -/
theorem holds_iff_observed (r : Request) {f : Flag}
    (texts : (f.ignoresCase || f.keepsCase) = true) :
    (∀ sought : String, sought ≠ "" →
      (Predicate.holds ⟨f, .text sought, false⟩ r = true ↔
        ∃ value ∈ r.observed f, f.Compares r.remotePort value sought)) ∧
    (r.observed f = [] → ∀ (value : FlagValue) (negative : Bool), value.isBlank = false →
      Predicate.holds ⟨f, value, negative⟩ r = negative) := by
  constructor
  · intro sought typed
    simp only [Predicate.holds_text r texts typed, Bool.bne_false, List.any_eq_true,
      f.agrees_iff_compares]
  · intro none value negative filled
    rw [Predicate.holds, Predicate.holdsBy, Request.matchesValue_of_observed_eq_nil texts none,
      filled, Bool.false_or, Bool.false_bne]

/-- An address whose brackets and port are sought, a cookie without a domain of its own, and a type
that is unknown. -/
theorem holds_iff_observed_applied :
    let r : Request :=
      { url := "https://Shop.test/", remoteAddress := some "FE80::1", remotePort := some 443
        responseCookies := some [{ name := "Ab" }] }
    Predicate.holds ⟨.remoteIp, .text "[fe80::1]:443", false⟩ r = true ∧
      (Predicate.holds ⟨.setCookieDomain, .text "shop", false⟩ r = true ↔
        ∃ value ∈ r.observed .setCookieDomain, "shop".toList <:+: value.toList) ∧
      r.observed .setCookieDomain = ["Shop.test"] ∧
      Predicate.holds ⟨.mimeType, .text "css", false⟩ r = false ∧
      Predicate.holds ⟨.mimeType, .text "css", true⟩ r = true := by
  intro r
  have shown : Flag.Compares .remoteIp (some 443) "FE80::1" "[fe80::1]:443" :=
    (Text.holds_iff _ _).mp (by decide)
  refine ⟨?_, ?_, by decide, ?_, ?_⟩
  · exact ((holds_iff_observed r (f := .remoteIp) (by decide)).1 "[fe80::1]:443" (by decide)).mpr
      ⟨"FE80::1", by decide, shown⟩
  · exact (holds_iff_observed r (f := .setCookieDomain) (by decide)).1 "shop" (by decide)
  · exact (holds_iff_observed r (f := .mimeType) (by decide)).2 (by decide) (.text "css") false rfl
  · exact (holds_iff_observed r (f := .mimeType) (by decide)).2 (by decide) (.text "css") true rfl

end RequestFilter
