import RequestFilter.Proofs.Query.Kept
import RequestFilter.Query.Matcher

/-!
A matcher keeps what its query keeps.

Making a query ready changes no answer: a pattern that was compiled before is the pattern that would
be compiled for each request, and a predicate is vacuous exactly if its value is blank. So a list
may be filtered by a matcher, by a query or predicate by predicate, and the same places are kept.
-/

set_option autoImplicit false

namespace RequestFilter

/-! ### Predicates made ready -/

private theorem Request.matchesOperand_ofValue (r : Request) (compile : Pattern.Compiler) (f : Flag)
    (value : FlagValue) :
    r.matchesOperand f (.ofValue compile f value) = r.matchesValue compile f value := by
  cases value with
  | size x => cases x <;> rfl
  | text s =>
    by_cases pattern : f = .regexp
    · subst pattern
      rfl
    · simp [Operand.ofValue, matchesOperand, matchesValue, pattern]

theorem ReadyPredicate.holds_ofPredicate (compile : Pattern.Compiler) (p : Predicate)
    (r : Request) : (ofPredicate compile p).holds r = p.holdsBy compile r := by
  rw [holds, Predicate.holdsBy, ofPredicate, r.matchesOperand_ofValue]

namespace Matcher

/-! ### Whole queries made ready -/

private theorem keeps_withCategories (q : Query) (s : CategorySet) :
    ((ofQuery q).withCategories s).keeps = q.keeps s := by
  funext r
  simp only [keeps, withCategories, ofQuery, List.all_map, Query.keeps, Query.accepts,
    Bool.and_assoc]
  congr 3
  funext p
  exact ReadyPredicate.holds_ofPredicate _ p r

private theorem keeps_ofQuery (q : Query) (r : Request) : (ofQuery q).keeps r = q.accepts r := by
  have all : (ofQuery q).withCategories .full = ofQuery q := rfl
  have unrestricted : CategorySet.full.isUnrestricted = true := by decide
  rw [← all, keeps_withCategories, Query.keeps, CategorySet.admits, unrestricted, Bool.true_or,
    Bool.true_and]

end Matcher

theorem Request.matchesFilter_eq_accepts (r : Request) (text : String) :
    r.matchesFilter text = (Query.parse text).accepts r := by
  rw [matchesFilter, Matcher.keeps_ofQuery, Bool.or_eq_right_iff_imp, String.isEmpty_iff]
  rintro rfl
  exact Query.accepts_parse "" r

namespace Matcher

variable (rs : List Request) (text : String) (s : CategorySet)

theorem filter_parse :
    ((ofQuery (Query.parse text)).withCategories s).filter rs = filterRequests rs text s := by
  rw [filter, keeps_withCategories]
  rfl

private theorem places_parse :
    ((ofQuery (Query.parse text)).withCategories s).places rs = keptPlaces rs text s := by
  rw [places, keeps_withCategories]
  rfl

end Matcher

/-! ### Kept places -/

section Places

variable (rs : List Request) (text : String) (s : CategorySet)

private theorem pairwise_keptPlaces : (keptPlaces rs text s).Pairwise (· < ·) := by
  rw [keptPlaces_eq_filter]
  exact List.pairwise_lt_range.filter _

private theorem keeps_of_words_eq_nil (none : Text.words text.toList = []) :
    (Query.parse text).keeps s = s.admits := by
  funext r
  rw [Query.keeps, Query.accepts_parse, none, List.all_nil, Bool.and_true]

end Places

/-- Whether a place is kept may be asked in several ways: of the list, of the request that stands
there and the whole text, of that request and every term and predicate by itself, or of a matcher
made ready from the text. The answers agree. Kept places stand in order, each once, and give the
requests that are kept; a text without tokens keeps what the categories admit. -/
theorem keptPlaces_agree (rs : List Request) (text : String) (s : CategorySet) :
    let q := Query.parse text
    let m := (Matcher.ofQuery q).withCategories s
    (∀ i, i ∈ keptPlaces rs text s ↔
        ∃ r, rs[i]? = some r ∧ s.admits r = true ∧ r.matchesFilter text = true) ∧
      (∀ i, i ∈ keptPlaces rs text s ↔
        ∃ r, rs[i]? = some r ∧ s.admits r = true ∧ (∀ term ∈ q.terms, r.matchesTerm term = true) ∧
          ∀ p ∈ q.predicates, p.holds r = true) ∧
      m.places rs = keptPlaces rs text s ∧
      m.filter rs = filterRequests rs text s ∧
      (keptPlaces rs text s).Pairwise (· < ·) ∧
      filterRequests rs text s = (keptPlaces rs text s).filterMap (rs[·]?) ∧
      (Text.words text.toList = [] → filterRequests rs text s = rs.filter s.admits) := by
  intro q m
  have whole (r : Request) : q.keeps s r = true ↔
      s.admits r = true ∧ r.matchesFilter text = true := by
    rw [Query.keeps, Bool.and_eq_true, Request.matchesFilter_eq_accepts]
  have split (r : Request) : q.keeps s r = true ↔
      s.admits r = true ∧ (∀ term ∈ q.terms, r.matchesTerm term = true) ∧
        ∀ p ∈ q.predicates, p.holds r = true := by
    simp only [Query.keeps, Query.accepts, Bool.and_eq_true, List.all_eq_true]
  refine ⟨fun i => ?_, fun i => ?_, Matcher.places_parse rs text s, Matcher.filter_parse rs text s,
    pairwise_keptPlaces rs text s, filterRequests_eq_filterMap rs text s, fun none => ?_⟩
  · rw [mem_keptPlaces]
    exact exists_congr fun r => and_congr_right fun _ => whole r
  · rw [mem_keptPlaces]
    exact exists_congr fun r => and_congr_right fun _ => split r
  · rw [filterRequests]
    exact congrArg (rs.filter ·) (keeps_of_words_eq_nil text s none)

/-- A pattern that is not well formed finds nothing, and space alone keeps what is admitted. -/
theorem keptPlaces_agree_applied :
    let rs : List Request :=
      [{ url := "b/[" }, { url := "b", method := some "GET" }, { url := "a" }]
    ¬ 0 ∈ keptPlaces rs "b regexp:[" .full ∧
      1 ∈ keptPlaces rs "b -regexp:[ size: method:get" .full ∧
      filterRequests rs "\t\u2003" .full = rs.filter CategorySet.full.admits := by
  intro rs
  refine ⟨fun kept => ?_, ?_, ?_⟩
  · obtain ⟨r, found, -, refused⟩ := ((keptPlaces_agree rs "b regexp:[" .full).1 0).mp kept
    cases found
    revert refused
    decide
  · exact ((keptPlaces_agree rs "b -regexp:[ size: method:get" .full).2.1 1).mpr
      ⟨_, rfl, by decide, by decide, by decide⟩
  · exact (keptPlaces_agree rs "\t\u2003" .full).2.2.2.2.2.2 (by decide)

end RequestFilter
