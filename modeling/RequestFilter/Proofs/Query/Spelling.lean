import RequestFilter.Proofs.Query.Token
import RequestFilter.Proofs.Text.Lowered

/-!
Typing a query that was read. A query is the list of the terms and the list of the predicates that
its tokens stand for, each in order. What a token can stand for is known exactly, and typing each
term and each predicate again, with single spaces between, gives a text of the same query.
-/

set_option autoImplicit false

namespace RequestFilter

namespace Query

/-! ### A query and its tokens -/

theorem ofTokens_eq (tokens : List (List Char)) :
    ofTokens tokens =
      ⟨(tokens.filter fun token => (Predicate.ofToken? token).isNone).map String.ofList,
        tokens.filterMap Predicate.ofToken?⟩ := by
  induction tokens with
  | nil => rfl
  | cons token tokens ih =>
    have step : ofTokens (token :: tokens) = consToken token (ofTokens tokens) := rfl
    rw [step, ih, consToken]
    cases read : Predicate.ofToken? token <;> simp [read]

def append (q q' : Query) : Query := ⟨q.terms ++ q'.terms, q.predicates ++ q'.predicates⟩

theorem ofTokens_append (tokens tokens' : List (List Char)) :
    ofTokens (tokens ++ tokens') = (ofTokens tokens).append (ofTokens tokens') := by
  simp only [ofTokens_eq, append, List.filter_append, List.map_append, List.filterMap_append]

end Query

/-! ### What a value can be -/

namespace Flag

/-- A text that a flag's value can be: it has no blank, it is in lower case unless it is a pattern,
and it is empty for a count of bytes. -/
structure Takes (f : Flag) (v : String) : Prop where
  solid : ∀ c ∈ v.toList, Text.isBlank c = false
  lowered : f ≠ .regexp → Text.lower v = v
  unsized : f.isSize = true → v = ""

private theorem takes_empty (f : Flag) : f.Takes "" where
  solid := by simp
  lowered _ := rfl
  unsized _ := rfl

private theorem valueOf_of_takes {f : Flag} {v : String} (taken : f.Takes v) : f.valueOf v = .text v
    := by
  by_cases empty : v = ""
  · rw [empty]
    rfl
  · have filled : v.isEmpty = false := by simpa using empty
    have counted : f.isSize = false := Bool.eq_false_iff.mpr fun size => empty (taken.unsized size)
    simp only [valueOf, filled, counted, Bool.false_eq_true, if_false]
    split
    · rfl
    · rename_i folds
      rw [taken.lowered folds]

private theorem takes_of_valueOf {f : Flag} {typed v : String}
    (solid : ∀ c ∈ typed.toList, Text.isBlank c = false) (given : f.valueOf typed = .text v) :
    f.Takes v := by
  unfold valueOf at given
  split at given
  · obtain rfl : "" = v := by simpa using given
    exact f.takes_empty
  · split at given
    · cases given
    · rename_i counted
      have unsized : f.isSize = true → v = "" := fun size => absurd size counted
      split at given
      · rename_i pattern
        obtain rfl : typed = v := by simpa using given
        exact ⟨solid, fun folds => absurd pattern folds, unsized⟩
      · obtain rfl : Text.lower typed = v := by simpa using given
        exact ⟨Text.lower_solid solid, fun _ => Text.lower_lower typed, unsized⟩

end Flag

/-! ### Typing a query -/

def Predicate.spelling (p : Predicate) : String :=
  (if p.negative then "-" else "") ++ p.flag.name ++ ":" ++ p.value.text?.getD ""

private theorem Predicate.toList_spelling {p : Predicate} {v : String} (given : p.value = .text v) :
    p.spelling.toList = p.flag.token p.negative v.toList := by
  rw [spelling, given, Flag.token]
  cases p.negative <;> simp [FlagValue.text?, String.toList_append]

namespace Query

def spelling (q : Query) : String :=
  " ".intercalate (q.terms ++ q.predicates.map Predicate.spelling)

/-- What is true of a query that was read off a text. -/
structure IsTyped (q : Query) : Prop where
  filled : ∀ term ∈ q.terms, term ≠ ""
  solid : ∀ term ∈ q.terms, ∀ c ∈ term.toList, Text.isBlank c = false
  plain : ∀ term ∈ q.terms, Predicate.ofToken? term.toList = none
  values : ∀ p ∈ q.predicates, ∀ v, p.value = .text v → p.flag.Takes v

private theorem isTyped_ofTokens {tokens : List (List Char)}
    (words : ∀ token ∈ tokens, token ≠ [] ∧ ∀ c ∈ token, Text.isBlank c = false) :
    (ofTokens tokens).IsTyped := by
  rw [ofTokens_eq]
  have terms : ∀ term ∈ (tokens.filter fun token => (Predicate.ofToken? token).isNone).map
      String.ofList, term.toList ∈ tokens ∧ Predicate.ofToken? term.toList = none := by
    intro term member
    obtain ⟨token, kept, rfl⟩ := List.mem_map.mp member
    obtain ⟨given, unread⟩ := List.mem_filter.mp kept
    rw [String.toList_ofList]
    exact ⟨given, Option.isNone_iff_eq_none.mp unread⟩
  constructor
  · rintro term member rfl
    exact (words _ (terms "" member).1).1 rfl
  · intro term member
    exact (words _ (terms term member).1).2
  · intro term member
    exact (terms term member).2
  · intro p member v given
    obtain ⟨token, typed, read⟩ := List.mem_filterMap.mp member
    obtain ⟨value, spelled, valued⟩ := Predicate.exists_token_of_ofToken? read
    have solid : ∀ c ∈ (String.ofList value).toList, Text.isBlank c = false := by
      intro c hc
      rw [String.toList_ofList] at hc
      apply (words token typed).2 c
      simp [spelled, Flag.token, hc]
    exact Flag.takes_of_valueOf solid (valued ▸ given)

private theorem ofTokens_terms {terms : List String}
    (plain : ∀ term ∈ terms, Predicate.ofToken? term.toList = none) :
    ofTokens (terms.map String.toList) = ⟨terms, []⟩ := by
  induction terms with
  | nil => rfl
  | cons term terms ih =>
    obtain ⟨first, rest⟩ := List.forall_mem_cons.mp plain
    have step : ofTokens ((term :: terms).map String.toList) =
        consToken term.toList (ofTokens (terms.map String.toList)) := rfl
    rw [step, ih rest]
    simp only [consToken, first, String.ofList_toList]

private theorem ofTokens_predicates {predicates : List Predicate}
    (read : ∀ p ∈ predicates, Predicate.ofToken? p.spelling.toList = some p) :
    ofTokens (predicates.map fun p => p.spelling.toList) = ⟨[], predicates⟩ := by
  induction predicates with
  | nil => rfl
  | cons p predicates ih =>
    obtain ⟨first, rest⟩ := List.forall_mem_cons.mp read
    have step : ofTokens ((p :: predicates).map fun p => p.spelling.toList) =
        consToken p.spelling.toList (ofTokens (predicates.map fun p => p.spelling.toList)) := rfl
    rw [step, ih rest]
    simp only [consToken, first]

section Spelling

variable {q : Query} (typed : q.IsTyped) (texts : ∀ p ∈ q.predicates, ∀ x, p.value ≠ .size x)

include typed texts

private theorem exists_token_spelling {p : Predicate} (member : p ∈ q.predicates) :
    ∃ v, p.flag.Takes v ∧ p.value = .text v ∧
      p.spelling.toList = p.flag.token p.negative v.toList := by
  cases given : p.value with
  | size x => exact absurd given (texts p member x)
  | text v => exact ⟨v, typed.values p member v given, rfl, p.toList_spelling given⟩

private theorem ofToken?_spelling {p : Predicate} (member : p ∈ q.predicates) :
    Predicate.ofToken? p.spelling.toList = some p := by
  obtain ⟨v, taken, given, token⟩ := exists_token_spelling typed texts member
  rw [token, Predicate.ofToken?_token, String.ofList_toList, Flag.valueOf_of_takes taken, ← given]

/-- The words of a query as it is typed are its terms and its predicates. -/
private theorem words_spelling :
    Text.words q.spelling.toList =
      q.terms.map String.toList ++ q.predicates.map (·.spelling.toList) := by
  have joined : q.spelling.toList =
      [' '].intercalate (q.terms.map String.toList ++ q.predicates.map (·.spelling.toList)) := by
    simp [spelling, String.toList_intercalate, Function.comp_def]
  rw [joined, Text.words_intercalate]
  apply Text.flatMap_words_of_solid
  intro token member
  rcases List.mem_append.mp member with isTerm | isPredicate
  · obtain ⟨term, listed, rfl⟩ := List.mem_map.mp isTerm
    refine ⟨fun nil => typed.filled term listed (String.toList_eq_nil_iff.mp nil), ?_⟩
    exact typed.solid term listed
  · obtain ⟨p, listed, rfl⟩ := List.mem_map.mp isPredicate
    obtain ⟨v, taken, -, token⟩ := exists_token_spelling typed texts listed
    rw [token]
    exact ⟨p.flag.token_ne_nil p.negative v.toList, p.flag.token_solid p.negative taken.solid⟩

end Spelling

/-- Reading gives typed queries, and a typed query without counts of bytes is read off the text that
it is typed as. -/
theorem parse_spelling :
    (∀ text : String, (parse text).IsTyped) ∧
      ∀ q : Query, q.IsTyped → (∀ p ∈ q.predicates, ∀ x, p.value ≠ .size x) →
        parse q.spelling = q := by
  constructor
  · intro text
    exact isTyped_ofTokens fun token member => Text.solid_of_mem_words member
  · intro q typed texts
    have read : ∀ p ∈ q.predicates, Predicate.ofToken? p.spelling.toList = some p :=
      fun p member => ofToken?_spelling typed texts member
    rw [parse, words_spelling typed texts, ofTokens_append, ofTokens_terms typed.plain,
      ofTokens_predicates read]
    simp [append]

/-- Terms that look like predicates, and values with colons, dashes and capitals. -/
theorem parse_spelling_applied :
    let q : Query :=
      ⟨["--method:get", "Method:GET", "a:b", "-"],
        [⟨.remoteIp, .text "[::1]:-é", true⟩, ⟨.regexp, .text "-A:b$", false⟩,
          ⟨.size, .text "", true⟩]⟩
    q.IsTyped ∧ (∀ p ∈ q.predicates, ∀ x, p.value ≠ .size x) ∧ parse q.spelling = q := by
  intro q
  have read :
      parse "--method:get -remote-ip:[::1]:-É Method:GET a:b regexp:-A:b$ - -size:" = q := by
    decide +kernel
  have typed : q.IsTyped := read ▸ parse_spelling.1 _
  have texts : ∀ p ∈ q.predicates, ∀ x, p.value ≠ .size x := by simp [q]
  exact ⟨typed, texts, parse_spelling.2 q typed texts⟩

end Query
end RequestFilter
