import Mathlib.Data.List.TakeWhile
import RequestFilter.Proofs.Query.Algebra
import RequestFilter.Proofs.Suggest.Offered

/-!
What accepting the name of a flag does to a query.

After a term the names of flags are suggested. A name with its colon and nothing behind it is a
predicate that holds of every request, so accepting one keeps the requests that the text without its
last token keeps.
-/

set_option autoImplicit false

namespace RequestFilter

namespace Text

/-- A text cut at its last token: what stands before the token ends in a blank, and nothing but
blanks follow it. -/
structure EndsIn (text earlier token after : String) : Prop where
  whole : text = earlier ++ token ++ after
  begins : ∀ c ∈ earlier.toList.getLast?, isBlank c = true
  filled : token ≠ ""
  solid : ∀ c ∈ token.toList, isBlank c = false
  blank : ∀ c ∈ after.toList, isBlank c = true

private theorem exists_endsIn {text : String}
    (unfinished : ∃ c ∈ text.toList.getLast?, isBlank c = false) :
    ∃ earlier token, EndsIn text earlier token "" := by
  obtain ⟨c, last, solid⟩ := unfinished
  obtain ⟨front, whole⟩ := List.getLast?_eq_some_iff.mp (Option.mem_def.mp last)
  -- read from the end, the token is the longest start without a blank
  let back := text.toList.reverse
  refine ⟨.ofList (back.dropWhile (!isBlank ·)).reverse, .ofList (back.takeWhile (!isBlank ·)).reverse,
    ?_, ?_, ?_, ?_, by simp⟩
  · rw [String.append_empty, ← String.toList_inj, String.toList_append, String.toList_ofList,
      String.toList_ofList, ← List.reverse_append, List.takeWhile_append_dropWhile,
      List.reverse_reverse]
  · intro c hc
    rw [String.toList_ofList, List.getLast?_reverse] at hc
    have stopped := List.head?_dropWhile_not (!isBlank ·) back
    rw [Option.mem_def.mp hc] at stopped
    simpa using stopped
  · simp [back, whole, solid]
  · intro c hc
    rw [String.toList_ofList, List.mem_reverse] at hc
    simpa using List.mem_takeWhile_imp hc

end Text

private theorem Query.ofToken?_of_parse {token : String} (filled : token ≠ "")
    (solid : ∀ c ∈ token.toList, Text.isBlank c = false)
    (term : Query.parse token = ⟨[token], []⟩) : Predicate.ofToken? token.toList = none := by
  rw [Query.parse_solid (by simpa using filled) solid, Query.consToken] at term
  cases read : Predicate.ofToken? token.toList with
  | none => rfl
  | some p => simp [read, Query.empty] at term

namespace Suggestion

variable {text earlier token after : String} {rs : List Request} {s : Suggestion}

private theorem after_eq_empty (cut : Text.EndsIn text earlier token after)
    (offered : s ∈ ofText text rs) :
    after = "" := by
  by_contra filled
  have unfinished := (mem_ofText.mp offered).1
  obtain ⟨c, last⟩ : ∃ c, after.toList.getLast? = some c :=
    Option.ne_none_iff_exists'.mp (by simpa using filled)
  have blank := cut.blank c (List.mem_of_getLast? last)
  rw [cut.whole, String.toList_append, List.getLast?_append, last] at unfinished
  simp [blank] at unfinished

private theorem exists_token_of_mem_term {t : List Char} (ne : t ≠ [])
    (term : Predicate.ofToken? t = none) {candidate : String} (listed : candidate ∈ candidates t rs) :
    ∃ f : Flag, ∃ negative, candidate.toList = f.token negative [] ∧
      (negative = true ↔ t.head? = some '-') := by
  obtain ⟨known, start, -⟩ := (mem_candidates_term term).mp listed
  obtain ⟨f, negative, spelled⟩ := mem_names known
  have first : candidate.toList.head? = (Text.lowerList t).head? := by
    obtain ⟨rest, whole⟩ := start
    rw [← whole, List.head?_append_of_ne_nil _ (Text.lowerList_ne_nil ne)]
  refine ⟨f, negative, spelled, ?_⟩
  rw [← Text.head_lowerList_dash_iff, ← first, spelled, f.head_token]

section Term

variable (cut : Text.EndsIn text earlier token after)
  (term : Predicate.ofToken? token.toList = none) (offered : s ∈ ofText text rs)

include cut term offered

/-- A suggested text after a term is the tokens before the term and the name of a flag. -/
private theorem exists_words_of_term :
    ∃ f : Flag, ∃ negative,
      Text.words s.text.toList =
        Text.words (earlier ++ after).toList ++ [f.token negative []] ∧
      (negative = true ↔ token.toList.head? = some '-') := by
  obtain rfl := after_eq_empty cut offered
  have filled : token.toList ≠ [] := by simpa using cut.filled
  have words : Text.words text.toList = Text.words earlier.toList ++ [token.toList] := by
    rw [cut.whole, String.append_empty, String.toList_append]
    exact Text.words_append_token cut.begins filled cut.solid
  have unfinished : ∃ c ∈ text.toList.getLast?, Text.isBlank c = false := by
    simpa [Option.all_eq_false] using (mem_ofText.mp offered).1
  have listed : s.display ∈ candidates token.toList rs := by
    rw [← map_display_ofText unfinished words]
    exact List.mem_map_of_mem offered
  obtain ⟨f, negative, spelled, sign⟩ := exists_token_of_mem_term filled term listed
  refine ⟨f, negative, ?_, sign⟩
  rw [words_text offered, words, List.dropLast_concat, String.append_empty, spelled,
    Text.words_solid _ (f.token_ne_nil negative []) (f.token_solid negative (by simp))]

end Term

/-- Accepting the name of a flag after a term keeps the requests that the text without the term
keeps. The term is gone, and behind the other predicates stands one for which nothing is typed,
which is negative exactly if the term began with a dash. -/
theorem filterRequests_of_term (offered : s ∈ ofText text rs) :
    (∃ earlier token after, Text.EndsIn text earlier token after) ∧
      ∀ earlier token after, Text.EndsIn text earlier token after →
        Query.parse token = ⟨[token], []⟩ →
        (∀ (requests : List Request) (categories : CategorySet),
          filterRequests requests s.text categories =
              filterRequests requests (earlier ++ after) categories ∧
            keptPlaces requests s.text categories =
              keptPlaces requests (earlier ++ after) categories) ∧
          (Query.parse s.text).terms = (Query.parse (earlier ++ after)).terms ∧
          ∃ p : Predicate,
            (Query.parse s.text).predicates =
                (Query.parse (earlier ++ after)).predicates ++ [p] ∧
              p.value.isBlank = true ∧ (p.negative = true ↔ token.toList.head? = some '-') := by
  have unfinished : ∃ c ∈ text.toList.getLast?, Text.isBlank c = false := by
    simpa [Option.all_eq_false] using (mem_ofText.mp offered).1
  obtain ⟨front, word, found⟩ := Text.exists_endsIn unfinished
  refine ⟨⟨front, word, "", found⟩, fun earlier token after cut term => ?_⟩
  obtain ⟨f, negative, words, sign⟩ :=
    exists_words_of_term cut (Query.ofToken?_of_parse cut.filled cut.solid term) offered
  have parsed : Query.parse s.text =
      (Query.parse (earlier ++ after)).append (.single ⟨f, .text "", negative⟩) := by
    rw [Query.parse, words, Query.ofTokens_append,
      Query.ofTokens_cons_of_ofToken? (Predicate.ofToken?_token f negative [])]
    rfl
  have kept (categories : CategorySet) :
      (Query.parse s.text).keeps categories = (Query.parse (earlier ++ after)).keeps categories := by
    funext r
    rw [Query.keeps_parse, Query.keeps_parse, words, List.all_append, List.all_cons,
      r.meets_bare f negative, List.all_nil, Bool.and_true, Bool.and_true]
  refine ⟨fun requests categories => ⟨?_, ?_⟩, ?_, ⟨f, .text "", negative⟩, ?_, rfl, sign⟩
  · rw [filterRequests, filterRequests, kept]
  · rw [keptPlaces_eq_filter, keptPlaces_eq_filter, kept]
  · rw [parsed]
    exact List.append_nil _
  · rw [parsed]
    rfl

/-- The start of a negative name in capitals, after a blank flag and a term. -/
theorem filterRequests_of_term_applied :
    let s : Suggestion := ⟨"-method:", "size: a -method:"⟩
    s ∈ ofText "size:\t a -Me" [] ∧ Text.EndsIn "size:\t a -Me" "size:\t a " "-Me" "" ∧
      Query.parse "-Me" = ⟨["-Me"], []⟩ ∧
      (∀ requests categories, filterRequests requests "size: a -method:" categories =
        filterRequests requests "size:\t a " categories) ∧
      (Query.parse "size: a -method:").terms = (Query.parse "size:\t a ").terms ∧
      ∃ p : Predicate, (Query.parse "size: a -method:").predicates =
          (Query.parse "size:\t a ").predicates ++ [p] ∧
        p.value.isBlank = true ∧ (p.negative = true ↔ "-Me".toList.head? = some '-') := by
  intro s
  have offered : s ∈ ofText "size:\t a -Me" [] := by
    rw [mem_ofText, mem_candidates]
    decide +kernel
  have begins : ∀ c ∈ "size:\t a ".toList.getLast?, Text.isBlank c = true := by
    have last : "size:\t a ".toList.getLast? = some ' ' := by decide
    intro c hc
    obtain rfl : ' ' = c := by simpa [last] using hc
    decide
  have cut : Text.EndsIn "size:\t a -Me" "size:\t a " "-Me" "" :=
    ⟨by decide, begins, by decide, Text.solid_of_all (by decide), by simp⟩
  have term : Query.parse "-Me" = ⟨["-Me"], []⟩ := by decide
  obtain ⟨kept, terms, predicates⟩ := (filterRequests_of_term offered).2 _ _ _ cut term
  exact ⟨offered, cut, term, fun requests categories => (kept requests categories).1, terms,
    predicates⟩

end Suggestion
end RequestFilter
