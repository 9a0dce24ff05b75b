import Mathlib.Data.List.Basic
import RequestFilter.Proofs.Query.Spelling
import RequestFilter.Suggest

/-!
What accepting a suggestion does to a query.

A suggestion completes the last token to the name of a flag, or to a flag with a value, and the
earlier tokens stay. The value is taken over as it was observed, and there is no way to quote a
blank, so a value with blanks becomes several tokens, of which the first is the flag with the start
of the value.
-/

set_option autoImplicit false

namespace RequestFilter

namespace Suggestion

/-! ### What is suggested -/

theorem mem_names {name : String} (h : name ∈ names) :
    ∃ f : Flag, ∃ negative, name.toList = f.token negative [] := by
  rcases List.mem_append.mp h with plain | dashed
  · obtain ⟨f, -, rfl⟩ := List.mem_map.mp plain
    exact ⟨f, false, by simp [Flag.token, String.toList_append]⟩
  · obtain ⟨f, -, rfl⟩ := List.mem_map.mp dashed
    exact ⟨f, true, by simp [Flag.token, String.toList_append]⟩

private theorem mem_valueCandidates {token : List Char} {rs : List Request} {candidate : String}
    (h : candidate ∈ valueCandidates token rs) :
    ∃ f : Flag, ∃ negative, ∃ v ∈ observedValues f rs,
      candidate.toList = f.token negative v.toList := by
  unfold valueCandidates at h
  split at h
  · cases h
  · rename_i key typed cut
    split at h
    · cases h
    · rename_i f named
      obtain ⟨v, kept, rfl⟩ := List.mem_map.mp h
      have observed : v ∈ observedValues f rs :=
        (List.mem_filter.mp (List.mem_eraseDups.mp kept)).1
      have name : f.name.toList = (splitDash key).2 := by
        rw [Flag.name_of_ofName? named, String.toList_ofList]
      refine ⟨f, (splitDash key).1, v, observed, ?_⟩
      rw [String.toList_ofList, Flag.token, name, ← List.append_assoc,
        Predicate.sign_append_splitDash]

theorem mem_candidates {token : List Char} {rs : List Request} {candidate : String} :
    candidate ∈ candidates token rs ↔
      candidate ∈ if (valueCandidates token rs).isEmpty then nameCandidates token
        else valueCandidates token rs := by
  rw [candidates, List.mem_mergeSort]

theorem exists_token_of_mem_candidates {token : List Char} {rs : List Request} {candidate : String}
    (h : candidate ∈ candidates token rs) :
    ∃ f : Flag, ∃ negative, ∃ v, (v = "" ∨ v ∈ observedValues f rs) ∧
      candidate.toList = f.token negative v.toList := by
  rw [mem_candidates] at h
  split at h
  · obtain ⟨f, negative, spelled⟩ := mem_names (List.mem_filter.mp h).1
    exact ⟨f, negative, "", Or.inl rfl, spelled⟩
  · obtain ⟨f, negative, v, observed, spelled⟩ := mem_valueCandidates h
    exact ⟨f, negative, v, Or.inr observed, spelled⟩

/-- What is suggested after a character that is not blank: the completions of the last token, each
after the earlier tokens. -/
theorem mem_ofText {text : String} {rs : List Request} {s : Suggestion} :
    s ∈ ofText text rs ↔
      text.toList.getLast?.all Text.isBlank = false ∧
        s.display ∈ candidates ((tokens text.toList).getLast?.getD []) rs ∧
        s.text =
          " ".intercalate ((tokens text.toList).dropLast.map String.ofList ++ [s.display]) := by
  by_cases ended : text.toList.getLast?.all Text.isBlank = true
  · simp [ofText, ended]
  · have unfinished : text.toList.getLast?.all Text.isBlank = false := by simpa using ended
    simp only [ofText, unfinished, Bool.false_eq_true, if_false, List.mem_map, true_and]
    constructor
    · rintro ⟨candidate, listed, rfl⟩
      exact ⟨listed, rfl⟩
    · rintro ⟨listed, joined⟩
      refine ⟨s.display, listed, ?_⟩
      rw [← joined]

theorem mem_observed_of_blank {f : Flag} {rs : List Request} {v : String}
    (given : v = "" ∨ v ∈ observedValues f rs) {c : Char} (hc : c ∈ v.toList)
    (blank : Text.isBlank c = true) : ∃ r ∈ rs, v ∈ r.observed f := by
  rcases given with rfl | observed
  · simp at hc
  · unfold observedValues at observed
    split at observed
    · have solid : ∀ state ∈ states, ∀ x ∈ state.toList, Text.isBlank x = false := by
        simp only [states, List.forall_mem_cons]
        exact ⟨Text.solid_of_all (by decide), Text.solid_of_all (by decide),
          Text.solid_of_all (by decide), by simp⟩
      rw [solid v observed c hc] at blank
      cases blank
    · exact List.mem_flatMap.mp observed

/-! ### The tokens before the last one -/

private theorem flatMap_words_tokens {cs : List Char} (ne : Text.words cs ≠ []) :
    (tokens cs).dropLast.flatMap Text.words = (Text.words cs).dropLast := by
  have earlier : (Text.words cs).dropLast.flatMap Text.words = (Text.words cs).dropLast :=
    Text.flatMap_words_of_solid fun t ht => Text.solid_of_mem_words (List.dropLast_subset _ ht)
  unfold tokens
  split
  · obtain ⟨w, ws, cut⟩ := List.exists_cons_of_ne_nil ne
    rw [cut] at earlier ⊢
    rw [List.dropLast_cons_cons, List.flatMap_cons, earlier]
    rfl
  · exact earlier

private theorem solid_of_mem_tokens {cs token : List Char} (h : token ∈ tokens cs) :
    ∀ c ∈ token, Text.isBlank c = false := by
  have solid {token : List Char} (word : token ∈ Text.words cs) :=
    (Text.solid_of_mem_words word).2
  unfold tokens at h
  split at h
  · rcases List.mem_cons.mp h with rfl | word
    · exact List.forall_mem_nil _
    · exact solid word
  · exact solid h

private theorem toList_text {text : String} {rs : List Request} {s : Suggestion}
    (offered : s ∈ ofText text rs) :
    s.text.toList = [' '].intercalate ((tokens text.toList).dropLast ++ [s.display.toList]) := by
  obtain ⟨-, -, joined⟩ := mem_ofText.mp offered
  rw [joined]
  simp [String.toList_intercalate, Function.comp_def]

theorem mem_display_of_mem_text {text : String} {rs : List Request} {s : Suggestion}
    (offered : s ∈ ofText text rs) {c : Char} (blank : Text.isBlank c = true) (other : c ≠ ' ')
    (hc : c ∈ s.text.toList) : c ∈ s.display.toList := by
  rw [toList_text offered] at hc
  obtain ⟨token, listed, inside⟩ := (Text.eq_space_or_of_mem_intercalate hc).resolve_left other
  rcases List.mem_append.mp listed with earlier | last
  · have solid := solid_of_mem_tokens (List.dropLast_subset _ earlier) c inside
    rw [blank] at solid
    cases solid
  · rwa [List.mem_singleton.mp last] at inside

theorem words_text {text : String} {rs : List Request} {s : Suggestion}
    (offered : s ∈ ofText text rs) :
    Text.words s.text.toList =
      (Text.words text.toList).dropLast ++ Text.words s.display.toList := by
  obtain ⟨unfinished, -, -⟩ := mem_ofText.mp offered
  have ne : Text.words text.toList ≠ [] := by
    cases last : text.toList.getLast? with
    | none => simp [last] at unfinished
    | some c =>
      have solid : Text.isBlank c = false := by simpa [last] using unfinished
      exact Text.words_ne_nil (List.mem_of_getLast? last) solid
  rw [toList_text offered, Text.words_intercalate, List.flatMap_append, flatMap_words_tokens ne]
  simp

end Suggestion

namespace Query

def single (p : Predicate) : Query := ⟨[], [p]⟩

theorem ofTokens_cons_of_ofToken? {token : List Char} {p : Predicate}
    (read : Predicate.ofToken? token = some p) (tokens : List (List Char)) :
    ofTokens (token :: tokens) = (single p).append (ofTokens tokens) := by
  have step : ofTokens (token :: tokens) = consToken token (ofTokens tokens) := rfl
  rw [step, consToken, read]
  rfl

end Query

theorem Flag.exists_token_of_blank {f : Flag} {negative : Bool} {value start rest : List Char}
    {blank : Char} (parts : f.token negative value = start ++ blank :: rest)
    (isBlank : Text.isBlank blank = true) :
    ∃ begun, start = f.token negative begun ∧ value = begun ++ blank :: rest := by
  have named : f.token negative value = f.token negative [] ++ value := by simp [token]
  rw [named] at parts
  rcases List.append_eq_append_iff.mp parts with ⟨begun, here, after⟩ | ⟨name, here, after⟩
  · exact ⟨begun, by rw [here]; simp [token], after⟩
  · cases name with
    | nil => exact ⟨[], by simpa using here.symm, by simpa using after.symm⟩
    | cons c name =>
      -- The blank would stand in the name of the flag.
      obtain ⟨rfl, -⟩ := List.cons.inj after
      have inName : blank ∈ f.token negative [] := by simp [here]
      have solid : ∀ c ∈ f.token negative [], Text.isBlank c = false :=
        f.token_solid negative (by simp)
      rw [solid blank inName] at isBlank
      cases isBlank

/-- Accepting a suggestion keeps the tokens before the last one and puts those of the completion
after them. A completion without a blank is one token, which stands for one predicate. A completion
with a blank is a flag with a value as it was observed: what stands before the first blank is its
first token, which stands for a predicate on that flag, and the words after the blank follow. -/
theorem parse_suggestion {text : String} {rs : List Request} {s : Suggestion}
    (offered : s ∈ Suggestion.ofText text rs) :
    let earlier := (Text.words text.toList).dropLast
    Text.words s.text.toList = earlier ++ Text.words s.display.toList ∧
      Query.parse s.text = (Query.ofTokens earlier).append (Query.parse s.display) ∧
      ((∀ c ∈ s.display.toList, Text.isBlank c = false) →
        Text.words s.display.toList = [s.display.toList] ∧
          ∃ p, Predicate.ofToken? s.display.toList = some p ∧ Query.parse s.display = .single p) ∧
      ∀ start blank rest, s.display.toList = start ++ blank :: rest →
        (∀ c ∈ start, Text.isBlank c = false) → Text.isBlank blank = true →
        Text.words s.display.toList = start :: Text.words rest ∧
          ∃ p, Predicate.ofToken? start = some p ∧
            Query.parse s.display = (Query.single p).append (Query.ofTokens (Text.words rest)) ∧
            ∃ r ∈ rs, ∃ v ∈ r.observed p.flag,
              s.display.toList = p.flag.token p.negative v.toList := by
  intro earlier
  have cut : Text.words s.text.toList = earlier ++ Text.words s.display.toList :=
    Suggestion.words_text offered
  have read : Query.parse s.text = (Query.ofTokens earlier).append (Query.parse s.display) := by
    rw [Query.parse, cut, Query.ofTokens_append]
    rfl
  obtain ⟨-, listed, -⟩ := Suggestion.mem_ofText.mp offered
  obtain ⟨f, negative, v, given, spelled⟩ := Suggestion.exists_token_of_mem_candidates listed
  refine ⟨cut, read, ?_, ?_⟩
  · intro solid
    have filled : s.display.toList ≠ [] := by
      rw [spelled]
      exact f.token_ne_nil negative v.toList
    have whole : Text.words s.display.toList = [s.display.toList] :=
      Text.words_solid _ filled solid
    have meant := Predicate.ofToken?_token f negative v.toList
    rw [← spelled] at meant
    refine ⟨whole, _, meant, ?_⟩
    rw [Query.parse, whole, Query.ofTokens_cons_of_ofToken? meant]
    rfl
  · intro start blank rest parts solid isBlank
    obtain ⟨begun, started, value⟩ := Flag.exists_token_of_blank (spelled ▸ parts) isBlank
    have filled : start ≠ [] := by
      rw [started]
      exact f.token_ne_nil negative begun
    have tokens : Text.words s.display.toList = start :: Text.words rest := by
      rw [parts, Text.words_append_blank start rest isBlank, Text.words_solid start filled solid]
      rfl
    have meant := Predicate.ofToken?_token f negative begun
    rw [← started] at meant
    have member : blank ∈ v.toList := by simp [value]
    obtain ⟨r, recorded, observed⟩ := Suggestion.mem_observed_of_blank given member isBlank
    refine ⟨tokens, _, meant, ?_, r, recorded, v, observed, spelled⟩
    rw [Query.parse, tokens, Query.ofTokens_cons_of_ofToken? meant]

/-- Two types of content, of which one has a parameter after a blank. -/
theorem parse_suggestion_applied :
    let rs : List Request :=
      [{ url := "u", mimeType := some "text/html; charset=utf-8" },
        { url := "u", mimeType := some "Text/CSS" }]
    let plain : Suggestion := ⟨"mime-type:Text/CSS", " a mime-type:Text/CSS"⟩
    let wide : Suggestion :=
      ⟨"mime-type:text/html; charset=utf-8", " a mime-type:text/html; charset=utf-8"⟩
    plain ∈ Suggestion.ofText " a mime-type:T" rs ∧ wide ∈ Suggestion.ofText " a mime-type:T" rs ∧
      Text.words plain.display.toList = [plain.display.toList] ∧
      Query.parse plain.text = (Query.ofTokens [['a']]).append (Query.parse plain.display) ∧
      Text.words wide.display.toList =
        "mime-type:text/html;".toList :: Text.words "charset=utf-8".toList := by
  intro rs plain wide
  have offeredPlain : plain ∈ Suggestion.ofText " a mime-type:T" rs := by
    rw [Suggestion.mem_ofText, Suggestion.mem_candidates]
    decide +kernel
  have offeredWide : wide ∈ Suggestion.ofText " a mime-type:T" rs := by
    rw [Suggestion.mem_ofText, Suggestion.mem_candidates]
    decide +kernel
  have earlier : (Text.words " a mime-type:T".toList).dropLast = [['a']] := by decide
  refine ⟨offeredPlain, offeredWide, ?_, ?_, ?_⟩
  · exact ((parse_suggestion offeredPlain).2.2.1 (Text.solid_of_all (by decide))).1
  · rw [← earlier]
    exact (parse_suggestion offeredPlain).2.1
  · exact ((parse_suggestion offeredWide).2.2.2 "mime-type:text/html;".toList ' '
      "charset=utf-8".toList (by decide) (Text.solid_of_all (by decide)) (by decide)).1

/-- A suggested type with a parameter is not read as one token: the parameter becomes a term. -/
theorem suggestion_not_single_token :
    let rs : List Request :=
      [{ url := "https://a.test/", mimeType := some "text/html; charset=utf-8" }]
    let s : Suggestion :=
      ⟨"mime-type:text/html; charset=utf-8", "mime-type:text/html; charset=utf-8"⟩
    s ∈ Suggestion.ofText "mime-type:" rs ∧
      Text.words s.text.toList ≠ (Text.words "mime-type:".toList).dropLast ++ [s.display.toList] ∧
      ∀ p, Query.parse s.text ≠
        (Query.ofTokens (Text.words "mime-type:".toList).dropLast).append (.single p) := by
  intro rs s
  refine ⟨?_, by decide, ?_⟩
  · rw [Suggestion.mem_ofText, Suggestion.mem_candidates]
    decide +kernel
  · have term : (Query.parse s.text).terms = ["charset=utf-8"] := by decide +kernel
    have earlier : Query.ofTokens (Text.words "mime-type:".toList).dropLast = .empty := by
      decide +kernel
    intro p read
    rw [read, earlier] at term
    cases term

end RequestFilter
