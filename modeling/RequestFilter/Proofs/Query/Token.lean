import RequestFilter.Proofs.Text.Lower
import RequestFilter.Proofs.Text.Search
import RequestFilter.Proofs.Text.Words
import RequestFilter.Query.Parser

/-!
What a single token of a query stands for. A token is a predicate exactly if it is spelled by a
flag, a sign and a value; a dash before a token without one turns the sign and changes nothing else.
-/

set_option autoImplicit false

namespace RequestFilter

namespace Flag

theorem ofName?_name (f : Flag) : ofName? f.name = some f := by
  cases f <;> decide

theorem name_of_ofName? {name : String} {f : Flag} (h : ofName? name = some f) :
    f.name = name := by
  simpa using List.find?_some h

private theorem colon_not_mem_name (f : Flag) : ':' ∉ f.name.toList := by
  cases f <;> decide

private theorem name_solid (f : Flag) : ∀ c ∈ f.name.toList, Text.isBlank c = false := by
  apply Text.solid_of_all
  cases f <;> decide

theorem head_name (f : Flag) : f.name.toList.head? ≠ some '-' := by
  cases f <;> decide

private theorem name_ne_nil (f : Flag) : f.name.toList ≠ [] := by
  cases f <;> decide

/-- The token that is typed for a flag, a sign and a value. -/
def token (f : Flag) (negative : Bool) (value : List Char) : List Char :=
  (if negative then ['-'] else []) ++ (f.name.toList ++ ':' :: value)

theorem toList_token (f : Flag) (value : String) :
    (f.name ++ ":" ++ value).toList = f.token false value.toList := by
  simp [token, String.toList_append]

theorem toList_token_dash (f : Flag) (value : String) :
    ("-" ++ f.name ++ ":" ++ value).toList = f.token true value.toList := by
  simp [token, String.toList_append]

theorem token_ne_nil (f : Flag) (negative : Bool) (value : List Char) :
    f.token negative value ≠ [] := by
  unfold token
  simp

theorem token_solid (f : Flag) (negative : Bool) {value : List Char}
    (solid : ∀ c ∈ value, Text.isBlank c = false) :
    ∀ c ∈ f.token negative value, Text.isBlank c = false := by
  intro c hc
  simp only [token, List.mem_append, List.mem_cons] at hc
  rcases hc with sign | name | rfl | typed
  · cases negative with
    | false => simp at sign
    | true =>
      have dash : c = '-' := by simpa using sign
      rw [dash]
      decide
  · exact f.name_solid c name
  · decide
  · exact solid c typed

theorem head_token (f : Flag) (negative : Bool) (value : List Char) :
    (f.token negative value).head? = some '-' ↔ negative = true := by
  cases negative with
  | true => simp [token]
  | false =>
    have first : (f.token false value).head? = f.name.toList.head? := by
      obtain ⟨c, cs, name⟩ := List.exists_cons_of_ne_nil f.name_ne_nil
      simp [token, name]
    rw [first]
    exact iff_of_false f.head_name (by decide)

theorem isBlank_valueOf (f : Flag) (typed : String) :
    (f.valueOf typed).isBlank = true ↔ typed = "" := by
  by_cases empty : typed = ""
  · subst empty
    exact iff_of_true rfl rfl
  · have filled : typed.isEmpty = false := by simpa using empty
    have lowered : Text.lower typed ≠ "" := Text.lower_ne_empty empty
    refine iff_of_false ?_ empty
    simp only [valueOf, filled, Bool.false_eq_true, if_false]
    split
    · simp [FlagValue.isBlank]
    · split
      · simpa [FlagValue.isBlank] using empty
      · simpa [FlagValue.isBlank] using lowered

end Flag

namespace Predicate

theorem splitDash_sign (negative : Bool) {name : List Char}
    (plain : name.head? ≠ some '-') :
    splitDash ((if negative then ['-'] else []) ++ name) = (negative, name) := by
  cases negative with
  | true => rfl
  | false =>
    cases name with
    | nil => rfl
    | cons c name =>
      have other : c ≠ '-' := by simpa using plain
      simp [splitDash, other]

theorem sign_append_splitDash (key : List Char) :
    (if (splitDash key).1 then ['-'] else []) ++ (splitDash key).2 = key := by
  unfold splitDash
  split <;> rfl

theorem splitAt?_token (f : Flag) (negative : Bool) (value : List Char) :
    Text.splitAt? ':' (f.token negative value) =
      some ((if negative then ['-'] else []) ++ f.name.toList, value) := by
  have free : ':' ∉ (if negative then ['-'] else []) ++ f.name.toList := by
    cases negative with
    | true => simpa using f.colon_not_mem_name
    | false => simpa using f.colon_not_mem_name
  rw [Flag.token, ← List.append_assoc]
  exact Text.splitAt?_append _ value free

theorem ofToken?_token (f : Flag) (negative : Bool) (value : List Char) :
    ofToken? (f.token negative value) = some ⟨f, f.valueOf (.ofList value), negative⟩ := by
  have cut := splitAt?_token f negative value
  have sign := splitDash_sign negative f.head_name
  simp only [ofToken?, cut, Option.bind_eq_bind, Option.bind_some, sign, String.ofList_toList,
    f.ofName?_name]
  rfl

/-- A token that is read as a predicate is the token of its flag, its sign and some value. -/
theorem exists_token_of_ofToken? {token : List Char} {p : Predicate}
    (h : ofToken? token = some p) :
    ∃ value, token = p.flag.token p.negative value ∧ p.value = p.flag.valueOf (.ofList value) := by
  simp only [ofToken?, Option.bind_eq_bind, Option.bind_eq_some_iff, pure,
    Option.some.injEq] at h
  obtain ⟨⟨key, value⟩, cut, f, named, rfl⟩ := h
  obtain ⟨whole, -⟩ := Text.eq_append_of_splitAt? cut
  have name : f.name.toList = (splitDash key).2 := by
    rw [Flag.name_of_ofName? named, String.toList_ofList]
  refine ⟨value, ?_, rfl⟩
  rw [Flag.token, name, ← List.append_assoc, sign_append_splitDash, whole]

private theorem negative_iff_of_ofToken? {token : List Char} {p : Predicate}
    (h : ofToken? token = some p) : p.negative = true ↔ token.head? = some '-' := by
  obtain ⟨value, spelled, -⟩ := exists_token_of_ofToken? h
  rw [spelled]
  exact (Flag.head_token p.flag p.negative value).symm

theorem negative_eq_false_of_ofToken? {token : List Char} {p : Predicate}
    (plain : token.head? ≠ some '-') (h : ofToken? token = some p) : p.negative = false :=
  Bool.eq_false_iff.mpr fun negative => plain ((negative_iff_of_ofToken? h).mp negative)

def withSign (p : Predicate) (negative : Bool) : Predicate := { p with negative }

theorem ofToken?_dash {token : List Char} (plain : token.head? ≠ some '-') :
    ofToken? ('-' :: token) = (ofToken? token).map (·.withSign true) := by
  cases read : ofToken? token with
  | some p =>
    obtain ⟨value, spelled, typed⟩ := exists_token_of_ofToken? read
    have positive : p.negative = false := negative_eq_false_of_ofToken? plain read
    have dashed : '-' :: token = p.flag.token true value := by
      rw [spelled, positive]
      rfl
    rw [dashed, ofToken?_token, ← typed]
    rfl
  | none =>
    cases dash : ofToken? ('-' :: token) with
    | none => rfl
    | some p =>
      -- The dash is the sign of `p`, so `token` alone would be read as a predicate too.
      obtain ⟨value, spelled, -⟩ := exists_token_of_ofToken? dash
      have negative : p.negative = true := (negative_iff_of_ofToken? dash).mpr rfl
      have rest : token = p.flag.token false value := by
        rw [negative] at spelled
        exact (List.cons.inj spelled).2
      rw [rest, ofToken?_token] at read
      cases read

end Predicate
end RequestFilter
