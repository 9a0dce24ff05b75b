import Mathlib.Data.List.Nodup
import Mathlib.Data.String.Basic
import RequestFilter.Proofs.Query.Kept
import RequestFilter.Proofs.Suggest.Accept
import RequestFilter.Proofs.Text.Lowered

/-!
What is suggested, exactly.

The last token decides: a token that names a flag is completed with the values of that flag, and
every other token with the names of flags. Each suggestion stands once, in the order of code points.
-/

set_option autoImplicit false

namespace RequestFilter

namespace Suggestion

/-- A text goes on after what was typed, case aside. -/
def Continues (typed text : List Char) : Prop :=
  Text.lowerList typed <+: Text.lowerList text ∧ Text.lowerList text ≠ Text.lowerList typed

theorem continues_iff (typed text : List Char) :
    continues typed text = true ↔ Continues typed text := by
  simp [continues, Continues]

namespace Continues

theorem irrefl (text : List Char) : ¬ Continues text text := fun h => h.2 rfl

theorem trans {a b c : List Char} (first : Continues a b) (second : Continues b c) :
    Continues a c := by
  refine ⟨first.1.trans second.1, ?_⟩
  intro same
  have back : Text.lowerList b <+: Text.lowerList a := same ▸ second.1
  exact first.2 (back.eq_of_length_le first.1.length_le)

private theorem nil_iff (text : List Char) : Continues [] text ↔ text ≠ [] := by
  have nothing : Text.lowerList [] = [] := rfl
  rw [Continues, nothing]
  constructor
  · rintro ⟨-, grown⟩ rfl
    exact grown rfl
  · intro filled
    exact ⟨List.nil_prefix, Text.lowerList_ne_nil filled⟩

private theorem ne_nil {typed text : List Char} (h : Continues typed text) : text ≠ [] := by
  rintro rfl
  exact h.2 (List.prefix_nil.mp h.1).symm

end Continues

private theorem continues_iff_or (typed : List Char) (value : String) :
    Continues typed value.toList ↔ value ≠ "" ∧ (typed = [] ∨ Continues typed value.toList) := by
  have filled : value ≠ "" ↔ value.toList ≠ [] := by simp
  rw [filled]
  constructor
  · intro goesOn
    exact ⟨goesOn.ne_nil, Or.inr goesOn⟩
  · rintro ⟨filled, rfl | goesOn⟩
    · exact (Continues.nil_iff _).mpr filled
    · exact goesOn

private theorem suits_iff (typed : List Char) (value : String) :
    suits typed value = true ↔ Continues typed value.toList := by
  rw [continues_iff_or]
  simp [suits, continues_iff]

/-! ### Values of a flag -/

private theorem nodup_eraseDups {α : Type} [DecidableEq α] (xs : List α) : xs.eraseDups.Nodup := by
  cases xs with
  | nil => exact List.nodup_nil
  | cons x xs =>
    rw [List.eraseDups_cons, List.nodup_cons]
    refine ⟨?_, nodup_eraseDups (xs.filter fun y => !y == x)⟩
    simp [List.mem_eraseDups]
termination_by xs.length
decreasing_by exact Nat.lt_succ_of_le (List.length_filter_le _ xs)

private theorem valueCandidates_token (f : Flag) (negative : Bool) (typed : List Char)
    (rs : List Request) :
    valueCandidates (f.token negative typed) rs =
      ((observedValues f rs).filter (suits typed)).eraseDups.map fun value =>
        .ofList (f.token negative value.toList) := by
  have spelled (value : List Char) :
      (if negative then ['-'] else []) ++ f.name.toList ++ ':' :: value =
        f.token negative value :=
    List.append_assoc _ _ _
  simp only [valueCandidates, Predicate.splitAt?_token,
    Predicate.splitDash_sign negative f.head_name, String.ofList_toList, f.ofName?_name, spelled]

private theorem mem_observedValues {f : Flag} {rs : List Request} {v : String} :
    v ∈ observedValues f rs ↔
      f = .is ∧ v ∈ ["cached", "from-cache", "running"] ∨
        f ≠ .is ∧ ∃ r ∈ rs, v ∈ r.observed f := by
  unfold observedValues
  split
  · rename_i fixed
    simp [fixed, states]
  · rename_i other
    simp [other]

private theorem mem_valueCandidates_token {f : Flag} {negative : Bool} {typed : List Char}
    {rs : List Request} {candidate : String} :
    candidate ∈ valueCandidates (f.token negative typed) rs ↔
      ∃ v ∈ observedValues f rs, Continues typed v.toList ∧
        candidate = .ofList (f.token negative v.toList) := by
  rw [valueCandidates_token]
  simp only [List.mem_map, List.mem_eraseDups, List.mem_filter, suits_iff, and_assoc,
    eq_comm (a := candidate)]

theorem token_injective (f : Flag) (negative : Bool) :
    Function.Injective (f.token negative) := by
  intro a b same
  exact (List.cons.inj (List.append_cancel_left (List.append_cancel_left same))).2

private theorem nodup_valueCandidates (f : Flag) (negative : Bool) (typed : List Char)
    (rs : List Request) : (valueCandidates (f.token negative typed) rs).Nodup := by
  rw [valueCandidates_token]
  apply (nodup_eraseDups _).map
  intro a b same
  exact String.toList_injective (token_injective f negative (String.ofList_injective same))

private theorem valueCandidates_of_ofToken? {token : List Char}
    (term : Predicate.ofToken? token = none) (rs : List Request) :
    valueCandidates token rs = [] := by
  unfold valueCandidates
  split
  · rfl
  · rename_i key typed cut
    split
    · rfl
    · rename_i f named
      simp [Predicate.ofToken?, cut, named] at term

/-! ### Names of flags -/

private theorem isLowered_of_mem_name (f : Flag) (negative : Bool) :
    ∀ c ∈ f.token negative [], Text.isLowered c = true := by
  rw [← List.all_eq_true]
  cases negative <;> cases f <;> decide +kernel

private theorem nodup_names : names.Nodup := by decide +kernel

private theorem lowerList_name {name : String} (listed : name ∈ names) :
    Text.lowerList name.toList = name.toList := by
  obtain ⟨f, negative, spelled⟩ := mem_names listed
  rw [spelled]
  exact Text.lowerAfter_of_isLowered [] (isLowered_of_mem_name f negative)

private theorem mem_nameCandidates {token : List Char} {name : String} :
    name ∈ nameCandidates token ↔
      name ∈ names ∧ Text.lowerList token <+: name.toList ∧ name.toList ≠ Text.lowerList token := by
  rw [nameCandidates, List.mem_filter, continues_iff, Continues]
  constructor
  · rintro ⟨listed, goesOn⟩
    rw [lowerList_name listed] at goesOn
    exact ⟨listed, goesOn⟩
  · rintro ⟨listed, goesOn⟩
    rw [lowerList_name listed]
    exact ⟨listed, goesOn⟩

private theorem exists_lowerList_token (f : Flag) (negative : Bool) (typed : List Char) :
    ∃ rest, Text.lowerList (f.token negative typed) = f.token negative rest := by
  have named (value : List Char) : f.token negative value = f.token negative [] ++ value := by
    simp [Flag.token]
  refine ⟨Text.lowerAfter (f.token negative []).reverse typed, ?_⟩
  rw [named typed, named (Text.lowerAfter _ typed)]
  exact Text.lowerList_append_of_isLowered typed (isLowered_of_mem_name f negative)

private theorem nameCandidates_token (f : Flag) (negative : Bool) (typed : List Char) :
    nameCandidates (f.token negative typed) = [] := by
  rw [List.eq_nil_iff_forall_not_mem]
  intro name listed
  obtain ⟨known, start, longer⟩ := mem_nameCandidates.mp listed
  obtain ⟨rest, lowered⟩ := exists_lowerList_token f negative typed
  obtain ⟨g, sign, spelled⟩ := mem_names known
  rw [lowered] at start longer
  rw [spelled] at start longer
  obtain ⟨more, whole⟩ := start
  have joined : f.token negative rest ++ more = f.token negative (rest ++ more) := by
    simp [Flag.token]
  -- both are cut at their first colon, behind which the name has nothing
  have cut := Predicate.splitAt?_token f negative (rest ++ more)
  rw [← joined, whole, Predicate.splitAt?_token] at cut
  obtain ⟨-, nothing⟩ := Prod.mk.inj (Option.some.inj cut)
  obtain ⟨rfl, rfl⟩ := List.append_eq_nil_iff.mp nothing.symm
  exact longer (by rw [← whole, List.append_nil])

/-! ### All that is suggested -/

theorem mem_candidates_token {f : Flag} {negative : Bool} {typed : List Char}
    {rs : List Request} {candidate : String} :
    candidate ∈ candidates (f.token negative typed) rs ↔
      ∃ v ∈ observedValues f rs, Continues typed v.toList ∧
        candidate = .ofList (f.token negative v.toList) := by
  rw [mem_candidates, ← mem_valueCandidates_token]
  split
  · rename_i none
    rw [nameCandidates_token, List.isEmpty_iff.mp none]
  · rfl

theorem mem_candidates_term {token : List Char} (term : Predicate.ofToken? token = none)
    {rs : List Request} {candidate : String} :
    candidate ∈ candidates token rs ↔
      candidate ∈ names ∧ Text.lowerList token <+: candidate.toList ∧
        candidate.toList ≠ Text.lowerList token := by
  rw [mem_candidates, valueCandidates_of_ofToken? term, ← mem_nameCandidates]
  rfl

private theorem nodup_candidates (token : List Char) (rs : List Request) :
    (candidates token rs).Nodup := by
  rw [candidates, (List.mergeSort_perm _ _).nodup_iff]
  split
  · exact nodup_names.filter _
  · cases read : Predicate.ofToken? token with
    | none =>
      rw [valueCandidates_of_ofToken? read]
      exact List.nodup_nil
    | some p =>
      obtain ⟨typed, spelled, -⟩ := Predicate.exists_token_of_ofToken? read
      rw [spelled]
      exact nodup_valueCandidates p.flag p.negative typed rs

/-- Completions stand in the order of code points, each once. -/
private theorem pairwise_candidates (token : List Char) (rs : List Request) :
    (candidates token rs).Pairwise (· < ·) := by
  have sorted : (candidates token rs).Pairwise fun a b => decide (a ≤ b) = true := by
    apply List.pairwise_mergeSort
    · intro a b c ab bc
      simp only [decide_eq_true_eq] at *
      exact ab.trans bc
    · intro a b
      simpa using le_total a b
  exact sorted.imp₂ (fun a b le ne => lt_of_le_of_ne (of_decide_eq_true le) ne)
    (nodup_candidates token rs)

/-! ### The last token of a text -/

private theorem exists_last_token {text : String}
    (unfinished : ∃ c ∈ text.toList.getLast?, Text.isBlank c = false) :
    ∃ earlier token, Text.words text.toList = earlier ++ [token] := by
  obtain ⟨c, last, solid⟩ := unfinished
  have filled := Text.words_ne_nil (List.mem_of_getLast? last) solid
  exact ⟨_, _, (List.dropLast_concat_getLast filled).symm⟩

/-- The tokens before the last one, with an empty one for blanks at the start of the text. -/
def before (text : String) (earlier : List (List Char)) : List String :=
  (if text.toList.head?.any Text.isBlank then [""] else []) ++ earlier.map String.ofList

section LastToken

variable {text : String} (unfinished : ∃ c ∈ text.toList.getLast?, Text.isBlank c = false)
  {earlier : List (List Char)} {token : List Char}
  (cut : Text.words text.toList = earlier ++ [token])

include unfinished cut

/-- The completions of the last token are suggested, each behind the earlier tokens. -/
private theorem ofText_eq_map (rs : List Request) :
    ofText text rs = (candidates token rs).map fun candidate =>
      ⟨candidate, " ".intercalate (before text earlier ++ [candidate])⟩ := by
  have solid : text.toList.getLast?.all Text.isBlank = false := by
    obtain ⟨c, last, solid⟩ := unfinished
    rw [Option.mem_def.mp last]
    exact solid
  have all : tokens text.toList =
      ((if text.toList.head?.any Text.isBlank then [[]] else []) ++ earlier) ++ [token] := by
    unfold tokens
    split <;> simp [cut]
  have listed : ((if text.toList.head?.any Text.isBlank then [[]] else []) ++ earlier).map
      String.ofList = before text earlier := by
    unfold before
    split <;> simp
  simp only [ofText, solid, Bool.false_eq_true, if_false, all, List.getLast?_concat,
    Option.getD_some, List.dropLast_concat, listed]

theorem map_display_ofText (rs : List Request) :
    (ofText text rs).map display = candidates token rs := by
  rw [ofText_eq_map unfinished cut, List.map_map]
  exact List.map_id _

end LastToken

/-- What is suggested for a text. Nothing is after a blank. Otherwise the last token is either the
name of a flag with a colon and what was typed of a value, and is completed with the values of that
flag in the requests, or it is a term, and is completed with the names of flags. -/
theorem offered_exactly (text : String) (rs : List Request) :
    ((∀ c ∈ text.toList.getLast?, Text.isBlank c = true) → ofText text rs = []) ∧
      ((∃ c ∈ text.toList.getLast?, Text.isBlank c = false) →
        ∃ earlier token, Text.words text.toList = earlier ++ [token] ∧
          ((ofText text rs).map display).Pairwise (· < ·) ∧
          (∀ s ∈ ofText text rs,
            s.text = " ".intercalate (before text earlier ++ [s.display])) ∧
          ((∃ p key typed, Query.parse (.ofList token) = .single p ∧
              token = key ++ ':' :: typed ∧ ':' ∉ key ∧ nameCandidates token = [] ∧
              ∀ d, d ∈ (ofText text rs).map display ↔
                ∃ v, (p.flag = .is ∧ v ∈ ["cached", "from-cache", "running"] ∨
                    p.flag ≠ .is ∧ ∃ r ∈ rs, v ∈ r.observed p.flag) ∧
                  v ≠ "" ∧ (typed = [] ∨ Continues typed v.toList) ∧
                  d = .ofList (key ++ ':' :: v.toList)) ∨
            (Query.parse (.ofList token) = ⟨[.ofList token], []⟩ ∧
              ∀ d, d ∈ (ofText text rs).map display ↔
                d ∈ names ∧ Text.lowerList token <+: d.toList ∧
                  d.toList ≠ Text.lowerList token))) := by
  constructor
  · intro finished
    have ended : text.toList.getLast?.all Text.isBlank = true := by
      simpa [Option.all_eq_true] using finished
    simp only [ofText, ended, if_true]
  · intro unfinished
    obtain ⟨earlier, token, cut⟩ := exists_last_token unfinished
    have listed := map_display_ofText unfinished cut rs
    have word : token ∈ Text.words text.toList := by simp [cut]
    obtain ⟨filled, solid⟩ := Text.solid_of_mem_words word
    have parsed : Query.parse (.ofList token) = Query.consToken token .empty := by
      have list : (String.ofList token).toList = token := String.toList_ofList
      rw [Query.parse_solid (by rwa [list]) (by rwa [list]), list]
    refine ⟨earlier, token, cut, ?_, ?_, ?_⟩
    · rw [listed]
      exact pairwise_candidates token rs
    · intro s offered
      rw [ofText_eq_map unfinished cut] at offered
      obtain ⟨candidate, -, rfl⟩ := List.mem_map.mp offered
      rfl
    · rw [listed, parsed]
      cases read : Predicate.ofToken? token with
      | some p =>
        left
        obtain ⟨typed, spelled, -⟩ := Predicate.exists_token_of_ofToken? read
        have key := Predicate.splitAt?_token p.flag p.negative typed
        rw [← spelled] at key
        obtain ⟨whole, free⟩ := Text.eq_append_of_splitAt? key
        refine ⟨p, _, typed, by simp [Query.consToken, read, Query.single, Query.empty], whole,
          free, ?_, fun d => ?_⟩
        · rw [spelled]
          exact nameCandidates_token p.flag p.negative typed
        · have joined (v : String) : p.flag.token p.negative v.toList =
              (if p.negative then ['-'] else []) ++ p.flag.name.toList ++ ':' :: v.toList :=
            (List.append_assoc _ _ _).symm
          rw [spelled, mem_candidates_token]
          refine exists_congr fun v => ?_
          rw [mem_observedValues, joined, ← and_assoc (a := v ≠ ""), ← continues_iff_or]
      | none =>
        right
        refine ⟨by simp [Query.consToken, read, Query.empty], fun d => mem_candidates_term read⟩

end Suggestion
end RequestFilter
