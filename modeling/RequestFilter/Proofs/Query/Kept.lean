import Mathlib.Data.List.Basic
import RequestFilter.Proofs.Query.Token
import RequestFilter.Query.Evaluate

/-!
Which requests a text keeps, token by token. A query accepts a request exactly if the request meets
each of its tokens, and the places that are kept are the places of the accepted requests, in order.
-/

set_option autoImplicit false

namespace RequestFilter

/-- Whether a request meets a token: as the predicate that it stands for, or else as a term. -/
def Request.meets (r : Request) (token : List Char) : Bool :=
  match Predicate.ofToken? token with
  | some p => p.holds r
  | none => r.matchesTerm (.ofList token)

theorem Request.meets_token (r : Request) (f : Flag) (negative : Bool) (value : List Char) :
    r.meets (f.token negative value) =
      Predicate.holds ⟨f, f.valueOf (.ofList value), negative⟩ r := by
  simp only [meets, Predicate.ofToken?_token]

namespace Query

private theorem accepts_consToken (token : List Char) (q : Query) (r : Request) :
    (consToken token q).accepts r = (r.meets token && q.accepts r) := by
  cases read : Predicate.ofToken? token with
  | some p =>
    simp only [consToken, Request.meets, read, accepts, List.all_cons]
    exact Bool.and_left_comm _ _ _
  | none => simp only [consToken, Request.meets, read, accepts, List.all_cons, Bool.and_assoc]

/-- Terms and predicates are kept apart, yet a query asks of a request what each token asks. -/
private theorem accepts_ofTokens (tokens : List (List Char)) (r : Request) :
    (ofTokens tokens).accepts r = tokens.all r.meets := by
  induction tokens with
  | nil => rfl
  | cons token tokens ih =>
    have step : ofTokens (token :: tokens) = consToken token (ofTokens tokens) := rfl
    rw [step, accepts_consToken, ih, List.all_cons]

theorem accepts_parse (text : String) (r : Request) :
    (parse text).accepts r = (Text.words text.toList).all r.meets :=
  accepts_ofTokens (Text.words text.toList) r

theorem parse_solid {text : String} (ne : text.toList ≠ [])
    (solid : ∀ c ∈ text.toList, Text.isBlank c = false) :
    parse text = consToken text.toList empty := by
  rw [parse, Text.words_solid text.toList ne solid]
  rfl

theorem accepts_parse_solid {text : String} (ne : text.toList ≠ [])
    (solid : ∀ c ∈ text.toList, Text.isBlank c = false) (r : Request) :
    (parse text).accepts r = r.meets text.toList := by
  rw [parse_solid ne solid, accepts_consToken]
  exact Bool.and_true _

end Query

section Places

variable (rs : List Request) (text : String) (s : CategorySet)

private theorem keeps_of_mem_zipIdx (q : Query) {x : Request × Nat} (hx : x ∈ rs.zipIdx) :
    q.keeps s x.1 = rs[x.2]?.any (q.keeps s) := by
  have found : rs[x.2]? = some x.1 := List.mem_zipIdx_iff_getElem?.mp hx
  rw [found]
  rfl

theorem keptPlaces_eq_filter :
    keptPlaces rs text s =
      (List.range rs.length).filter fun i => rs[i]?.any ((Query.parse text).keeps s) := by
  have byPlace : (rs.zipIdx.filter fun x => (Query.parse text).keeps s x.1) =
      rs.zipIdx.filter ((fun i => rs[i]?.any ((Query.parse text).keeps s)) ∘ Prod.snd) :=
    List.filter_congr fun x hx => keeps_of_mem_zipIdx rs s (Query.parse text) hx
  have places : rs.zipIdx.map Prod.snd = List.range rs.length := by
    rw [List.zipIdx_map_snd, List.range_eq_range']
  calc keptPlaces rs text s
      = (rs.zipIdx.filter fun x => (Query.parse text).keeps s x.1).map Prod.snd := rfl
    _ = (rs.zipIdx.map Prod.snd).filter fun i => rs[i]?.any ((Query.parse text).keeps s) := by
        rw [byPlace, List.filter_map]
    _ = _ := by rw [places]

theorem mem_keptPlaces (i : Nat) :
    i ∈ keptPlaces rs text s ↔ ∃ r, rs[i]? = some r ∧ (Query.parse text).keeps s r = true := by
  rw [keptPlaces_eq_filter, List.mem_filter, List.mem_range]
  constructor
  · rintro ⟨-, kept⟩
    exact (Option.any_eq_true _ _).mp kept
  · rintro ⟨r, found, kept⟩
    obtain ⟨bound, -⟩ := List.getElem?_eq_some_iff.mp found
    exact ⟨bound, (Option.any_eq_true _ _).mpr ⟨r, found, kept⟩⟩

theorem filterRequests_eq_filterMap :
    filterRequests rs text s = (keptPlaces rs text s).filterMap (rs[·]?) := by
  have read : ∀ x ∈ rs.zipIdx.filter fun x => (Query.parse text).keeps s x.1,
      rs[x.2]? = some x.1 :=
    fun x hx => List.mem_zipIdx_iff_getElem?.mp (List.mem_filter.mp hx).1
  have placed : (keptPlaces rs text s).filterMap (rs[·]?) =
      (rs.zipIdx.filter fun x => (Query.parse text).keeps s x.1).filterMap fun x => rs[x.2]? := by
    simp only [keptPlaces, List.filterMap_map]
    rfl
  rw [placed, List.filterMap_congr read]
  calc filterRequests rs text s
      = (rs.zipIdx.map Prod.fst).filter ((Query.parse text).keeps s) := by
        rw [List.zipIdx_map_fst]
        rfl
    _ = (rs.zipIdx.filter fun x => (Query.parse text).keeps s x.1).map Prod.fst := by
        rw [List.filter_map]
        rfl
    _ = _ := (congrFun (List.filterMap_eq_map (f := Prod.fst)) _).symm

end Places

end RequestFilter
