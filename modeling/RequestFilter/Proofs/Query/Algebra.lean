import RequestFilter.Proofs.Query.Kept

/-!
Queries as combinations of their tokens. Blanks between two texts mean that both must keep a
request, so only the set of tokens counts; a dash before a token keeps exactly the requests that the
token alone does not, unless the token gives its flag no value.
-/

set_option autoImplicit false

namespace RequestFilter

/-! ### Conjunction -/

namespace Query

theorem keeps_parse (text : String) (s : CategorySet) (r : Request) :
    (parse text).keeps s r = (s.admits r && (Text.words text.toList).all r.meets) := by
  rw [keeps, accepts_parse]

private theorem keeps_append_blanks (a w b : String) (ne : w ≠ "")
    (blank : ∀ c ∈ w.toList, Text.isBlank c = true) (s : CategorySet) (r : Request) :
    (parse (a ++ w ++ b)).keeps s r = ((parse a).keeps s r && (parse b).keeps s r) := by
  have filled : w.toList ≠ [] := fun nil => ne (String.toList_eq_nil_iff.mp nil)
  have tokens : Text.words (a ++ w ++ b).toList =
      Text.words a.toList ++ Text.words b.toList := by
    rw [String.toList_append, String.toList_append]
    exact Text.words_append_blanks a.toList w.toList b.toList filled blank
  rw [keeps_parse, keeps_parse, keeps_parse, tokens, List.all_append]
  cases s.admits r <;> simp

private theorem keeps_congr {a b : String}
    (same : ∀ token, token ∈ Text.words a.toList ↔ token ∈ Text.words b.toList) (s : CategorySet) :
    (parse a).keeps s = (parse b).keeps s := by
  funext r
  have tokens : (Text.words a.toList).all r.meets = (Text.words b.toList).all r.meets := by
    rw [Bool.eq_iff_iff, List.all_eq_true, List.all_eq_true]
    exact forall_congr' fun token => imp_congr_left (same token)
  rw [keeps_parse, keeps_parse, tokens]

end Query

/-- A text is the conjunction of its tokens: what stands on both sides of blanks keeps the places
that each side keeps, and texts with the same tokens keep the same requests. -/
theorem keptPlaces_append_blanks (rs : List Request) (s : CategorySet) :
    (∀ a w b : String, w ≠ "" → (∀ c ∈ w.toList, Text.isBlank c = true) →
      keptPlaces rs (a ++ w ++ b) s =
          (List.range rs.length).filter
            (fun i => i ∈ keptPlaces rs a s ∧ i ∈ keptPlaces rs b s) ∧
        filterRequests rs (a ++ w ++ b) s =
          (keptPlaces rs (a ++ w ++ b) s).filterMap (rs[·]?)) ∧
    (∀ q q' : String,
      (∀ token, token ∈ Text.words q.toList ↔ token ∈ Text.words q'.toList) →
        keptPlaces rs q s = keptPlaces rs q' s ∧
          filterRequests rs q s = filterRequests rs q' s) := by
  constructor
  · intro a w b ne blank
    refine ⟨?_, filterRequests_eq_filterMap rs (a ++ w ++ b) s⟩
    have both : (Query.parse (a ++ w ++ b)).keeps s =
        fun r => (Query.parse a).keeps s r && (Query.parse b).keeps s r :=
      funext (Query.keeps_append_blanks a w b ne blank s)
    rw [keptPlaces_eq_filter, both]
    apply List.filter_congr
    intro i hi
    have bound : i < rs.length := List.mem_range.mp hi
    have found : rs[i]? = some rs[i] := List.getElem?_eq_getElem bound
    simp [mem_keptPlaces, found]
  · intro q q' same
    have kept : (Query.parse q).keeps s = (Query.parse q').keeps s := Query.keeps_congr same s
    constructor
    · rw [keptPlaces_eq_filter, keptPlaces_eq_filter, kept]
    · simp only [filterRequests, kept]

/-- Three requests and a text whose tokens stand in another order and twice. -/
theorem keptPlaces_append_blanks_applied :
    let rs : List Request :=
      [{ url := "a/x" }, { url := "b/x", method := some "GET" }, { url := "b" }]
    (keptPlaces rs ("x" ++ "\u2003\t" ++ "method:get -a") .full =
        (List.range rs.length).filter
          (fun i => i ∈ keptPlaces rs "x" .full ∧ i ∈ keptPlaces rs "method:get -a" .full) ∧
      filterRequests rs ("x" ++ "\u2003\t" ++ "method:get -a") .full =
        (keptPlaces rs ("x" ++ "\u2003\t" ++ "method:get -a") .full).filterMap (rs[·]?)) ∧
    keptPlaces rs "x -a" .full = keptPlaces rs " -a x\u3000-a" .full ∧
      filterRequests rs "x -a" .full = filterRequests rs " -a x\u3000-a" .full := by
  intro rs
  have tokens : ∀ token, token ∈ Text.words "x -a".toList ↔
      token ∈ Text.words " -a x\u3000-a".toList := by
    have left : Text.words "x -a".toList = [['x'], ['-', 'a']] := by decide
    have right : Text.words " -a x\u3000-a".toList = [['-', 'a'], ['x'], ['-', 'a']] := by decide
    intro token
    rw [left, right]
    simp only [List.mem_cons, List.not_mem_nil, or_false]
    tauto
  exact ⟨(keptPlaces_append_blanks rs .full).1 "x" "\u2003\t" "method:get -a"
      (by decide) (List.all_eq_true.mp (by decide)),
    (keptPlaces_append_blanks rs .full).2 "x -a" " -a x\u3000-a" tokens⟩

/-! ### Complement -/

namespace Predicate

private theorem holds_withSign (p : Predicate) (typed : p.value.isBlank = false) (r : Request) :
    (p.withSign (!p.negative)).holds r = !p.holds r := by
  simp only [holds, holdsBy, withSign, typed, Bool.false_or]
  cases r.matchesValue Pattern.compile? p.flag p.value <;> cases p.negative <;> rfl

private theorem holds_of_isBlank {p : Predicate} (blank : p.value.isBlank = true) (r : Request) :
    p.holds r = true := by
  simp only [holds, holdsBy, blank, Bool.true_or]

end Predicate

namespace Request

theorem matchesTerm_dash (r : Request) {term : List Char} (ne : term ≠ [])
    (plain : term.head? ≠ some '-') :
    r.matchesTerm (.ofList term) =
        Text.hasInfix (Text.lowerList term) (Text.lowerList r.url.toList) ∧
      r.matchesTerm (.ofList ('-' :: term)) =
        !Text.hasInfix (Text.lowerList term) (Text.lowerList r.url.toList) := by
  obtain ⟨c, cs, lowered⟩ := List.exists_cons_of_ne_nil (Text.lowerList_ne_nil ne)
  have other : c ≠ '-' := by
    have first : (Text.lowerList term).head? ≠ some '-' := Text.head_lowerList (by decide) plain
    simpa [lowered] using first
  constructor
  · simp [matchesTerm, String.toList_ofList, lowered, other]
  · simp only [matchesTerm, String.toList_ofList, Text.lowerList_dash, lowered]

/-- A request meets a token or the token with a dash, and not both. -/
private theorem meets_dash (r : Request) {token : List Char} (ne : token ≠ [])
    (plain : token.head? ≠ some '-') (typed : ∀ f : Flag, token ≠ f.token false []) :
    r.meets ('-' :: token) = !r.meets token := by
  cases read : Predicate.ofToken? token with
  | some p =>
    obtain ⟨value, spelled, given⟩ := Predicate.exists_token_of_ofToken? read
    have positive : p.negative = false := Predicate.negative_eq_false_of_ofToken? plain read
    have filled : p.value.isBlank = false := by
      rw [given, Bool.eq_false_iff, ne_eq, Flag.isBlank_valueOf]
      intro empty
      have nil : value = [] := by simpa using congrArg String.toList empty
      apply typed p.flag
      rw [spelled, positive, nil]
    simp only [meets, Predicate.ofToken?_dash plain, read, Option.map_some]
    have turned := p.holds_withSign filled r
    rwa [positive] at turned
  | none =>
    obtain ⟨stands, lacks⟩ := r.matchesTerm_dash ne plain
    simp only [meets, Predicate.ofToken?_dash plain, read, Option.map_none, stands, lacks]

theorem meets_bare (r : Request) (f : Flag) (negative : Bool) :
    r.meets (f.token negative []) = true := by
  rw [meets_token]
  exact Predicate.holds_of_isBlank ((f.isBlank_valueOf _).mpr rfl) r

end Request

private theorem keeps_full_token {token : String} (ne : token.toList ≠ [])
    (solid : ∀ c ∈ token.toList, Text.isBlank c = false) (r : Request) :
    (Query.parse token).keeps .full r = r.meets token.toList := by
  have unrestricted : CategorySet.full.isUnrestricted = true := by decide
  have admitted : CategorySet.full.admits r = true := by
    rw [CategorySet.admits, unrestricted, Bool.true_or]
  rw [Query.keeps, admitted, Query.accepts_parse_solid ne solid, Bool.true_and]

private theorem keptPlaces_token {token : String} (ne : token.toList ≠ [])
    (solid : ∀ c ∈ token.toList, Text.isBlank c = false) (rs : List Request) :
    keptPlaces rs token .full =
      (List.range rs.length).filter fun i => rs[i]?.any (·.meets token.toList) := by
  have kept : (Query.parse token).keeps .full = (·.meets token.toList) :=
    funext (keeps_full_token ne solid)
  rw [keptPlaces_eq_filter, kept]

/-- A dash before a token keeps exactly the places that the token alone does not keep, unless the
token is the name of a flag with nothing after the colon, which keeps all places with and without
a dash. -/
theorem keptPlaces_dash (rs : List Request) (t : String) (ne : t ≠ "")
    (solid : ∀ c ∈ t.toList, Text.isBlank c = false) (plain : t.toList.head? ≠ some '-') :
    ((¬ ∃ f : Flag, t = f.name ++ ":") →
      keptPlaces rs ("-" ++ t) .full =
        (List.range rs.length).filter fun i => i ∉ keptPlaces rs t .full) ∧
    ((∃ f : Flag, t = f.name ++ ":") →
      keptPlaces rs t .full = List.range rs.length ∧
        keptPlaces rs ("-" ++ t) .full = List.range rs.length) := by
  have filled : t.toList ≠ [] := fun nil => ne (String.toList_eq_nil_iff.mp nil)
  have dashed : ("-" ++ t).toList = '-' :: t.toList := by rw [String.toList_append]; rfl
  have dashedSolid : ∀ c ∈ ("-" ++ t).toList, Text.isBlank c = false := by
    rw [dashed]
    exact List.forall_mem_cons.mpr ⟨by decide, solid⟩
  have keptAlone := keptPlaces_token filled solid rs
  have keptDashed := keptPlaces_token (by rw [dashed]; simp) dashedSolid rs
  constructor
  · intro typed
    have unlike : ∀ f : Flag, t.toList ≠ f.token false [] := by
      intro f same
      apply typed
      refine ⟨f, String.toList_inj.mp ?_⟩
      rw [same, String.toList_append]
      rfl
    rw [keptDashed, keptAlone]
    apply List.filter_congr
    intro i hi
    have bound : i < rs.length := List.mem_range.mp hi
    simp [dashed, Request.meets_dash rs[i] filled plain unlike, bound]
  · rintro ⟨f, rfl⟩
    have spelled : (f.name ++ ":").toList = f.token false [] := by
      rw [String.toList_append]
      rfl
    have all : ∀ (negative : Bool), ∀ i ∈ List.range rs.length,
        rs[i]?.any (·.meets (f.token negative [])) = true := by
      intro negative i hi
      have bound : i < rs.length := List.mem_range.mp hi
      simp [bound, Request.meets_bare]
    constructor
    · rw [keptAlone, spelled]
      exact List.filter_eq_self.mpr (all false)
    · rw [keptDashed, dashed, spelled]
      exact List.filter_eq_self.mpr (all true)

/-- A pattern that is not well formed, and a bare flag. -/
theorem keptPlaces_dash_applied :
    let rs : List Request := [{ url := "a" }, { url := "b", contentSize := some (.ofNat 5) }]
    keptPlaces rs ("-" ++ "regexp:([") .full =
        (List.range rs.length).filter (fun i => i ∉ keptPlaces rs "regexp:([" .full) ∧
      keptPlaces rs "size:" .full = List.range rs.length ∧
        keptPlaces rs ("-" ++ "size:") .full = List.range rs.length := by
  intro rs
  have typed : ¬ ∃ f : Flag, "regexp:([" = f.name ++ ":" := by
    rintro ⟨f, same⟩
    revert same
    cases f <;> decide
  have solid : ∀ c ∈ "regexp:([".toList, Text.isBlank c = false := Text.solid_of_all (by decide)
  have bareSolid : ∀ c ∈ "size:".toList, Text.isBlank c = false := Text.solid_of_all (by decide)
  exact ⟨(keptPlaces_dash rs "regexp:([" (by decide) solid (by decide)).1 typed,
    (keptPlaces_dash rs "size:" (by decide) bareSolid (by decide)).2 ⟨.size, by decide⟩⟩

end RequestFilter
