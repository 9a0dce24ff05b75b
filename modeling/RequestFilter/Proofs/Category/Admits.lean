import RequestFilter.Proofs.Category.Set
import RequestFilter.Proofs.Query.Matcher

/-!
Which requests a set of categories lets pass.

Every request has a category, so a set that restricts nothing lets pass what its members do, and the
shortcut for the full set gives no other answer than looking for a common category. So the requests
of two sets together are those of the one and those of the other.
-/

set_option autoImplicit false

namespace RequestFilter

/-! ### The categories of a request -/

namespace Request

private theorem of_mem_contentCategories {r : Request} {c : Category} (h : c ∈ r.contentCategories)
    :
    c ≠ .xhr ∧ c ≠ .ws ∧ c ≠ .other := by
  have only {test : Bool} {d : Category} (member : c ∈ if test then [d] else []) : c = d := by
    cases test with
    | true => exact List.mem_singleton.mp member
    | false => cases member
  simp only [contentCategories, List.mem_append] at h
  rcases h with ((((h | h) | h) | h) | h) | h <;> rw [only h] <;> decide

private theorem transportCategories_cases (r : Request) :
    r.transportCategories = [] ∨ r.transportCategories = [.ws] ∨ r.transportCategories = [.xhr] := by
  unfold transportCategories
  split
  · exact Or.inr (Or.inl rfl)
  · split
    · exact Or.inr (Or.inr rfl)
    · exact Or.inl rfl

private theorem contains_categories_iff (r : Request) (c : Category) :
    r.categories.contains c = true ↔
      c ∈ r.contentCategories ++ r.transportCategories ∨
        r.contentCategories ++ r.transportCategories = [] ∧ c = .other := by
  unfold categories
  split
  · rename_i none
    simp [none, eq_comm]
  · rename_i told
    rw [CategorySet.contains_ofList]
    exact (or_iff_left fun other => told other.1).symm

private theorem other_not_mem (r : Request) : .other ∉ r.contentCategories ++ r.transportCategories
    := by
  intro member
  rcases List.mem_append.mp member with content | transport
  · exact (of_mem_contentCategories content).2.2 rfl
  · rcases r.transportCategories_cases with none | ws | xhr
    · rw [none] at transport
      cases transport
    · rw [ws] at transport
      exact absurd transport (by decide)
    · rw [xhr] at transport
      exact absurd transport (by decide)

private theorem exists_contains_categories (r : Request) : ∃ c, r.categories.contains c = true := by
  cases told : r.contentCategories ++ r.transportCategories with
  | nil => exact ⟨.other, (r.contains_categories_iff _).mpr (Or.inr ⟨told, rfl⟩)⟩
  | cons c cs => exact ⟨c, (r.contains_categories_iff c).mpr (Or.inl (by simp [told]))⟩

private theorem contains_other_iff (r : Request) :
    r.categories.contains .other = true ↔ r.categories = .single .other := by
  constructor
  · intro member
    obtain ⟨none, -⟩ :=
      ((r.contains_categories_iff .other).mp member).resolve_left r.other_not_mem
    rw [categories, none]
  · intro only
    rw [only, CategorySet.contains_single]
    rfl

private theorem not_xhr_and_ws (r : Request) :
    ¬(r.categories.contains .xhr = true ∧ r.categories.contains .ws = true) := by
  have made {c : Category} (member : r.categories.contains c = true)
      (content : c ∉ r.contentCategories) (told : c ≠ .other) : c ∈ r.transportCategories := by
    rcases (r.contains_categories_iff c).mp member with listed | ⟨-, other⟩
    · exact (List.mem_append.mp listed).resolve_left content
    · exact absurd other told
  rintro ⟨xhr, ws⟩
  have script := made xhr (fun h => (of_mem_contentCategories h).1 rfl) (by decide)
  have socket := made ws (fun h => (of_mem_contentCategories h).2.1 rfl) (by decide)
  rcases r.transportCategories_cases with only | only | only
  · rw [only] at script
    cases script
  · rw [only] at script
    exact absurd script (by decide)
  · rw [only] at socket
    exact absurd socket (by decide)

end Request

/-! ### What a set lets pass -/

namespace CategorySet

/-- A set with a member lets pass the requests with which it has a category in common, also where it
is full. -/
private theorem admits_iff {s : CategorySet} (filled : s.isEmpty = false) (r : Request) :
    s.admits r = true ↔ ∃ c, s.contains c = true ∧ r.categories.contains c = true := by
  have common : (!(s.inter r.categories).isEmpty) = true ↔
      ∃ c, s.contains c = true ∧ r.categories.contains c = true := by
    rw [Bool.not_eq_true', isEmpty_eq_false_iff]
    simp only [contains_inter, Bool.and_eq_true]
  -- the shortcut is left for the full set only, which holds the category that every request has
  rw [admits, Bool.or_eq_true, common, isUnrestricted_iff, filled]
  refine or_iff_right_of_imp fun unrestricted => ?_
  obtain rfl : s = full := unrestricted.resolve_left Bool.false_ne_true
  obtain ⟨c, member⟩ := r.exists_contains_categories
  exact ⟨c, contains_full c, member⟩

private theorem isEmpty_union {s : CategorySet} (filled : s.isEmpty = false) (t : CategorySet) :
    (s.union t).isEmpty = false := by
  obtain ⟨c, member⟩ := (isEmpty_eq_false_iff s).mp filled
  exact (isEmpty_eq_false_iff _).mpr ⟨c, by rw [contains_union, member, Bool.true_or]⟩

private theorem isEmpty_single (c : Category) : (single c).isEmpty = false :=
  (isEmpty_eq_false_iff _).mpr ⟨c, by rw [contains_single, decide_eq_true rfl]⟩

private theorem admits_single (c : Category) (r : Request) :
    (single c).admits r = r.categories.contains c := by
  rw [Bool.eq_iff_iff, admits_iff (isEmpty_single c)]
  simp

private theorem admits_union {s t : CategorySet} (left : s.isEmpty = false)
    (right : t.isEmpty = false) (r : Request) :
    (s.union t).admits r = (s.admits r || t.admits r) := by
  rw [Bool.eq_iff_iff, Bool.or_eq_true, admits_iff (isEmpty_union left t), admits_iff left,
    admits_iff right]
  simp only [contains_union, Bool.or_eq_true, or_and_right, exists_or]

end CategorySet

/-- Every request has a category, has `other` only if it has no more, and is not both made by a
script and a web socket. Two sets with members let pass together what one of them does, and keep the
places that one of them keeps, in order; so what a text matches is kept by the set of one category.
-/
theorem keptPlaces_union :
    (∀ r : Request, r.categories.isEmpty = false ∧ r.categories.inter .full = r.categories ∧
        (r.categories.contains .other = true ↔ r.categories = .single .other) ∧
        ¬(r.categories.contains .xhr = true ∧ r.categories.contains .ws = true)) ∧
      (∀ s t : CategorySet, s.isEmpty = false → t.isEmpty = false →
        (∀ r, (s.union t).admits r = (s.admits r || t.admits r)) ∧
        ∀ (rs : List Request) (text : String),
          keptPlaces rs text (s.union t) =
              (List.range rs.length).filter
                (fun i => i ∈ keptPlaces rs text s ∨ i ∈ keptPlaces rs text t) ∧
            filterRequests rs text (s.union t) =
              (keptPlaces rs text (s.union t)).filterMap (rs[·]?)) ∧
      ∀ (rs : List Request) (text : String) (i : Nat) (r : Request), rs[i]? = some r →
        r.matchesFilter text = true → ∃ c, i ∈ keptPlaces rs text (.single c) := by
  refine ⟨fun r => ⟨?_, ?_, r.contains_other_iff, r.not_xhr_and_ws⟩, ?_, ?_⟩
  · exact (CategorySet.isEmpty_eq_false_iff _).mpr r.exists_contains_categories
  · apply CategorySet.ext_contains
    simp
  · intro s t left right
    refine ⟨CategorySet.admits_union left right, fun rs text => ⟨?_, ?_⟩⟩
    · rw [keptPlaces_eq_filter]
      apply List.filter_congr
      intro i inside
      have bound : i < rs.length := List.mem_range.mp inside
      simp only [mem_keptPlaces, List.getElem?_eq_getElem bound, Option.any_some,
        Option.some.injEq, exists_eq_left', Query.keeps, CategorySet.admits_union left right,
        Bool.and_or_distrib_right, Bool.decide_or, Bool.decide_eq_true]
    · exact filterRequests_eq_filterMap rs text _
  · intro rs text i r found matched
    obtain ⟨c, member⟩ := r.exists_contains_categories
    refine ⟨c, (mem_keptPlaces rs text _ i).mpr ⟨r, found, ?_⟩⟩
    rw [Query.keeps, CategorySet.admits_single, member, ← r.matchesFilter_eq_accepts, matched]
    rfl

/-- A font that a script asks for with the answer of a web socket, a page, and two sets that are
full together. -/
theorem keptPlaces_union_applied :
    let rs : List Request :=
      [{ url := "wss://a.test/b.woff", cause := some { kind := some "xhr" }
         responseHeaders := some { headers := [{ name := "UPGRADE", value := "WebSocket" }] } },
        { url := "https://a.test/", mimeType := some "text/html" }, { url := "https://b.test/" }]
    let s := CategorySet.ofList [.ws, .html]
    let t := CategorySet.ofList [.css, .js, .xhr, .fonts, .images, .media, .other]
    s.isEmpty = false ∧ t.isEmpty = false ∧ s.union t = .full ∧
      (∀ r, (s.union t).admits r = (s.admits r || t.admits r)) ∧
      keptPlaces rs "a.test" (s.union t) =
        (List.range rs.length).filter
          (fun i => i ∈ keptPlaces rs "a.test" s ∨ i ∈ keptPlaces rs "a.test" t) ∧
      ∃ c, 2 ∈ keptPlaces rs "B.test" (.single c) := by
  intro rs s t
  have left : s.isEmpty = false := by decide
  have right : t.isEmpty = false := by decide
  refine ⟨left, right, by decide, (keptPlaces_union.2.1 s t left right).1,
    ((keptPlaces_union.2.1 s t left right).2 rs "a.test").1, ?_⟩
  exact keptPlaces_union.2.2 rs "B.test" 2 { url := "https://b.test/" } rfl (by decide)

end RequestFilter
