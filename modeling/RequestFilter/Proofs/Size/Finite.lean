import RequestFilter.Proofs.Json.NumberText
import RequestFilter.Proofs.Number.Scaled
import RequestFilter.Proofs.Query.Spelling
import RequestFilter.Proofs.Size.Whole
import RequestFilter.Query.Json

/-!
Counts of bytes that are finite.

The number in a count is rounded and must be finite, and only then it is multiplied by its unit. So
the product may still be infinite: it is finite exactly if the count of bytes, before it is rounded,
lies below the bound for infinity. An infinite count is no not-a-number, and it is written as null.
-/

set_option autoImplicit false

namespace RequestFilter

namespace Size

open Double (overflow)
open Text (IsPadded)

/-! ### The count of bytes before it is rounded -/

/-- The number in a count of bytes, its sign aside, as a decimal that is not rounded. -/
inductive SpellsNumber : List Char → Decimal → Prop
  | nothing : SpellsNumber [] ⟨0, 0⟩
  | literal {mark : Char} {radix n : Nat} {digits : List Char} (marked : Marks mark radix)
      (spelled : Spells radix digits n) : SpellsNumber ('0' :: mark :: digits) ⟨n, 0⟩
  | decimal {cs : List Char} {negative : Bool} {d : Decimal}
      (spelled : SpellsDecimal cs negative d) : SpellsNumber cs d

/-- How many bytes a text counts, its sign aside. -/
inductive Counts : List Char → ℚ → Prop
  | mk {number body : List Char} {letter : String} {size : Nat} {d : Decimal}
      (known : (letter, size) ∈ units)
      (bare : letter = "" → ∀ c ∈ body.getLast?, c ≠ 'k' ∧ c ≠ 'm')
      (padded : IsPadded number body) (spelled : SpellsNumber number d) :
      Counts (body ++ letter.toList) (d.value * size)

private theorem SpellsNumber.unique {cs : List Char} {d d' : Decimal} (h : SpellsNumber cs d)
    (h' : SpellsNumber cs d') : d = d' := by
  have read {cs : List Char} {negative : Bool} {d : Decimal} (s : SpellsDecimal cs negative d) :
      decimal? cs = some (negative, d) := (decimal?_eq_some_iff cs negative d).mpr s
  cases h with
  | nothing =>
    cases h' with
    | nothing => rfl
    | decimal spelled => cases read spelled
  | literal marked spelled =>
    cases h' with
    | literal marked' spelled' =>
      have radix := (radix?_eq_some_iff _ _).mpr marked
      rw [(radix?_eq_some_iff _ _).mpr marked', Option.some.injEq] at radix
      subst radix
      have value := (natOfDigits?_eq_some_iff marked.bounds.2).mpr spelled
      rw [(natOfDigits?_eq_some_iff marked.bounds.2).mpr spelled', Option.some.injEq] at value
      rw [value]
    | decimal spelled' => cases (decimal?_of_mark marked _).symm.trans (read spelled')
  | decimal spelled =>
    cases h' with
    | nothing => cases read spelled
    | literal marked' => cases (decimal?_of_mark marked' _).symm.trans (read spelled)
    | decimal spelled' =>
      have same := (read spelled).symm.trans (read spelled')
      rw [Option.some.injEq, Prod.mk.injEq] at same
      exact same.2

private theorem SpellsNumber.solid {cs : List Char} {d : Decimal} (h : SpellsNumber cs d) :
    ∀ c ∈ cs, Text.isBlank c = false := by
  cases h with
  | nothing => simp
  | literal marked spelled =>
    exact List.forall_mem_cons.mpr ⟨by decide,
      List.forall_mem_cons.mpr ⟨marked.letter.2, spelled.solid marked.bounds.2⟩⟩
  | decimal spelled =>
    obtain ⟨signed, digits, raised⟩ := spelled
    exact List.forall_mem_append.mpr
      ⟨signed.solid, List.forall_mem_append.mpr ⟨digits.solid, raised.solid⟩⟩

private theorem exists_unit (cs : List Char) :
    ∃ body letter size, cs = body ++ String.toList letter ∧ (letter, size) ∈ units ∧
      (letter = "" → ∀ c ∈ body.getLast?, c ≠ 'k' ∧ c ≠ 'm') := by
  by_cases k : ∃ body, cs = body ++ ['k']
  · obtain ⟨body, rfl⟩ := k
    exact ⟨body, "k", 1024, rfl, by simp [units], by simp⟩
  · by_cases m : ∃ body, cs = body ++ ['m']
    · obtain ⟨body, rfl⟩ := m
      exact ⟨body, "m", 1024 * 1024, rfl, by simp [units], by simp⟩
    · refine ⟨cs, "", 1, by simp, by simp [units], fun _ c last => ?_⟩
      obtain ⟨body, spelled⟩ := List.getLast?_eq_some_iff.mp last
      constructor
      · rintro rfl
        exact k ⟨body, spelled⟩
      · rintro rfl
        exact m ⟨body, spelled⟩

private theorem Counts.unique {cs : List Char} {v w : ℚ} (h : Counts cs v) (h' : Counts cs w) :
    v = w := by
  obtain @⟨number, body, letter, size, d, known, bare, padded, spelled⟩ := h
  generalize text : body ++ letter.toList = cs at h'
  obtain ⟨known', bare', padded', spelled'⟩ := h'
  have cut := splitUnit_append_unit known bare
  rw [text, splitUnit_append_unit known' bare', Prod.mk.injEq] at cut
  obtain ⟨rfl, rfl⟩ := cut
  have number := padded.trim_eq
  rw [padded'.trim_eq, Text.trim_solid spelled.solid, Text.trim_solid spelled'.solid] at number
  subst number
  rw [spelled.unique spelled']

/-! ### Reading a count -/

private theorem exists_spellsNumber {cs : List Char} {x : Double} (read : number? cs = some x) :
    ∃ negative d, SpellsNumber (Text.trim cs) d ∧ d.value < overflow ∧ x = d.toDouble negative := by
  unfold number? at read
  split at read
  · rename_i empty
    cases read
    rw [empty]
    have positive : 0 < overflow := by decide +kernel
    exact ⟨false, ⟨0, 0⟩, .nothing, Decimal.value_natCast_lt_iff.mpr positive,
      (toDouble_whole 0).symm⟩
  · split at read
    · rename_i n whole
      cases read
      obtain ⟨mark, radix, digits, spelled, marked, value, bound⟩ :=
        (literal?_eq_some_iff _ n).mp whole
      rw [spelled]
      have finite : n < overflow := Nat.lt_of_lt_of_le bound (by decide +kernel)
      exact ⟨false, ⟨n, 0⟩, .literal marked value, Decimal.value_natCast_lt_iff.mpr finite,
        (toDouble_whole n).symm⟩
    · obtain ⟨numeral, finite⟩ := Option.filter_eq_some_iff.mp read
      obtain ⟨⟨negative, d⟩, spelled, rfl⟩ := Option.map_eq_some_iff.mp numeral
      exact ⟨negative, d, .decimal ((decimal?_eq_some_iff _ negative d).mp spelled),
        (d.isFinite_toDouble_iff negative).mp finite, rfl⟩

/-- A count that is read is a number or infinite, and it is finite exactly if the count of bytes is
not rounded to infinity. -/
private theorem exists_count {text : String} {x : Double} (read : ofText? text = some x) :
    x ≠ .nan ∧ ∃ v, (∀ w, Counts text.toList w ↔ w = v) ∧ (x.isFinite = true ↔ v < overflow) := by
  obtain ⟨body, letter, size, spelled, known, bare⟩ := exists_unit text.toList
  have cut := splitUnit_append_unit known bare
  simp only [ofText?, spelled, cut] at read
  obtain ⟨y, number, rfl⟩ := Option.map_eq_some_iff.mp read
  obtain ⟨negative, d, digits, below, rfl⟩ := exists_spellsNumber number
  have counted : Counts text.toList (d.value * size) := by
    rw [spelled]
    exact .mk known bare (Text.isPadded_trim body) digits
  obtain ⟨e, bound, rfl⟩ := exists_two_pow_of_mem_units known
  have small : e ≤ 971 := bound.trans (by decide)
  have short : Double.IsShort (2 ^ e) := ⟨1, e, (Nat.one_mul _).symm, by decide, small⟩
  refine ⟨Double.mul_ne_nan ((d.isFinite_toDouble_iff negative).mpr below)
      short.isFinite_ofNat,
    d.value * (2 ^ e : Nat), fun w => ⟨fun counted' => counted'.unique counted, ?_⟩, ?_⟩
  · rintro rfl
    exact counted
  · rw [Decimal.isFinite_toDouble_mul_iff small negative below, Nat.cast_pow, Nat.cast_ofNat]

end Size

/-! ### Counts in queries -/

private theorem Query.exists_token_of_size {query : String} {p : Predicate}
    (member : p ∈ (parse query).predicates) {x : Double} (sized : p.value = .size (some x)) :
    ∃ typed : String, p.flag.token p.negative typed.toList ∈ Text.words query.toList ∧
      Size.ofText? typed = some x := by
  rw [parse, ofTokens_eq] at member
  obtain ⟨token, word, read⟩ := List.mem_filterMap.mp member
  obtain ⟨typed, spelled, value⟩ := Predicate.exists_token_of_ofToken? read
  refine ⟨.ofList typed, by rwa [String.toList_ofList, ← spelled], ?_⟩
  rw [value, Flag.valueOf] at sized
  split at sized
  · cases sized
  · split at sized
    · exact FlagValue.size.inj sized
    · split at sized <;> cases sized

/-- A count that is read is never a not-a-number, and it is finite exactly if the count of bytes
that the text gives is not rounded to infinity. In a query the counts of the predicates are those of
their tokens, and those that are not finite are written as null. -/
theorem sizes_finite_iff (text query : String) :
    (∀ x, Size.ofText? text = some x →
      x ≠ .nan ∧ ∃ v, (∀ w, Size.Counts text.toList w ↔ w = v) ∧
        (x.isFinite = true ↔ v < Double.overflow)) ∧
    ∀ p ∈ (Query.parse query).predicates, ∀ x, p.value = .size (some x) →
      x ≠ .nan ∧ ∃ (typed : String) (v : ℚ),
        p.flag.token p.negative typed.toList ∈ Text.words query.toList ∧
        (∀ w, Size.Counts typed.toList w ↔ w = v) ∧ (x.isFinite = true ↔ v < Double.overflow) ∧
        (p.value.toJson.text = Json.Value.null.text ↔ ¬v < Double.overflow) := by
  refine ⟨fun x read => Size.exists_count read, fun p member x sized => ?_⟩
  obtain ⟨typed, word, read⟩ := Query.exists_token_of_size member sized
  obtain ⟨number, v, counted, finite⟩ := Size.exists_count read
  refine ⟨number, typed, v, word, counted, finite, ?_⟩
  have null : p.value.toJson.text = Json.Value.null.text ↔ x.isFinite = false := by
    rw [sized]
    exact Json.doubleText_eq_null_iff x
  rw [null, ← finite, Bool.not_eq_true]

/-- A count near the bound, and ten times as much, which passes it only when it is multiplied. -/
theorem sizes_finite_iff_applied :
    let x := Decimal.toDouble false ⟨1, 302⟩ * .ofNat (1024 * 1024)
    let y := Decimal.toDouble true ⟨1, 303⟩ * .ofNat (1024 * 1024)
    let p : Predicate := ⟨.largerThan, .size (some y), true⟩
    Size.ofText? "1e302m" = some x ∧ p ∈ (Query.parse "a -larger-than:-1e303m").predicates ∧
      (∃ v, (∀ w, Size.Counts "1e302m".toList w ↔ w = v) ∧ v < Double.overflow) ∧
      p.value.toJson.text = Json.Value.null.text := by
  intro x y p
  have read : Size.ofText? "1e302m" = some x := by decide +kernel
  have member : p ∈ (Query.parse "a -larger-than:-1e303m").predicates := by decide +kernel
  obtain ⟨counts, sizes⟩ := sizes_finite_iff "1e302m" "a -larger-than:-1e303m"
  obtain ⟨-, v, counted, finite⟩ := counts x read
  obtain ⟨-, -, w, -, -, infinite, null⟩ := sizes p member y rfl
  refine ⟨read, member, ⟨v, counted, finite.mp (by decide +kernel)⟩, null.mpr fun below => ?_⟩
  exact absurd (infinite.mpr below) (by decide +kernel)

/-- A finite number with a unit can be an infinite count, which a query carries and writes as
null. -/
theorem not_sizes_finite :
    (¬ ∀ (text : String) (x : Double), Size.ofText? text = some x → x.isFinite = true) ∧
      ¬ ∀ (query : String), ∀ p ∈ (Query.parse query).predicates, ∀ x,
        p.value = .size (some x) → p.value.toJson.text ≠ Json.Value.null.text := by
  let infinite := Double.clamp false Double.infinityRank
  have read : Size.ofText? "1e308m" = some infinite := by decide +kernel
  have member : ⟨.size, .size (some infinite), false⟩ ∈ (Query.parse "size:1e308m").predicates := by
    decide +kernel
  constructor
  · intro finite
    cases finite _ _ read
  · intro written
    exact written _ _ member infinite rfl rfl

end RequestFilter
